import RobotPuzzle.Proofs.Script.Listed

namespace RobotPuzzle

namespace Script

abbrev Gap := { gap : List Char // ∀ c ∈ gap, isGap c }

def IsEnding (text : List Char) : Prop := ∃ gap : Gap, text = gap.1 ∨ text = gap.1 ++ [';']

def IsEmptyCall (keyword text : List Char) : Prop :=
  ∃ (g₁ g₂ : Gap) (tail : List Char), IsEnding tail ∧
    text = keyword ++ (g₁.1 ++ '(' :: (g₂.1 ++ ')' :: tail))

def IsCountedCall (keyword : List Char) (count : UInt32) (text : List Char) : Prop :=
  1 ≤ count.toNat ∧ ∃ (g₁ g₂ g₃ : Gap) (tail : List Char), IsEnding tail ∧
    text = keyword ++ (g₁.1 ++ '(' :: (g₂.1 ++ (numeral count ++ (g₃.1 ++ ')' :: tail))))

def IsHeaderOf (condition tail text : List Char) : Prop :=
  ∃ gap : Gap, text = "se".toList ++ (gap.1 ++ '(' :: (condition ++ ')' :: tail))

end Script

open Script

def Command.IsWrittenAs (command : Command) (text : List Char) : Prop :=
  match command with
  | .forward count | .backward count => IsCountedCall command.keyword.toList count text
  | _ => IsEmptyCall command.keyword.toList text

def Condition.IsWrittenAs (condition : Condition) (text : List Char) : Prop :=
  match condition with
  | .literal value => ∃ g₁ g₂ : Gap, text = g₁.1 ++ ((toString value).toList ++ g₂.1)
  | .sensor s => ∃ g₁ g₂ g₃ g₄ : Gap,
    text = g₁.1 ++ (s.keyword.toList ++ (g₂.1 ++ '(' :: (g₃.1 ++ ')' :: g₄.1)))

namespace Script

def Header.IsWrittenAs (header : Header) (text : List Char) : Prop :=
  match header with
  | .bare condition => condition ≠ [] ∧ IsHeaderOf condition [] text
  | .block condition => condition ≠ [] ∧ ∃ gap : Gap, IsHeaderOf condition (gap.1 ++ ['\x7b']) text

def Shape.IsWrittenAs (shape : Shape) (text : List Char) : Prop :=
  match shape with
  | .command c => c.IsWrittenAs text
  | .header h => h.IsWrittenAs text
  | .closing => text = ['\x7d']
  | .opening => text = ['\x7b']

variable {text rest : List Char}

lemma exists_gap (text : List Char) : ∃ gap : Gap, text = gap.1 ++ skipGap text := by
  obtain ⟨gap, hg, ht⟩ := skipGap_spec text
  exact ⟨⟨gap, hg⟩, ht⟩

lemma skipGap_eq_iff (h : skipGap rest = rest) :
    skipGap text = rest ↔ ∃ gap : Gap, text = gap.1 ++ rest := by
  constructor
  · rintro rfl
    exact exists_gap text
  · rintro ⟨gap, rfl⟩
    rw [skipGap_gap_append gap.2, h]

lemma skipGap_cons {c : Char} (hc : isGap c = false) (rest : List Char) :
    skipGap (c :: rest) = c :: rest :=
  List.dropWhile_cons_of_neg (by simp [hc])

lemma afterMark_iff {c : Char} (hc : isGap c = false) :
    afterMark? c text = some rest ↔ ∃ gap : Gap, text = gap.1 ++ c :: rest := by
  rw [← skipGap_eq_iff (skipGap_cons hc rest)]
  exact after?_eq_some_iff

lemma afterNoArguments_iff : afterNoArguments? text = some rest ↔
    ∃ g₁ g₂ : Gap, text = g₁.1 ++ '(' :: (g₂.1 ++ ')' :: rest) := by
  rw [afterNoArguments?, Option.bind_eq_some_iff]
  constructor
  · rintro ⟨inner, ho, hc⟩
    obtain ⟨g₁, rfl⟩ := (afterMark_iff rfl).mp ho
    obtain ⟨g₂, rfl⟩ := (afterMark_iff rfl).mp hc
    exact ⟨g₁, g₂, rfl⟩
  · rintro ⟨g₁, g₂, rfl⟩
    exact ⟨_, (afterMark_iff rfl).mpr ⟨g₁, rfl⟩, (afterMark_iff rfl).mpr ⟨g₂, rfl⟩⟩

lemma isGapOnly_iff : isGapOnly text ↔ ∃ gap : Gap, text = gap.1 := by
  have h : skipGap text = [] ↔ ∃ gap : Gap, text = gap.1 ++ [] := skipGap_eq_iff rfl
  simpa [isGapOnly] using h

lemma endsCommand_iff : endsCommand text ↔ IsEnding text := by
  have hn : skipGap text = [] ↔ ∃ gap : Gap, text = gap.1 ++ [] := skipGap_eq_iff rfl
  have hs : skipGap text = [';'] ↔ ∃ gap : Gap, text = gap.1 ++ [';'] := skipGap_eq_iff rfl
  simp only [List.append_nil] at hn
  simp only [endsCommand, Bool.or_eq_true, beq_iff_eq, hn, hs, IsEnding, exists_or]

lemma isPlainCall_iff : isPlainCall text ↔ IsEmptyCall [] text := by
  have h : isPlainCall text ↔
      ∃ tail, afterNoArguments? text = some tail ∧ endsCommand tail := by
    rw [isPlainCall]
    cases afterNoArguments? text <;> simp
  rw [h]
  constructor
  · rintro ⟨tail, hn, he⟩
    obtain ⟨g₁, g₂, rfl⟩ := afterNoArguments_iff.mp hn
    exact ⟨g₁, g₂, tail, endsCommand_iff.mp he, rfl⟩
  · rintro ⟨g₁, g₂, tail, he, rfl⟩
    exact ⟨tail, afterNoArguments_iff.mpr ⟨g₁, g₂, rfl⟩, endsCommand_iff.mpr he⟩

lemma exists_digitChar {c : Char} (h : c.isDigit) : ∃ d < 10, c = Nat.digitChar d := by
  simp only [Char.isDigit, Bool.and_eq_true, decide_eq_true_eq, ge_iff_le,
    UInt32.le_iff_toNat_le] at h
  have hl : 48 ≤ c.toNat := h.1
  have hu : c.toNat ≤ 57 := h.2
  have hc : c = Char.ofNat c.toNat := (Char.ofNat_toNat c).symm
  refine ⟨c.toNat - 48, by omega, ?_⟩
  generalize c.toNat = n at hl hu hc
  subst hc
  interval_cases n <;> decide

lemma toDigits_ofDigitChars {digits : List Char} (hn : digits ≠ [])
    (hd : ∀ c ∈ digits, c.isDigit) (hz : digits.head? ≠ some '0') :
    1 ≤ Nat.ofDigitChars 10 digits 0 ∧
      Nat.toDigits 10 (Nat.ofDigitChars 10 digits 0) = digits := by
  induction digits using List.reverseRecOn with
  | nil => exact absurd rfl hn
  | append_singleton front last ih =>
    obtain ⟨d, hl, rfl⟩ := exists_digitChar (hd last (by simp))
    have hv : Nat.ofDigitChars 10 (front ++ [Nat.digitChar d]) 0 =
        10 * Nat.ofDigitChars 10 front 0 + d := by
      rw [Nat.ofDigitChars_append, Nat.ofDigitChars_cons_digitChar_of_lt_ten hl,
        Nat.ofDigitChars_nil]
    rw [hv]
    by_cases hf : front = []
    · subst hf
      have hp : d ≠ 0 := by
        rintro rfl
        exact hz rfl
      rw [Nat.ofDigitChars_nil]
      exact ⟨by omega, by rw [Nat.mul_zero, Nat.zero_add, Nat.toDigits_of_lt_base hl]; rfl⟩
    · rw [List.head?_append_of_ne_nil _ hf] at hz
      obtain ⟨hone, hi⟩ := ih hf (fun c hc => hd c (List.mem_append_left _ hc)) hz
      refine ⟨by omega, ?_⟩
      rw [← Nat.toDigits_append_toDigits (by decide) hone hl, hi, Nat.toDigits_of_lt_base hl]

lemma count_iff {digits : List Char} {count : UInt32} (hd : ∀ c ∈ digits, c.isDigit) :
    count? digits = some count ↔ 1 ≤ count.toNat ∧ digits = numeral count := by
  constructor
  · intro h
    cases digits with
    | nil => exact nomatch h
    | cons c rest =>
      rw [count?] at h
      split at h
      · rename_i hc
        obtain rfl := Option.some.inj h
        obtain ⟨hone, ht⟩ :=
          toDigits_ofDigitChars (List.cons_ne_nil c rest) hd (by simpa using hc.1)
        rw [numeral, UInt32.toNat_ofNat_of_lt' hc.2]
        exact ⟨hone, ht.symm⟩
      · cases h
  · rintro ⟨hone, rfl⟩
    exact count_numeral hone

lemma digits_of_gap (gap : Gap) {c : Char} (hc : c.isDigit = false) (tail : List Char) :
    (gap.1 ++ c :: tail).takeWhile Char.isDigit = [] ∧
      (gap.1 ++ c :: tail).dropWhile Char.isDigit = gap.1 ++ c :: tail := by
  obtain ⟨_ | ⟨d, gap⟩, hg⟩ := gap
  · exact ⟨List.takeWhile_cons_of_neg (by simp [hc]), List.dropWhile_cons_of_neg (by simp [hc])⟩
  · have hd : d.isDigit = false := by
      have hd := hg d List.mem_cons_self
      simp only [isGap, Bool.or_eq_true, beq_iff_eq] at hd
      rcases hd with rfl | rfl <;> rfl
    exact ⟨List.takeWhile_cons_of_neg (by simp [hd]), List.dropWhile_cons_of_neg (by simp [hd])⟩

lemma moveCount_iff {count : UInt32} :
    moveCount? text = some count ↔ IsCountedCall [] count text := by
  constructor
  · intro h
    obtain ⟨inner, ho, hi⟩ := Option.bind_eq_some_iff.mp h
    obtain ⟨tail, hc, ht⟩ := Option.bind_eq_some_iff.mp hi
    obtain ⟨g₁, rfl⟩ := (afterMark_iff rfl).mp ho
    obtain ⟨g₂, hg⟩ := exists_gap inner
    obtain ⟨g₃, hd⟩ := (afterMark_iff rfl).mp hc
    have hs := (List.takeWhile_append_dropWhile (p := Char.isDigit) (l := skipGap inner)).symm
    split at ht
    · rename_i he
      obtain ⟨hone, hn⟩ := (count_iff fun _ hd => List.mem_takeWhile_imp hd).mp ht
      rw [hn, hd] at hs
      rw [hs] at hg
      exact ⟨hone, g₁, g₂, g₃, tail, endsCommand_iff.mp he, by rw [hg]; rfl⟩
    · exact nomatch ht
  · rintro ⟨hone, g₁, g₂, g₃, tail, he, rfl⟩
    have hd := numeral_isDigit count
    have hs : skipGap (g₂.1 ++ (numeral count ++ (g₃.1 ++ ')' :: tail))) =
        numeral count ++ (g₃.1 ++ ')' :: tail) := by
      rw [skipGap_gap_append g₂.2, skipGap_solid (isSolid_numeral count)]
    obtain ⟨ht, hr⟩ := digits_of_gap g₃ (c := ')') rfl tail
    have ho := (afterMark_iff (c := '(') rfl).mpr
      ⟨g₁, (rfl : g₁.1 ++ '(' :: (g₂.1 ++ (numeral count ++ (g₃.1 ++ ')' :: tail))) = _)⟩
    have hc := (afterMark_iff (c := ')') rfl).mpr ⟨g₃, (rfl : g₃.1 ++ ')' :: tail = _)⟩
    rw [List.nil_append, moveCount?, ho]
    simp only [Option.bind_some, hs, List.dropWhile_append_of_pos hd,
      List.takeWhile_append_of_pos hd, ht, hr, hc, List.append_nil]
    rw [if_pos (endsCommand_iff.mpr he), count_numeral hone]

lemma command_plain {c : Command} (hc : c ∈ plainCommands) (rest : List Char) :
    command? (c.keyword.toList ++ rest) = if isPlainCall rest then some c else none := by
  simp only [plainCommands, List.mem_cons, List.not_mem_nil, or_false] at hc
  rcases hc with rfl | rfl | rfl | rfl | rfl | rfl <;>
    cases h : isPlainCall rest <;>
    simp [command?, plainCommand?, plainCommands, Command.keyword, after?, h]

lemma plainCommand_eq_some {c : Command} (h : plainCommand? text = some c) :
    c ∈ plainCommands ∧ ∃ rest, text = c.keyword.toList ++ rest ∧ isPlainCall rest := by
  have hp := List.find?_some
    (p := fun c : Command => (after? c.keyword.toList text).any isPlainCall) h
  obtain ⟨rest, ha, hr⟩ := (Option.any_eq_true ..).mp hp
  exact ⟨List.mem_of_find?_eq_some h, rest, after?_eq_some_iff.mp ha, hr⟩

lemma isWrittenAs_plain {c : Command} (hc : c ∈ plainCommands) (text : List Char) :
    c.IsWrittenAs text ↔ IsEmptyCall c.keyword.toList text := by
  simp only [plainCommands, List.mem_cons, List.not_mem_nil, or_false] at hc
  rcases hc with rfl | rfl | rfl | rfl | rfl | rfl <;> rfl

lemma isEmptyCall_append {keyword : List Char} :
    IsEmptyCall keyword text ↔ ∃ rest, text = keyword ++ rest ∧ isPlainCall rest := by
  simp only [isPlainCall_iff]
  constructor
  · rintro ⟨g₁, g₂, tail, he, rfl⟩
    exact ⟨_, rfl, g₁, g₂, tail, he, rfl⟩
  · rintro ⟨rest, rfl, g₁, g₂, tail, he, rfl⟩
    exact ⟨g₁, g₂, tail, he, rfl⟩

lemma isCountedCall_append {keyword : List Char} {count : UInt32} :
    IsCountedCall keyword count text ↔
      ∃ rest, text = keyword ++ rest ∧ moveCount? rest = some count := by
  simp only [moveCount_iff]
  constructor
  · rintro ⟨hone, g₁, g₂, g₃, tail, he, rfl⟩
    exact ⟨_, rfl, hone, g₁, g₂, g₃, tail, he, rfl⟩
  · rintro ⟨rest, rfl, hone, g₁, g₂, g₃, tail, he, rfl⟩
    exact ⟨hone, g₁, g₂, g₃, tail, he, rfl⟩

lemma command_iff {c : Command} : command? text = some c ↔ c.IsWrittenAs text := by
  constructor
  · intro h
    rw [command?] at h
    split at h
    · rename_i rest ha
      obtain ⟨count, hm, rfl⟩ := Option.map_eq_some_iff.mp h
      exact isCountedCall_append.mpr ⟨rest, after?_eq_some_iff.mp ha, hm⟩
    · split at h
      · rename_i rest ha
        obtain ⟨count, hm, rfl⟩ := Option.map_eq_some_iff.mp h
        exact isCountedCall_append.mpr ⟨rest, after?_eq_some_iff.mp ha, hm⟩
      · obtain ⟨hc, hr⟩ := plainCommand_eq_some h
        exact (isWrittenAs_plain hc text).mpr (isEmptyCall_append.mpr hr)
  · intro h
    have hp : c ∈ plainCommands → command? text = some c := by
      intro hc
      obtain ⟨rest, rfl, hr⟩ := isEmptyCall_append.mp ((isWrittenAs_plain hc text).mp h)
      rw [command_plain hc, if_pos hr]
    cases c with
    | forward count =>
      obtain ⟨rest, rfl, hm⟩ := isCountedCall_append.mp h
      exact (command_forward rest).trans (congrArg (Option.map Command.forward) hm)
    | backward count =>
      obtain ⟨rest, rfl, hm⟩ := isCountedCall_append.mp h
      exact (command_backward rest).trans (congrArg (Option.map Command.backward) hm)
    | _ => exact hp (by decide)

lemma closeHeader_end (condition : List Char) : closeHeader? (condition ++ [')']) =
    if condition = [] then none else some (.bare condition) := by
  obtain rfl | ⟨front, last, rfl⟩ := List.eq_nil_or_concat condition
  · rfl
  · simp [closeHeader?]

lemma closeHeader_brace (gap : Gap) (condition : List Char) :
    closeHeader? (condition ++ ')' :: (gap.1 ++ ['\x7b'])) =
      if condition = [] then none else some (.block condition) := by
  have hs : ∀ before, skipGap (gap.1.reverse ++ ')' :: before) = ')' :: before := by
    intro before
    rw [skipGap_gap_append (by simpa using gap.2)]
    rfl
  obtain rfl | ⟨front, last, rfl⟩ := List.eq_nil_or_concat condition
  · simp [closeHeader?, hs]
  · simp [closeHeader?, hs]

lemma closeHeader_bare_iff {condition : List Char} :
    closeHeader? rest = some (.bare condition) ↔ condition ≠ [] ∧ rest = condition ++ [')'] := by
  constructor
  · intro h
    obtain rfl := closeHeader_bare h
    rw [closeHeader_end] at h
    exact ⟨fun hn => by simp [hn] at h, rfl⟩
  · rintro ⟨hn, rfl⟩
    rw [closeHeader_end, if_neg hn]

lemma closeHeader_block_iff {condition : List Char} :
    closeHeader? rest = some (.block condition) ↔
      condition ≠ [] ∧ ∃ gap : Gap, rest = condition ++ ')' :: (gap.1 ++ ['\x7b']) := by
  constructor
  · intro h
    obtain ⟨gap, hg, hr⟩ := closeHeader_block h
    have hb : rest = condition ++ ')' :: (gap ++ ['\x7b']) := by simpa using hr
    rw [hb, closeHeader_brace ⟨gap, hg⟩] at h
    exact ⟨fun hn => by simp [hn] at h, ⟨gap, hg⟩, hb⟩
  · rintro ⟨hn, gap, rfl⟩
    rw [closeHeader_brace, if_neg hn]

lemma header_append (gap : Gap) (rest : List Char) :
    header? ("se".toList ++ (gap.1 ++ '(' :: rest)) = closeHeader? rest := by
  rw [header?, after?_append, Option.bind_some, (afterMark_iff rfl).mpr ⟨gap, rfl⟩,
    Option.bind_some]

lemma header_eq_some_iff {header : Header} : header? text = some header ↔
    ∃ (gap : Gap) (rest : List Char), text = "se".toList ++ (gap.1 ++ '(' :: rest) ∧
      closeHeader? rest = some header := by
  constructor
  · intro h
    obtain ⟨gap, rest, hg, ht, hc⟩ := header_eq_some h
    exact ⟨⟨gap, hg⟩, rest, by simpa using ht, hc⟩
  · rintro ⟨gap, rest, rfl, hc⟩
    rw [header_append, hc]

lemma header_iff {header : Header} : header? text = some header ↔ header.IsWrittenAs text := by
  rw [header_eq_some_iff]
  cases header with
  | bare condition =>
    simp only [closeHeader_bare_iff]
    constructor
    · rintro ⟨gap, _, rfl, hn, rfl⟩
      exact ⟨hn, gap, rfl⟩
    · rintro ⟨hn, gap, rfl⟩
      exact ⟨gap, _, rfl, hn, rfl⟩
  | block condition =>
    simp only [closeHeader_block_iff]
    constructor
    · rintro ⟨gap, _, rfl, hn, between, rfl⟩
      exact ⟨hn, between, gap, rfl⟩
    · rintro ⟨hn, between, gap, rfl⟩
      exact ⟨gap, _, rfl, hn, between, rfl⟩

lemma shape_iff {shape : Shape} : shape? text = some shape ↔ shape.IsWrittenAs text := by
  constructor
  · intro h
    have hs := shape_eq_some h
    cases shape with
    | command c => exact command_iff.mp hs
    | header header => exact header_iff.mp hs
    | closing => exact hs
    | opening => exact hs
  · intro h
    cases shape with
    | command c => exact shape_command_iff.mpr (command_iff.mpr h)
    | header header =>
      obtain ⟨gap, rest, rfl, hc⟩ := header_eq_some_iff.mp (header_iff.mpr h)
      have hn : command? ("se".toList ++ (gap.1 ++ '(' :: rest)) = none := rfl
      rw [shape?, hn, header_append, hc]
    | closing =>
      obtain rfl : text = ['\x7d'] := h
      rfl
    | opening =>
      obtain rfl : text = ['\x7b'] := h
      rfl

lemma isSensorCall_iff {sensor : Sensor} : isSensorCall sensor text ↔ ∃ g₁ g₂ g₃ : Gap,
    text = sensor.keyword.toList ++ (g₁.1 ++ '(' :: (g₂.1 ++ ')' :: g₃.1)) := by
  constructor
  · intro h
    obtain ⟨rest, ha, hr⟩ := (Option.any_eq_true ..).mp h
    obtain ⟨call, hk, hn⟩ := Option.bind_eq_some_iff.mp ha
    obtain ⟨g₁, g₂, rfl⟩ := afterNoArguments_iff.mp hn
    obtain ⟨g₃, rfl⟩ := isGapOnly_iff.mp hr
    exact ⟨g₁, g₂, g₃, after?_eq_some_iff.mp hk⟩
  · rintro ⟨g₁, g₂, g₃, rfl⟩
    rw [isSensorCall, after?_append, Option.bind_some, afterNoArguments_iff.mpr ⟨g₁, g₂, rfl⟩]
    exact isGapOnly_iff.mpr ⟨g₃, rfl⟩

lemma word_iff {word : List Char} :
    (after? word text).any isGapOnly ↔ ∃ gap : Gap, text = word ++ gap.1 := by
  constructor
  · intro h
    obtain ⟨rest, ha, hr⟩ := (Option.any_eq_true ..).mp h
    obtain ⟨gap, rfl⟩ := isGapOnly_iff.mp hr
    exact ⟨gap, after?_eq_some_iff.mp ha⟩
  · rintro ⟨gap, rfl⟩
    rw [after?_append]
    exact isGapOnly_iff.mpr ⟨gap, rfl⟩

lemma condition_literal {value : Bool}
    (h : (after? (toString value).toList (skipGap text)).any isGapOnly) :
    condition? text = some (.literal value) := by
  cases value with
  | true => exact if_pos h
  | false =>
    obtain ⟨gap, ht⟩ := word_iff.mp h
    have hn : ¬ (after? "true".toList (skipGap text)).any isGapOnly := by
      rw [ht]
      exact Bool.false_ne_true
    exact (if_neg hn).trans (if_pos h)

lemma condition_sensor {sensor : Sensor} (h : isSensorCall sensor (skipGap text)) :
    condition? text = some (.sensor sensor) := by
  obtain ⟨g₁, g₂, g₃, ht⟩ := isSensorCall_iff.mp h
  have hn : ¬ (after? "true".toList (skipGap text)).any isGapOnly ∧
      ¬ (after? "false".toList (skipGap text)).any isGapOnly := by
    rw [ht]
    cases sensor <;> exact ⟨Bool.false_ne_true, Bool.false_ne_true⟩
  have ho : condition? text =
      ([Sensor.fire, Sensor.hole].find? fun sensor => isSensorCall sensor (skipGap text)).map
        .sensor := (if_neg hn.1).trans (if_neg hn.2)
  rw [ho]
  cases sensor with
  | fire => simp [h]
  | hole =>
    have hf : ¬ isSensorCall .fire (skipGap text) := by
      rw [ht]
      exact Bool.false_ne_true
    simp [hf, h]

lemma condition_iff {condition : Condition} :
    condition? text = some condition ↔ condition.IsWrittenAs text := by
  constructor
  · intro h
    have hc := condition_eq_some h
    obtain ⟨g₁, ht⟩ := exists_gap text
    cases condition with
    | literal value =>
      obtain ⟨g₂, hw⟩ := word_iff.mp hc
      exact ⟨g₁, g₂, by rw [← hw, ← ht]⟩
    | sensor sensor =>
      obtain ⟨g₂, g₃, g₄, hw⟩ := isSensorCall_iff.mp hc
      exact ⟨g₁, g₂, g₃, g₄, by rw [← hw, ← ht]⟩
  · intro h
    cases condition with
    | literal value =>
      obtain ⟨g₁, g₂, rfl⟩ := h
      have hs : skipGap ((toString value).toList ++ g₂.1) = (toString value).toList ++ g₂.1 := by
        cases value <;> rfl
      apply condition_literal
      rw [skipGap_gap_append g₁.2, hs]
      exact word_iff.mpr ⟨g₂, rfl⟩
    | sensor sensor =>
      obtain ⟨g₁, g₂, g₃, g₄, rfl⟩ := h
      have hs : ∀ rest,
          skipGap (sensor.keyword.toList ++ rest) = sensor.keyword.toList ++ rest := by
        intro rest
        cases sensor <;> rfl
      apply condition_sensor
      rw [skipGap_gap_append g₁.2, hs]
      exact isSensorCall_iff.mpr ⟨g₂, g₃, g₄, rfl⟩

end Script

end RobotPuzzle
