import RobotPuzzle.Proofs.Script.Grammar

namespace RobotPuzzle.Grammar

open Script

namespace Peg

variable {p : Peg} {text : List Char} {found : Match}

lemma gap_word_parse (c : Char) (text : List Char) :
    (seq gap (word [c])).parse text = (afterMark? c text).map (⟨·, []⟩) := by
  rw [parse, gap_parse, Option.bind_some, parse, Option.map_map]
  rfl

lemma gap_word_seq_parse (c : Char) (p : Peg) (text : List Char) :
    (seq gap (seq (word [c]) p)).parse text = (afterMark? c text).bind p.parse := by
  rw [← seq_assoc, parse, gap_word_parse]
  cases afterMark? c text with
  | none => rfl
  | some rest => simp

lemma gap_stop_parse (text : List Char) :
    (seq gap stop).parse text = if isGapOnly text then some ⟨[], []⟩ else none := by
  rw [parse, gap_parse, Option.bind_some, parse]
  by_cases h : skipGap text = [] <;> simp [h, isGapOnly, Match.followedBy]

lemma gap_noArguments_parse (text : List Char) :
    (seq gap noArguments).parse text = (afterNoArguments? text).map (⟨·, []⟩) := by
  rw [noArguments, gap_word_seq_parse, afterNoArguments?, Option.map_bind]
  congr 1
  funext rest
  exact gap_word_parse ')' rest

lemma ending_parse (text : List Char) :
    ending.parse text = if endsCommand text then some ⟨[], []⟩ else none := by
  have ht : ∀ text, (seq (alt (word [';']) (word [])) stop).parse text =
      if text == [] || text == [';'] then some ⟨[], []⟩ else none := by
    intro text
    cases text with
    | nil => rfl
    | cons c rest =>
      by_cases hc : c = ';'
      · subst hc
        cases rest <;> rfl
      · simp [parse, after?, hc, Ne.symm hc]
  rw [ending, parse, gap_parse, Option.bind_some, ht, endsCommand]
  split <;> rfl

lemma callEnd_parse (text : List Char) :
    callEnd.parse text = if isPlainCall text then some ⟨[], []⟩ else none := by
  rw [callEnd, ← seq_assoc, parse, gap_noArguments_parse, isPlainCall]
  cases afterNoArguments? text with
  | none => rfl
  | some rest =>
    simp only [Option.map_some, Option.bind_some, ending_parse]
    split <;> rfl

lemma digits_parse (text : List Char) :
    (many (one Char.isDigit)).parse text = some ⟨text.dropWhile Char.isDigit, []⟩ := by
  rw [parse, repeated_advance (fun text => text.head?.any Char.isDigit) rfl fun _ _ => rfl,
    advance_dropWhile]

def startsCount (text : List Char) : Bool := text.head?.any fun c => c != '0' && c.isDigit

lemma count_parse (text : List Char) : count.parse text =
    if startsCount text then
      some ⟨text.dropWhile Char.isDigit, [(.count, text.takeWhile Char.isDigit)]⟩
    else none := by
  cases text with
  | nil => rfl
  | cons c rest =>
    have hs : (seq (one fun c => c != '0' && c.isDigit) (many (one Char.isDigit))).parse
        (c :: rest) = if startsCount (c :: rest) then some ⟨rest.dropWhile Char.isDigit, []⟩
          else none := by
      have ho : (one fun c => c != '0' && c.isDigit).parse (c :: rest) =
        if startsCount (c :: rest) then some ⟨rest, []⟩ else none := rfl
      rw [parse, ho]
      split <;> simp [digits_parse, Match.followedBy]
    split
    · rename_i hc
      have hd : c.isDigit = true := by
        simp only [startsCount, List.head?_cons, Option.any_some, Bool.and_eq_true] at hc
        exact hc.2
      rw [if_pos hc] at hs
      rw [count, part_iff, List.dropWhile_cons_of_pos hd, List.takeWhile_cons_of_pos hd]
      exact ⟨_, _, hs, by simp [List.takeWhile_append_dropWhile], rfl⟩
    · rename_i hc
      rw [if_neg hc] at hs
      rw [count, parse, hs]
      rfl

lemma readCount_eq {digits : List Char} (h : startsCount digits) :
    readCount digits = count? digits := by
  cases digits with
  | nil => exact nomatch h
  | cons c rest =>
    simp only [startsCount, List.head?_cons, Option.any_some, Bool.and_eq_true, bne_iff_ne] at h
    simp only [readCount, count?, ne_eq, h.1, not_false_eq_true, true_and]

lemma startsCount_takeWhile : startsCount (text.takeWhile Char.isDigit) = startsCount text := by
  cases text with
  | nil => rfl
  | cons c rest =>
    cases hd : c.isDigit with
    | true =>
      rw [List.takeWhile_cons_of_pos hd]
      rfl
    | false =>
      rw [List.takeWhile_cons_of_neg (by simp [hd])]
      simp [startsCount, hd]

lemma count_of_not_startsCount {text : List Char} (h : startsCount text = false) :
    count? (text.takeWhile Char.isDigit) = none := by
  cases text with
  | nil => rfl
  | cons c rest =>
    simp only [startsCount, List.head?_cons, Option.any_some, Bool.and_eq_false_iff,
      bne_eq_false_iff_eq] at h
    rcases h with rfl | h
    · rfl
    · rw [List.takeWhile_cons_of_neg (by simp [h])]
      rfl

lemma countEnd_parse (text : List Char) :
    ((seq count (seq gap (seq (word [')']) ending))).parse text).bind
        (fun found => (found.parts.lookup .count).bind readCount) =
      (afterMark? ')' (text.dropWhile Char.isDigit)).bind fun rest =>
        if endsCommand rest then count? (text.takeWhile Char.isDigit) else none := by
  rw [parse, count_parse]
  cases hs : startsCount text with
  | false =>
    simp [count_of_not_startsCount hs]
  | true =>
    simp only [if_true, Option.bind_some, gap_word_seq_parse]
    cases afterMark? ')' (text.dropWhile Char.isDigit) with
    | none => rfl
    | some rest =>
      have hd : startsCount (text.takeWhile Char.isDigit) := startsCount_takeWhile.trans hs
      simp only [Option.bind_some, ending_parse]
      split
      · exact readCount_eq hd
      · rfl

lemma moveEnd_parse (text : List Char) :
    (moveEnd.parse text).bind (fun found => (found.parts.lookup .count).bind readCount) =
      moveCount? text := by
  rw [moveEnd, gap_word_seq_parse, moveCount?, Option.bind_assoc]
  congr 1
  funext rest
  rw [parse, gap_parse, Option.bind_some, Match.map_followedBy_nil, countEnd_parse]

def AreDistinct (names : List String) : Prop :=
  names.Pairwise fun name later => ∀ rest, after? name.toList (later.toList ++ rest) = none

lemma oneOf_iff {name : String} {names : List String} (hd : AreDistinct (name :: names)) :
    (oneOf name names).parse text = some found ↔
      ∃ n ∈ name :: names, text = n.toList ++ found.rest ∧ found.parts = [] := by
  have hw : ∀ name : String, (word name.toList).parse text = some found ↔
      text = name.toList ++ found.rest ∧ found.parts = [] := by
    intro name
    rw [parse, Option.map_eq_some_iff]
    constructor
    · rintro ⟨rest, hr, rfl⟩
      exact ⟨after?_eq_some_iff.mp hr, rfl⟩
    · rintro ⟨ht, hp⟩
      exact ⟨found.rest, after?_eq_some_iff.mpr ht, by rw [← hp]⟩
  induction names generalizing name with
  | nil => simpa [oneOf] using hw name
  | cons next names ih =>
    obtain ⟨hn, hd⟩ := List.pairwise_cons.mp hd
    have hs : (oneOf next names).parse text = some found ↔
      ∃ n ∈ next :: names, text = n.toList ++ found.rest ∧ found.parts = [] := ih hd
    rw [oneOf, parse, Option.or_eq_some_iff, hw, List.exists_mem_cons_iff, ← hs]
    refine or_congr_right ⟨And.right, fun h => ⟨?_, h⟩⟩
    obtain ⟨later, hl, ht, -⟩ := hs.mp h
    rw [ht, parse, hn later hl]
    rfl

lemma name_iff {label : Label} {name : String} {names : List String}
    (hd : AreDistinct (name :: names)) :
    (part label (oneOf name names)).parse text = some found ↔
      ∃ n ∈ name :: names, text = n.toList ++ found.rest ∧ found.parts = [(label, n.toList)] := by
  rw [part_iff]
  constructor
  · rintro ⟨taken, inner, hi, rfl, rfl⟩
    obtain ⟨n, hn, ht, hp⟩ := (oneOf_iff hd).mp hi
    obtain rfl := List.append_cancel_right ht
    exact ⟨n, hn, rfl, by rw [hp]⟩
  · rintro ⟨n, hn, ht, hp⟩
    have hi : (oneOf name names).parse text = some ⟨found.rest, []⟩ :=
      (oneOf_iff hd).mpr ⟨n, hn, ht, rfl⟩
    exact ⟨n.toList, _, hi, ht, by rw [← hp]⟩

lemma named_iff {label : Label} {name : String} {names : List String}
    (hd : AreDistinct (name :: names)) :
    (seq (part label (oneOf name names)) p).parse text = some found ↔
      ∃ n ∈ name :: names, ∃ rest last, text = n.toList ++ rest ∧ p.parse rest = some last ∧
        found = ⟨last.rest, (label, n.toList) :: last.parts⟩ := by
  rw [seq_iff]
  simp only [name_iff hd]
  constructor
  · rintro ⟨first, last, ⟨n, hn, rfl, hp⟩, hl, rfl⟩
    exact ⟨n, hn, first.rest, last, rfl, hl, by rw [Match.followedBy, hp]; rfl⟩
  · rintro ⟨n, hn, rest, last, rfl, hl, rfl⟩
    exact ⟨⟨rest, [(label, n.toList)]⟩, last, ⟨n, hn, rfl, rfl⟩, hl, rfl⟩

lemma call_iff {label : Label} {name : String} {names : List String}
    (hd : AreDistinct (name :: names)) : (call label name names).parse text = some found ↔
      ∃ n ∈ name :: names, IsEmptyCall n.toList text ∧ found = ⟨[], [(label, n.toList)]⟩ := by
  rw [call, named_iff hd]
  simp only [callEnd_parse, isEmptyCall_append, Option.ite_none_right_eq_some, Option.some.injEq]
  constructor
  · rintro ⟨n, hn, rest, last, rfl, ⟨hp, rfl⟩, rfl⟩
    exact ⟨n, hn, ⟨rest, rfl, hp⟩, rfl⟩
  · rintro ⟨n, hn, ⟨rest, rfl, hp⟩, rfl⟩
    exact ⟨n, hn, rest, _, rfl, ⟨hp, rfl⟩, rfl⟩

lemma advance_append {goes : List Char → Bool} {text : List Char} (ht : goes text = false)
    (taken : List Char) (hg : ∀ before, before ≠ [] → goes (before ++ text) = true) :
    advance goes (taken ++ text) = text := by
  induction taken with
  | nil =>
    cases text with
    | nil => rfl
    | cons c rest => rw [List.nil_append, advance, if_neg (by simp [ht])]
  | cons c taken ih =>
    have hc : goes (c :: (taken ++ text)) = true := hg (c :: taken) (List.cons_ne_nil c taken)
    rw [List.cons_append, advance, if_pos hc, ih]

structure IsLast (close : Peg) : Prop where
  nil : close.parse [] = none
  unique : ∀ {before after}, before ≠ [] → close.parse after ≠ none →
    close.parse (before ++ after) = none

def misses (close : Peg) (text : List Char) : Bool := (close.parse text).isNone

lemma upTo_parse {close : Peg} (hz : close.parse [] = none) (c : Char) (rest : List Char) :
    (upTo close).parse (c :: rest) =
      if misses close (c :: rest) then some ⟨advance (misses close) rest, []⟩ else none := by
  have hn : (seq (notAhead close) (one fun _ => true)).parse [] = none := by
    simp [parse, hz]
  have hc : ∀ c rest, (seq (notAhead close) (one fun _ => true)).parse (c :: rest) =
      if misses close (c :: rest) then some ⟨rest, []⟩ else none := by
    intro c rest
    rw [parse, parse, misses]
    cases close.parse (c :: rest) <;> rfl
  rw [upTo, atLeastOnce, parse, hc]
  split
  · rw [Option.bind_some, parse, repeated_advance (misses close) hn hc]
    rfl
  · rfl

lemma upTo_close_iff {label : Label} {close : Peg} (h : IsLast close) :
    (seq (part label (upTo close)) close).parse text = some found ↔ ∃ taken rest last,
      taken ≠ [] ∧ text = taken ++ rest ∧ close.parse rest = some last ∧
        found = ⟨last.rest, (label, taken) :: last.parts⟩ := by
  rw [seq_iff]
  constructor
  · rintro ⟨first, last, hf, hl, rfl⟩
    obtain ⟨taken, inner, hi, ht, rfl⟩ := part_iff.mp hf
    cases text with
    | nil =>
      rw [upTo, atLeastOnce, seq_iff] at hi
      obtain ⟨first, -, hs, -⟩ := hi
      simp [parse, h.nil] at hs
    | cons c rest =>
      rw [upTo_parse h.nil] at hi
      split at hi
      · obtain rfl := Option.some.inj hi
        refine ⟨taken, _, last, ?_, ht, hl, by simp [Match.followedBy]⟩
        rintro rfl
        obtain ⟨skipped, hs⟩ := exists_advance (misses close) rest
        have hlen := congrArg List.length ht
        have hrest := congrArg List.length hs
        simp only [List.nil_append, List.length_cons, List.length_append] at hlen hrest
        omega
      · cases hi
  · rintro ⟨taken, rest, last, hn, rfl, hl, rfl⟩
    have hm : ∀ before, before ≠ [] → misses close (before ++ rest) = true := by
      intro before hb
      rw [misses, h.unique hb (by simp [hl])]
      rfl
    obtain ⟨c, taken, rfl⟩ := List.exists_cons_of_ne_nil hn
    have hs : misses close rest = false := by
      rw [misses, hl]
      rfl
    have hu : (upTo close).parse (c :: (taken ++ rest)) = some ⟨rest, []⟩ := by
      have hc : misses close (c :: (taken ++ rest)) = true := hm (c :: taken) hn
      rw [upTo_parse h.nil, if_pos hc, advance_append hs taken hm]
    exact ⟨⟨rest, [(label, c :: taken)]⟩, last, part_iff.mpr ⟨_, _, hu, rfl, rfl⟩, hl, rfl⟩

lemma header_iff {label : Label} {close : Peg} (h : IsLast close) :
    (header label close).parse text = some found ↔ ∃ (gap : Gap) (taken rest : List Char),
      ∃ last, taken ≠ [] ∧ text = "se".toList ++ (gap.1 ++ '(' :: (taken ++ rest)) ∧
        close.parse rest = some last ∧ found = ⟨last.rest, (label, taken) :: last.parts⟩ := by
  rw [header, word_seq_iff]
  simp only [gap_word_seq_parse, Option.bind_eq_some_iff, afterMark_iff (c := '(') rfl]
  constructor
  · rintro ⟨_, rfl, rest, ⟨gap, rfl⟩, hb⟩
    obtain ⟨taken, rest, last, hn, rfl, hl, rfl⟩ := (upTo_close_iff h).mp hb
    exact ⟨gap, taken, rest, last, hn, rfl, hl, rfl⟩
  · rintro ⟨gap, taken, rest, last, hn, rfl, hl, rfl⟩
    exact ⟨_, rfl, _, ⟨gap, rfl⟩, (upTo_close_iff h).mpr ⟨taken, rest, last, hn, rfl, hl, rfl⟩⟩

lemma stop_iff : stop.parse text = some found ↔ text = [] ∧ found = ⟨[], []⟩ := by
  rw [parse, Option.ite_none_right_eq_some, Option.some.injEq, eq_comm (a := found)]

lemma bareClose_iff : bareClose.parse text = some found ↔ text = [')'] ∧ found = ⟨[], []⟩ := by
  rw [bareClose, word_seq_iff]
  simp only [stop_iff]
  constructor
  · rintro ⟨_, rfl, rfl, rfl⟩
    exact ⟨rfl, rfl⟩
  · rintro ⟨rfl, rfl⟩
    exact ⟨[], rfl, rfl, rfl⟩

lemma blockClose_iff : blockClose.parse text = some found ↔
    (∃ gap : Gap, text = ')' :: (gap.1 ++ ['\x7b'])) ∧ found = ⟨[], []⟩ := by
  rw [blockClose, word_seq_iff]
  simp only [gap_word_seq_parse, Option.bind_eq_some_iff, afterMark_iff (c := '\x7b') rfl, stop_iff]
  constructor
  · rintro ⟨_, rfl, _, ⟨gap, rfl⟩, rfl, rfl⟩
    exact ⟨⟨gap, rfl⟩, rfl⟩
  · rintro ⟨⟨gap, rfl⟩, rfl⟩
    exact ⟨_, rfl, [], ⟨gap, rfl⟩, rfl, rfl⟩

lemma isLast_bareClose : IsLast bareClose where
  nil := rfl
  unique := by
    intro before after hn ha
    by_contra hb
    obtain ⟨first, hf⟩ := Option.ne_none_iff_exists'.mp ha
    obtain ⟨second, hs⟩ := Option.ne_none_iff_exists'.mp hb
    obtain ⟨rfl, -⟩ := bareClose_iff.mp hf
    obtain ⟨ht, -⟩ := bareClose_iff.mp hs
    exact hn (List.append_cancel_right (ht.trans (List.nil_append _).symm))

lemma isLast_blockClose : IsLast blockClose where
  nil := rfl
  unique := by
    intro before after hn ha
    by_contra hb
    obtain ⟨first, hf⟩ := Option.ne_none_iff_exists'.mp ha
    obtain ⟨second, hs⟩ := Option.ne_none_iff_exists'.mp hb
    obtain ⟨⟨gap, rfl⟩, -⟩ := blockClose_iff.mp hf
    obtain ⟨⟨wide, ht⟩, -⟩ := blockClose_iff.mp hs
    obtain ⟨c, before, rfl⟩ := List.exists_cons_of_ne_nil hn
    have hm : ')' ∈ wide.1 ++ ['\x7b'] := by
      rw [← (List.cons.inj ht).2]
      simp
    rcases List.mem_append.mp hm with hg | hg
    · exact absurd (wide.2 _ hg) (by decide)
    · exact absurd hg (by decide)

end Peg

namespace LineRule

variable {text : List Char} {found : Match}

lemma bareIf_iff : bareIf.peg.parse text = some found ↔
    ∃ condition, (Header.bare condition).IsWrittenAs text ∧
      found = ⟨[], [(.bareCondition, condition)]⟩ := by
  rw [peg, Peg.header_iff Peg.isLast_bareClose]
  simp only [Peg.bareClose_iff]
  constructor
  · rintro ⟨gap, condition, _, _, hn, rfl, ⟨rfl, rfl⟩, rfl⟩
    exact ⟨condition, ⟨hn, gap, rfl⟩, rfl⟩
  · rintro ⟨condition, ⟨hn, gap, rfl⟩, rfl⟩
    exact ⟨gap, condition, _, _, hn, rfl, ⟨rfl, rfl⟩, rfl⟩

lemma blockIf_iff : blockIf.peg.parse text = some found ↔
    ∃ condition, (Header.block condition).IsWrittenAs text ∧
      found = ⟨[], [(.blockCondition, condition)]⟩ := by
  rw [peg, Peg.header_iff Peg.isLast_blockClose]
  simp only [Peg.blockClose_iff]
  constructor
  · rintro ⟨gap, condition, _, _, hn, rfl, ⟨⟨between, rfl⟩, rfl⟩, rfl⟩
    exact ⟨condition, ⟨hn, between, gap, rfl⟩, rfl⟩
  · rintro ⟨condition, ⟨hn, between, gap, rfl⟩, rfl⟩
    exact ⟨gap, condition, _, _, hn, rfl, ⟨⟨between, rfl⟩, rfl⟩, rfl⟩

lemma brace_iff {brace : Char} : (Peg.seq (.word [brace]) .stop).parse text = some found ↔
    text = [brace] ∧ found = ⟨[], []⟩ := by
  rw [Peg.word_seq_iff]
  simp only [Peg.stop_iff]
  constructor
  · rintro ⟨_, rfl, rfl, rfl⟩
    exact ⟨rfl, rfl⟩
  · rintro ⟨rfl, rfl⟩
    exact ⟨[], rfl, rfl, rfl⟩

lemma areDistinct_move : Peg.AreDistinct ["andarFrente", "andarTras"] :=
  List.pairwise_pair.mpr fun _ => rfl

lemma areDistinct_turn : Peg.AreDistinct ["girarEsquerda", "girarDireita", "darMeiaVolta"] := by
  simp [Peg.AreDistinct, after?]

lemma areDistinct_collect : Peg.AreDistinct ["coletarCristal"] := List.pairwise_singleton ..

lemma areDistinct_guarded : Peg.AreDistinct ["apagarFogoECobrirBuraco", "cobrirBuraco"] :=
  List.pairwise_pair.mpr fun _ => rfl

def leading? : List Char → Option LineRule
  | 'a' :: 'n' :: _ => some move
  | 'a' :: 'p' :: _ => some guarded
  | 'c' :: 'o' :: 'b' :: _ => some guarded
  | 'c' :: 'o' :: 'l' :: _ => some collect
  | 'g' :: _ => some turn
  | 'd' :: _ => some turn
  | 's' :: rest => if rest.getLast? = some ')' then some bareIf else some blockIf
  | '\x7d' :: _ => some closing
  | '\x7b' :: _ => some opening
  | _ => none

lemma leading_header (front : List Char) (last : Char) :
    leading? ('s' :: (front ++ [last])) = if last = ')' then some bareIf else some blockIf := by
  simp [leading?]

lemma leading_of_matches {rule : LineRule} (h : rule.Matches text) :
    leading? text = some rule := by
  obtain ⟨found, hf⟩ := Option.isSome_iff_exists.mp h
  have hn : ∀ {name : String} {names : List String}, (∀ n ∈ name :: names, ∀ rest,
      leading? (n.toList ++ rest) = some rule) →
      (∃ n ∈ name :: names, ∃ rest, text = n.toList ++ rest) → leading? text = some rule := by
    rintro name names hl ⟨n, hn, rest, rfl⟩
    exact hl n hn rest
  cases rule with
  | move =>
    obtain ⟨n, hm, rest, _, ht, -⟩ := (Peg.named_iff areDistinct_move).mp hf
    exact hn (by simp [leading?]) ⟨n, hm, rest, ht⟩
  | turn =>
    obtain ⟨n, hm, rest, _, ht, -⟩ := (Peg.named_iff areDistinct_turn).mp hf
    exact hn (by simp [leading?]) ⟨n, hm, rest, ht⟩
  | collect =>
    obtain ⟨n, hm, rest, _, ht, -⟩ := (Peg.named_iff areDistinct_collect).mp hf
    exact hn (by simp [leading?]) ⟨n, hm, rest, ht⟩
  | guarded =>
    obtain ⟨n, hm, rest, _, ht, -⟩ := (Peg.named_iff areDistinct_guarded).mp hf
    exact hn (by simp [leading?]) ⟨n, hm, rest, ht⟩
  | bareIf =>
    obtain ⟨condition, ⟨-, gap, rfl⟩, -⟩ := bareIf_iff.mp hf
    simpa using leading_header ('e' :: (gap.1 ++ '(' :: condition)) ')'
  | blockIf =>
    obtain ⟨condition, ⟨-, between, gap, rfl⟩, -⟩ := blockIf_iff.mp hf
    simpa using leading_header ('e' :: (gap.1 ++ '(' :: (condition ++ ')' :: between.1))) '\x7b'
  | closing =>
    obtain ⟨rfl, -⟩ := brace_iff.mp hf
    rfl
  | opening =>
    obtain ⟨rfl, -⟩ := brace_iff.mp hf
    rfl

def reads? (rule : LineRule) (text : List Char) : Option Shape :=
  (rule.peg.parse text).bind fun found => rule.read found.parts

lemma readName_plain {c : Command} (hc : c ∈ plainCommands) (parts : List (Label × List Char)) :
    readName parts c.keyword.toList = some c := by
  simp only [plainCommands, List.mem_cons, List.not_mem_nil, or_false] at hc
  rcases hc with rfl | rfl | rfl | rfl | rfl | rfl <;> rfl

lemma read_call {label : Label} {name : String} {names : List String} {shape : Shape}
    (hd : Peg.AreDistinct (name :: names))
    (hk : ∀ n ∈ name :: names, ∃ c ∈ plainCommands, n = c.keyword) :
    (((Peg.call label name names).parse text).bind fun found =>
        ((found.parts.lookup label).bind (readName found.parts)).map Shape.command) = some shape ↔
      ∃ c ∈ plainCommands, c.keyword ∈ name :: names ∧ shape = .command c ∧
        IsEmptyCall c.keyword.toList text := by
  simp only [Option.bind_eq_some_iff, Peg.call_iff hd]
  constructor
  · rintro ⟨_, ⟨n, hn, hc, rfl⟩, hr⟩
    obtain ⟨c, hp, rfl⟩ := hk n hn
    simp only [List.lookup_cons_self, Option.bind_some, readName_plain hp, Option.map_some,
      Option.some.injEq] at hr
    exact ⟨c, hp, hn, hr.symm, hc⟩
  · rintro ⟨c, hp, hn, rfl, hc⟩
    refine ⟨_, ⟨c.keyword, hn, hc, rfl⟩, ?_⟩
    simp [readName_plain hp]

def moveOf (name : String) (count : UInt32) : Command :=
  if name = "andarFrente" then .forward count else .backward count

lemma read_move {name : String} (h : name ∈ ["andarFrente", "andarTras"])
    (parts : List (Label × List Char)) : move.read ((.moveName, name.toList) :: parts) =
      ((parts.lookup .count).bind readCount).map fun count => .command (moveOf name count) := by
  simp only [List.mem_cons, List.not_mem_nil, or_false] at h
  rcases h with rfl | rfl
  · exact Option.map_map ..
  · exact Option.map_map ..

lemma move_reads_iff {shape : Shape} : move.reads? text = some shape ↔
    ∃ name ∈ ["andarFrente", "andarTras"], ∃ count,
      IsCountedCall name.toList count text ∧ shape = .command (moveOf name count) := by
  rw [reads?, Option.bind_eq_some_iff]
  constructor
  · rintro ⟨_, hf, hr⟩
    obtain ⟨name, hn, rest, last, rfl, hl, rfl⟩ := (Peg.named_iff areDistinct_move).mp hf
    rw [read_move hn] at hr
    obtain ⟨count, hc, rfl⟩ := Option.map_eq_some_iff.mp hr
    have hm : moveCount? rest = some count := by
      rw [← Peg.moveEnd_parse, hl, Option.bind_some, hc]
    exact ⟨name, hn, count, isCountedCall_append.mpr ⟨rest, rfl, hm⟩, rfl⟩
  · rintro ⟨name, hn, count, hc, rfl⟩
    obtain ⟨rest, rfl, hm⟩ := isCountedCall_append.mp hc
    rw [← Peg.moveEnd_parse] at hm
    obtain ⟨last, hl, hp⟩ := Option.bind_eq_some_iff.mp hm
    refine ⟨_, (Peg.named_iff areDistinct_move).mpr ⟨name, hn, rest, last, rfl, hl, rfl⟩, ?_⟩
    rw [read_move hn, hp]
    rfl

lemma isWrittenAs_of_reads {rule : LineRule} {shape : Shape} (h : rule.reads? text = some shape) :
    shape.IsWrittenAs text := by
  have hc : (∃ c ∈ plainCommands, shape = .command c ∧ IsEmptyCall c.keyword.toList text) →
      shape.IsWrittenAs text := by
    rintro ⟨c, hp, rfl, hc⟩
    exact (isWrittenAs_plain hp text).mpr hc
  cases rule with
  | move =>
    obtain ⟨name, hn, count, hm, rfl⟩ := move_reads_iff.mp h
    simp only [List.mem_cons, List.not_mem_nil, or_false] at hn
    rcases hn with rfl | rfl <;> exact hm
  | turn =>
    obtain ⟨c, hp, -, rfl, he⟩ := (read_call areDistinct_turn (by decide)).mp h
    exact hc ⟨c, hp, rfl, he⟩
  | collect =>
    obtain ⟨c, hp, -, rfl, he⟩ := (read_call areDistinct_collect (by decide)).mp h
    exact hc ⟨c, hp, rfl, he⟩
  | guarded =>
    obtain ⟨c, hp, -, rfl, he⟩ := (read_call areDistinct_guarded (by decide)).mp h
    exact hc ⟨c, hp, rfl, he⟩
  | bareIf =>
    obtain ⟨_, hf, hr⟩ := Option.bind_eq_some_iff.mp h
    obtain ⟨condition, hw, rfl⟩ := bareIf_iff.mp hf
    obtain rfl := Option.some.inj hr
    exact hw
  | blockIf =>
    obtain ⟨_, hf, hr⟩ := Option.bind_eq_some_iff.mp h
    obtain ⟨condition, hw, rfl⟩ := blockIf_iff.mp hf
    obtain rfl := Option.some.inj hr
    exact hw
  | closing =>
    obtain ⟨_, hf, hr⟩ := Option.bind_eq_some_iff.mp h
    obtain rfl := Option.some.inj hr
    exact (brace_iff.mp hf).1
  | opening =>
    obtain ⟨_, hf, hr⟩ := Option.bind_eq_some_iff.mp h
    obtain rfl := Option.some.inj hr
    exact (brace_iff.mp hf).1

lemma exists_reads {shape : Shape} (h : shape.IsWrittenAs text) :
    ∃ rule : LineRule, rule.reads? text = some shape := by
  cases shape with
  | command c =>
    cases c with
    | forward count => exact ⟨move, move_reads_iff.mpr ⟨_, List.mem_cons_self, count, h, rfl⟩⟩
    | backward count =>
      exact ⟨move, move_reads_iff.mpr ⟨_, List.mem_cons_of_mem _ List.mem_cons_self, count, h, rfl⟩⟩
    | turnLeft | turnRight | turnAround =>
      exact ⟨turn, (read_call areDistinct_turn (by decide)).mpr
        ⟨_, by decide, by decide, rfl, h⟩⟩
    | collect =>
      exact ⟨collect, (read_call areDistinct_collect (by decide)).mpr
        ⟨_, by decide, by decide, rfl, h⟩⟩
    | putOutFire | coverHole =>
      exact ⟨guarded, (read_call areDistinct_guarded (by decide)).mpr
        ⟨_, by decide, by decide, rfl, h⟩⟩
  | header header =>
    cases header with
    | bare condition =>
      exact ⟨bareIf, Option.bind_eq_some_iff.mpr ⟨_, bareIf_iff.mpr ⟨condition, h, rfl⟩, rfl⟩⟩
    | block condition =>
      exact ⟨blockIf, Option.bind_eq_some_iff.mpr ⟨_, blockIf_iff.mpr ⟨condition, h, rfl⟩, rfl⟩⟩
  | closing => exact ⟨closing, Option.bind_eq_some_iff.mpr ⟨_, brace_iff.mpr ⟨h, rfl⟩, rfl⟩⟩
  | opening => exact ⟨opening, Option.bind_eq_some_iff.mpr ⟨_, brace_iff.mpr ⟨h, rfl⟩, rfl⟩⟩

end LineRule

end RobotPuzzle.Grammar
