import Mathlib.Data.List.TakeWhile
import RobotPuzzle.Proofs.Script.Passing

namespace RobotPuzzle.Script

def BraceFree (text : List Char) : Prop := '\x7b' ∉ text ∧ '\x7d' ∉ text

instance (text : List Char) : Decidable (BraceFree text) :=
  inferInstanceAs (Decidable (_ ∧ _))

lemma braceFree_append {text rest : List Char} :
    BraceFree (text ++ rest) ↔ BraceFree text ∧ BraceFree rest := by
  simp only [BraceFree, List.mem_append, not_or]
  tauto

lemma braceFree_of_gap {gap : List Char} (h : ∀ c ∈ gap, isGap c) : BraceFree gap :=
  ⟨fun hc => absurd (h _ hc) (by decide), fun hc => absurd (h _ hc) (by decide)⟩

lemma braceFree_of_digits {digits : List Char} (h : ∀ c ∈ digits, c.isDigit) :
    BraceFree digits :=
  ⟨fun hc => absurd (h _ hc) (by decide), fun hc => absurd (h _ hc) (by decide)⟩

lemma skipGap_spec (text : List Char) : ∃ gap, (∀ c ∈ gap, isGap c) ∧ text = gap ++ skipGap text :=
  ⟨text.takeWhile isGap, fun _ hc => List.mem_takeWhile_imp hc,
    (List.takeWhile_append_dropWhile).symm⟩

lemma BraceFree.of_skipGap {text : List Char} (h : BraceFree (skipGap text)) :
    BraceFree text := by
  obtain ⟨gap, hg, ht⟩ := skipGap_spec text
  rw [ht]
  exact braceFree_append.mpr ⟨braceFree_of_gap hg, h⟩

lemma afterMark_eq_some {c : Char} {text rest : List Char} (h : afterMark? c text = some rest) :
    skipGap text = c :: rest :=
  after?_eq_some_iff.mp h

lemma BraceFree.of_afterMark {c : Char} {text rest : List Char} (hc : BraceFree [c])
    (h : afterMark? c text = some rest) (hr : BraceFree rest) : BraceFree text := by
  apply BraceFree.of_skipGap
  rw [afterMark_eq_some h]
  exact braceFree_append.mpr ⟨hc, hr⟩

lemma braceFree_of_afterNoArguments {text rest : List Char}
    (h : afterNoArguments? text = some rest) (hr : BraceFree rest) : BraceFree text := by
  obtain ⟨inner, ho, hc⟩ := Option.bind_eq_some_iff.mp h
  exact .of_afterMark (by decide) ho (.of_afterMark (by decide) hc hr)

lemma braceFree_of_endsCommand {text : List Char} (h : endsCommand text) : BraceFree text := by
  apply BraceFree.of_skipGap
  simp only [endsCommand, Bool.or_eq_true, beq_iff_eq] at h
  rcases h with h | h <;> rw [h] <;> decide

lemma braceFree_of_moveCount {text : List Char} {count : UInt32}
    (h : moveCount? text = some count) : BraceFree text := by
  obtain ⟨inner, ho, hi⟩ := Option.bind_eq_some_iff.mp h
  obtain ⟨rest, hc, hr⟩ := Option.bind_eq_some_iff.mp hi
  have he : endsCommand rest := by
    by_contra he
    simp [he] at hr
  refine .of_afterMark (by decide) ho (.of_skipGap ?_)
  rw [← List.takeWhile_append_dropWhile (p := Char.isDigit) (l := skipGap inner)]
  exact braceFree_append.mpr ⟨braceFree_of_digits fun _ hd => List.mem_takeWhile_imp hd,
    .of_afterMark (by decide) hc (braceFree_of_endsCommand he)⟩

lemma braceFree_keyword (c : Command) : BraceFree c.keyword.toList := by
  cases c with
  | forward count => exact (by decide : BraceFree "andarFrente".toList)
  | backward count => exact (by decide : BraceFree "andarTras".toList)
  | _ => decide

lemma braceFree_of_plainCommand {text : List Char} {c : Command}
    (h : plainCommand? text = some c) : BraceFree text := by
  have hp := List.find?_some
    (p := fun c : Command => (after? c.keyword.toList text).any isPlainCall) h
  obtain ⟨rest, ha, hr⟩ := (Option.any_eq_true ..).mp hp
  rw [after?_eq_some_iff.mp ha]
  refine braceFree_append.mpr ⟨braceFree_keyword c, ?_⟩
  rw [isPlainCall] at hr
  split at hr
  · rename_i tail hn
    exact braceFree_of_afterNoArguments hn (braceFree_of_endsCommand hr)
  · exact nomatch hr

lemma braceFree_of_command {text : List Char} {c : Command} (h : command? text = some c) :
    BraceFree text := by
  rw [command?] at h
  split at h
  · rename_i rest ha
    obtain ⟨count, hm, -⟩ := Option.map_eq_some_iff.mp h
    rw [after?_eq_some_iff.mp ha]
    exact braceFree_append.mpr ⟨braceFree_keyword _, braceFree_of_moveCount hm⟩
  · split at h
    · rename_i rest ha
      obtain ⟨count, hm, -⟩ := Option.map_eq_some_iff.mp h
      rw [after?_eq_some_iff.mp ha]
      exact braceFree_append.mpr ⟨braceFree_keyword _, braceFree_of_moveCount hm⟩
    · exact braceFree_of_plainCommand h

lemma braceFree_of_word {word text : List Char} (hw : BraceFree word)
    (h : (after? word text).any isGapOnly) : BraceFree text := by
  obtain ⟨rest, ha, hr⟩ := (Option.any_eq_true ..).mp h
  rw [after?_eq_some_iff.mp ha]
  refine braceFree_append.mpr ⟨hw, .of_skipGap ?_⟩
  rw [beq_iff_eq.mp hr]
  decide

lemma braceFree_of_sensorCall {sensor : Sensor} {text : List Char}
    (h : isSensorCall sensor text) : BraceFree text := by
  obtain ⟨rest, ha, hr⟩ := (Option.any_eq_true ..).mp h
  obtain ⟨call, hk, hn⟩ := Option.bind_eq_some_iff.mp ha
  rw [after?_eq_some_iff.mp hk]
  refine braceFree_append.mpr ⟨by cases sensor <;> decide, ?_⟩
  refine braceFree_of_afterNoArguments hn (.of_skipGap ?_)
  rw [beq_iff_eq.mp hr]
  decide

lemma condition_eq_some {text : List Char} {condition : Condition}
    (h : condition? text = some condition) :
    match condition with
    | .literal value => (after? (toString value).toList (skipGap text)).any isGapOnly
    | .sensor sensor => isSensorCall sensor (skipGap text) := by
  dsimp only [condition?] at h
  split at h
  · rename_i ht
    obtain rfl := Option.some.inj h
    exact ht
  · split at h
    · rename_i hf
      obtain rfl := Option.some.inj h
      exact hf
    · obtain ⟨sensor, hf, rfl⟩ := Option.map_eq_some_iff.mp h
      simpa using List.find?_some hf

lemma braceFree_of_condition {text : List Char} {condition : Condition}
    (h : condition? text = some condition) : BraceFree text := by
  have hc := condition_eq_some h
  apply BraceFree.of_skipGap
  cases condition with
  | literal value => exact braceFree_of_word (by cases value <;> decide) hc
  | sensor sensor => exact braceFree_of_sensorCall hc

lemma condition_of_readCondition {inner : List Char} {condition : Condition} {source : String}
    (h : readCondition inner = .ok (condition, source)) : condition? inner = some condition := by
  rw [readCondition] at h
  split at h
  · rename_i c hc
    obtain ⟨rfl, -⟩ := Prod.mk.inj (Except.ok.inj h)
    exact hc
  · exact nomatch h

lemma closeHeader_bare {rest inner : List Char} (h : closeHeader? rest = some (.bare inner)) :
    rest = inner ++ [')'] := by
  rw [closeHeader?] at h
  split at h
  · rename_i c condition hr
    obtain rfl := Header.bare.inj (Option.some.inj h)
    rw [← List.reverse_reverse rest, hr]
    simp
  · split at h <;> exact nomatch h
  · exact nomatch h

lemma closeHeader_block {rest inner : List Char} (h : closeHeader? rest = some (.block inner)) :
    ∃ gap, (∀ c ∈ gap, isGap c) ∧ rest = inner ++ ')' :: gap ++ ['{'] := by
  rw [closeHeader?] at h
  split at h
  · exact nomatch h
  · rename_i before hr
    split at h
    · rename_i c condition hs
      obtain rfl := Header.block.inj (Option.some.inj h)
      obtain ⟨gap, hg, hb⟩ := skipGap_spec before
      refine ⟨gap.reverse, by simpa using hg, ?_⟩
      rw [← List.reverse_reverse rest, hr, hb, hs]
      simp
    · exact nomatch h
  · exact nomatch h

lemma header_eq_some {text : List Char} {header : Header} (h : header? text = some header) :
    ∃ gap rest, (∀ c ∈ gap, isGap c) ∧ text = ['s', 'e'] ++ gap ++ ['('] ++ rest ∧
      closeHeader? rest = some header := by
  obtain ⟨rest, hb, hc⟩ := Option.bind_eq_some_iff.mp h
  obtain ⟨tail, ha, ho⟩ := Option.bind_eq_some_iff.mp hb
  obtain ⟨gap, hg, ht⟩ := skipGap_spec tail
  refine ⟨gap, rest, hg, ?_, hc⟩
  rw [after?_eq_some_iff.mp ha, ht, afterMark_eq_some ho]
  simp

def Token.opens : Token → Bool
  | .opening => true
  | .blockIf _ _ => true
  | _ => false

def Token.closes : Token → Bool
  | .closing => true
  | _ => false

lemma shape_eq_some {text : List Char} {shape : Shape} (h : shape? text = some shape) :
    match shape with
    | .command c => command? text = some c
    | .header header => header? text = some header
    | .opening => text = ['\x7b']
    | .closing => text = ['\x7d'] := by
  rw [shape?] at h
  split at h
  · obtain rfl := Option.some.inj h
    assumption
  · split at h
    · obtain rfl := Option.some.inj h
      assumption
    · split at h
      · obtain rfl := Option.some.inj h
        assumption
      · split at h
        · obtain rfl := Option.some.inj h
          assumption
        · exact nomatch h

lemma exists_braceFree_append_nil {text : List Char} (h : BraceFree text) :
    ∃ front, BraceFree front ∧ text = front ++ [] :=
  ⟨text, h, (List.append_nil text).symm⟩

theorem Reads.exists_braceFree {text : List Char} {token : Token} (h : Reads text token) :
    ∃ front, BraceFree front ∧
      text = front ++ if token.opens then ['\x7b'] else if token.closes then ['\x7d'] else [] := by
  cases token with
  | command c =>
    exact exists_braceFree_append_nil (braceFree_of_command (shape_eq_some h))
  | bareIf condition source =>
    obtain ⟨inner, hs, hr⟩ := h
    obtain ⟨gap, rest, hg, rfl, hc⟩ := header_eq_some (shape_eq_some hs)
    obtain rfl := closeHeader_bare hc
    have hi := braceFree_of_condition (condition_of_readCondition hr)
    apply exists_braceFree_append_nil
    simp only [braceFree_append, braceFree_of_gap hg, hi, true_and, and_true]
    decide
  | blockIf condition source =>
    obtain ⟨inner, hs, hr⟩ := h
    obtain ⟨gap, rest, hg, rfl, hc⟩ := header_eq_some (shape_eq_some hs)
    obtain ⟨gap', hg', rfl⟩ := closeHeader_block hc
    have hi := braceFree_of_condition (condition_of_readCondition hr)
    refine ⟨['s', 'e'] ++ gap ++ ['('] ++ (inner ++ [')'] ++ gap'), ?_, ?_⟩
    · simp only [braceFree_append, braceFree_of_gap hg, braceFree_of_gap hg', hi, true_and,
        and_true]
      decide
    · simp [Token.opens]
  | opening => exact ⟨[], by decide, shape_eq_some h⟩
  | closing => exact ⟨[], by decide, shape_eq_some h⟩

theorem Reads.braces {line : Line} {token : Token} (h : Reads line.text token) :
    line.opensBlock = token.opens ∧ line.closesBlock = token.closes := by
  obtain ⟨front, ⟨ho, hc⟩, ht⟩ := h.exists_braceFree
  rw [Line.opensBlock, Line.closesBlock, ht]
  cases token <;> simp [ho, hc, Token.opens, Token.closes]

theorem Reads.count_braces_le {text : List Char} {token : Token} (h : Reads text token) :
    text.count '\x7b' + text.count '\x7d' ≤ 1 := by
  obtain ⟨front, ⟨ho, hc⟩, rfl⟩ := h.exists_braceFree
  rw [List.count_append, List.count_append, List.count_eq_zero.mpr ho, List.count_eq_zero.mpr hc]
  cases token.opens <;> cases token.closes <;> decide

end RobotPuzzle.Script
