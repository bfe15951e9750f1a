import RobotPuzzle.Proofs.Script.LineRules

namespace RobotPuzzle

namespace Grammar

open Script

lemma LineRule.Matches.unique {rule other : LineRule} {text : List Char} (h : rule.Matches text)
    (ho : other.Matches text) : rule = other :=
  Option.some.inj ((leading_of_matches h).symm.trans (leading_of_matches ho))

lemma shapeBy_eq_some_iff {rules : List LineRule} (hr : ∀ rule, rule ∈ rules) {text : List Char}
    {shape : Shape} : shapeBy? rules text = some shape ↔
      ∃ rule : LineRule, rule.reads? text = some shape := by
  rw [shapeBy?, Option.bind_eq_some_iff]
  constructor
  · rintro ⟨⟨rule, found⟩, hf, hs⟩
    obtain ⟨other, -, ho⟩ := List.exists_of_findSome?_eq_some hf
    obtain ⟨_, hp, he⟩ := Option.map_eq_some_iff.mp ho
    obtain ⟨rfl, rfl⟩ := Prod.mk.inj he
    exact ⟨other, Option.bind_eq_some_iff.mpr ⟨_, hp, hs⟩⟩
  · rintro ⟨rule, h⟩
    obtain ⟨found, hf, hs⟩ := Option.bind_eq_some_iff.mp h
    refine ⟨(rule, found), ?_, hs⟩
    have hn : (rules.findSome? fun rule => (rule.peg.parse text).map (rule, ·)) ≠ none := by
      intro hn
      have hm := List.findSome?_eq_none_iff.mp hn rule (hr rule)
      simp [hf] at hm
    obtain ⟨⟨other, last⟩, hl⟩ := Option.ne_none_iff_exists'.mp hn
    obtain ⟨_, -, ho⟩ := List.exists_of_findSome?_eq_some hl
    obtain ⟨_, hp, he⟩ := Option.map_eq_some_iff.mp ho
    obtain ⟨rfl, rfl⟩ := Prod.mk.inj he
    have hm : rule.Matches text := Option.isSome_of_eq_some hf
    obtain rfl := hm.unique (Option.isSome_of_eq_some hp)
    rw [hl, Option.some.inj (hf.symm.trans hp)]

lemma shapeBy_eq {rules : List LineRule} (hr : ∀ rule, rule ∈ rules) (text : List Char) :
    shapeBy? rules text = shape? text := by
  ext shape
  rw [shapeBy_eq_some_iff hr, shape_iff]
  constructor
  · rintro ⟨rule, h⟩
    exact LineRule.isWrittenAs_of_reads h
  · exact LineRule.exists_reads

namespace Peg

variable {text : List Char} {found : Match}

lemma truth_iff : (part .truth (oneOf "true" ["false"])).parse text = some found ↔
    ∃ value : Bool, text = (toString value).toList ++ found.rest ∧
      found.parts = [(.truth, (toString value).toList)] := by
  have hd : AreDistinct ["true", "false"] := List.pairwise_pair.mpr fun _ => rfl
  rw [name_iff hd]
  constructor
  · rintro ⟨n, hn, ht, hp⟩
    simp only [List.mem_cons, List.not_mem_nil, or_false] at hn
    rcases hn with rfl | rfl
    · exact ⟨true, ht, hp⟩
    · exact ⟨false, ht, hp⟩
  · rintro ⟨value, ht, hp⟩
    exact ⟨toString value, by cases value <;> decide, ht, hp⟩

lemma sensorCall_iff : sensorCall.parse text = some found ↔
    ∃ (sensor : Sensor) (rest taken : List Char), text = sensor.keyword.toList ++ rest ∧
      afterNoArguments? rest = some found.rest ∧ text = taken ++ found.rest ∧
      found.parts = [(.sensorCall, taken), (.sensorName, sensor.keyword.toList)] := by
  have hd : AreDistinct ["pegandoFogo", "buracoAFrente"] := List.pairwise_pair.mpr fun _ => rfl
  rw [sensorCall, part_iff]
  simp only [named_iff hd, gap_noArguments_parse, Option.map_eq_some_iff]
  constructor
  · rintro ⟨taken, _, ⟨n, hn, rest, _, ht, ⟨after, ha, rfl⟩, rfl⟩, hs, rfl⟩
    simp only [List.mem_cons, List.not_mem_nil, or_false] at hn
    rcases hn with rfl | rfl
    · exact ⟨.fire, rest, taken, ht, ha, hs, rfl⟩
    · exact ⟨.hole, rest, taken, ht, ha, hs, rfl⟩
  · rintro ⟨sensor, rest, taken, ht, ha, hs, hp⟩
    refine ⟨taken, _, ⟨sensor.keyword, by cases sensor <;> decide, rest, _, ht, ⟨_, ha, rfl⟩, rfl⟩,
      hs, ?_⟩
    rw [← hp]

lemma condition_iff : condition.parse text = some found ↔ ∃ first,
    (alt (part .truth (oneOf "true" ["false"])) sensorCall).parse (skipGap text) = some first ∧
      isGapOnly first.rest ∧ found = ⟨[], first.parts⟩ := by
  rw [condition, gap_seq_iff, seq_iff]
  simp only [gap_stop_parse, Option.ite_none_right_eq_some, Option.some.injEq]
  constructor
  · rintro ⟨first, _, hf, ⟨hg, rfl⟩, rfl⟩
    exact ⟨first, hf, hg, by simp [Match.followedBy]⟩
  · rintro ⟨first, hf, hg, rfl⟩
    exact ⟨first, _, hf, ⟨hg, rfl⟩, by simp [Match.followedBy]⟩

end Peg

variable {text : List Char}

lemma conditionBy_literal {value : Bool}
    (h : (after? (toString value).toList (skipGap text)).any isGapOnly) :
    conditionBy? text = some (.literal value) := by
  obtain ⟨gap, ht⟩ := word_iff.mp h
  have hf : Peg.condition.parse text = some ⟨[], [(.truth, (toString value).toList)]⟩ := by
    refine Peg.condition_iff.mpr ⟨⟨gap.1, _⟩, ?_, isGapOnly_iff.mpr ⟨gap, rfl⟩, rfl⟩
    rw [Peg.parse, Option.or_eq_some_iff]
    exact Or.inl (Peg.truth_iff.mpr ⟨value, ht, rfl⟩)
  rw [conditionBy?, hf]
  cases value <;> rfl

lemma conditionBy_sensor {sensor : Sensor} (h : isSensorCall sensor (skipGap text)) :
    conditionBy? text = some (.sensor sensor) := by
  obtain ⟨g₁, g₂, g₃, ht⟩ := isSensorCall_iff.mp h
  have hn : (Peg.part .truth (Peg.oneOf "true" ["false"])).parse (skipGap text) = none := by
    rw [ht]
    cases sensor <;> rfl
  have hs : Peg.sensorCall.parse (skipGap text) = some ⟨g₃.1,
      [(.sensorCall, sensor.keyword.toList ++ (g₁.1 ++ '(' :: (g₂.1 ++ [')']))),
        (.sensorName, sensor.keyword.toList)]⟩ :=
    Peg.sensorCall_iff.mpr ⟨sensor, _, _, ht, afterNoArguments_iff.mpr ⟨g₁, g₂, rfl⟩,
      by simp [ht], rfl⟩
  have hf := Peg.condition_iff.mpr
    ⟨_, Option.or_eq_some_iff.mpr (Or.inr ⟨hn, hs⟩), isGapOnly_iff.mpr ⟨g₃, rfl⟩, rfl⟩
  rw [conditionBy?, hf]
  cases sensor <;> rfl

lemma conditionBy_eq (text : List Char) : conditionBy? text = condition? text := by
  ext condition
  constructor
  · intro h
    obtain ⟨_, hf, hr⟩ := Option.bind_eq_some_iff.mp h
    obtain ⟨first, ha, hg, rfl⟩ := Peg.condition_iff.mp hf
    rw [Peg.parse, Option.or_eq_some_iff] at ha
    obtain ht | ⟨-, hs⟩ := ha
    · obtain ⟨value, ht, -⟩ := Peg.truth_iff.mp ht
      have hw : (after? (toString value).toList (skipGap text)).any isGapOnly := by
        rw [ht, after?_append]
        exact hg
      rw [← h, conditionBy_literal hw, condition_literal hw]
    · obtain ⟨sensor, rest, taken, ht, hn, -, -⟩ := Peg.sensorCall_iff.mp hs
      have hc : isSensorCall sensor (skipGap text) := by
        rw [isSensorCall, ht, after?_append, Option.bind_some, hn]
        exact hg
      rw [← h, conditionBy_sensor hc, condition_sensor hc]
  · intro h
    have hc := condition_eq_some h
    cases condition with
    | literal value => exact conditionBy_literal hc
    | sensor sensor => exact conditionBy_sensor hc

end Grammar

namespace Script

inductive Judges (above : List Placed) (line : Line) (below : List Line) :
    Except Fault Token → Prop
  | command {c} : c.IsWrittenAs line.text → sensorGuard above c = true →
      Judges above line below (.ok (.command c))
  | unguarded {c} : c.IsWrittenAs line.text → sensorGuard above c = false →
      Judges above line below (.error .missingSensorCheck)
  | bareIf {text condition} : (Header.bare text).IsWrittenAs line.text →
      condition.IsWrittenAs text →
      Judges above line below (.ok (.bareIf condition (String.ofList (Text.trim text))))
  | bareInvalid {text} : (Header.bare text).IsWrittenAs line.text →
      (∀ condition : Condition, ¬ condition.IsWrittenAs text) →
      Judges above line below (.error .invalidCondition)
  | blockIf {text condition} : (Header.block text).IsWrittenAs line.text →
      hasCloser 0 below = true → condition.IsWrittenAs text →
      Judges above line below (.ok (.blockIf condition (String.ofList (Text.trim text))))
  | blockInvalid {text} : (Header.block text).IsWrittenAs line.text →
      hasCloser 0 below = true → (∀ condition : Condition, ¬ condition.IsWrittenAs text) →
      Judges above line below (.error .invalidCondition)
  | blockUnclosed {text} : (Header.block text).IsWrittenAs line.text →
      hasCloser 0 below = false → Judges above line below (.error .unclosedBlock)
  | opening : line.text = ['\x7b'] → hasCloser 0 below = true →
      Judges above line below (.ok .opening)
  | openingUnclosed : line.text = ['\x7b'] → hasCloser 0 below = false →
      Judges above line below (.error .unclosedBlock)
  | closing : line.text = ['\x7d'] → hasOpener 0 (above.map (·.line)) = true →
      Judges above line below (.ok .closing)
  | closingUnopened : line.text = ['\x7d'] → hasOpener 0 (above.map (·.line)) = false →
      Judges above line below (.error .unopenedBlock)
  | unknown : (∀ shape : Shape, ¬ shape.IsWrittenAs line.text) →
      Judges above line below (.error .unknownCommand)

variable {above : List Placed} {line : Line} {below : List Line} {text : List Char}

lemma readCondition_ok {condition : Condition} (h : condition.IsWrittenAs text) :
    readCondition text = .ok (condition, String.ofList (Text.trim text)) := by
  rw [readCondition, condition_iff.mpr h]

lemma readCondition_error (h : ∀ condition : Condition, ¬ condition.IsWrittenAs text) :
    readCondition text = .error .invalidCondition := by
  have hn : condition? text = none := by
    by_contra hc
    obtain ⟨condition, hc⟩ := Option.ne_none_iff_exists'.mp hc
    exact h condition (condition_iff.mp hc)
  rw [readCondition, hn]

lemma Judges.check_eq {result : Except Fault Token} (h : Judges above line below result) :
    check sensorGuard above line below = result := by
  have hs : ∀ shape : Shape, shape.IsWrittenAs line.text → shape? line.text = some shape :=
    fun _ hw => shape_iff.mpr hw
  cases h with
  | @command c hw hg => simp [check, hs (.command c) hw, hg]
  | @unguarded c hw hg => simp [check, hs (.command c) hw, hg]
  | @bareIf text _ hw hc =>
    simp [check, hs (.header (.bare text)) hw, readCondition_ok hc, Except.map]
  | @bareInvalid text hw hc =>
    simp [check, hs (.header (.bare text)) hw, readCondition_error hc, Except.map]
  | @blockIf text _ hw hb hc =>
    simp [check, hs (.header (.block text)) hw, hb, readCondition_ok hc, Except.map]
  | @blockInvalid text hw hb hc =>
    simp [check, hs (.header (.block text)) hw, hb, readCondition_error hc, Except.map]
  | @blockUnclosed text hw hb => simp [check, hs (.header (.block text)) hw, hb]
  | opening hw hb => simp [check, hs .opening hw, hb]
  | openingUnclosed hw hb => simp [check, hs .opening hw, hb]
  | closing hw hb => simp [check, hs .closing hw, hb]
  | closingUnopened hw hb => simp [check, hs .closing hw, hb]
  | unknown hn =>
    have hu : shape? line.text = none := by
      by_contra hc
      obtain ⟨shape, hc⟩ := Option.ne_none_iff_exists'.mp hc
      exact hn shape (shape_iff.mp hc)
    simp [check, hu]

lemma judges_exists (above : List Placed) (line : Line) (below : List Line) :
    ∃ result, Judges above line below result := by
  have hc : ∀ text, (∃ condition : Condition, condition.IsWrittenAs text) ∨
      ∀ condition : Condition, ¬ condition.IsWrittenAs text := fun text => by
    rw [← not_exists]
    exact em _
  by_cases hs : ∃ shape : Shape, shape.IsWrittenAs line.text
  · obtain ⟨shape, hw⟩ := hs
    cases shape with
    | command c =>
      cases hg : sensorGuard above c with
      | true => exact ⟨_, .command hw hg⟩
      | false => exact ⟨_, .unguarded hw hg⟩
    | header header =>
      cases header with
      | bare text =>
        obtain ⟨condition, hc⟩ | hc := hc text
        · exact ⟨_, .bareIf hw hc⟩
        · exact ⟨_, .bareInvalid hw hc⟩
      | block text =>
        cases hb : hasCloser 0 below with
        | false => exact ⟨_, .blockUnclosed hw hb⟩
        | true =>
          obtain ⟨condition, hc⟩ | hc := hc text
          · exact ⟨_, .blockIf hw hb hc⟩
          · exact ⟨_, .blockInvalid hw hb hc⟩
    | opening =>
      cases hb : hasCloser 0 below with
      | true => exact ⟨_, .opening hw hb⟩
      | false => exact ⟨_, .openingUnclosed hw hb⟩
    | closing =>
      cases hb : hasOpener 0 (above.map (·.line)) with
      | true => exact ⟨_, .closing hw hb⟩
      | false => exact ⟨_, .closingUnopened hw hb⟩
  · exact ⟨_, .unknown (not_exists.mp hs)⟩

lemma check_iff_judges {result : Except Fault Token} :
    check sensorGuard above line below = result ↔ Judges above line below result := by
  constructor
  · rintro rfl
    obtain ⟨result, h⟩ := judges_exists above line below
    rw [h.check_eq]
    exact h
  · exact Judges.check_eq

open Grammar

/-- No two rules match the same line, and whatever their order, they read what is written in one of
the forms and nothing else. A line is judged by its form. -/
theorem line_grammar_exact :
    (∀ (rule other : LineRule) (text : List Char), rule.Matches text → other.Matches text →
      rule = other) ∧
    (∀ rules : List LineRule, rules.Perm LineRule.all →
      ∀ text, shapeBy? rules text = shape? text) ∧
    (∀ text, conditionBy? text = condition? text) ∧
    (∀ (text : List Char) (shape : Shape), shape? text = some shape ↔ shape.IsWrittenAs text) ∧
    (∀ (text : List Char) (condition : Condition),
      condition? text = some condition ↔ condition.IsWrittenAs text) ∧
    ∀ (above : List Placed) (line : Line) (below : List Line) (result : Except Fault Token),
      check sensorGuard above line below = result ↔ Judges above line below result := by
  have ha : ∀ rule, rule ∈ LineRule.all := by
    intro rule
    cases rule <;> decide
  exact ⟨fun rule other text h ho => h.unique ho,
    fun rules hp text => shapeBy_eq (fun rule => hp.mem_iff.mpr (ha rule)) text, conditionBy_eq,
    fun text shape => shape_iff, fun text condition => condition_iff,
    fun above line below result => check_iff_judges⟩

theorem line_grammar_exact_reversed :
    shapeBy? LineRule.all.reverse "andarFrente\t( 12 ) ;".toList =
      some (.command (.forward 12)) ∧
    shapeBy? LineRule.all.reverse "se (a) \x7b) \t\x7b".toList =
      some (.header (.block "a) \x7b".toList)) ∧
    (Shape.header (.bare "true".toList)).IsWrittenAs "se(true)".toList ∧
    shapeBy? LineRule.all.reverse "andarFrente(01)".toList = none := by
  have hr : ∀ text, shapeBy? LineRule.all.reverse text = shape? text :=
    line_grammar_exact.2.1 _ (List.reverse_perm LineRule.all)
  refine ⟨(hr _).trans ?_, (hr _).trans ?_, ?_, (hr _).trans ?_⟩
  · rfl
  · rfl
  · exact (line_grammar_exact.2.2.2.1 _ _).mp rfl
  · rfl

end Script

end RobotPuzzle
