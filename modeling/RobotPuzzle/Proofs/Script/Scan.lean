import RobotPuzzle.Proofs.Script.Braces
import RobotPuzzle.Proofs.Script.Nesting

/-! A sensor check that scans the text above a line, brace by brace, for the header that governs it.
It agrees with the check on tokens. -/

namespace RobotPuzzle.Script

def Line.isBareHeader (line : Line) : Bool :=
  match shape? line.text with
  | some (.header (.bare _)) => true
  | _ => false

def bareHeaderAbove? (above : List Line) : Option Line := above.head?.filter Line.isBareHeader

def headerText? (depth : Nat) (below : List Char) : List Line → Option (List Char)
  | [] => none
  | line :: above =>
    if line.closesBlock then headerText? (depth + 1) (line.text ++ below) above
    else if !line.opensBlock then headerText? depth (line.text ++ below) above
    else
      match depth with
      | depth + 1 => headerText? depth (line.text ++ below) above
      | 0 =>
        match shape? line.text with
        | some (.header (.block _)) => some (line.text ++ below)
        | some .opening =>
          match bareHeaderAbove? above with
          | some header => some (header.text ++ (line.text ++ below))
          | none => headerText? 0 (line.text ++ below) above
        | _ => headerText? 0 (line.text ++ below) above

def governingText? (above : List Line) : Option (List Char) :=
  match bareHeaderAbove? above with
  | some header => some header.text
  | none => headerText? 0 [] above

def askedSensor? (text : List Char) : Option Sensor :=
  ((after? "se".toList text).bind (afterMark? '(')).bind fun rest =>
    [Sensor.fire, Sensor.hole].find? fun sensor =>
      (((after? sensor.keyword.toList (skipGap rest)).bind afterNoArguments?).bind
        (afterMark? ')')).isSome

def textGuard : Guard := fun above command =>
  match command.requiredSensor with
  | none => true
  | some sensor => (governingText? (above.map (·.line))).bind askedSensor? = some sensor

end RobotPuzzle.Script

namespace RobotPuzzle

def Condition.sensor? : Condition → Option Sensor
  | literal _ => none
  | sensor s => some s

namespace Script

lemma skipGap_gap_append {gap : List Char} (h : ∀ c ∈ gap, isGap c) (text : List Char) :
    skipGap (gap ++ text) = skipGap text :=
  List.dropWhile_append_of_pos h

lemma skipGap_append_mark (text : List Char) {c : Char} (hc : isGap c = false)
    (rest : List Char) : skipGap (text ++ c :: rest) = skipGap text ++ c :: rest := by
  rw [skipGap, List.dropWhile_append]
  split
  · rename_i h
    rw [List.dropWhile_cons_of_neg (by simp [hc]), skipGap, List.isEmpty_iff.mp h, List.nil_append]
  · rfl

lemma after_append_of {word text rest : List Char} (h : after? word text = some rest)
    (tail : List Char) : after? word (text ++ tail) = some (rest ++ tail) := by
  rw [after?_eq_some_iff] at h ⊢
  rw [h, List.append_assoc]

lemma afterMark_append {c : Char} {text rest : List Char} (hc : isGap c = false)
    (h : afterMark? c text = some rest) (tail : List Char) :
    afterMark? c (text ++ tail) = some (rest ++ tail) := by
  obtain ⟨gap, hg, ht⟩ := skipGap_spec text
  rw [afterMark_eq_some h] at ht
  rw [afterMark?, ht, List.append_assoc, skipGap_gap_append hg, List.cons_append, skipGap,
    List.dropWhile_cons_of_neg (by simp [hc])]
  exact after?_append [c] _

lemma afterNoArguments_append {text rest : List Char} (h : afterNoArguments? text = some rest)
    (tail : List Char) : afterNoArguments? (text ++ tail) = some (rest ++ tail) := by
  obtain ⟨inner, ho, hc⟩ := Option.bind_eq_some_iff.mp h
  rw [afterNoArguments?, afterMark_append rfl ho]
  exact afterMark_append rfl hc tail

lemma askedSensor_header {gap inner tail : List Char} (hg : ∀ c ∈ gap, isGap c) :
    askedSensor? (['s', 'e'] ++ gap ++ ['('] ++ (inner ++ ')' :: tail)) =
      [Sensor.fire, Sensor.hole].find? fun sensor =>
        (((after? sensor.keyword.toList (skipGap inner ++ ')' :: tail)).bind
          afterNoArguments?).bind (afterMark? ')')).isSome := by
  have ho : (after? "se".toList (['s', 'e'] ++ gap ++ ['('] ++ (inner ++ ')' :: tail))).bind
      (afterMark? '(') = some (inner ++ ')' :: tail) := by
    rw [List.append_assoc, List.append_assoc, show "se".toList = ['s', 'e'] from rfl, after?_append,
      Option.bind_some, afterMark?, skipGap_gap_append hg]
    rfl
  rw [askedSensor?, ho, Option.bind_some, skipGap_append_mark inner rfl]

lemma closes_sensorCall {sensor : Sensor} {text : List Char} (h : isSensorCall sensor text)
    (tail : List Char) : (((after? sensor.keyword.toList (text ++ ')' :: tail)).bind
      afterNoArguments?).bind (afterMark? ')')).isSome := by
  obtain ⟨rest, ha, hr⟩ := (Option.any_eq_true ..).mp h
  obtain ⟨call, hk, hn⟩ := Option.bind_eq_some_iff.mp ha
  have hm : afterMark? ')' (rest ++ ')' :: tail) = some tail := by
    rw [afterMark?, skipGap_append_mark rest rfl, beq_iff_eq.mp hr]
    exact after?_append [')'] tail
  rw [after_append_of hk, Option.bind_some, afterNoArguments_append hn, Option.bind_some, hm]
  rfl

lemma no_sensorCall {c : Char} (hp : 'p' ≠ c) (hb : 'b' ≠ c) (rest : List Char) :
    [Sensor.fire, Sensor.hole].find? (fun sensor =>
      (((after? sensor.keyword.toList (c :: rest)).bind afterNoArguments?).bind
        (afterMark? ')')).isSome) = none := by
  have hn : ∀ sensor : Sensor, after? sensor.keyword.toList (c :: rest) = none := by
    intro sensor
    cases sensor with
    | fire => exact if_neg hp
    | hole => exact if_neg hb
  simp only [hn]
  rfl

lemma first_sensorCall {sensor : Sensor} {text : List Char} (h : isSensorCall sensor text)
    (tail : List Char) :
    [Sensor.fire, Sensor.hole].find? (fun sensor =>
      (((after? sensor.keyword.toList (text ++ ')' :: tail)).bind afterNoArguments?).bind
        (afterMark? ')')).isSome) = some sensor := by
  have hc := closes_sensorCall h tail
  cases sensor with
  | fire => exact List.find?_cons_of_pos hc
  | hole =>
    have hn : after? Sensor.fire.keyword.toList (text ++ ')' :: tail) = none := by
      obtain ⟨rest, ha, -⟩ := (Option.any_eq_true ..).mp h
      obtain ⟨call, hk, -⟩ := Option.bind_eq_some_iff.mp ha
      rw [after?_eq_some_iff.mp hk]
      rfl
    refine (List.find?_cons_of_neg (by simp [hn])).trans ?_
    exact List.find?_cons_of_pos hc

lemma askedSensor_of_condition {gap inner : List Char} {condition : Condition}
    (hg : ∀ c ∈ gap, isGap c) (h : condition? inner = some condition) (tail : List Char) :
    askedSensor? (['s', 'e'] ++ gap ++ ['('] ++ (inner ++ ')' :: tail)) = condition.sensor? := by
  have hc := condition_eq_some h
  rw [askedSensor_header hg]
  cases condition with
  | sensor sensor => exact first_sensorCall hc tail
  | literal value =>
    obtain ⟨rest, ha, -⟩ := (Option.any_eq_true ..).mp hc
    rw [after?_eq_some_iff.mp ha]
    cases value with
    | true => exact no_sensorCall (by decide) (by decide) ("rue".toList ++ rest ++ ')' :: tail)
    | false => exact no_sensorCall (by decide) (by decide) ("alse".toList ++ rest ++ ')' :: tail)

lemma Reads.askedSensor {text : List Char} {condition : Condition} {source : String}
    (h : Reads text (.bareIf condition source) ∨ Reads text (.blockIf condition source))
    (below : List Char) : askedSensor? (text ++ below) = condition.sensor? := by
  rcases h with ⟨inner, hs, hr⟩ | ⟨inner, hs, hr⟩
  · obtain ⟨gap, rest, hg, rfl, hc⟩ := header_eq_some (shape_eq_some hs)
    obtain rfl := closeHeader_bare hc
    simpa using askedSensor_of_condition hg (condition_of_readCondition hr) below
  · obtain ⟨gap, rest, hg, rfl, hc⟩ := header_eq_some (shape_eq_some hs)
    obtain ⟨gap', -, rfl⟩ := closeHeader_block hc
    have ha := askedSensor_of_condition hg (condition_of_readCondition hr) (gap' ++ '\x7b' :: below)
    simpa using ha

lemma isBareHeader_eq {line : Line} {token : Token} (h : Reads line.text token) :
    line.isBareHeader = token.bareCondition?.isSome := by
  rw [Line.isBareHeader]
  cases token with
  | bareIf condition source =>
    obtain ⟨inner, hs, -⟩ := h
    rw [hs]
    rfl
  | blockIf condition source =>
    obtain ⟨inner, hs, -⟩ := h
    rw [hs]
    rfl
  | _ =>
    rw [show shape? line.text = _ from h]
    rfl

variable {above : List Placed}

lemma bareHeaderAbove_sensor (h : AllRead above) :
    (bareHeaderAbove? (above.map (·.line)) = none ∧ bareAbove? above = none) ∨
    ∃ header condition, bareHeaderAbove? (above.map (·.line)) = some header ∧
      bareAbove? above = some condition ∧
      ∀ below, askedSensor? (header.text ++ below) = condition.sensor? := by
  cases above with
  | nil => exact Or.inl ⟨rfl, rfl⟩
  | cons placed above =>
    obtain ⟨line, token⟩ := placed
    obtain ⟨hl, -⟩ := List.forall_mem_cons.mp h
    have hb := isBareHeader_eq hl
    rw [bareAbove_cons, List.map_cons, bareHeaderAbove?, List.head?_cons]
    cases token with
    | bareIf condition source =>
      exact Or.inr ⟨line, condition, Option.filter_some_pos hb, rfl, Reads.askedSensor (Or.inl hl)⟩
    | _ => exact Or.inl ⟨Option.filter_some_neg (by simp [hb, Token.bareCondition?]), rfl⟩

lemma headerText_sensor (h : AllRead above) (depth : Nat) (below : List Char) :
    (headerText? depth below (above.map (·.line))).bind askedSensor? =
      (enclosing? depth above).bind Condition.sensor? := by
  induction above generalizing depth below with
  | nil => rfl
  | cons placed above ih =>
    obtain ⟨line, token⟩ := placed
    obtain ⟨hl, ha⟩ := List.forall_mem_cons.mp h
    obtain ⟨ho, hc⟩ := hl.braces
    rw [List.map_cons, headerText?.eq_def]
    simp only [hc, ho]
    cases token with
    | command c => exact ih ha depth _
    | bareIf condition source => exact ih ha depth _
    | closing => exact ih ha (depth + 1) _
    | blockIf condition source =>
      cases depth with
      | succ depth => exact ih ha depth _
      | zero =>
        obtain ⟨inner, hs, -⟩ := id hl
        simp only [Token.closes, Token.opens, hs]
        exact Reads.askedSensor (Or.inr hl) below
    | opening =>
      cases depth with
      | succ depth => exact ih ha depth _
      | zero =>
        have hs : shape? line.text = some .opening := hl
        simp only [Token.closes, Token.opens, hs, enclosing?]
        rcases bareHeaderAbove_sensor ha with ⟨hn, hb⟩ | ⟨header, condition, hn, hb, hq⟩
        · simp only [hn, hb]
          exact ih ha 0 _
        · simp only [hn, hb]
          exact hq _

lemma textGuard_eq (h : AllRead above) (c : Command) : textGuard above c = sensorGuard above c := by
  have hg : (governingText? (above.map (·.line))).bind askedSensor? =
      (governing? above).bind Condition.sensor? := by
    rw [governingText?, governing?]
    rcases bareHeaderAbove_sensor h with ⟨hn, hb⟩ | ⟨header, condition, hn, hb, hq⟩
    · rw [hn, hb]
      exact headerText_sensor h 0 []
    · rw [hn, hb]
      simpa using hq []
  have hs : ∀ sensor, (governing? above).bind Condition.sensor? = some sensor ↔
      governing? above = some (.sensor sensor) := by
    intro sensor
    cases governing? above with
    | none => simp
    | some condition => cases condition <;> simp [Condition.sensor?]
  rw [textGuard, sensorGuard]
  cases c.requiredSensor with
  | none => rfl
  | some sensor => simp only [hg, hs]

lemma check_textGuard (h : AllRead above) (line : Line) (below : List Line) :
    check textGuard above line below = check sensorGuard above line below := by
  simp only [check, textGuard_eq h]

lemma checkAll_textGuard (limit : Option Nat) (lines : List Line) (h : AllRead above) :
    checkAll textGuard limit above lines = checkAll sensorGuard limit above lines := by
  induction lines generalizing above with
  | nil => rfl
  | cons line below ih =>
    rw [checkAll, checkAll, check_textGuard h]
    cases hc : check sensorGuard above line below with
    | error fault => rfl
    | ok token =>
      have hr : AllRead (⟨line, token⟩ :: above) :=
        List.forall_mem_cons.mpr ⟨(check_ok_iff.mp hc).1, h⟩
      cases exceeded? limit above with
      | some limit => rfl
      | none => exact ih hr

theorem ofLines_textGuard (limit : Option Nat) (lines : List Line) :
    Program.ofLines textGuard limit lines = Program.ofLines sensorGuard limit lines := by
  rw [Program.ofLines, checkAll_textGuard limit lines (by simp [AllRead])]
  rfl

end Script

end RobotPuzzle
