import RobotPuzzle.Proofs.Script.Descent
import RobotPuzzle.Proofs.Script.Scan

namespace RobotPuzzle

namespace Script

/-- The check of one line, given the text of the others. -/
def validate (lines : List Line) (i : Nat) : Option (Except Fault Token) :=
  lines[i]?.map fun line =>
    check textGuard ((lines.take i).reverse.map (⟨·, .closing⟩)) line (lines.drop (i + 1))

def PassesAt (lines : List Line) (i : Nat) : Prop := ∃ token, validate lines i = some (.ok token)

def lacksStatement (lines : List Line) (i : Nat) : Bool :=
  lines[i]?.any Line.isBareHeader && lines[i + 1]?.all (·.text = ['\x7d'])

def Line.StandsIn (line : Line) (source : String) : Prop :=
  line.isBlank = false ∧ ∃ i piece, ((dropMark source.toList).splitOn '\n')[i]? = some piece ∧
    line = ⟨i + 1, String.ofList (dropReturn piece), Text.trim (dropReturn piece)⟩

lemma mem_numberLines {start : Nat} {pieces : List (List Char)} {line : Line}
    (h : line ∈ numberLines start pieces) : ∃ i piece, pieces[i]? = some piece ∧
      line = ⟨start + i, String.ofList (dropReturn piece), Text.trim (dropReturn piece)⟩ := by
  induction pieces generalizing start with
  | nil => exact nomatch h
  | cons piece pieces ih =>
    rcases List.mem_cons.mp h with rfl | h
    · exact ⟨0, piece, rfl, rfl⟩
    · obtain ⟨i, other, hi, rfl⟩ := ih h
      exact ⟨i + 1, other, hi, by rw [Nat.add_right_comm, Nat.add_assoc]⟩

lemma standsIn_of_mem {line : Line} {source : String} (h : line ∈ lines source) :
    line.StandsIn source := by
  obtain ⟨hm, hb⟩ := List.mem_filter.mp h
  obtain ⟨i, piece, hi, rfl⟩ := mem_numberLines hm
  exact ⟨by simpa using hb, i, piece, hi, by rw [Nat.add_comm]⟩

lemma check_ne_emptyConditional {guard : Guard} {above : List Placed} {line : Line}
    {below : List Line} : check guard above line below ≠ .error .emptyConditional := by
  have hr : ∀ text (f : Condition × String → Token),
      (readCondition text).map f ≠ .error .emptyConditional := by
    intro text f
    rw [readCondition]
    cases condition? text <;> simp [Except.map]
  rw [check]
  split
  · simp
  · split <;> simp
  · exact hr _ _
  · split
    · exact hr _ _
    · simp
  · split <;> simp
  · split <;> simp

variable {limit : Option Nat} {above : List Placed} {line : Line} {below : List Line}

lemma check_textGuard_congr {other : List Placed}
    (h : above.map (·.line) = other.map (·.line)) (line : Line) (below : List Line) :
    check textGuard above line below = check textGuard other line below := by
  have hg : textGuard above = textGuard other := by
    funext c
    rw [textGuard, textGuard, h]
  rw [check, check, hg, h]

lemma validate_append (before : List Line) (line : Line) (below : List Line) :
    validate (before ++ line :: below) before.length =
      some (check textGuard (before.reverse.map (⟨·, .closing⟩)) line below) := by
  simp [validate]

lemma validate_eq (h : AllRead above) (line : Line) (below : List Line) :
    validate ((above.map (·.line)).reverse ++ line :: below) above.length =
      some (check sensorGuard above line below) := by
  have ha := validate_append (above.map (·.line)).reverse line below
  rw [List.length_reverse, List.length_map, List.reverse_reverse] at ha
  rw [ha, ← check_textGuard h]
  refine congrArg some (check_textGuard_congr ?_ line below)
  simp [Function.comp_def]

inductive Verdict (limit : Option Nat) (lines : List Line) :
    Nat → Except Rejection (List Placed) → Prop
  | passed (placed) : Verdict limit lines lines.length (.ok placed)
  | faulty {i fault line} : lines[i]? = some line → validate lines i = some (.error fault) →
      Verdict limit lines i (.error (.faulty fault line))
  | exceeded {n line} : limit = some n → lines[n]? = some line → PassesAt lines n →
      Verdict limit lines n (.error (.tooManyCommands line n))

lemma exceeded_eq_some {n : Nat} (h : exceeded? limit above = some n) :
    limit = some n ∧ n ≤ above.length := by
  obtain ⟨hn, hl⟩ := Option.filter_eq_some_iff.mp h
  exact ⟨hn, Nat.le_of_lt_succ (of_decide_eq_true hl)⟩

lemma exceeded_eq_none_iff : exceeded? limit above = none ↔ ∀ n ∈ limit, above.length + 1 ≤ n := by
  rw [exceeded?, Option.filter_eq_none_iff]
  simp

lemma checkAll_cons_exceeded {guard : Guard} {token : Token} {n : Nat}
    (hc : check guard above line below = .ok token) (he : exceeded? limit above = some n) :
    checkAll guard limit above (line :: below) = .error (.tooManyCommands line n) := by
  rw [checkAll, hc]
  simp only [he]

def Concludes (limit : Option Nat) (lines : List Line) (start : Nat)
    (result : Except Rejection (List Placed)) : Prop :=
  ∃ i, start ≤ i ∧ (∀ j, start ≤ j → j < i → PassesAt lines j) ∧ Verdict limit lines i result

lemma Verdict.concludes {lines : List Line} {i : Nat} {result : Except Rejection (List Placed)}
    (h : Verdict limit lines i result) : Concludes limit lines i result :=
  ⟨i, le_rfl, fun _ hj hi => absurd hi (Nat.not_lt.mpr hj), h⟩

lemma Concludes.cons {lines : List Line} {start : Nat} {result : Except Rejection (List Placed)}
    (hp : PassesAt lines start) (h : Concludes limit lines (start + 1) result) :
    Concludes limit lines start result := by
  obtain ⟨i, hi, hb, hv⟩ := h
  refine ⟨i, Nat.le_of_succ_le hi, fun j hj hl => ?_, hv⟩
  rcases Nat.eq_or_lt_of_le hj with rfl | hlt
  · exact hp
  · exact hb j hlt hl

lemma concludes_checkAll (hr : AllRead above) (hl : ∀ n ∈ limit, above.length ≤ n) :
    Concludes limit ((above.map (·.line)).reverse ++ below) above.length
      (checkAll sensorGuard limit above below) := by
  induction below generalizing above with
  | nil =>
    have hp : Verdict limit ((above.map (·.line)).reverse ++ []) _ (.ok above.reverse) :=
      .passed above.reverse
    have hn : ((above.map Placed.line).reverse ++ []).length = above.length := by simp
    rw [hn] at hp
    exact hp.concludes
  | cons line below ih =>
    have hv := validate_eq hr line below
    have hi : ((above.map (·.line)).reverse ++ line :: below)[above.length]? = some line := by simp
    cases hc : check sensorGuard above line below with
    | error fault =>
      rw [hc] at hv
      rw [checkAll_cons_error hc]
      exact (Verdict.faulty hi hv).concludes
    | ok token =>
      rw [hc] at hv
      cases he : exceeded? limit above with
      | some n =>
        obtain ⟨hn, hle⟩ := exceeded_eq_some he
        obtain rfl := Nat.le_antisymm hle (hl n hn)
        rw [checkAll_cons_exceeded hc he]
        exact (Verdict.exceeded hn hi ⟨token, hv⟩).concludes
      | none =>
        have hr' : AllRead (⟨line, token⟩ :: above) :=
          List.forall_mem_cons.mpr ⟨(check_ok_iff.mp hc).1, hr⟩
        have hs := ih hr' (exceeded_eq_none_iff.mp he)
        rw [List.map_cons, List.reverse_cons, List.append_assoc, List.singleton_append] at hs
        rw [checkAll_cons hc he]
        exact hs.cons ⟨token, hv⟩

lemma Reads.text_eq_iff {text : List Char} {token : Token} (h : Reads text token) :
    text = ['\x7d'] ↔ token = .closing := by
  constructor
  · rintro rfl
    have ht : token? ['\x7d'] = some .closing := rfl
    exact Option.some.inj (h.token_eq.symm.trans ht)
  · rintro rfl
    exact shape_eq_some h

lemma isEmptyConditional_eq {placed : Placed} {below : List Placed}
    (h : AllRead (placed :: below)) :
    isEmptyConditional placed below = lacksStatement ((placed :: below).map (·.line)) 0 := by
  obtain ⟨line, token⟩ := placed
  obtain ⟨hl, hb⟩ := List.forall_mem_cons.mp h
  have hh : lacksStatement ((⟨line, token⟩ :: below).map (·.line)) 0 =
      (token.bareCondition?.isSome && (below.map (·.line))[0]?.all (·.text = ['\x7d'])) := by
    rw [← isBareHeader_eq hl]
    rfl
  rw [hh]
  cases token with
  | bareIf condition source =>
    rcases below with _ | ⟨⟨next, token⟩, below⟩
    · rfl
    · have ht := (List.forall_mem_cons.mp hb).1.text_eq_iff
      cases token <;> simp [isEmptyConditional, Token.bareCondition?, ht]
  | _ => rfl

lemma exists_lacksStatement {tokens : List Placed} {line : Line}
    (h : assembleFrom tokens = .error (.faulty .emptyConditional line)) (hr : AllRead tokens) :
    ∃ i, (tokens.map (·.line))[i]? = some line ∧
      lacksStatement (tokens.map (·.line)) i = true ∧
      ∀ j < i, lacksStatement (tokens.map (·.line)) j = false := by
  induction tokens with
  | nil => cases h
  | cons placed below ih =>
    have he := isEmptyConditional_eq hr
    obtain ⟨hc, rfl⟩ | ⟨hc, hb⟩ := assembleFrom_cons_error h
    · exact ⟨0, rfl, he.symm.trans hc, fun j hj => absurd hj (Nat.not_lt_zero j)⟩
    · obtain ⟨i, hi, hl, hf⟩ := ih hb (List.forall_mem_cons.mp hr).2
      refine ⟨i + 1, hi, hl, fun j hj => ?_⟩
      cases j with
      | zero => exact he.symm.trans hc
      | succ j => exact hf j (Nat.lt_of_succ_lt_succ hj)

def Rejection.IsAbout (limit : Option Nat) (lines : List Line) (i : Nat) : Rejection → Prop
  | .faulty .emptyConditional _ => (∀ j < lines.length, PassesAt lines j) ∧
    lacksStatement lines i = true ∧ ∀ j < i, lacksStatement lines j = false
  | .faulty fault _ => validate lines i = some (.error fault)
  | .tooManyCommands _ n => limit = some n ∧ i = n ∧ PassesAt lines i

lemma isAbout_of_validate {lines : List Line} {i : Nat} {fault : Fault}
    (h : validate lines i = some (.error fault)) (limit : Option Nat) (line : Line) :
    (Rejection.faulty fault line).IsAbout limit lines i := by
  cases fault with
  | emptyConditional =>
    obtain ⟨_, -, hc⟩ := Option.map_eq_some_iff.mp h
    exact absurd hc check_ne_emptyConditional
  | _ => exact h

lemma ofLines_of_error {guard : Guard} {lines : List Line} {rejection : Rejection}
    (h : checkAll guard limit [] lines = .error rejection) :
    Program.ofLines guard limit lines = .error rejection := by
  rw [Program.ofLines, h]
  rfl

lemma ofLines_error {guard : Guard} {lines : List Line} {rejection : Rejection}
    (h : Program.ofLines guard limit lines = .error rejection) :
    checkAll guard limit [] lines = .error rejection ∨
      ∃ tokens line, Passes guard limit [] lines tokens ∧
        assembleFrom tokens = .error (.faulty .emptyConditional line) ∧
        rejection = .faulty .emptyConditional line := by
  rw [Program.ofLines] at h
  cases hc : checkAll guard limit [] lines with
  | error other =>
    rw [hc] at h
    exact Or.inl (congrArg _ (Except.error.inj h))
  | ok placed =>
    rw [hc] at h
    change assemble placed = _ at h
    obtain ⟨_, rfl, hp⟩ := passes_of_checkAll hc
    obtain ⟨body, ha⟩ | ⟨line, ha⟩ := hp.assembleFrom_top
    · rw [show assemble placed = .ok ⟨body⟩ from assemble_ok_iff.mpr ha] at h
      cases h
    · have he : assemble placed = .error (.faulty .emptyConditional line) := by
        rw [assemble, ha]
        rfl
      exact Or.inr ⟨placed, line, hp, ha, Except.error.inj (h.symm.trans he)⟩

lemma exists_isAbout {lines : List Line} {rejection : Rejection}
    (h : Program.ofLines sensorGuard limit lines = .error rejection) :
    ∃ i, lines[i]? = some rejection.line ∧ (∀ j < i, PassesAt lines j) ∧
      rejection.IsAbout limit lines i := by
  obtain ⟨i, -, hp, hv⟩ : Concludes limit lines 0 (checkAll sensorGuard limit [] lines) :=
    concludes_checkAll (List.forall_mem_nil _) fun n _ => Nat.zero_le n
  have hb : ∀ j < i, PassesAt lines j := fun j => hp j (Nat.zero_le j)
  obtain hc | ⟨tokens, line, ht, ha, rfl⟩ := ofLines_error h
  · rw [hc] at hv
    cases hv with
    | faulty hi hf => exact ⟨i, hi, hb, isAbout_of_validate hf limit _⟩
    | exceeded hn hi ht => exact ⟨i, hi, hb, hn, rfl, ht⟩
  · rw [ht.checkAll_eq] at hv
    cases hv
    obtain ⟨i, hi, hl, hf⟩ := exists_lacksStatement ha ht.allRead
    rw [ht.map_line] at hi hl hf
    have hlt : i < lines.length := (List.getElem?_eq_some_iff.mp hi).1
    exact ⟨i, hi, fun j hj => hb j (hj.trans hlt), hb, hl, hf⟩

end Script

open Script

namespace Program

/-- A rejection names a line that stands in the source, and every line before it passes. It is one
that does not pass, or one too many, or, all lines being in order, the first header without a
statement. A source without any of these is accepted. -/
theorem first_offence (limit : Option Nat) (source : String) :
    (∀ rejection, ofSource limit source = .error rejection → ∃ i,
      (lines source)[i]? = some rejection.line ∧ rejection.line.StandsIn source ∧
      (∀ j < i, PassesAt (lines source) j) ∧ rejection.IsAbout limit (lines source) i) ∧
    ((∀ j < (lines source).length, PassesAt (lines source) j) →
      (∀ j, lacksStatement (lines source) j = false) →
      (∀ n ∈ limit, (lines source).length ≤ n) →
      ∃ program, ofSource limit source = .ok program) := by
  constructor
  · intro rejection h
    obtain ⟨i, hi, hp, ha⟩ := exists_isAbout h
    exact ⟨i, hi, standsIn_of_mem (List.mem_of_getElem? hi), hp, ha⟩
  · intro hp hl hn
    cases h : ofSource limit source with
    | ok program => exact ⟨program, rfl⟩
    | error rejection =>
      obtain ⟨i, hi, -, ha⟩ := exists_isAbout h
      have hlt : i < (lines source).length := (List.getElem?_eq_some_iff.mp hi).1
      cases rejection with
      | tooManyCommands line n =>
        obtain ⟨hs, rfl, -⟩ := ha
        exact absurd hlt (Nat.not_lt.mpr (hn i hs))
      | faulty fault line =>
        obtain ⟨token, ht⟩ := hp i hlt
        cases fault with
        | emptyConditional => exact nomatch (hl i).symm.trans ha.2.1
        | _ => exact nomatch ht.symm.trans ha

theorem first_offence_header :
    (∃ line, ofSource none "se(true)\n  darMeiaVolta()\n\nse(false)\r\n" =
        .error (.faulty .emptyConditional line) ∧
      line.number = 4 ∧ line.raw = "se(false)" ∧
      line.StandsIn "se(true)\n  darMeiaVolta()\n\nse(false)\r\n" ∧
      ∃ i, (lines "se(true)\n  darMeiaVolta()\n\nse(false)\r\n")[i]? = some line ∧
        ∀ j < i, lacksStatement (lines "se(true)\n  darMeiaVolta()\n\nse(false)\r\n") j = false) ∧
    ∃ program, ofSource (some 2) "se(true)\ndarMeiaVolta()" = .ok program := by
  have h : ofSource none "se(true)\n  darMeiaVolta()\n\nse(false)\r\n" =
    .error (.faulty .emptyConditional
      ⟨4, String.ofList "se(false)".toList, "se(false)".toList⟩) := rfl
  obtain ⟨i, hi, hs, -, -, -, hf⟩ := (first_offence none _).1 _ h
  have hl : lines "se(true)\ndarMeiaVolta()" =
    [⟨1, String.ofList "se(true)".toList, "se(true)".toList⟩,
      ⟨2, String.ofList "darMeiaVolta()".toList, "darMeiaVolta()".toList⟩] := rfl
  refine ⟨⟨_, h, rfl, rfl, hs, i, hi, hf⟩, (first_offence (some 2) _).2 ?_ ?_ ?_⟩
  · rw [hl]
    intro j hj
    match j, hj with
    | 0, _ => exact ⟨_, rfl⟩
    | 1, _ => exact ⟨_, rfl⟩
  · rw [hl]
    intro j
    match j with
    | 0 => rfl
    | 1 => rfl
    | j + 2 => rfl
  · rw [hl]
    rintro n ⟨⟩
    exact le_rfl

end Program

end RobotPuzzle
