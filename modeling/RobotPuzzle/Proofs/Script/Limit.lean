import RobotPuzzle.Proofs.Script.Offence

/-! A limit cuts the text off behind the first line that is too many. What is found up to there is
the same without it. -/

namespace RobotPuzzle

namespace Script

variable {guard : Guard} {limit : Nat} {above : List Placed} {line : Line} {lines : List Line}
  {rejection : Rejection}

def Rejection.isEmptyConditional : Rejection → Bool
  | .faulty .emptyConditional _ => true
  | _ => false

lemma checkAll_error {limit : Option Nat}
    (h : checkAll guard limit above lines = .error rejection) :
    rejection.line ∈ lines ∧ rejection.isEmptyConditional = false := by
  induction lines generalizing above with
  | nil => exact nomatch h
  | cons line below ih =>
    cases hc : check guard above line below with
    | error fault =>
      rw [checkAll_cons_error hc] at h
      obtain rfl := Except.error.inj h
      refine ⟨List.mem_cons_self, ?_⟩
      cases fault with
      | emptyConditional => exact absurd hc check_ne_emptyConditional
      | _ => rfl
    | ok token =>
      cases he : exceeded? limit above with
      | some n =>
        rw [checkAll_cons_exceeded hc he] at h
        obtain rfl := Except.error.inj h
        exact ⟨List.mem_cons_self, rfl⟩
      | none =>
        rw [checkAll_cons hc he] at h
        obtain ⟨hm, hn⟩ := ih h
        exact ⟨List.mem_cons_of_mem line hm, hn⟩

lemma exceeded_of_lt (h : above.length < limit) : exceeded? (some limit) above = none :=
  exceeded_eq_none_iff.mpr fun n hn => by
    obtain rfl := Option.some.inj hn
    exact h

lemma checkAll_within (h : above.length + lines.length ≤ limit) :
    checkAll guard (some limit) above lines = checkAll guard none above lines := by
  induction lines generalizing above with
  | nil => rfl
  | cons line below ih =>
    rw [List.length_cons] at h
    cases hc : check guard above line below with
    | error fault => rw [checkAll_cons_error hc, checkAll_cons_error hc]
    | ok token =>
      rw [checkAll_cons hc (exceeded_of_lt (by omega)), checkAll_cons hc rfl]
      apply ih
      rw [List.length_cons]
      omega

lemma checkAll_beyond (guard : Guard) (line : Line) {before : List Line} (below : List Line)
    (h : above.length + before.length = limit) :
    (∃ rejection, rejection.line ∈ before ++ [line] ∧
      checkAll guard (some limit) above (before ++ line :: below) = .error rejection ∧
      checkAll guard none above (before ++ line :: below) = .error rejection) ∨
    checkAll guard (some limit) above (before ++ line :: below) =
        .error (.tooManyCommands line limit) ∧
      ∀ rejection, checkAll guard none above (before ++ line :: below) = .error rejection →
        rejection.line ∈ below := by
  induction before generalizing above with
  | nil =>
    simp only [List.nil_append]
    cases hc : check guard above line below with
    | error fault =>
      exact Or.inl ⟨.faulty fault line, List.mem_singleton_self line, checkAll_cons_error hc,
        checkAll_cons_error hc⟩
    | ok token =>
      have he : exceeded? (some limit) above = some limit := by
        rw [List.length_nil] at h
        exact Option.filter_some_pos (decide_eq_true (by omega))
      refine Or.inr ⟨checkAll_cons_exceeded hc he, fun rejection hr => ?_⟩
      rw [checkAll_cons hc rfl] at hr
      exact (checkAll_error hr).1
  | cons first before ih =>
    rw [List.length_cons] at h
    simp only [List.cons_append]
    cases hc : check guard above first (before ++ line :: below) with
    | error fault =>
      exact Or.inl ⟨.faulty fault first, List.mem_cons_self, checkAll_cons_error hc,
        checkAll_cons_error hc⟩
    | ok token =>
      have he : exceeded? (some limit) above = none := exceeded_of_lt (by omega)
      have hn : exceeded? none above = none := rfl
      simp only [checkAll_cons hc he, checkAll_cons hc hn]
      have hl : (⟨first, token⟩ :: above : List Placed).length + before.length = limit := by
        rw [List.length_cons]
        omega
      obtain ⟨rejection, hm, hr⟩ | hr := ih hl
      · exact Or.inl ⟨rejection, List.mem_cons_of_mem first hm, hr⟩
      · exact Or.inr hr

lemma numberLines_numbers (start : Nat) (pieces : List (List Char)) :
    (numberLines start pieces).map (·.number) = List.range' start pieces.length := by
  induction pieces generalizing start with
  | nil => rfl
  | cons piece pieces ih =>
    rw [numberLines, List.map_cons, ih]
    rfl

lemma nodup_lines (source : String) : (Script.lines source).Nodup := by
  have hn : ((allLines source).map (·.number)).Nodup := by
    rw [allLines, numberLines_numbers]
    exact List.nodup_range'
  exact hn.of_map.filter _

def truncate (looked : List Line) (excess : Rejection) :
    Except Rejection Program → Except Rejection Program
  | .error rejection =>
    if rejection.isEmptyConditional = false ∧ rejection.line ∈ looked then .error rejection
    else .error excess
  | .ok _ => .error excess

lemma truncate_ne_ok {looked : List Line} {excess : Rejection}
    (result : Except Rejection Program) (program : Program) :
    truncate looked excess result ≠ .ok program := by
  intro h
  cases result with
  | ok other => cases h
  | error rejection =>
    rw [truncate] at h
    split at h <;> cases h

lemma ofLines_beyond {before below : List Line} (hn : (before ++ line :: below).Nodup) :
    Program.ofLines sensorGuard (some before.length) (before ++ line :: below) =
      truncate (before ++ [line]) (.tooManyCommands line before.length)
        (Program.ofLines sensorGuard none (before ++ line :: below)) := by
  have hd : ∀ {other : Line}, other ∈ before ++ [line] → other ∉ below := by
    rw [← List.singleton_append, ← List.append_assoc] at hn
    exact fun hm hb => (List.nodup_append.mp hn).2.2 _ hm _ hb rfl
  have hz : ([] : List Placed).length + before.length = before.length := Nat.zero_add _
  obtain ⟨rejection, hm, hs, hr⟩ | ⟨hs, hr⟩ := checkAll_beyond sensorGuard line below hz
  · rw [ofLines_of_error hs, ofLines_of_error hr, truncate, if_pos ⟨(checkAll_error hr).2, hm⟩]
  · rw [ofLines_of_error hs]
    cases hf : Program.ofLines sensorGuard none (before ++ line :: below) with
    | ok program => rfl
    | error rejection =>
      refine (if_neg fun ⟨he, hm⟩ => ?_).symm
      obtain hc | ⟨tokens, empty, -, -, rfl⟩ := ofLines_error hf
      · exact hd hm (hr rejection hc)
      · exact nomatch he

end Script

open Script

namespace Program

/-- With a limit on its lines, a source has the result that it has without one, unless it has more
lines than that. Then it has one too many, or a fault in the lines up to that one, and is not
accepted. -/
theorem limit_only_truncates (source : String) (limit : Nat) :
    ((lines source).length ≤ limit → ofSource (some limit) source = ofSource none source) ∧
    (limit < (lines source).length → ∃ line, (lines source)[limit]? = some line ∧
      ofSource (some limit) source =
        truncate ((lines source).take (limit + 1)) (.tooManyCommands line limit)
          (ofSource none source)) ∧
    ∀ program, ofSource (some limit) source = .ok program →
      ofSource none source = .ok program ∧
        ∀ larger, limit ≤ larger → ofSource (some larger) source = .ok program := by
  have hw : ∀ {limit}, (lines source).length ≤ limit →
      ofSource (some limit) source = ofSource none source := by
    intro limit h
    rw [ofSource, ofSource, ofLines, ofLines, checkAll_within (by simpa using h)]
  have hb : limit < (lines source).length → ∃ line, (lines source)[limit]? = some line ∧
      ofSource (some limit) source =
        truncate ((lines source).take (limit + 1)) (.tooManyCommands line limit)
          (ofSource none source) := by
    intro h
    obtain ⟨before, line, below, hs, rfl⟩ : ∃ before line below,
        lines source = before ++ line :: below ∧ before.length = limit :=
      ⟨(lines source).take limit, (lines source)[limit], (lines source).drop (limit + 1),
        by rw [← List.drop_eq_getElem_cons h, List.take_append_drop],
        by rw [List.length_take, Nat.min_eq_left h.le]⟩
    have hn : (before ++ line :: below).Nodup := hs ▸ nodup_lines source
    have ht : (before ++ line :: below).take (before.length + 1) = before ++ [line] := by
      rw [← List.singleton_append, ← List.append_assoc]
      exact List.take_left' List.length_append
    rw [ofSource, ofSource, hs, ht]
    exact ⟨line, by simp, ofLines_beyond hn⟩
  refine ⟨hw, hb, fun program hp => ?_⟩
  have hl : (lines source).length ≤ limit := by
    by_contra hn
    obtain ⟨line, -, ht⟩ := hb (Nat.lt_of_not_le hn)
    exact truncate_ne_ok _ program (ht.symm.trans hp)
  have hn := (hw hl).symm.trans hp
  exact ⟨hn, fun larger hle => (hw (hl.trans hle)).trans hn⟩

theorem limit_only_truncates_typo :
    (∃ line, ofSource (some 0) "darMeiaVolta()\nandar()" = .error (.tooManyCommands line 0) ∧
      line.number = 1) ∧
    (∃ line, ofSource (some 1) "darMeiaVolta()\nandar()" =
        .error (.faulty .unknownCommand line) ∧ line.number = 2) ∧
    ofSource (some 2) "darMeiaVolta()\nandar()" = ofSource none "darMeiaVolta()\nandar()" ∧
    ofSource (some 7) "darMeiaVolta()" = .ok ⟨[.command .turnAround]⟩ := by
  have hl : lines "darMeiaVolta()\nandar()" =
    [⟨1, String.ofList "darMeiaVolta()".toList, "darMeiaVolta()".toList⟩,
      ⟨2, String.ofList "andar()".toList, "andar()".toList⟩] := rfl
  have hr : ofSource none "darMeiaVolta()\nandar()" = .error (.faulty .unknownCommand
    ⟨2, String.ofList "andar()".toList, "andar()".toList⟩) := rfl
  have ho : ofSource (some 1) "darMeiaVolta()" = .ok ⟨[.command .turnAround]⟩ := rfl
  obtain ⟨first, hf, hz⟩ := (limit_only_truncates _ 0).2.1 (by rw [hl]; decide)
  obtain ⟨second, -, hs⟩ := (limit_only_truncates _ 1).2.1 (by rw [hl]; decide)
  rw [hl] at hf
  obtain rfl := Option.some.inj hf
  rw [hr, hl, truncate, if_neg (by decide)] at hz
  rw [hr, hl, truncate, if_pos (by decide)] at hs
  exact ⟨⟨_, hz, rfl⟩, ⟨_, hs, rfl⟩,
    (limit_only_truncates _ 2).1 (by rw [hl]; decide),
    ((limit_only_truncates _ 1).2.2 _ ho).2 7 (by decide)⟩

end Program

end RobotPuzzle
