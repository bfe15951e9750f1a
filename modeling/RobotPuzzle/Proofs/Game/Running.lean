import RobotPuzzle.Proofs.Game.Liveness

namespace RobotPuzzle

variable {α : Type}

namespace Table

def Awaits (table : Table α) (index : Nat) : Prop :=
  table.game.running = true ∧
    ∃ play, table.plays[index]? = some play ∧ play.signal = table.game.current

def HasPassed (table : Table α) (index : Nat) : Prop :=
  ∃ play, table.plays[index]? = some play ∧ play.signal ≠ table.game.current

variable [Scalar α] {table after : Table α} {call : Call α} {index : Nat}

lemma Controls.awaits (h : table.Controls call after) (hs : table.IsSound)
    (ha : table.Awaits index) (hc : call ≠ .reset) (hf : ∀ ending, call ≠ .finish index ending) :
    after.Awaits index := by
  obtain ⟨hr, play, hp, hn⟩ := ha
  obtain ⟨run, hl, -⟩ := h.exists_play hp
  refine ⟨?_, _, hl, ?_⟩
  · cases h with
    | stay scene => exact hr
    | start code scene run hb => rfl
    | reset scene => exact absurd rfl hc
    | tick scene ho hs => exact hr
    | cancel ho => exact hr
    | finish ending ho hp' =>
      have hi := hs.index_eq hp ho (hn.trans hp'.symm)
      exact absurd (by rw [hi]) (hf ending)
  · cases h with
    | start code scene run hb => exact nomatch hr.symm.trans hb
    | reset scene => exact absurd rfl hc
    | _ => exact hn

def HasIssued (table : Table α) : Prop :=
  ∀ play ∈ table.plays, table.game.signals.IsIssued play.signal

lemma Controls.hasIssued (h : table.Controls call after) (hi : table.HasIssued) :
    after.HasIssued := by
  intro play hp
  cases h with
  | start code scene run hr =>
    rcases List.mem_append.mp hp with hp | hp
    · exact (hi play hp).issue
    · obtain rfl := List.mem_singleton.mp hp
      exact Signals.isIssued_issue _
  | @tick index played signals scene ho hr =>
    refine (Controls.tick scene ho hr).isIssued ?_
    rcases List.mem_or_eq_of_mem_set hp with hp | rfl
    · exact hi play hp
    · exact hi played (List.mem_of_getElem? ho)
  | reset scene => exact (Controls.reset scene).isIssued (hi play hp)
  | cancel ho => exact (Controls.cancel ho).isIssued (hi play hp)
  | stay scene => exact hi play hp
  | finish ending ho hs => exact hi play hp

lemma Controls.hasPassed (h : table.Controls call after) (hi : table.HasIssued)
    (ha : table.HasPassed index) : after.HasPassed index := by
  obtain ⟨play, hp, hn⟩ := ha
  obtain ⟨run, hl, -⟩ := h.exists_play hp
  have hs := hi play (List.mem_of_getElem? hp)
  refine ⟨_, hl, ?_⟩
  cases h with
  | start code scene run hb => exact hs.ne_issue
  | reset scene => exact (hs.raise table.game.current).ne_issue
  | _ => exact hn

lemma hasPassed_reset (hs : table.HasIssued) (hi : index < table.plays.length) :
    table.reset.1.HasPassed index := by
  have hp := List.getElem?_eq_getElem hi
  exact ⟨_, hp, ((hs _ (List.getElem_mem hi)).raise table.game.current).ne_issue⟩

lemma hasPassed_start {code : String} {found : Nat} (hs : table.HasIssued)
    (h : (table.start code).2.2 = .ok found) (hi : index < table.plays.length) :
    (table.start code).1.HasPassed index := by
  obtain ⟨hr, -, program, hp⟩ := start_ok h
  rw [start_of_accepted hr hp]
  exact ⟨_, (List.getElem?_append_left hi).trans (List.getElem?_eq_getElem hi),
    (hs _ (List.getElem_mem hi)).ne_issue⟩

lemma awaits_start {code : String} (h : (table.start code).2.2 = .ok index) :
    (table.start code).1.Awaits index := by
  obtain ⟨hr, rfl, program, hp⟩ := start_ok h
  rw [start_of_accepted hr hp]
  exact ⟨rfl, _, List.getElem?_concat_length, rfl⟩

lemma Controls.lt_length (h : table.Controls call after) (hi : index < table.plays.length) :
    index < after.plays.length := by
  obtain ⟨run, ha, -⟩ := h.exists_play (List.getElem?_eq_getElem hi)
  exact (List.getElem?_eq_some_iff.mp ha).1

lemma lt_length_after (h : index < table.plays.length) (calls : List (Call α)) :
    index < (table.after calls).plays.length :=
  kept_after (fun table call => (table.controls_call call).lt_length) h calls

variable {calls later : List (Call α)}

lemma awaits_after (hs : table.IsSound) (ho : table.IsOrderly (calls ++ later))
    (ha : (table.after calls).Awaits index) (hr : .reset ∉ later)
    (hf : ∀ ending, .finish index ending ∉ later) :
    (table.after (calls ++ later)).Awaits index := by
  rw [after_append]
  refine after_induction (P := (·.Awaits index)) ha fun before call rest hl hb => ?_
  subst hl
  rw [← List.append_assoc] at ho
  have hsound := isSound_after hs ho.of_append
  rw [after_append] at hsound
  refine (Table.controls_call _ call).awaits hsound hb ?_ ?_
  · rintro rfl
    exact hr (by simp)
  · rintro ending rfl
    exact hf ending (by simp)

lemma hasIssued_after (hs : table.HasIssued) (calls : List (Call α)) :
    (table.after calls).HasIssued :=
  kept_after (fun table call => (table.controls_call call).hasIssued) hs calls

lemma hasPassed_after (hs : table.HasIssued) (h : table.HasPassed index) (calls : List (Call α)) :
    (table.after calls).HasPassed index := by
  let P (table : Table α) := table.HasIssued ∧ table.HasPassed index
  have step : ∀ table call, P table → P (table.call call).1 := by
    rintro table call ⟨hs, h⟩
    have hc := table.controls_call call
    exact ⟨hc.hasIssued hs, hc.hasPassed hs h⟩
  exact (kept_after step ⟨hs, h⟩ calls).2

/-- A start among the calls was accepted and its run got this index; the later ones follow it. -/
def Opens (table : Table α) (calls : List (Call α)) (index : Nat) (later : List (Call α)) : Prop :=
  ∃ before code, calls = before ++ .start code :: later ∧
    ((table.after before).start code).2.2 = .ok index

lemma Opens.append (h : table.Opens calls index later) (more : List (Call α)) :
    table.Opens (calls ++ more) index (later ++ more) := by
  obtain ⟨before, code, rfl, hi⟩ := h
  exact ⟨before, code, by simp, hi⟩

lemma Opens.awaits (h : table.Opens calls index later) (hs : table.IsSound)
    (ho : table.IsOrderly calls) (hr : .reset ∉ later)
    (hf : ∀ ending, .finish index ending ∉ later) : (table.after calls).Awaits index := by
  obtain ⟨before, code, rfl, hi⟩ := h
  rw [List.append_cons] at ho ⊢
  refine awaits_after hs ho ?_ hr hf
  rw [after_append]
  exact awaits_start hi

lemma Opens.hasPassed (h : table.Opens calls index later) (hs : table.HasIssued)
    (hr : .reset ∈ later) : (table.after calls).HasPassed index := by
  obtain ⟨before, code, rfl, hi⟩ := h
  obtain ⟨first, last, rfl⟩ := List.append_of_mem hr
  have hc : before ++ .start code :: (first ++ .reset :: last) =
      before ++ [.start code] ++ first ++ [.reset] ++ last := by simp
  rw [hc, after_append]
  refine hasPassed_after (hasIssued_after hs _) ?_ last
  rw [after_append]
  refine hasPassed_reset (hasIssued_after hs _) ?_
  rw [after_append, after_append]
  obtain ⟨-, play, hp, -⟩ := awaits_start hi
  exact lt_length_after (List.getElem?_eq_some_iff.mp hp).1 first

lemma finish_of_current {play : Play α} (hp : table.plays[index]? = some play)
    (hs : play.signal = table.game.current) (ending : Ending) :
    let won := ending != .cancelled && table.game.scene.isWon
    table.finish index ending =
      (⟨ending, won⟩, { table with game := { table.game with running := false } },
        [.finished won]) := by
  rw [finish, hp]
  simp only [Game.finish, if_pos hs]

lemma Awaits.finish_eq (h : table.Awaits index) (ending : Ending) : ∃ won : Bool,
    (won = true ↔ (ending = .completed ∨ ending = .trapped) ∧ table.game.scene.isWon = true) ∧
    table.finish index ending =
      (⟨ending, won⟩, { table with game := { table.game with running := false } },
        [.finished won]) := by
  obtain ⟨-, play, hp, hs⟩ := h
  refine ⟨ending != .cancelled && table.game.scene.isWon, ?_, finish_of_current hp hs ending⟩
  cases ending <;> simp

lemma HasPassed.finish_eq (h : table.HasPassed index) (ending : Ending) :
    table.finish index ending = (⟨ending, false⟩, table, []) := by
  obtain ⟨play, hp, hs⟩ := h
  rw [finish, hp]
  simp only [Game.finish, if_neg hs]

lemma tick_running (table : Table α) (index : Nat) :
    (table.tick index).2.game.running = table.game.running := by
  cases hp : table.plays[index]? with
  | none => rw [tick_none hp]
  | some play =>
    rw [tick_some hp]
    rfl

lemma running_call (h : (table.call call).1.game.running = true) :
    (∃ code index, call = .start code ∧ (table.start code).2.2 = .ok index) ∨
      table.game.running = true ∧ call ≠ .reset ∧
        ∀ index ending, call = .finish index ending → ¬ table.Awaits index := by
  cases call with
  | start code =>
    cases hs : (table.start code).2.2 with
    | ok index => exact Or.inl ⟨code, index, rfl, hs⟩
    | error refusal =>
      have hr : (table.start code).1.game.running = true := h
      rw [(start_error hs).1] at hr
      exact Or.inr ⟨hr, by simp, by simp⟩
  | reset => exact absurd h Bool.false_ne_true
  | alternate =>
    refine Or.inr ⟨?_, by simp, by simp⟩
    by_contra hn
    have hr : table.alternate.1.game.running = true := h
    rw [alternate, Game.alternate, if_neg hn] at hr
    exact hn hr
  | tick index => exact Or.inr ⟨(tick_running table index).symm.trans h, by simp, by simp⟩
  | cancel index =>
    have hr : (table.cancel index).game.running = true := h
    rw [cancel] at hr
    cases hp : table.plays[index]? <;> rw [hp] at hr <;> exact Or.inr ⟨hr, by simp, by simp⟩
  | finish index ending =>
    have hr : (table.finish index ending).2.1.game.running = true := h
    refine Or.inr ⟨?_, by simp, ?_⟩
    · have hc := table.controls_finish index ending
      generalize (table.finish index ending).2.1 = after at hc hr
      cases hc with
      | stay scene => exact hr
      | finish _ hp hs => exact absurd hr Bool.false_ne_true
    · rintro _ _ ⟨⟩ ha
      obtain ⟨won, -, he⟩ := ha.finish_eq ending
      rw [he] at hr
      exact absurd hr Bool.false_ne_true
  | act action => exact Or.inr ⟨h, by simp, by simp⟩
  | frame run cancelled => exact Or.inr ⟨h, by simp, by simp⟩

lemma exists_opens (hs : table.IsSound) (hn : table.game.running = false)
    (ho : table.IsOrderly calls) (h : (table.after calls).game.running = true) :
    ∃ index later, table.Opens calls index later ∧ .reset ∉ later ∧
      ∀ ending, .finish index ending ∉ later := by
  induction calls using List.reverseRecOn with
  | nil => exact nomatch hn.symm.trans h
  | append_singleton calls call ih =>
    rw [after_append] at h
    rcases running_call h with ⟨code, index, rfl, hi⟩ | ⟨hr, hc, hf⟩
    · exact ⟨index, [], ⟨calls, code, rfl, hi⟩, by simp, by simp⟩
    · obtain ⟨index, later, hl, hlr, hlf⟩ := ih ho.of_append hr
      have ha := hl.awaits hs ho.of_append hlr hlf
      refine ⟨index, later ++ [call], hl.append [call], ?_, fun ending => ?_⟩
      · simp only [List.mem_append, List.mem_singleton, not_or]
        exact ⟨hlr, hc.symm⟩
      · simp only [List.mem_append, List.mem_singleton, not_or]
        exact ⟨hlf ending, fun he => hf index ending he.symm ha⟩

lemma Controls.length_eq (h : table.Controls call after) (hc : ∀ code, call ≠ .start code) :
    after.plays.length = table.plays.length := by
  cases h with
  | start code => exact absurd rfl (hc code)
  | tick => exact List.length_set
  | _ => rfl

lemma exists_opens_of_lt (hn : table.plays = []) (h : index < (table.after calls).plays.length) :
    ∃ later, table.Opens calls index later := by
  induction calls using List.reverseRecOn with
  | nil => simp [after, hn] at h
  | append_singleton calls call ih =>
    by_cases hl : index < (table.after calls).plays.length
    · obtain ⟨later, ho⟩ := ih hl
      exact ⟨later ++ [call], ho.append [call]⟩
    rw [after_append] at h
    by_cases hc : ∃ code, call = .start code
    · obtain ⟨code, rfl⟩ := hc
      cases hs : ((table.after calls).start code).2.2 with
      | error refusal =>
        have hlt : index < ((table.after calls).start code).1.plays.length := h
        rw [(start_error hs).1] at hlt
        exact absurd hlt hl
      | ok found =>
        obtain ⟨hr, rfl, program, hp⟩ := start_ok hs
        have hlt : index < ((table.after calls).start code).1.plays.length := h
        rw [start_of_accepted hr hp] at hlt
        simp only [List.length_append, List.length_singleton] at hlt
        obtain rfl : index = (table.after calls).plays.length := by omega
        exact ⟨[], calls, code, rfl, hs⟩
    · have hlen := ((table.after calls).controls_call call).length_eq fun code he => hc ⟨code, he⟩
      exact absurd (hlen ▸ h) hl

end Table

variable [Scalar α]

/-- The game is running exactly while some accepted run is neither closed nor superseded by a reset;
closing such a run tells whether the player has won, and closing a superseded one does nothing. -/
theorem Puzzle.running_until_finished (puzzle : Puzzle) (pace : Pace α) (calls : List (Call α))
    (h : (puzzle.table pace).IsOrderly calls) :
    let opens := (puzzle.table pace).Opens calls
    let table := (puzzle.table pace).after calls
    (table.game.running = true ↔ ∃ index later, opens index later ∧ .reset ∉ later ∧
      ∀ ending, .finish index ending ∉ later) ∧
    (∀ code, (table.start code).2.2 = .error .busy ↔ table.game.running = true) ∧
    (∀ code refusal, (table.start code).2.2 = .error refusal → (table.start code).1 = table ∧
      (refusal = .busy ∧ (table.start code).2.1 = [] ∨
        ∃ rejection, Program.ofSource table.game.scene.puzzle.limit code = .error rejection ∧
          refusal = .rejected rejection ∧
          (table.start code).2.1 = [.console rejection.console])) ∧
    (∀ index, index < table.plays.length → ∃ later, opens index later) ∧
    ∀ index later, opens index later → ∀ ending,
      (.reset ∉ later → (∀ earlier, .finish index earlier ∉ later) → ∃ won : Bool,
        (won = true ↔
          (ending = .completed ∨ ending = .trapped) ∧ table.game.scene.isWon = true) ∧
        table.finish index ending =
          (⟨ending, won⟩, { table with game := { table.game with running := false } },
            [.finished won])) ∧
      (.reset ∈ later → table.finish index ending = (⟨ending, false⟩, table, [])) := by
  intro opens table
  have hs := Table.isSound_table puzzle pace
  refine ⟨⟨?_, ?_⟩, fun code => ⟨?_, ?_⟩, ?_, ?_, ?_⟩
  · exact Table.exists_opens hs rfl h
  · rintro ⟨index, later, ho, hr, hf⟩
    exact (ho.awaits hs h hr hf).1
  · intro hb
    obtain ⟨-, ⟨hr, -⟩ | ⟨rejection, -, -, hn, -⟩⟩ := Table.start_error hb
    · exact hr
    · exact nomatch hn
  · intro hr
    rw [Table.start_of_running hr]
  · intro code refusal hb
    obtain ⟨ht, ⟨-, hr, he⟩ | ⟨rejection, -, hp, hr, he⟩⟩ := Table.start_error hb
    · exact ⟨ht, Or.inl ⟨hr, he⟩⟩
    · exact ⟨ht, Or.inr ⟨rejection, hp, hr, he⟩⟩
  · exact fun index hi => Table.exists_opens_of_lt rfl hi
  · intro index later ho ending
    exact ⟨fun hr hf => (ho.awaits hs h hr hf).finish_eq ending,
      fun hr => (ho.hasPassed hs.issued hr).finish_eq ending⟩

theorem Puzzle.running_until_finished_third :
    let calls : List (Call Rat) :=
      [.start "", .tick 0, .finish 0 .completed, .start "", .reset, .start ""]
    let table := (Puzzle.level1Phase6.table Pace.standard).after calls
    table.game.running = true ∧ (table.start "").2.2 = .error .busy ∧
    table.finish 1 .cancelled = (⟨.cancelled, false⟩, table, []) ∧
    ∃ won : Bool, (won = true ↔ table.game.scene.isWon = true) ∧
      (table.finish 2 .completed).2.2 = [.finished won] := by
  intro calls table
  have hf : (((Puzzle.level1Phase6.table Pace.standard).after [.start ""]).tick 0).1 =
      some (.stopped .standard .completed (Puzzle.level1Phase6.scene : Scene Rat).reset.1 []) := by
    refine (congrArg Prod.fst (Table.tick_some rfl)).trans ?_
    show some (proceed _ [] _) = _
    rw [proceed]
    rfl
  have ho : (Puzzle.level1Phase6.table Pace.standard).IsOrderly calls := by
    intro before index ending later hc
    rcases before with
      _ | ⟨first, _ | ⟨second, _ | ⟨third, _ | ⟨fourth, _ | ⟨fifth, _ | ⟨sixth, rest⟩⟩⟩⟩⟩⟩ <;>
      simp [calls] at hc
    obtain ⟨rfl, rfl, ⟨rfl, rfl⟩, rfl⟩ := hc
    exact ⟨[.start ""], [], _, rfl, hf, rfl⟩
  have hsecond : (Puzzle.level1Phase6.table Pace.standard).Opens calls 1
      [.reset, .start ""] :=
    ⟨[.start "", .tick 0, .finish 0 .completed], "", rfl, rfl⟩
  have hthird : (Puzzle.level1Phase6.table Pace.standard).Opens calls 2 [] :=
    ⟨[.start "", .tick 0, .finish 0 .completed, .start "", .reset], "", rfl, rfl⟩
  obtain ⟨hrun, hbusy, -, -, hfin⟩ :=
    Puzzle.running_until_finished Puzzle.level1Phase6 Pace.standard calls ho
  have hr : table.game.running = true := hrun.mpr ⟨2, [], hthird, by simp, by simp⟩
  obtain ⟨won, hw, he⟩ := (hfin 2 [] hthird .completed).1 (by simp) (by simp)
  refine ⟨hr, (hbusy "").mpr hr, (hfin 1 _ hsecond .cancelled).2 (by simp), won, ?_, ?_⟩
  · simpa using hw
  · rw [he]

end RobotPuzzle
