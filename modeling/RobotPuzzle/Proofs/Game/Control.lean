import RobotPuzzle.Proofs.Game.Calls
import RobotPuzzle.Proofs.Run.Rest

namespace RobotPuzzle

namespace Signals

def IsIssued (signals : Signals) (signal : Signal) : Prop :=
  signal.index < signals.raised.length

variable {signals : Signals} {signal : Signal}

lemma IsIssued.raise (h : signals.IsIssued signal) (other : Signal) :
    (signals.raise other).IsIssued signal := by
  simpa [IsIssued, Signals.raise] using h

lemma IsIssued.issue (h : signals.IsIssued signal) : signals.issue.2.IsIssued signal := by
  simp only [IsIssued, Signals.issue, List.length_append]
  exact Nat.lt_add_right 1 h

lemma isIssued_issue (signals : Signals) : signals.issue.2.IsIssued signals.issue.1 := by
  simp [IsIssued, Signals.issue]

lemma IsIssued.ne_issue (h : signals.IsIssued signal) : signal ≠ signals.issue.1 := by
  rintro rfl
  exact absurd h (Nat.lt_irrefl _)

lemma isRaised_raise_of (h : signals.isRaised signal = true) (other : Signal) :
    (signals.raise other).isRaised signal = true := by
  by_cases ho : other.index < signals.raised.length
  · rw [isRaised_raise signals other signal ho, h, Bool.or_true]
  · rw [Signals.raise, List.set_eq_of_length_le (Nat.le_of_not_lt ho)]
    exact h

lemma not_isRaised_of_raise {other : Signal} (h : (signals.raise other).isRaised signal = false) :
    signals.isRaised signal = false := by
  by_contra hn
  rw [Bool.not_eq_false] at hn
  exact Bool.false_ne_true (h.symm.trans (isRaised_raise_of hn other))

end Signals

variable {α : Type}

namespace Table

def IsLive (table : Table α) (index : Nat) : Prop :=
  ∃ play, table.plays[index]? = some play ∧ play.run.ended = none ∧
    table.isCancelled play = false

def RestsWith (table : Table α) (index : Nat) (ending : Ending) : Prop :=
  ∃ play, table.plays[index]? = some play ∧
    (play.run.ended = some ending ∨
      play.run.ended = none ∧ table.isCancelled play = true ∧ ending = .cancelled)

lemma RestsWith.index_lt {table : Table α} {index : Nat} {ending : Ending}
    (h : table.RestsWith index ending) : index < table.plays.length := by
  obtain ⟨play, hp, -⟩ := h
  exact (List.getElem?_eq_some_iff.mp hp).1

lemma RestsWith.not_isLive {table : Table α} {index : Nat} {ending : Ending}
    (h : table.RestsWith index ending) : ¬ table.IsLive index := by
  obtain ⟨play, hp, hr⟩ := h
  rintro ⟨found, hf, he, hc⟩
  obtain rfl := Option.some.inj (hp.symm.trans hf)
  rcases hr with hr | ⟨-, hr, -⟩
  · exact nomatch hr.symm.trans he
  · exact Bool.false_ne_true (hc.symm.trans hr)

lemma exists_restsWith {table : Table α} {index : Nat} (hi : index < table.plays.length)
    (hl : ¬ table.IsLive index) : ∃ ending, table.RestsWith index ending := by
  have hp := List.getElem?_eq_getElem hi
  cases he : table.plays[index].run.ended with
  | some ending => exact ⟨ending, _, hp, Or.inl he⟩
  | none =>
    cases hc : table.isCancelled table.plays[index] with
    | true => exact ⟨.cancelled, _, hp, Or.inr ⟨he, hc, rfl⟩⟩
    | false => exact absurd ⟨_, hp, he, hc⟩ hl

end Table

variable [Scalar α]

namespace Table

/-- What one call does to a table, the scene apart. -/
inductive Controls (table : Table α) : Call α → Table α → Prop
  | stay {call} (scene : Scene α) :
      table.Controls call { table with game := { table.game with scene } }
  | start (code) (scene : Scene α) (run : Run α) : table.game.running = false →
      table.Controls (.start code)
        ⟨⟨scene, table.game.pace, table.game.signals.issue.2, table.game.signals.issue.1, true⟩,
          table.plays ++ [⟨run, table.game.signals.issue.1⟩]⟩
  | reset (scene : Scene α) :
      table.Controls .reset
        ⟨⟨scene, table.game.pace, (table.game.signals.raise table.game.current).issue.2,
          (table.game.signals.raise table.game.current).issue.1, false⟩, table.plays⟩
  | tick {index play signals} (scene : Scene α) : table.plays[index]? = some play →
      signals = table.game.signals ∨ signals = table.game.signals.raise play.signal →
      table.Controls (.tick index)
        ⟨{ table.game with scene, signals }, table.plays.set index
          ⟨(play.run.tick (table.isCancelled play) table.game.scene).run, play.signal⟩⟩
  | cancel {index play} : table.plays[index]? = some play →
      table.Controls (.cancel index)
        { table with
          game := { table.game with signals := table.game.signals.raise play.signal } }
  | finish {index play} (ending) : table.plays[index]? = some play →
      play.signal = table.game.current →
      table.Controls (.finish index ending)
        { table with game := { table.game with running := false } }

variable (table : Table α)

lemma controls_start (code : String) : table.Controls (.start code) (table.start code).1 := by
  rw [start, Game.start]
  cases hr : table.game.running with
  | true => exact .stay table.game.scene
  | false =>
    cases Program.ofSource table.game.scene.puzzle.limit code with
    | error rejection => exact .stay table.game.scene
    | ok program => exact .start code _ _ hr

lemma controls_finish (index : Nat) (ending : Ending) :
    table.Controls (.finish index ending) (table.finish index ending).2.1 := by
  rw [finish]
  cases hp : table.plays[index]? with
  | none => exact .stay table.game.scene
  | some play =>
    by_cases hs : play.signal = table.game.current
    · simp only [Game.finish, hs, if_true]
      exact .finish ending hp hs
    · simp only [Game.finish, hs, if_false]
      exact .stay table.game.scene

lemma controls_tick (index : Nat) : table.Controls (.tick index) (table.tick index).2 := by
  cases hp : table.plays[index]? with
  | none =>
    rw [tick_none hp]
    exact .stay table.game.scene
  | some play =>
    rw [tick_some hp]
    refine .tick _ hp ?_
    dsimp only
    split
    · exact Or.inr rfl
    · exact Or.inl rfl

lemma controls_call (call : Call α) : table.Controls call (table.call call).1 := by
  cases call with
  | start code => exact table.controls_start code
  | reset => exact .reset table.game.scene.reset.1
  | alternate =>
    simp only [Table.call, alternate, Game.alternate]
    split
    · exact .stay table.game.scene
    · exact .stay table.game.scene.alternate.1
  | tick index => exact table.controls_tick index
  | cancel index =>
    simp only [Table.call, Table.cancel]
    cases hp : table.plays[index]? with
    | none => exact .stay table.game.scene
    | some play => exact .cancel hp
  | finish index ending => exact table.controls_finish index ending
  | act action => exact .stay _
  | frame run cancelled => exact .stay _

variable {table} {call : Call α} {after : Table α} {index : Nat} {ending : Ending}

lemma Controls.isRaised (h : table.Controls call after) {signal : Signal}
    (hs : table.game.signals.isRaised signal = true) :
    after.game.signals.isRaised signal = true := by
  cases h with
  | stay scene => exact hs
  | start code scene run hr => exact (Signals.isRaised_issue _ _).trans hs
  | reset scene =>
    exact (Signals.isRaised_issue _ _).trans (Signals.isRaised_raise_of hs table.game.current)
  | @tick index play signals scene hp hr =>
    rcases hr with rfl | rfl
    · exact hs
    · exact Signals.isRaised_raise_of hs play.signal
  | @cancel index play hp => exact Signals.isRaised_raise_of hs play.signal
  | finish ending hp hc => exact hs

lemma Controls.isIssued (h : table.Controls call after) {signal : Signal}
    (hs : table.game.signals.IsIssued signal) : after.game.signals.IsIssued signal := by
  cases h with
  | stay scene => exact hs
  | start code scene run hr => exact hs.issue
  | reset scene => exact (hs.raise table.game.current).issue
  | @tick index play signals scene hp hr =>
    rcases hr with rfl | rfl
    · exact hs
    · exact hs.raise play.signal
  | @cancel index play hp => exact hs.raise play.signal
  | finish ending hp hc => exact hs

lemma Controls.exists_play {play : Play α} (h : table.Controls call after)
    (hp : table.plays[index]? = some play) :
    ∃ run, after.plays[index]? = some ⟨run, play.signal⟩ ∧
      (run = play.run ∨
        run = (play.run.tick (table.isCancelled play) table.game.scene).run) := by
  cases h with
  | stay scene => exact ⟨play.run, hp, Or.inl rfl⟩
  | start code scene run hr =>
    obtain ⟨hi, -⟩ := List.getElem?_eq_some_iff.mp hp
    exact ⟨play.run, (List.getElem?_append_left hi).trans hp, Or.inl rfl⟩
  | reset scene => exact ⟨play.run, hp, Or.inl rfl⟩
  | @tick other played signals scene ho hr =>
    by_cases hi : other = index
    · subst hi
      obtain rfl := Option.some.inj (hp.symm.trans ho)
      obtain ⟨hi, -⟩ := List.getElem?_eq_some_iff.mp hp
      exact ⟨_, List.getElem?_set_self hi, Or.inr rfl⟩
    · exact ⟨play.run, (List.getElem?_set_ne hi).trans hp, Or.inl rfl⟩
  | cancel hc => exact ⟨play.run, hp, Or.inl rfl⟩
  | finish ending hc hs => exact ⟨play.run, hp, Or.inl rfl⟩

lemma Controls.restsWith (h : table.Controls call after) (hr : table.RestsWith index ending) :
    after.RestsWith index ending := by
  obtain ⟨play, hp, he⟩ := hr
  obtain ⟨run, ha, hrun⟩ := h.exists_play hp
  refine ⟨⟨run, play.signal⟩, ha, ?_⟩
  rcases he with he | ⟨he, hc, rfl⟩
  · rcases hrun with rfl | rfl
    · exact Or.inl he
    · rw [Run.tick_of_ended he]
      exact Or.inl he
  · rcases hrun with rfl | rfl
    · exact Or.inr ⟨he, h.isRaised hc, rfl⟩
    · rw [hc, Run.tick_of_cancelled he]
      exact Or.inl rfl

lemma restsWith_after (h : table.RestsWith index ending) (calls : List (Call α)) :
    (table.after calls).RestsWith index ending :=
  kept_after (fun table call => (table.controls_call call).restsWith) h calls

lemma RestsWith.tick_eq (h : table.RestsWith index ending) :
    ∃ frame, (table.tick index).1 = some frame ∧ frame.scene = table.game.scene ∧
      frame.events = [] ∧ frame.step = .done ending := by
  obtain ⟨play, hp, he⟩ := h
  refine ⟨_, congrArg Prod.fst (tick_some hp), ?_⟩
  rcases he with he | ⟨he, hc, rfl⟩
  · rw [Run.tick_of_ended he]
    exact ⟨rfl, rfl, rfl⟩
  · rw [hc, Run.tick_of_cancelled he]
    exact ⟨rfl, rfl, rfl⟩

lemma restsWith_of_tick {frame : Frame α} (h : (table.tick index).1 = some frame)
    (hf : frame.step = .done ending) : (table.tick index).2.RestsWith index ending := by
  cases hp : table.plays[index]? with
  | none =>
    rw [tick_none hp] at h
    exact nomatch h
  | some play =>
    obtain ⟨hi, -⟩ := List.getElem?_eq_some_iff.mp hp
    rw [tick_some hp] at h ⊢
    obtain rfl := Option.some.inj h
    exact ⟨_, List.getElem?_set_self hi, Or.inl (Run.tick_ended hf)⟩

end Table

end RobotPuzzle
