import Mathlib.Data.List.Induction
import Mathlib.Data.List.Nodup
import RobotPuzzle.Proofs.Game.Control
import RobotPuzzle.Puzzle.Catalog

namespace RobotPuzzle

variable {α : Type}

namespace Table

structure IsSound (table : Table α) : Prop where
  current_issued : table.game.signals.IsIssued table.game.current
  issued : ∀ play ∈ table.plays, table.game.signals.IsIssued play.signal
  nodup : (table.plays.map (·.signal)).Nodup
  live : ∀ play ∈ table.plays, play.run.ended = none → table.isCancelled play = false →
    table.game.running = true ∧ play.signal = table.game.current

variable {table : Table α} {index : Nat} {ending : Ending}

lemma eq_of_signal (hs : table.IsSound) {play other : Play α} (hp : play ∈ table.plays)
    (ho : other ∈ table.plays) (h : play.signal = other.signal) : play = other :=
  List.inj_on_of_nodup_map hs.nodup hp ho h

lemma IsSound.start (hs : table.IsSound) (scene : Scene α) (run : Run α)
    (hr : table.game.running = false) : Table.IsSound
      ⟨⟨scene, table.game.pace, table.game.signals.issue.2, table.game.signals.issue.1, true⟩,
        table.plays ++ [⟨run, table.game.signals.issue.1⟩]⟩ where
  current_issued := Signals.isIssued_issue _
  issued play hp := by
    rcases List.mem_append.mp hp with hp | hp
    · exact (hs.issued play hp).issue
    · obtain rfl := List.mem_singleton.mp hp
      exact Signals.isIssued_issue _
  nodup := by
    rw [List.map_append]
    refine List.Nodup.append hs.nodup (List.nodup_singleton _) ?_
    intro signal hp hn
    obtain ⟨play, hm, rfl⟩ := List.mem_map.mp hp
    exact (hs.issued play hm).ne_issue (List.mem_singleton.mp hn)
  live play hp he hc := by
    rcases List.mem_append.mp hp with hp | hp
    · have hb := hs.live play hp he ((Signals.isRaised_issue _ _).symm.trans hc)
      rw [hr] at hb
      exact nomatch hb.1
    · obtain rfl := List.mem_singleton.mp hp
      exact ⟨rfl, rfl⟩

lemma IsSound.reset (hs : table.IsSound) (scene : Scene α) : Table.IsSound
    ⟨⟨scene, table.game.pace, (table.game.signals.raise table.game.current).issue.2,
      (table.game.signals.raise table.game.current).issue.1, false⟩, table.plays⟩ where
  current_issued := Signals.isIssued_issue _
  issued play hp := ((hs.issued play hp).raise table.game.current).issue
  nodup := hs.nodup
  live play hp he hc := by
    have hr := (Signals.isRaised_issue _ _).symm.trans hc
    rw [Signals.isRaised_raise _ _ _ hs.current_issued, Bool.or_eq_false_iff,
      decide_eq_false_iff_not] at hr
    exact absurd (hs.live play hp he hr.2).2.symm hr.1

lemma IsSound.cancel (hs : table.IsSound) (signal : Signal) : Table.IsSound
    { table with game := { table.game with signals := table.game.signals.raise signal } } where
  current_issued := hs.current_issued.raise signal
  issued play hp := (hs.issued play hp).raise signal
  nodup := hs.nodup
  live play hp he hc := hs.live play hp he (Signals.not_isRaised_of_raise hc)

lemma IsSound.finish (hs : table.IsSound) {play : Play α}
    (hp : table.plays[index]? = some play) (hc : play.signal = table.game.current)
    (hr : table.RestsWith index ending) :
    Table.IsSound { table with game := { table.game with running := false } } where
  current_issued := hs.current_issued
  issued := hs.issued
  nodup := hs.nodup
  live other ho he hn := by
    obtain ⟨-, hl⟩ := hs.live other ho he hn
    obtain rfl := eq_of_signal hs ho (List.mem_of_getElem? hp) (hl.trans hc.symm)
    exact absurd ⟨other, hp, he, hn⟩ hr.not_isLive

lemma IsSound.index_eq (hs : table.IsSound) {other : Nat} {play found : Play α}
    (hp : table.plays[index]? = some play) (hf : table.plays[other]? = some found)
    (h : play.signal = found.signal) : index = other := by
  obtain ⟨hi, -⟩ := List.getElem?_eq_some_iff.mp hp
  have hm : (table.plays.map (·.signal))[index]? = (table.plays.map (·.signal))[other]? := by
    rw [List.getElem?_map, List.getElem?_map, hp, hf, Option.map_some, Option.map_some, h]
  exact (List.getElem?_inj (by simpa using hi) hs.nodup).mp hm

lemma IsSound.eq_of_isLive (hs : table.IsSound) {i j : Nat} (hi : table.IsLive i)
    (hj : table.IsLive j) : i = j := by
  obtain ⟨play, hp, he, hc⟩ := hi
  obtain ⟨other, ho, he', hc'⟩ := hj
  obtain ⟨-, hsi⟩ := hs.live play (List.mem_of_getElem? hp) he hc
  obtain ⟨-, hsj⟩ := hs.live other (List.mem_of_getElem? ho) he' hc'
  exact hs.index_eq hp ho (hsi.trans hsj.symm)

lemma map_signal_set {plays : List (Play α)} {play : Play α} (h : plays[index]? = some play)
    (run : Run α) :
    (plays.set index ⟨run, play.signal⟩).map (·.signal) = plays.map (·.signal) := by
  apply List.ext_getElem?
  intro i
  rw [List.map_set, List.getElem?_set, List.getElem?_map]
  by_cases hi : index = i
  · subst hi
    obtain ⟨hl, rfl⟩ := List.getElem?_eq_some_iff.mp h
    simp [hl]
  · rw [if_neg hi]

variable [Scalar α]

lemma IsSound.tick (hs : table.IsSound) {play : Play α} {signals : Signals} (scene : Scene α)
    (hp : table.plays[index]? = some play)
    (hr : signals = table.game.signals ∨ signals = table.game.signals.raise play.signal) :
    Table.IsSound ⟨{ table.game with scene, signals }, table.plays.set index
      ⟨(play.run.tick (table.isCancelled play) table.game.scene).run, play.signal⟩⟩ := by
  have hi : ∀ signal, table.game.signals.IsIssued signal → signals.IsIssued signal := by
    intro signal h
    rcases hr with rfl | rfl
    · exact h
    · exact h.raise play.signal
  have hf : ∀ signal, signals.isRaised signal = false →
      table.game.signals.isRaised signal = false := by
    intro signal h
    rcases hr with rfl | rfl
    · exact h
    · exact Signals.not_isRaised_of_raise h
  have hm := List.mem_of_getElem? hp
  refine ⟨hi _ hs.current_issued, ?_, ?_, ?_⟩
  · intro other ho
    rcases List.mem_or_eq_of_mem_set ho with ho | rfl
    · exact hi _ (hs.issued other ho)
    · exact hi _ (hs.issued play hm)
  · rw [map_signal_set hp]
    exact hs.nodup
  · intro other ho he hc
    rcases List.mem_or_eq_of_mem_set ho with ho | rfl
    · exact hs.live other ho he (hf _ hc)
    · obtain ⟨hb, hn⟩ := Run.live_of_tick he
      exact hs.live play hm hb hn

lemma isSound_table (puzzle : Puzzle) (pace : Pace α) : (puzzle.table pace).IsSound where
  current_issued := Signals.isIssued_issue Signals.none
  issued _ h := nomatch h
  nodup := List.nodup_nil
  live _ h := nomatch h

lemma Controls.isSound {call : Call α} {after : Table α} (h : table.Controls call after)
    (hs : table.IsSound)
    (hf : ∀ index ending, call = .finish index ending → table.RestsWith index ending) :
    after.IsSound := by
  cases h with
  | stay scene => exact ⟨hs.current_issued, hs.issued, hs.nodup, hs.live⟩
  | start code scene run hr => exact hs.start scene run hr
  | reset scene => exact hs.reset scene
  | tick scene hp hr => exact hs.tick scene hp hr
  | @cancel index play hp => exact hs.cancel play.signal
  | @finish index play ending hp hc => exact hs.finish hp hc (hf index ending rfl)

/-- A run is closed only with an ending that a frame of it has given before. -/
def IsOrderly (table : Table α) (calls : List (Call α)) : Prop :=
  ∀ before index ending later, calls = before ++ .finish index ending :: later →
    ∃ earlier between frame, before = earlier ++ .tick index :: between ∧
      ((table.after earlier).tick index).1 = some frame ∧ frame.step = .done ending

lemma IsOrderly.restsWith {calls later : List (Call α)}
    (h : table.IsOrderly (calls ++ .finish index ending :: later)) :
    (table.after calls).RestsWith index ending := by
  obtain ⟨earlier, between, frame, rfl, ht, hf⟩ := h calls index ending later rfl
  rw [after_append]
  exact restsWith_after (restsWith_of_tick ht hf) between

lemma IsOrderly.of_append {calls more : List (Call α)} (h : table.IsOrderly (calls ++ more)) :
    table.IsOrderly calls := by
  intro before index ending later hc
  exact h before index ending (later ++ more) (by rw [hc]; simp)

lemma isSound_after {calls : List (Call α)} (hs : table.IsSound) (h : table.IsOrderly calls) :
    (table.after calls).IsSound := by
  refine after_induction hs fun before call later hc hb => ?_
  refine ((table.after before).controls_call call).isSound hb ?_
  rintro index ending rfl
  exact (hc ▸ h).restsWith

end Table

variable [Scalar α]

theorem Puzzle.one_run_live (puzzle : Puzzle) (pace : Pace α) (calls : List (Call α))
    (h : (puzzle.table pace).IsOrderly calls) :
    let table := (puzzle.table pace).after calls
    (∀ i j, table.IsLive i → table.IsLive j → i = j) ∧
    (∀ index play, table.IsLive index → table.plays[index]? = some play →
      table.game.running = true ∧ play.signal = table.game.current) ∧
    ∀ index, index < table.plays.length → ¬ table.IsLive index →
      ∃ ending, ∀ later, ∃ frame, ((table.after later).tick index).1 = some frame ∧
        frame.step = .done ending ∧ frame.events = [] ∧
        ((table.after later).tick index).2.game.scene = (table.after later).game.scene := by
  intro table
  have hs : table.IsSound := Table.isSound_after (Table.isSound_table puzzle pace) h
  refine ⟨fun i j hi hj => hs.eq_of_isLive hi hj, ?_, ?_⟩
  · rintro index play ⟨found, hf, he, hc⟩ hp
    obtain rfl := Option.some.inj (hp.symm.trans hf)
    exact hs.live play (List.mem_of_getElem? hp) he hc
  · intro index hi hl
    obtain ⟨ending, hr⟩ := Table.exists_restsWith hi hl
    refine ⟨ending, fun later => ?_⟩
    obtain ⟨frame, ht, hsc, he, hst⟩ := (Table.restsWith_after hr later).tick_eq
    refine ⟨frame, ht, hst, he, ?_⟩
    rw [Table.tick_scene ht, hsc]

theorem Puzzle.one_run_live_encore :
    let calls : List (Call Rat) :=
      [.start "", .tick 0, .finish 0 .completed, .start "coletarCristal()"]
    let table := (Puzzle.level1Phase6.table Pace.standard).after calls
    (∀ i j, table.IsLive i → table.IsLive j → i = j) ∧
    ∃ ending, ∀ later, ∃ frame, ((table.after later).tick 0).1 = some frame ∧
      frame.step = .done ending ∧ frame.events = [] ∧
      ((table.after later).tick 0).2.game.scene = (table.after later).game.scene := by
  intro calls table
  have hf : (((Puzzle.level1Phase6.table Pace.standard).after [.start ""]).tick 0).1 =
      some (.stopped .standard .completed (Puzzle.level1Phase6.scene : Scene Rat).reset.1 []) := by
    refine (congrArg Prod.fst (Table.tick_some rfl)).trans ?_
    show some (proceed _ [] _) = _
    rw [proceed]
    rfl
  have ho : (Puzzle.level1Phase6.table Pace.standard).IsOrderly calls := by
    intro before index ending later hc
    rcases before with _ | ⟨first, _ | ⟨second, _ | ⟨third, _ | ⟨fourth, rest⟩⟩⟩⟩ <;>
      simp [calls] at hc
    obtain ⟨rfl, rfl, ⟨rfl, rfl⟩, rfl⟩ := hc
    exact ⟨[.start ""], [], _, rfl, hf, rfl⟩
  have hr : table.RestsWith 0 .completed :=
    Table.restsWith_after (Table.restsWith_of_tick hf rfl) [.finish 0 .completed, .start _]
  obtain ⟨hl, -, hq⟩ := Puzzle.one_run_live Puzzle.level1Phase6 Pace.standard calls ho
  exact ⟨hl, hq 0 hr.index_lt hr.not_isLive⟩

end RobotPuzzle
