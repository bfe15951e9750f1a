import Mathlib.Data.List.Induction
import RobotPuzzle.Game.Table
import RobotPuzzle.Proofs.Run.Change

namespace RobotPuzzle

inductive Call (α : Type) where
  | start (code : String)
  | reset
  | alternate
  | tick (index : Nat)
  | cancel (index : Nat)
  | finish (index : Nat) (ending : Ending)
  | act (action : Action α)
  | frame (run : Run α) (cancelled : Bool)

def Call.IsTold {α : Type} : Call α → Prop
  | .act action => action.IsTold
  | _ => True

variable {α : Type} [Scalar α]

namespace Game

variable {game : Game α} {code : String}

lemma start_of_rejected {rejection : Script.Rejection} (h : game.running = false)
    (hp : Program.ofSource game.scene.puzzle.limit code = .error rejection) :
    game.start code = (game, [.console rejection.console], .error (.rejected rejection)) := by
  rw [start, if_neg (Bool.eq_false_iff.mp h), hp]

lemma start_of_accepted {program : Program} (h : game.running = false)
    (hp : Program.ofSource game.scene.puzzle.limit code = .ok program) :
    game.start code =
      (⟨game.scene.reset.1, game.pace, game.signals.issue.2, game.signals.issue.1, true⟩,
        game.scene.reset.2, .ok ⟨program.start game.pace, game.signals.issue.1⟩) := by
  rw [start, if_neg (Bool.eq_false_iff.mp h), hp]

end Game

namespace Table

def tick (table : Table α) (index : Nat) : Option (Frame α) × Table α :=
  match table.plays[index]? with
  | none => (none, table)
  | some play =>
    let (frame, game, play) := table.game.tick play
    (some frame, ⟨game, table.plays.set index play⟩)

def call (table : Table α) : Call α → Table α × List (Event α)
  | .start code => ((table.start code).1, (table.start code).2.1)
  | .reset => table.reset
  | .alternate => table.alternate
  | .tick index => ((table.tick index).2, (table.tick index).1.elim [] (·.events))
  | .cancel index => (table.cancel index, [])
  | .finish index ending => (table.finish index ending).2
  | .act action => table.act action
  | .frame run cancelled =>
    let frame := run.tick cancelled table.game.scene
    ({ table with game := { table.game with scene := frame.scene } }, frame.events)

def after (table : Table α) (calls : List (Call α)) : Table α :=
  calls.foldl (fun table call => (table.call call).1) table

def events (table : Table α) : List (Call α) → List (Event α)
  | [] => []
  | call :: calls => (table.call call).2 ++ (table.call call).1.events calls

lemma after_append (table : Table α) (calls more : List (Call α)) :
    table.after (calls ++ more) = (table.after calls).after more :=
  List.foldl_append

lemma after_induction {P : Table α → Prop} {table : Table α} {calls : List (Call α)} (h : P table)
    (step : ∀ before call later, calls = before ++ call :: later → P (table.after before) →
      P ((table.after before).call call).1) : P (table.after calls) := by
  induction calls using List.reverseRecOn with
  | nil => exact h
  | append_singleton calls call ih =>
    rw [after_append]
    refine step calls call [] rfl (ih fun before next later hc => ?_)
    exact step before next (later ++ [call]) (by rw [hc]; simp)

lemma kept_after {P : Table α → Prop} (step : ∀ table call, P table → P (table.call call).1)
    {table : Table α} (h : P table) (calls : List (Call α)) : P (table.after calls) :=
  after_induction h fun _ call _ _ => step _ call

lemma ticks_one (table : Table α) (index : Nat) :
    table.ticks index 1 = ((table.tick index).1.toList, (table.tick index).2) := by
  rw [ticks, tick]
  cases table.plays[index]? with
  | none => rfl
  | some play =>
    simp only [Game.ticks, Game.tick, Trial.ticks, Trial.ticksFrom]
    split <;> rfl

lemma start_of_running {table : Table α} (h : table.game.running = true) (code : String) :
    table.start code = (table, [], .error .busy) := by
  rw [start, Game.start, if_pos h]

lemma start_of_rejected {table : Table α} {code : String} {rejection : Script.Rejection}
    (h : table.game.running = false)
    (hp : Program.ofSource table.game.scene.puzzle.limit code = .error rejection) :
    table.start code = (table, [.console rejection.console], .error (.rejected rejection)) := by
  rw [start, Game.start_of_rejected h hp]

lemma start_of_accepted {table : Table α} {code : String} {program : Program}
    (h : table.game.running = false)
    (hp : Program.ofSource table.game.scene.puzzle.limit code = .ok program) :
    table.start code =
      (⟨⟨table.game.scene.reset.1, table.game.pace, table.game.signals.issue.2,
          table.game.signals.issue.1, true⟩,
        table.plays ++ [⟨program.start table.game.pace, table.game.signals.issue.1⟩]⟩,
        table.game.scene.reset.2, .ok table.plays.length) := by
  rw [start, Game.start_of_accepted h hp]

lemma start_ok {table : Table α} {code : String} {index : Nat}
    (h : (table.start code).2.2 = .ok index) :
    table.game.running = false ∧ index = table.plays.length ∧
      ∃ program, Program.ofSource table.game.scene.puzzle.limit code = .ok program := by
  cases hr : table.game.running with
  | true =>
    rw [start_of_running hr] at h
    exact nomatch h
  | false =>
    cases hp : Program.ofSource table.game.scene.puzzle.limit code with
    | error rejection =>
      rw [start_of_rejected hr hp] at h
      exact nomatch h
    | ok program =>
      rw [start_of_accepted hr hp] at h
      exact ⟨rfl, (Except.ok.inj h).symm, program, rfl⟩

lemma start_error {table : Table α} {code : String} {refusal : Refusal}
    (h : (table.start code).2.2 = .error refusal) : (table.start code).1 = table ∧
      (table.game.running = true ∧ refusal = .busy ∧ (table.start code).2.1 = [] ∨
        ∃ rejection, table.game.running = false ∧
          Program.ofSource table.game.scene.puzzle.limit code = .error rejection ∧
          refusal = .rejected rejection ∧
          (table.start code).2.1 = [.console rejection.console]) := by
  cases hr : table.game.running with
  | true =>
    rw [start_of_running hr] at h ⊢
    exact ⟨rfl, Or.inl ⟨rfl, (Except.error.inj h).symm, rfl⟩⟩
  | false =>
    cases hp : Program.ofSource table.game.scene.puzzle.limit code with
    | error rejection =>
      rw [start_of_rejected hr hp] at h ⊢
      exact ⟨rfl, Or.inr ⟨rejection, rfl, rfl, (Except.error.inj h).symm, rfl⟩⟩
    | ok program =>
      rw [start_of_accepted hr hp] at h
      exact nomatch h

lemma tick_some {table : Table α} {index : Nat} {play : Play α}
    (h : table.plays[index]? = some play) :
    table.tick index = (some (play.run.tick (table.isCancelled play) table.game.scene),
      ⟨(table.game.tick play).2.1, table.plays.set index (table.game.tick play).2.2⟩) := by
  rw [tick, h]
  rfl

lemma tick_none {table : Table α} {index : Nat} (h : table.plays[index]? = none) :
    table.tick index = (none, table) := by
  rw [tick, h]

lemma tick_scene {table : Table α} {index : Nat} {frame : Frame α}
    (h : (table.tick index).1 = some frame) :
    (table.tick index).2.game.scene = frame.scene := by
  cases hp : table.plays[index]? with
  | none =>
    rw [tick_none hp] at h
    exact nomatch h
  | some play =>
    rw [tick_some hp] at h ⊢
    obtain rfl := Option.some.inj h
    rfl

end Table

def Event.IsAside {α : Type} : Event α → Prop
  | .console _ => True
  | .finished _ => True
  | _ => False

inductive Scene.Turns (scene : Scene α) : List (Event α) → Scene α → Prop
  | stay {events} : (∀ event ∈ events, event.IsAside) → scene.Turns events scene
  | act (action : Action α) : action.IsTold → scene.Turns (scene.act action).2 (scene.act action).1
  | frame (run : Run α) (cancelled : Bool) :
      scene.Turns (run.tick cancelled scene).events (run.tick cancelled scene).scene

namespace Table

variable (table : Table α)

lemma turns_start (code : String) :
    table.game.scene.Turns (table.start code).2.1 (table.start code).1.game.scene := by
  rw [start, Game.start]
  by_cases hr : table.game.running
  · simp only [hr, if_true]
    exact .stay (by simp)
  · simp only [hr]
    cases Program.ofSource table.game.scene.puzzle.limit code with
    | error rejection => exact .stay (by simp [Event.IsAside])
    | ok program => exact .act .reset trivial

lemma turns_finish (index : Nat) (ending : Ending) : table.game.scene.Turns
    (table.finish index ending).2.2 (table.finish index ending).2.1.game.scene := by
  rw [finish]
  cases table.plays[index]? with
  | none => exact .stay (by simp)
  | some play =>
    by_cases hs : play.signal = table.game.current
    · simp only [Game.finish, hs, if_true]
      exact .stay (by simp [Event.IsAside])
    · simp only [Game.finish, hs, if_false]
      exact .stay (by simp)

lemma turns_tick (index : Nat) : table.game.scene.Turns
    ((table.tick index).1.elim [] (·.events)) (table.tick index).2.game.scene := by
  cases hp : table.plays[index]? with
  | none =>
    rw [tick_none hp]
    exact .stay (by simp)
  | some play =>
    rw [tick_some hp]
    exact .frame play.run (table.isCancelled play)

lemma turns_call {call : Call α} (h : call.IsTold) :
    table.game.scene.Turns (table.call call).2 (table.call call).1.game.scene := by
  cases call with
  | start code => exact table.turns_start code
  | reset => exact .act .reset trivial
  | alternate =>
    simp only [Table.call, alternate, Game.alternate]
    cases table.game.running with
    | true => exact .stay (by simp)
    | false => exact .act .alternate trivial
  | tick index => exact table.turns_tick index
  | cancel index =>
    simp only [Table.call, cancel]
    cases table.plays[index]? <;> exact .stay (by simp)
  | finish index ending => exact table.turns_finish index ending
  | act action => exact .act action h
  | frame run cancelled => exact .frame run cancelled

end Table

end RobotPuzzle
