import RobotPuzzle.Proofs.Game.Control
import RobotPuzzle.Proofs.Game.Mirror

/-! A start forgets what was done before it: the runs and signals of the past only number the new
ones on. -/

namespace RobotPuzzle

def Signal.behind (signal : Signal) (old : Signals) : Signal :=
  ⟨old.raised.length + signal.index⟩

lemma Signal.behind_inj {signal other : Signal} {old : Signals} :
    signal.behind old = other.behind old ↔ signal = other := by
  obtain ⟨index⟩ := signal
  obtain ⟨index'⟩ := other
  simp [Signal.behind]

namespace Signals

def behind (signals old : Signals) : Signals := ⟨old.raised ++ signals.raised⟩

variable (signals old : Signals) (signal : Signal)

lemma issue_behind : (signals.behind old).issue =
    (signals.issue.1.behind old, signals.issue.2.behind old) := by
  simp [issue, behind, Signal.behind]

lemma raise_behind :
    (signals.behind old).raise (signal.behind old) = (signals.raise signal).behind old := by
  simp [raise, behind, Signal.behind]

lemma isRaised_behind :
    (signals.behind old).isRaised (signal.behind old) = signals.isRaised signal := by
  simp [isRaised, behind, Signal.behind, List.getElem?_append_right]

end Signals

variable {α : Type}

def Play.behind (play : Play α) (old : Signals) : Play α :=
  { play with signal := play.signal.behind old }

@[simp] lemma Play.signal_behind (play : Play α) (old : Signals) :
    (play.behind old).signal = play.signal.behind old := rfl

def Game.behind (game : Game α) (old : Signals) : Game α :=
  { game with signals := game.signals.behind old, current := game.current.behind old }

def Table.behind (table old : Table α) : Table α :=
  ⟨table.game.behind old.game.signals,
    old.plays ++ table.plays.map fun play => play.behind old.game.signals⟩

def Call.behind (call : Call α) (old : Table α) : Call α :=
  match call with
  | .tick index => .tick (old.plays.length + index)
  | .cancel index => .cancel (old.plays.length + index)
  | .finish index ending => .finish (old.plays.length + index) ending
  | call => call

namespace Game

variable (game : Game α) (old : Signals)

lemma cancel_behind (signal : Signal) :
    (game.behind old).cancel (signal.behind old) = (game.cancel signal).behind old := by
  simp only [cancel, behind, Signals.raise_behind]

lemma alternate_behind :
    (game.behind old).alternate = (game.alternate.1.behind old, game.alternate.2) := by
  obtain ⟨scene, pace, signals, current, running⟩ := game
  cases running <;> rfl

variable [Scalar α]

lemma start_behind (code : String) : (game.behind old).start code =
    ((game.start code).1.behind old, (game.start code).2.1,
      (game.start code).2.2.map fun play => play.behind old) := by
  obtain ⟨scene, pace, signals, current, running⟩ := game
  cases running with
  | true => rfl
  | false =>
    simp only [start, behind]
    cases Program.ofSource scene.puzzle.limit code with
    | error rejection => rfl
    | ok program =>
      simp only [Signals.issue_behind]
      rfl

lemma finish_behind (signal : Signal) (ending : Ending) :
    (game.behind old).finish (signal.behind old) ending =
      ((game.finish signal ending).1, (game.finish signal ending).2.1.behind old,
        (game.finish signal ending).2.2) := by
  simp only [finish, behind, Signal.behind_inj]
  split <;> rfl

lemma reset_behind : (game.behind old).reset = (game.reset.1.behind old, game.reset.2) := by
  simp only [reset, behind, Signals.raise_behind, Signals.issue_behind]

lemma tick_behind (play : Play α) : (game.behind old).tick (play.behind old) =
    ((game.tick play).1, (game.tick play).2.1.behind old, (game.tick play).2.2.behind old) := by
  have ht : (game.behind old).trial (play.behind old) = game.trial play := by
    simp only [trial, behind, Play.behind, Signals.isRaised_behind]
  simp only [tick, ht, adopt]
  simp only [behind, Play.behind, Signals.raise_behind]
  split <;> rfl

end Game

inductive Answer (α : Type) where
  | started (outcome : Except Refusal Unit) (events : List (Event α))
  | shown (frame : Option (Frame α))
  | closed (report : Report) (events : List (Event α))
  | told (events : List (Event α))

namespace Table

lemma plays_behind (table old : Table α) (index : Nat) :
    (table.behind old).plays[old.plays.length + index]? =
      table.plays[index]?.map fun play => play.behind old.game.signals := by
  rw [behind, List.getElem?_append_right (Nat.le_add_right _ index), Nat.add_sub_cancel_left,
    List.getElem?_map]

lemma cancel_behind (table old : Table α) (index : Nat) :
    (table.behind old).cancel (old.plays.length + index) = (table.cancel index).behind old := by
  rw [cancel, plays_behind, cancel]
  cases table.plays[index]? with
  | none => rfl
  | some play => simp [behind, Game.cancel_behind]

variable [Scalar α]

def answer (table : Table α) : Call α → Answer α
  | .start code => .started ((table.start code).2.2.map fun _ => ()) (table.start code).2.1
  | .tick index => .shown (table.tick index).1
  | .finish index ending =>
    .closed (table.finish index ending).1 (table.finish index ending).2.2
  | call => .told (table.call call).2

def answers (table : Table α) : List (Call α) → List (Answer α)
  | [] => []
  | call :: calls => table.answer call :: (table.call call).1.answers calls

variable (table old : Table α) (index : Nat)

lemma start_behind (code : String) : (table.behind old).start code =
    ((table.start code).1.behind old, (table.start code).2.1,
      (table.start code).2.2.map (old.plays.length + ·)) := by
  rw [start, behind, Game.start_behind, start]
  obtain ⟨game, events, refusal | play⟩ := table.game.start code
  · rfl
  · simp [behind, Except.map]

lemma tick_behind : (table.behind old).tick (old.plays.length + index) =
    ((table.tick index).1, (table.tick index).2.behind old) := by
  rw [tick, plays_behind, tick]
  cases table.plays[index]? with
  | none => rfl
  | some play => simp [behind, Game.tick_behind]

lemma finish_behind (ending : Ending) :
    (table.behind old).finish (old.plays.length + index) ending =
      ((table.finish index ending).1, (table.finish index ending).2.1.behind old,
        (table.finish index ending).2.2) := by
  rw [finish, plays_behind, finish]
  cases table.plays[index]? with
  | none => rfl
  | some play => simp [behind, Game.finish_behind]

lemma call_behind (call : Call α) : (table.behind old).call (call.behind old) =
    ((table.call call).1.behind old, (table.call call).2) := by
  cases call with
  | start code => simp only [Table.call, Call.behind, start_behind]
  | reset => simp only [Table.call, Call.behind, reset, behind, Game.reset_behind]
  | alternate => simp only [Table.call, Call.behind, alternate, behind, Game.alternate_behind]
  | tick index => simp only [Table.call, Call.behind, tick_behind]
  | cancel index => simp only [Table.call, Call.behind, cancel_behind]
  | finish index ending => simp only [Table.call, Call.behind, finish_behind]
  | act action => rfl
  | frame run cancelled => rfl

lemma answer_behind (call : Call α) :
    (table.behind old).answer (call.behind old) = table.answer call := by
  have hc := table.call_behind old call
  cases call with
  | start code =>
    simp only [answer, Call.behind, start_behind]
    cases (table.start code).2.2 <;> rfl
  | tick index => simp only [answer, Call.behind, tick_behind]
  | finish index ending => simp only [answer, Call.behind, finish_behind]
  | _ => exact congrArg (fun result => Answer.told result.2) hc

lemma after_behind (calls : List (Call α)) :
    (table.behind old).after (calls.map fun call => call.behind old) =
      (table.after calls).behind old := by
  induction calls generalizing table with
  | nil => rfl
  | cons call calls ih =>
    have hc := congrArg Prod.fst (table.call_behind old call)
    exact (congrArg (fun table : Table α =>
      table.after (calls.map fun call => call.behind old)) hc).trans (ih _)

lemma answers_behind (calls : List (Call α)) :
    (table.behind old).answers (calls.map fun call => call.behind old) = table.answers calls := by
  induction calls generalizing table with
  | nil => rfl
  | cons call calls ih =>
    rw [List.map_cons, answers, answers, answer_behind, call_behind, ih]

variable {table}

lemma Controls.pace_eq {call : Call α} {after : Table α} (h : table.Controls call after) :
    after.game.pace = table.game.pace := by
  cases h <;> rfl

lemma pace_after (calls : List (Call α)) : (table.after calls).game.pace = table.game.pace :=
  kept_after (fun table call => (table.controls_call call).pace_eq.trans) rfl calls

end Table

variable [Scalar α]

def Puzzle.begun (puzzle : Puzzle) (pace : Pace α) (program : Program) : Table α :=
  ⟨⟨puzzle.scene, pace, ⟨[false]⟩, ⟨0⟩, true⟩, [⟨program.start pace, ⟨0⟩⟩]⟩

namespace Table

variable {puzzle : Puzzle} {table : Table α} {code : String} {program : Program}

lemma start_eq_begun (hs : table.game.scene.IsOf puzzle) (hr : table.game.running = false)
    (hp : Program.ofSource puzzle.limit code = .ok program) :
    table.start code = ((puzzle.begun table.game.pace program).behind table,
      (puzzle.scene : Scene α).overview, .ok table.plays.length) := by
  rw [← hs.puzzle_eq] at hp
  rw [start_of_accepted hr hp, hs.reset_eq]
  rfl

variable (later : List (Call α))

lemma answers_start (hs : table.game.scene.IsOf puzzle) (hr : table.game.running = false)
    (hp : Program.ofSource puzzle.limit code = .ok program) :
    table.answers (.start code :: later.map fun call => call.behind table) =
      .started (.ok ()) (puzzle.scene : Scene α).overview ::
        (puzzle.begun table.game.pace program).answers later := by
  have ht := start_eq_begun hs hr hp
  rw [answers, answer, Table.call, ht, answers_behind]
  rfl

lemma after_start (hs : table.game.scene.IsOf puzzle) (hr : table.game.running = false)
    (hp : Program.ofSource puzzle.limit code = .ok program) :
    table.after (.start code :: later.map fun call => call.behind table) =
      ((puzzle.begun table.game.pace program).after later).behind table := by
  have ht := congrArg Prod.fst (start_eq_begun hs hr hp)
  exact (congrArg (fun begun : Table α => begun.after (later.map fun call => call.behind table))
    ht).trans (after_behind _ table later)

end Table

/-- A reset gives the starting scene back after anything that was done, and so two idle games of a
puzzle cannot be told apart by what they are asked to run. -/
theorem Puzzle.start_forgets_history (puzzle : Puzzle) (pace : Pace α)
    (before before' : List (Call α)) :
    let table := (puzzle.table pace).after before
    let other := (puzzle.table pace).after before'
    table.game.scene.reset.1 = puzzle.scene ∧
    (table.game.running = false → other.game.running = false → ∀ code,
      table.answer (.start code) = other.answer (.start code) ∧
      ∀ index, (table.start code).2.2 = .ok index → ∀ later : List (Call α),
        let calls := .start code :: later.map fun call => call.behind table
        let calls' := .start code :: later.map fun call => call.behind other
        table.answers calls = other.answers calls' ∧
        (table.after calls).game.scene = (other.after calls').game.scene) := by
  intro table other
  have hs : table.game.scene.IsOf puzzle := Table.isOf_after (Scene.isOf_scene puzzle) before
  have hs' : other.game.scene.IsOf puzzle := Table.isOf_after (Scene.isOf_scene puzzle) before'
  have hpace : table.game.pace = other.game.pace :=
    (Table.pace_after before).trans (Table.pace_after before').symm
  refine ⟨congrArg Prod.fst hs.reset_eq, fun hr hr' code => ?_⟩
  cases hp : Program.ofSource puzzle.limit code with
  | error rejection =>
    have ht : table.start code = _ := Table.start_of_rejected hr (hs.puzzle_eq ▸ hp)
    have ho : other.start code = _ := Table.start_of_rejected hr' (hs'.puzzle_eq ▸ hp)
    refine ⟨by rw [Table.answer, Table.answer, ht, ho], fun index hi => ?_⟩
    rw [ht] at hi
    exact nomatch hi
  | ok program =>
    have ha := fun later => Table.answers_start later hs hr hp
    have ha' := fun later => Table.answers_start later hs' hr' hp
    rw [← hpace] at ha'
    refine ⟨(List.cons.inj ((ha []).trans (ha' []).symm)).1, fun index _ later =>
      ⟨(ha later).trans (ha' later).symm, ?_⟩⟩
    rw [Table.after_start later hs hr hp, Table.after_start later hs' hr' hp, hpace]
    rfl

theorem Puzzle.start_forgets_history_blink :
    let before : List (Call Rat) :=
      [.alternate, .start "darMeiaVolta()", .cancel 0, .reset, .act (.place ⟨⟨0, 0⟩, 0, .east⟩)]
    let table := (level2Phase2.table Pace.standard).after before
    let other : Table Rat := level2Phase2.table Pace.standard
    table.answers [.start "girarDireita()", .tick 1, .tick 1, .finish 1 .completed] =
      other.answers [.start "girarDireita()", .tick 0, .tick 0, .finish 0 .completed] := by
  intro before table other
  have hi : (table.start "girarDireita()").2.2 = .ok 1 := rfl
  obtain ⟨-, hl⟩ := Puzzle.start_forgets_history level2Phase2 Pace.standard before []
  obtain ⟨-, hc⟩ := hl rfl rfl "girarDireita()"
  exact (hc 1 hi [.tick 0, .tick 0, .finish 0 .completed]).1

end RobotPuzzle
