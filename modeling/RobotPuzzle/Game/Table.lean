import RobotPuzzle.Game.Performance

/-! A game together with every run it has started. Old runs can still be ticked, cancelled or
finished after new ones have begun. -/

namespace RobotPuzzle

structure Table (α : Type) where
  game : Game α
  plays : List (Play α)

variable {α : Type} [Scalar α]

def Puzzle.table (puzzle : Puzzle) (pace : Pace α) : Table α := ⟨puzzle.game pace, []⟩

namespace Table

def start (table : Table α) (code : String) : Table α × List (Event α) × Except Refusal Nat :=
  match table.game.start code with
  | (game, events, .error refusal) => (⟨game, table.plays⟩, events, .error refusal)
  | (game, events, .ok play) =>
    (⟨game, table.plays ++ [play]⟩, events, .ok table.plays.length)

def ticks (table : Table α) (index n : Nat) : List (Frame α) × Table α :=
  match table.plays[index]? with
  | none => ([], table)
  | some play =>
    let (frames, game, play) := table.game.ticks play n
    (frames, ⟨game, table.plays.set index play⟩)

def finish (table : Table α) (index : Nat) (ending : Ending) :
    Report × Table α × List (Event α) :=
  match table.plays[index]? with
  | none => (⟨ending, false⟩, table, [])
  | some play =>
    let (report, game, events) := table.game.finish play.signal ending
    (report, { table with game }, events)

def cancel (table : Table α) (index : Nat) : Table α :=
  match table.plays[index]? with
  | none => table
  | some play => { table with game := table.game.cancel play.signal }

def isCancelled (table : Table α) (play : Play α) : Bool :=
  table.game.signals.isRaised play.signal

def reset (table : Table α) : Table α × List (Event α) :=
  let (game, events) := table.game.reset
  ({ table with game }, events)

def alternate (table : Table α) : Table α × List (Event α) :=
  let (game, events) := table.game.alternate
  ({ table with game }, events)

def act (table : Table α) (action : Action α) : Table α × List (Event α) :=
  let (game, events) := table.game.act action
  ({ table with game }, events)

def perform (table : Table α) (code : String) (patience : Nat) : Performance α × Table α :=
  let performance := table.game.perform code patience
  (performance, { table with game := performance.game })

end Table

end RobotPuzzle
