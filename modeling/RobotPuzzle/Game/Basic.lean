import RobotPuzzle.Script.Assembly
import RobotPuzzle.Run.Signal
import RobotPuzzle.Run.Trial

/-! One player at one puzzle. The game owns the scene and decides when a program may run; each run
has a signal of its own, and only the run with the present signal counts. -/

namespace RobotPuzzle

structure Game (α : Type) where
  scene : Scene α
  pace : Pace α
  signals : Signals
  current : Signal
  running : Bool

structure Play (α : Type) where
  run : Run α
  signal : Signal

structure Report where
  ending : Ending
  won : Bool
deriving DecidableEq, Repr

inductive Refusal where
  | busy
  | rejected (rejection : Script.Rejection)
deriving DecidableEq, Repr

def Refusal.message : Refusal → String
  | busy => "a program is already running"
  | rejected rejection => rejection.message

variable {α : Type} [Scalar α]

def Puzzle.game (puzzle : Puzzle) (pace : Pace α) : Game α :=
  let (signal, signals) := Signals.none.issue
  ⟨puzzle.scene, pace, signals, signal, false⟩

namespace Game

def start (game : Game α) (code : String) : Game α × List (Event α) × Except Refusal (Play α) :=
  if game.running then (game, [], .error .busy)
  else
    match Program.ofSource game.scene.puzzle.limit code with
    | .error rejection => (game, [.console rejection.console], .error (.rejected rejection))
    | .ok program =>
      let (signal, signals) := game.signals.issue
      let (scene, events) := game.scene.reset
      ({ game with scene, signals, current := signal, running := true }, events,
        .ok ⟨program.start game.pace, signal⟩)

/-- Closes a run. One that was superseded has lost and leaves the game alone; a trap after the last
crystal does not undo the win. -/
def finish (game : Game α) (signal : Signal) (ending : Ending) :
    Report × Game α × List (Event α) :=
  if signal = game.current then
    let won := ending != .cancelled && game.scene.isWon
    (⟨ending, won⟩, { game with running := false }, [.finished won])
  else (⟨ending, false⟩, game, [])

def reset (game : Game α) : Game α × List (Event α) :=
  let (signal, signals) := (game.signals.raise game.current).issue
  let (scene, events) := game.scene.reset
  ({ game with scene, signals, current := signal, running := false }, events)

def alternate (game : Game α) : Game α × List (Event α) :=
  if game.running then (game, [])
  else
    let (scene, events) := game.scene.alternate
    ({ game with scene }, events)

def act (game : Game α) (action : Action α) : Game α × List (Event α) :=
  let (scene, events) := game.scene.act action
  ({ game with scene }, events)

def cancel (game : Game α) (signal : Signal) : Game α :=
  { game with signals := game.signals.raise signal }

def trial (game : Game α) (play : Play α) : Trial α :=
  ⟨play.run, game.scene, game.signals.isRaised play.signal⟩

def adopt (game : Game α) (play : Play α) (trial : Trial α) : Game α × Play α :=
  ({ game with
      scene := trial.scene
      signals := if trial.cancelled then game.signals.raise play.signal else game.signals },
    { play with run := trial.run })

def tick (game : Game α) (play : Play α) : Frame α × Game α × Play α :=
  let (frame, trial) := (game.trial play).tick
  (frame, game.adopt play trial)

def ticks (game : Game α) (play : Play α) (n : Nat) : List (Frame α) × Game α × Play α :=
  let (frames, trial) := (game.trial play).ticks n
  (frames, game.adopt play trial)

end Game

end RobotPuzzle
