import RobotPuzzle.Run.Tick

/-! A run in its scene, with the flag that cancels it. A trap raises the flag from inside. -/

namespace RobotPuzzle

structure Trial (α : Type) where
  run : Run α
  scene : Scene α
  cancelled : Bool

structure Showing (α : Type) where
  trial : Trial α
  ending : Option Ending
  frames : Nat
  renders : List (Nat × List (Event α))

namespace Trial

variable {α : Type} [Scalar α]

def cancel (trial : Trial α) : Trial α := { trial with cancelled := true }

def isFinished (trial : Trial α) : Bool := trial.run.ended.isSome

def tick (trial : Trial α) : Frame α × Trial α :=
  let frame := trial.run.tick trial.cancelled trial.scene
  (frame, ⟨frame.run, frame.scene, trial.cancelled || frame.step == .done .trapped⟩)

def ticksFrom (seen : List (Frame α)) : Nat → Trial α → List (Frame α) × Trial α
  | 0, trial => (seen.reverse, trial)
  | n + 1, trial =>
    let (frame, trial) := trial.tick
    match frame.step with
    | .done _ => ((frame :: seen).reverse, trial)
    | .running => ticksFrom (frame :: seen) n trial

def ticks (trial : Trial α) (n : Nat) : List (Frame α) × Trial α := ticksFrom [] n trial

def showFrom (frames : Nat) (renders : List (Nat × List (Event α))) :
    Nat → Trial α → Showing α
  | 0, trial => ⟨trial, none, frames, renders.reverse⟩
  | patience + 1, trial =>
    let (frame, trial) := trial.tick
    let renders := if frame.events.isEmpty then renders else (frames, frame.events) :: renders
    match frame.step with
    | .done ending => ⟨trial, some ending, frames, renders.reverse⟩
    | .running => showFrom (frames + 1) renders patience trial

def showAll (trial : Trial α) (patience : Nat) : Showing α := showFrom 0 [] patience trial

def act (trial : Trial α) (action : Action α) : Trial α × List (Event α) :=
  let (scene, events) := trial.scene.act action
  ({ trial with scene }, events)

end Trial

end RobotPuzzle
