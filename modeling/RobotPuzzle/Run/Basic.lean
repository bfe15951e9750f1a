import RobotPuzzle.Scene.Action

namespace RobotPuzzle

open Scalar

structure Pace (α : Type) where
  share : α
  gain : α
  precision : α
  turn : α

def Pace.standard {α : Type} [Scalar α] : Pace α where
  share := ofInt 1 / ofInt 100
  gain := ofInt 1 / ofInt 1000
  precision := ofInt 5 / ofInt 1000
  turn := ofInt 1

inductive Ending where
  | completed
  | trapped
  | cancelled
deriving DecidableEq, Repr

inductive Step where
  | running
  | done (ending : Ending)
deriving DecidableEq, Repr

inductive Motion (α : Type) where
  /-- `share` is the part of the way left that the next frame covers, and `warned` whether the
  player has been told that the way is blocked. -/
  | travel (requested : Position α) (share : α) (warned : Bool)
  | turn (target : α) (heading : Heading)

structure Run (α : Type) where
  pending : List Statement
  motion : Option (Motion α)
  pace : Pace α
  ended : Option Ending

def Program.start {α : Type} (program : Program) (pace : Pace α) : Run α :=
  ⟨program.body, none, pace, none⟩

inductive Entry where
  | performed (command : Command)
  | tested (condition : Condition) (holds : Bool)
  | entered
deriving DecidableEq, Repr

structure Frame (α : Type) where
  run : Run α
  scene : Scene α
  events : List (Event α)
  journal : List Entry
  step : Step

namespace Frame

variable {α : Type}

def stopped (pace : Pace α) (ending : Ending) (scene : Scene α) (events : List (Event α)) :
    Frame α :=
  ⟨⟨[], none, pace, some ending⟩, scene, events, [], .done ending⟩

def paused (pace : Pace α) (pending : List Statement) (motion : Motion α) (scene : Scene α)
    (events : List (Event α)) : Frame α :=
  ⟨⟨pending, some motion, pace, none⟩, scene, events, [], .running⟩

def after (frame : Frame α) (events : List (Event α)) (journal : List Entry) : Frame α :=
  { frame with events := events ++ frame.events, journal := journal ++ frame.journal }

@[simp]
theorem run_after (frame : Frame α) (events : List (Event α)) (journal : List Entry) :
    (frame.after events journal).run = frame.run := rfl

@[simp]
theorem scene_after (frame : Frame α) (events : List (Event α)) (journal : List Entry) :
    (frame.after events journal).scene = frame.scene := rfl

@[simp]
theorem events_after (frame : Frame α) (events : List (Event α)) (journal : List Entry) :
    (frame.after events journal).events = events ++ frame.events := rfl

@[simp]
theorem journal_after (frame : Frame α) (events : List (Event α)) (journal : List Entry) :
    (frame.after events journal).journal = journal ++ frame.journal := rfl

@[simp]
theorem step_after (frame : Frame α) (events : List (Event α)) (journal : List Entry) :
    (frame.after events journal).step = frame.step := rfl

end Frame

end RobotPuzzle
