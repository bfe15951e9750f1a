import RobotPuzzle.Event
import RobotPuzzle.Program.Basic
import RobotPuzzle.Puzzle.Basic

namespace RobotPuzzle

structure Scene (α : Type) where
  puzzle : Puzzle
  terrain : Terrain
  actor : Actor α
  collected : List Bool
  extinguishers : Option Nat

def Flicker.apply (flicker : Flicker) (lit : Bool) (terrain : Terrain) : Terrain :=
  let terrain := flicker.lit.foldl (fun terrain id => terrain.setActive .fire id lit) terrain
  flicker.dark.foldl (fun terrain id => terrain.setActive .fire id !lit) terrain

namespace Puzzle

def applyFlicker (puzzle : Puzzle) (lit : Bool) (terrain : Terrain) : Terrain :=
  match puzzle.flicker with
  | some flicker => flicker.apply lit terrain
  | none => terrain

variable {α : Type} [Scalar α]

def startActor (puzzle : Puzzle) (terrain : Terrain) : Actor α :=
  ⟨terrain.center puzzle.start, Scalar.ofInt puzzle.heading.yaw, puzzle.heading⟩

def scene (puzzle : Puzzle) : Scene α where
  puzzle := puzzle
  terrain := puzzle.applyFlicker true puzzle.terrain
  actor := puzzle.startActor puzzle.terrain
  collected := puzzle.crystals.map fun _ => false
  extinguishers := puzzle.extinguishers

end Puzzle

def Sensor.kind : Sensor → HazardKind
  | .fire => .fire
  | .hole => .hole

namespace Scene

variable {α : Type} [Scalar α]

def cell (scene : Scene α) : Cell := scene.terrain.cellAt scene.actor.position

def isTrapped (scene : Scene α) : Bool := scene.terrain.isTrap scene.actor.position

def isOn (scene : Scene α) (kind : HazardKind) : Bool := scene.terrain.hasActive kind scene.cell

def sense (scene : Scene α) (sensor : Sensor) : Bool :=
  (scene.terrain.adjacentHazard? sensor.kind scene.cell).isSome

def evaluate (scene : Scene α) : Condition → Bool
  | .literal value => value
  | .sensor sensor => scene.sense sensor

def isWon (scene : Scene α) : Bool :=
  scene.collected.all id &&
    match scene.puzzle.winRule with
    | .allCollected => true
    | .collectedAndStanding => scene.puzzle.crystals.contains scene.cell

end Scene

end RobotPuzzle
