import RobotPuzzle.Scalar.Basic
import RobotPuzzle.Terrain.Basic

/-! Continuous positions on the ground. Neighbouring cell centers lie two units apart and the middle
of the map is at zero. A position belongs to a cell by rounding twice, once to a whole unit and once
to a whole cell. -/

namespace RobotPuzzle

open Scalar

structure Position (α : Type) where
  x : α
  z : α

namespace Position

variable {α : Type} [Scalar α]

def lerp (start target : Position α) (alpha : α) : Position α :=
  ⟨start.x + (target.x - start.x) * alpha, start.z + (target.z - start.z) * alpha⟩

def isNear (a b : Position α) (precision : α) : Bool :=
  abs (a.x - b.x) < precision && abs (a.z - b.z) < precision

end Position

inductive Rounding where
  | nearest
  | floor
  | ceil
deriving DecidableEq, Repr

/-- The rounding that gives the cell being entered; what cannot be compared rounds up. -/
def Rounding.ofTravel {α : Type} [Scalar α] (start target : α) : Rounding :=
  if target ≤ start then .floor else .ceil

namespace Terrain

variable {α : Type} [Scalar α]

def origin (terrain : Terrain) : α := -ofInt (terrain.divisions - 1)

def center (terrain : Terrain) (cell : Cell) : Position α :=
  ⟨terrain.origin + ofInt 2 * ofInt cell.x, terrain.origin + ofInt 2 * ofInt cell.z⟩

def coordinate (terrain : Terrain) (rounding : Rounding) (v : α) : Int :=
  (toInt32 <| match rounding with
    | .nearest => round ((round v - terrain.origin) / ofInt 2)
    | .floor => Scalar.floor ((Scalar.floor v - terrain.origin) / ofInt 2)
    | .ceil => Scalar.ceil ((Scalar.ceil v - terrain.origin) / ofInt 2)).toInt

def cellOf (terrain : Terrain) (rounding : Rounding) (position : Position α) : Cell :=
  ⟨terrain.coordinate rounding position.x, terrain.coordinate rounding position.z⟩

abbrev cellAt (terrain : Terrain) (position : Position α) : Cell :=
  terrain.cellOf .nearest position

def isTrap (terrain : Terrain) (position : Position α) : Bool :=
  terrain.traps.contains (terrain.cellAt position)

end Terrain

end RobotPuzzle
