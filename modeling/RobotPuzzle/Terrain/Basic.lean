import RobotPuzzle.Terrain.Cell

namespace RobotPuzzle

inductive HazardKind where
  | hole
  | fire
deriving DecidableEq, Repr

structure Hazard where
  cell : Cell
  active : Bool
deriving DecidableEq, Repr

inductive Blocker where
  | edge
  | obstacle (index : Nat)
deriving DecidableEq, Repr

structure Terrain where
  divisions : Int
  obstacles : List Obstacle
  traps : List Cell
  holes : List Hazard
  fires : List Hazard
  one_le_divisions : 1 ≤ divisions
  divisions_le : divisions ≤ 2147483647

namespace Terrain

def ofDivisions (divisions : Int) : Terrain where
  divisions := max 1 (min divisions 2147483647)
  obstacles := []
  traps := []
  holes := []
  fires := []
  one_le_divisions := Int.le_max_left ..
  divisions_le := by omega

def contains (terrain : Terrain) (cell : Cell) : Bool :=
  0 ≤ cell.x && cell.x < terrain.divisions && 0 ≤ cell.z && cell.z < terrain.divisions

def blockerAt (terrain : Terrain) (cell : Cell) : Option Blocker :=
  if terrain.contains cell then
    (terrain.obstacles.findIdx? fun obstacle => obstacle.contains cell).map .obstacle
  else some .edge

def clamp (terrain : Terrain) (cell : Cell) : Cell :=
  ⟨max 0 (min cell.x (terrain.divisions - 1)), max 0 (min cell.z (terrain.divisions - 1))⟩

def addObstacle (terrain : Terrain) (obstacle : Obstacle) : Terrain :=
  { terrain with obstacles := terrain.obstacles ++ [obstacle] }

def addTrap (terrain : Terrain) (cell : Cell) : Terrain :=
  { terrain with traps := terrain.traps ++ [cell] }

def hazards (terrain : Terrain) : HazardKind → List Hazard
  | .hole => terrain.holes
  | .fire => terrain.fires

def mapHazards (terrain : Terrain) (kind : HazardKind) (f : List Hazard → List Hazard) : Terrain :=
  match kind with
  | .hole => { terrain with holes := f terrain.holes }
  | .fire => { terrain with fires := f terrain.fires }

@[simp]
theorem hazards_mapHazards (terrain : Terrain) (kind : HazardKind)
    (f : List Hazard → List Hazard) :
    (terrain.mapHazards kind f).hazards kind = f (terrain.hazards kind) := by
  cases kind <;> rfl

theorem hazards_mapHazards_of_ne (terrain : Terrain) {kind other : HazardKind}
    (f : List Hazard → List Hazard) (h : kind ≠ other) :
    (terrain.mapHazards kind f).hazards other = terrain.hazards other := by
  cases kind with
  | hole =>
    cases other with
    | hole => exact absurd rfl h
    | fire => rfl
  | fire =>
    cases other with
    | hole => rfl
    | fire => exact absurd rfl h

def addHazard (terrain : Terrain) (kind : HazardKind) (cell : Cell) : Terrain :=
  terrain.mapHazards kind (· ++ [⟨cell, true⟩])

def hazard? (terrain : Terrain) (kind : HazardKind) (id : Nat) : Option Hazard :=
  (terrain.hazards kind)[id]?

def setActive (terrain : Terrain) (kind : HazardKind) (id : Nat) (active : Bool) : Terrain :=
  terrain.mapHazards kind fun hazards => hazards.modify id fun hazard => { hazard with active }

def adjacentHazard? (terrain : Terrain) (kind : HazardKind) (cell : Cell) : Option Nat :=
  (terrain.hazards kind).findIdx? fun hazard => hazard.active && hazard.cell.isAdjacent cell

def hasActive (terrain : Terrain) (kind : HazardKind) (cell : Cell) : Bool :=
  (terrain.hazards kind).any fun hazard => hazard.active && hazard.cell == cell

def clearAdjacent (terrain : Terrain) (kind : HazardKind) (cell : Cell) : Option (Nat × Terrain) :=
  (terrain.adjacentHazard? kind cell).map fun id => (id, terrain.setActive kind id false)

def rearm (terrain : Terrain) : Terrain :=
  { terrain with
    holes := terrain.holes.map fun hazard => { hazard with active := true }
    fires := terrain.fires.map fun hazard => { hazard with active := true } }

end Terrain

end RobotPuzzle
