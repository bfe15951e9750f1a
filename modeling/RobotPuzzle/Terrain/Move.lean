import RobotPuzzle.Terrain.Position

/-! How far a move may go. The robot walks cell by cell toward the cell it asked for and stops in
front of the first blocked one. The question is put again on every frame, from wherever the robot
is. -/

namespace RobotPuzzle

inductive Resolved (α : Type) where
  | clear (position : Position α)
  | shortened (position : Position α) (blocker : Blocker)
  | clamped (position : Position α) (blocker : Blocker)

namespace Resolved

variable {α : Type}

def position : Resolved α → Position α
  | clear position => position
  | shortened position _ => position
  | clamped position _ => position

def blocker? : Resolved α → Option Blocker
  | clear _ => none
  | shortened _ blocker => some blocker
  | clamped _ blocker => some blocker

def isClamped : Resolved α → Bool
  | clamped .. => true
  | _ => false

end Resolved

namespace Terrain

def obstruction? (terrain : Terrain) (goal cell : Cell) : Option (Cell × Blocker) :=
  if cell = goal then none
  else
    match terrain.blockerAt (cell.stepToward goal) with
    | some blocker => some (cell, blocker)
    | none => terrain.obstruction? goal (cell.stepToward goal)
termination_by cell.distance goal
decreasing_by
  have := Cell.distance_stepToward cell goal (by assumption)
  omega

/-- A goal off the map is as good as the first row past the edge. -/
def clampGoal (terrain : Terrain) (cell : Cell) : Cell :=
  ⟨max (-1) (min cell.x terrain.divisions), max (-1) (min cell.z terrain.divisions)⟩

variable {α : Type} [Scalar α]

def leadingCell (terrain : Terrain) (current requested : Position α) : Cell :=
  ⟨terrain.coordinate (.ofTravel current.x requested.x) current.x,
    terrain.coordinate (.ofTravel current.z requested.z) current.z⟩

def resolve (terrain : Terrain) (current requested : Position α) : Resolved α :=
  let here := terrain.clamp (terrain.cellAt current)
  if terrain.contains (terrain.leadingCell current requested) then
    match terrain.obstruction? (terrain.clampGoal (terrain.cellAt requested)) here with
    | none => .clear requested
    | some (cell, blocker) =>
      if cell = here then .clamped (terrain.center here) blocker
      else .shortened (terrain.center cell) blocker
  else .clamped (terrain.center here) .edge

end Terrain

end RobotPuzzle
