import RobotPuzzle.Actor

namespace RobotPuzzle

/-- Fires that blink: those in `lit` start active, those in `dark` start out, and both change over
together. -/
structure Flicker where
  lit : List Nat
  dark : List Nat
deriving DecidableEq, Repr

inductive WinRule where
  | allCollected
  | collectedAndStanding
deriving DecidableEq, Repr

structure Puzzle where
  id : String
  title : String
  start : Cell
  divisions : Int := 10
  heading : Heading := .east
  obstacles : List Obstacle := []
  traps : List Cell := []
  holes : List Cell := []
  fires : List Cell := []
  crystals : List Cell := []
  limit : Option Nat := none
  /-- The charges that the robot starts with; `none` when they are not counted. -/
  extinguishers : Option Nat := none
  flicker : Option Flicker := none
  winRule : WinRule := .allCollected
deriving DecidableEq, Repr

namespace Puzzle

def terrain (puzzle : Puzzle) : Terrain :=
  { Terrain.ofDivisions puzzle.divisions with
    obstacles := puzzle.obstacles
    traps := puzzle.traps
    holes := puzzle.holes.map (⟨·, true⟩)
    fires := puzzle.fires.map (⟨·, true⟩) }

end Puzzle

end RobotPuzzle
