namespace RobotPuzzle

structure Cell where
  x : Int
  z : Int
deriving DecidableEq, Repr

namespace Cell

instance : Ord Cell where
  compare a b := (compare a.x b.x).then (compare a.z b.z)

def stepToward (cell goal : Cell) : Cell :=
  ⟨cell.x + (goal.x - cell.x).sign, cell.z + (goal.z - cell.z).sign⟩

/-- One step apart. The differences are taken in words of 32 bits and wrap. -/
def isAdjacent (a b : Cell) : Bool :=
  (Int32.ofInt a.x - Int32.ofInt b.x).abs + (Int32.ofInt a.z - Int32.ofInt b.z).abs == 1

example : isAdjacent ⟨-2147483648, 5⟩ ⟨2147483647, 5⟩ = true := by decide

theorem isAdjacent_self (cell : Cell) : cell.isAdjacent cell = false := by
  rw [isAdjacent, Int32.sub_self, Int32.sub_self]
  decide

def distance (a b : Cell) : Nat := max (b.x - a.x).natAbs (b.z - a.z).natAbs

theorem distance_stepToward (cell goal : Cell) (h : cell ≠ goal) :
    (cell.stepToward goal).distance goal + 1 = cell.distance goal := by
  obtain ⟨x, z⟩ := cell
  obtain ⟨gx, gz⟩ := goal
  have hne : x ≠ gx ∨ z ≠ gz := by simpa [Classical.or_iff_not_imp_left] using h
  rcases Int.lt_trichotomy x gx with hx | hx | hx <;>
    rcases Int.lt_trichotomy z gz with hz | hz | hz <;>
    simp only [stepToward, distance, Int.sign_eq_one_of_pos, Int.sign_eq_neg_one_of_neg,
      Int.sub_pos_of_lt, Int.sub_neg_of_lt, hx, hz, Int.sub_self, Int.sign_zero] <;> omega

end Cell

structure Obstacle where
  minX : Int
  maxX : Int
  minZ : Int
  maxZ : Int
deriving DecidableEq, Repr

def Obstacle.contains (obstacle : Obstacle) (cell : Cell) : Bool :=
  obstacle.minX ≤ cell.x && cell.x ≤ obstacle.maxX && obstacle.minZ ≤ cell.z &&
    cell.z ≤ obstacle.maxZ

end RobotPuzzle
