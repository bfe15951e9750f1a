import RobotPuzzle.Terrain.Position

namespace RobotPuzzle

inductive Heading where
  | east
  | west
  | north
  | south
deriving DecidableEq, Repr

namespace Heading

def left : Heading → Heading
  | east => north
  | north => west
  | west => south
  | south => east

def reverse : Heading → Heading
  | east => west
  | west => east
  | north => south
  | south => north

def right (heading : Heading) : Heading := heading.left.reverse

def yaw : Heading → Int
  | south => 0
  | east => 90
  | north => 180
  | west => 270

def step : Heading → Int × Int
  | east => (1, 0)
  | west => (-1, 0)
  | north => (0, -1)
  | south => (0, 1)

end Heading

structure Actor (α : Type) where
  position : Position α
  yaw : α
  heading : Heading

end RobotPuzzle
