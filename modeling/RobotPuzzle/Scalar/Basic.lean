/-! Numbers for positions and angles. The rules of the robot are written once, over any `Scalar`;
they run on binary floats and are read on the rationals. -/

namespace RobotPuzzle

class Scalar (α : Type) extends Add α, Sub α, Mul α, Div α, Neg α, LT α, LE α where
  decidableLT : DecidableLT α
  decidableLE : DecidableLE α
  ofInt : Int → α
  floor : α → α
  ceil : α → α
  signum : α → α
  rem : α → α → α
  /-- The integer part, held at the ends of the 32-bit range; zero for what is not a number. -/
  toInt32 : α → Int32

namespace Scalar

variable {α : Type} [Scalar α]

instance : DecidableLT α := decidableLT

instance : DecidableLE α := decidableLE

def half : α := ofInt 1 / ofInt 2

def abs (x : α) : α := if x < ofInt 0 then -x else x

def capOne (x : α) : α := if x < ofInt 1 then x else ofInt 1

def round (x : α) : α := floor (x + half)

def wrap (x period : α) : α :=
  let r := rem x period
  if r < ofInt 0 then r + abs period else r

end Scalar

namespace Rational

def truncate (x : Rat) : Int := if x < 0 then x.ceil else x.floor

instance : Scalar Rat where
  decidableLT := inferInstance
  decidableLE := inferInstance
  ofInt n := n
  floor x := x.floor
  ceil x := x.ceil
  signum x := if x < 0 then -1 else 1
  rem x y := x - y * truncate (x / y)
  toInt32 x := Int32.ofIntClamp (truncate x)

end Rational

end RobotPuzzle
