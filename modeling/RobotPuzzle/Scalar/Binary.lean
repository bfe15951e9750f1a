import RobotPuzzle.Scalar.Basic

/-! Binary floats as scalars. The remainder is exact: both operands are brought to one exponent,
where they are integers. -/

namespace RobotPuzzle.Binary

def isNegative (x : Float) : Bool := x.toBits >>> 63 == 1

def magnitude (x : Float) : Nat × Int :=
  let exponent : Nat := (x.toBits >>> 52).toNat % 2048
  let fraction := x.toBits.toNat % (1 <<< 52)
  if exponent = 0 then (fraction, -1074) else (fraction + (1 <<< 52), (exponent : Int) - 1075)

def powerOfTwo (e : Int) : Float :=
  .ofBits (if -1022 ≤ e then (e + 1023).toNat.toUInt64 <<< 52
    else 1 <<< (e + 1074).toNat.toUInt64)

def finiteRem (x y : Float) : Float :=
  let (m, e) := magnitude x
  let (n, d) := magnitude y
  let s := min e d
  let r := (m <<< (e - s).toNat) % (n <<< (d - s).toNat)
  let size := Float.ofNat r * powerOfTwo s
  if isNegative x then -size else size

def rem (x y : Float) : Float :=
  if x.isNaN || y.isNaN || x.isInf || y == 0 then 0 / 0
  else if y.isInf then x
  else finiteRem x y

def signum (x : Float) : Float :=
  if x.isNaN then x else if isNegative x then -1 else 1

instance : Scalar Float where
  decidableLT := inferInstance
  decidableLE := inferInstance
  ofInt := Float.ofInt
  floor := Float.floor
  ceil := Float.ceil
  signum := signum
  rem := rem
  toInt32 := Float.toInt32

end RobotPuzzle.Binary
