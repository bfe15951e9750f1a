import Mathlib.Algebra.Order.Field.Rat
import Mathlib.Tactic.Linarith
import Mathlib.Tactic.Ring
import RobotPuzzle.Terrain.Position

namespace RobotPuzzle

namespace Rational

def hold (n : Int) : Int := max (-2147483648) (min n 2147483647)

lemma toInt_ofIntClamp (n : Int) : (Int32.ofIntClamp n).toInt = hold n := by
  have hl : Int32.minValue.toInt = -2147483648 := by decide
  have hu : Int32.maxValue.toInt = 2147483647 := by decide
  rw [Int32.ofIntClamp, hold]
  split
  · split
    · rw [Int32.toInt_ofIntLE]
      omega
    · omega
  · omega

lemma hold_mono {m n : Int} (h : m ≤ n) : hold m ≤ hold n := by
  rw [hold, hold]
  omega

lemma ceil_mono {x y : Rat} (h : x ≤ y) : x.ceil ≤ y.ceil :=
  Rat.ceil_le_iff.mpr (h.trans Rat.le_ceil)

lemma truncate_intCast (n : Int) : truncate n = n := by
  rw [truncate, Rat.ceil_intCast, Rat.floor_intCast, ite_self]

lemma floor_add_half (n : Int) : ((n : Rat) + 1 / 2).floor = n := by
  have hh : (1 / 2 : Rat).floor = 0 := by decide +kernel
  rw [add_comm, Rat.floor_add_intCast, hh, zero_add]

end Rational

namespace Terrain

open Rational

variable {terrain : Terrain}

def scale (terrain : Terrain) (rounding : Rounding) (v : Rat) : Int :=
  match rounding with
  | .nearest => (((v + 1 / 2).floor - terrain.origin : Rat) / 2 + 1 / 2).floor
  | .floor => ((v.floor - terrain.origin : Rat) / 2).floor
  | .ceil => ((v.ceil - terrain.origin : Rat) / 2).ceil

lemma coordinate_eq (rounding : Rounding) (v : Rat) :
    terrain.coordinate rounding v = hold (terrain.scale rounding v) := by
  rw [← truncate_intCast (terrain.scale rounding v), ← toInt_ofIntClamp]
  cases rounding <;> rfl

lemma scale_mono {rounding : Rounding} {v w : Rat} (h : v ≤ w) :
    terrain.scale rounding v ≤ terrain.scale rounding w := by
  cases rounding with
  | nearest =>
    have hf : (v + 1 / 2).floor ≤ (w + 1 / 2).floor := Rat.floor_monotone (by linarith)
    have hc : ((v + 1 / 2).floor : Rat) ≤ (w + 1 / 2).floor := by exact_mod_cast hf
    exact Rat.floor_monotone (by linarith)
  | floor =>
    have hc : (v.floor : Rat) ≤ w.floor := by exact_mod_cast Rat.floor_monotone h
    exact Rat.floor_monotone (by linarith)
  | ceil =>
    have hc : (v.ceil : Rat) ≤ w.ceil := by exact_mod_cast ceil_mono h
    exact ceil_mono (by linarith)

lemma scale_center (rounding : Rounding) (n : Int) :
    terrain.scale rounding (terrain.origin + 2 * n) = n := by
  have hw : (terrain.origin + 2 * n : Rat) = ((2 * n - (terrain.divisions - 1) : Int) : Rat) := by
    simp only [origin, Scalar.ofInt]
    push_cast
    ring
  have hn : (((2 * n - (terrain.divisions - 1) : Int) : Rat) - terrain.origin) / 2 = n := by
    rw [← hw]
    ring
  rw [hw]
  cases rounding with
  | nearest => rw [scale, floor_add_half, hn, floor_add_half]
  | floor => rw [scale, Rat.floor_intCast, hn, Rat.floor_intCast]
  | ceil => rw [scale, Rat.ceil_intCast, hn, Rat.ceil_intCast]

lemma coordinate_center (rounding : Rounding) (n : Int) :
    terrain.coordinate rounding (terrain.origin + 2 * n : Rat) = hold n := by
  rw [coordinate_eq, scale_center]

lemma scale_nearest_iff {v : Rat} {n : Int} : terrain.scale .nearest v = n ↔
    terrain.origin + 2 * n - 3 / 2 ≤ v ∧ v < terrain.origin + 2 * n + 1 / 2 := by
  have ho : (terrain.origin : Rat) = ((1 - terrain.divisions : Int) : Rat) := by
    simp only [origin, Scalar.ofInt]
    push_cast
    ring
  have hl : ∀ (x : Rat) (a : Int), x.floor = a ↔ (a : Rat) ≤ x ∧ x < (a + 1 : Int) := by
    intro x a
    rw [← Rat.le_floor_iff, ← Rat.floor_lt_iff]
    omega
  have hm : ((2 * n - terrain.divisions : Int) : Rat) ≤ (v + 1 / 2).floor ↔
      ((2 * n - terrain.divisions : Int) : Rat) ≤ v + 1 / 2 := by
    rw [Int.cast_le, Rat.le_floor_iff]
  have hu : ((v + 1 / 2).floor : Rat) < (2 * n + 2 - terrain.divisions : Int) ↔
      v + 1 / 2 < (2 * n + 2 - terrain.divisions : Int) := by
    rw [Int.cast_lt, Rat.floor_lt_iff]
  rw [scale, hl, ho]
  push_cast at hm hu ⊢
  constructor
  · rintro ⟨h, h'⟩
    have := hm.mp (by linarith)
    have := hu.mp (by linarith)
    constructor <;> linarith
  · rintro ⟨h, h'⟩
    have := hm.mpr (by linarith)
    have := hu.mpr (by linarith)
    constructor <;> linarith

lemma coordinate_mono {rounding : Rounding} {v w : Rat} (h : v ≤ w) :
    terrain.coordinate rounding v ≤ terrain.coordinate rounding w := by
  rw [coordinate_eq, coordinate_eq]
  exact hold_mono (scale_mono h)

end Terrain

end RobotPuzzle
