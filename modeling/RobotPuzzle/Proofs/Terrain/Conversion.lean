import Mathlib.Algebra.Order.Group.Unbundled.Abs
import Mathlib.Data.Rat.Floor
import Mathlib.Data.Set.Defs
import Mathlib.Order.Interval.Set.Defs
import RobotPuzzle.Proofs.Terrain.Course

namespace RobotPuzzle

open Rational

namespace Rational

lemma hold_toInt (n : Int32) : hold n.toInt = n.toInt := by
  have hl := n.le_toInt
  have hu := n.toInt_lt
  rw [hold]
  omega

lemma hold_succ_le (n : Int) : hold (n + 1) ≤ hold n + 1 := by
  rw [hold, hold]
  omega

lemma floor_half (n : Int) : (n / 2 : Rat).floor = n / 2 := Rat.floor_intCast_div_natCast n 2

lemma ceil_half (n : Int) : (n / 2 : Rat).ceil = (n + 1) / 2 := by
  have hf := floor_half (-n)
  rw [Int.cast_neg] at hf
  rw [Rat.ceil_eq_neg_floor_neg, ← neg_div, hf]
  omega

lemma floor_le_round (v : Rat) :
    v.floor ≤ (v + 1 / 2).floor ∧ (v + 1 / 2).floor ≤ v.ceil ∧ v.ceil ≤ v.floor + 1 := by
  refine ⟨Rat.floor_monotone (by linarith), ?_, ?_⟩
  · rw [← Int.lt_add_one_iff, Rat.floor_lt_iff]
    have hc := Rat.le_ceil (x := v)
    push_cast
    linarith
  · rw [Rat.ceil_le_iff]
    exact_mod_cast (Rat.lt_floor_add_one (a := v)).le

end Rational

namespace Scalar

/-- Half an integer below 2 to the power of 53, which a binary float has room for. -/
def IsShort (q : Rat) : Prop := (∃ n : Int, q = n / 2) ∧ |q| < 9007199254740992

/-- Numbers that mean rationals, with operations that are exact as long as their results are
short. -/
structure IsExact {α : Type} [Scalar α] (Means : α → Rat → Prop) : Prop where
  ofInt {n : Int} : IsShort n → Means (ofInt n) n
  neg {x p} : Means x p → Means (-x) (-p)
  add {x y p q} : Means x p → Means y q → IsShort (p + q) → Means (x + y) (p + q)
  sub {x y p q} : Means x p → Means y q → IsShort (p - q) → Means (x - y) (p - q)
  mul {x y p q} : Means x p → Means y q → IsShort (p * q) → Means (x * y) (p * q)
  div {x y p q} : Means x p → Means y q → q ≠ 0 → IsShort (p / q) → Means (x / y) (p / q)
  floor {x} {p : Rat} : Means x p → Means (Scalar.floor x) p.floor
  ceil {x} {p : Rat} : Means x p → Means (Scalar.ceil x) p.ceil
  toInt32 {x} (n : Int32) : Means x n.toInt → Scalar.toInt32 x = n

lemma isShort_intCast {n : Int} (hl : -9007199254740992 < n) (hu : n < 9007199254740992) :
    IsShort n := by
  refine ⟨⟨2 * n, by push_cast; ring⟩, abs_lt.mpr ⟨?_, ?_⟩⟩ <;> exact_mod_cast ‹_›

lemma isShort_add_half {n : Int} (hl : -9007199254740992 ≤ n) (hu : n < 9007199254740991) :
    IsShort (n + 1 / 2) := by
  have hl' : (-9007199254740992 : Rat) ≤ n := by exact_mod_cast hl
  have hu' : (n : Rat) ≤ 9007199254740990 := by exact_mod_cast Int.le_sub_one_of_lt hu
  refine ⟨⟨2 * n + 1, by push_cast; ring⟩, abs_lt.mpr ⟨?_, ?_⟩⟩ <;> linarith

lemma isExact_rational : IsExact (α := Rat) Eq where
  ofInt _ := rfl
  neg h := h ▸ rfl
  add h h' _ := h ▸ h' ▸ rfl
  sub h h' _ := h ▸ h' ▸ rfl
  mul h h' _ := h ▸ h' ▸ rfl
  div h h' _ _ := h ▸ h' ▸ rfl
  floor h := h ▸ rfl
  ceil h := h ▸ rfl
  toInt32 n h := by
    obtain rfl := h
    apply Int32.toInt_inj.mp
    show (Int32.ofIntClamp (truncate n.toInt)).toInt = n.toInt
    rw [truncate_intCast, toInt_ofIntClamp, hold_toInt]

namespace IsExact

variable {α : Type} [Scalar α] {Means : α → Rat → Prop} (h : IsExact Means)

include h

lemma half : Means half (1 / 2) := by
  have hone := h.ofInt (n := 1) (isShort_intCast (by omega) (by omega))
  have htwo := h.ofInt (n := 2) (isShort_intCast (by omega) (by omega))
  have hs := isShort_add_half (n := 0) (by omega) (by omega)
  have he : ((1 : Int) / (2 : Int) : Rat) = (0 : Int) + 1 / 2 := by norm_num
  have hd := h.div hone htwo (by norm_num) (he ▸ hs)
  rwa [he, Int.cast_zero, zero_add] at hd

lemma double {x : α} {n : Int} (hx : Means x n) (hl : -4503599627370496 < n)
    (hu : n < 4503599627370496) : Means (Scalar.ofInt 2 * x) (2 * n : Int) := by
  have htwo := h.ofInt (n := 2) (isShort_intCast (by omega) (by omega))
  have hs : IsShort (2 * n : Int) := isShort_intCast (by omega) (by omega)
  exact_mod_cast h.mul htwo hx (by exact_mod_cast hs)

lemma halve {x : α} {n : Int} (hx : Means x (2 * n : Int)) (hl : -9007199254740992 < n)
    (hu : n < 9007199254740992) : Means (x / Scalar.ofInt 2) n := by
  have htwo := h.ofInt (n := 2) (isShort_intCast (by omega) (by omega))
  have he : ((2 * n : Int) / (2 : Int) : Rat) = n := by
    push_cast
    ring
  have hd := h.div hx htwo (by norm_num) (he ▸ isShort_intCast hl hu)
  rwa [he] at hd

lemma round {x : α} {n : Int} (hx : Means x n) (hl : -9007199254740992 ≤ n)
    (hu : n < 9007199254740991) : Means (Scalar.round x) n := by
  have hf := h.floor (h.add hx h.half (isShort_add_half hl hu))
  rwa [floor_add_half] at hf

lemma floor_intCast {x : α} {n : Int} (hx : Means x n) : Means (Scalar.floor x) n := by
  have hf := h.floor hx
  rwa [Rat.floor_intCast] at hf

lemma ceil_intCast {x : α} {n : Int} (hx : Means x n) : Means (Scalar.ceil x) n := by
  have hc := h.ceil hx
  rwa [Rat.ceil_intCast] at hc

end IsExact

end Scalar

namespace Terrain

variable {terrain : Terrain}

section Exact

variable {α : Type} [Scalar α] {Means : α → Rat → Prop} (h : Scalar.IsExact Means)

include h

lemma means_origin : Means terrain.origin (1 - terrain.divisions : Int) := by
  have hl := terrain.one_le_divisions
  have hu := terrain.divisions_le
  have hd := h.neg (h.ofInt (n := terrain.divisions - 1)
    (Scalar.isShort_intCast (by omega) (by omega)))
  rwa [← Int.cast_neg, neg_sub] at hd

lemma means_center (n : Int32) :
    Means (terrain.origin + Scalar.ofInt 2 * Scalar.ofInt n.toInt)
      (1 - terrain.divisions + 2 * n.toInt : Int) := by
  have hl := terrain.one_le_divisions
  have hu := terrain.divisions_le
  have hn := n.le_toInt
  have hn' := n.toInt_lt
  have hd := h.double (h.ofInt (n := n.toInt) (Scalar.isShort_intCast (by omega) (by omega)))
    (by omega) (by omega)
  have hs : Scalar.IsShort (1 - terrain.divisions + 2 * n.toInt : Int) :=
    Scalar.isShort_intCast (by omega) (by omega)
  rw [Int.cast_add] at hs ⊢
  exact h.add (means_origin h) hd hs

lemma coordinate_of_means {v : α} {n : Int32}
    (hv : Means v (1 - terrain.divisions + 2 * n.toInt : Int)) (rounding : Rounding) :
    terrain.coordinate rounding v = n.toInt := by
  have hl := terrain.one_le_divisions
  have hu := terrain.divisions_le
  have hn := n.le_toInt
  have hn' := n.toInt_lt
  have hh : ∀ {w : α}, Means w (1 - terrain.divisions + 2 * n.toInt : Int) →
      Means ((w - terrain.origin) / Scalar.ofInt 2) n.toInt := by
    intro w hw
    have he : (1 - terrain.divisions + 2 * n.toInt : Int) - ((1 - terrain.divisions : Int) : Rat) =
        (2 * n.toInt : Int) := by
      push_cast
      ring
    have hs := h.sub hw (means_origin h) (he ▸ Scalar.isShort_intCast (by omega) (by omega))
    rw [he] at hs
    exact h.halve hs (by omega) (by omega)
  cases rounding with
  | nearest =>
    have hr := h.round (hh (h.round hv (by omega) (by omega))) (by omega) (by omega)
    exact congrArg Int32.toInt (h.toInt32 n hr)
  | floor =>
    have hr := h.floor_intCast (hh (h.floor_intCast hv))
    exact congrArg Int32.toInt (h.toInt32 n hr)
  | ceil =>
    have hr := h.ceil_intCast (hh (h.ceil_intCast hv))
    exact congrArg Int32.toInt (h.toInt32 n hr)

end Exact

lemma scale_floor_eq (v : Rat) :
    terrain.scale .floor v = (v.floor + terrain.divisions - 1) / 2 := by
  rw [← floor_half, scale, origin]
  simp only [Scalar.ofInt]
  push_cast
  ring_nf

lemma scale_nearest_eq (v : Rat) :
    terrain.scale .nearest v = ((v + 1 / 2).floor + terrain.divisions) / 2 := by
  rw [← floor_half, scale, origin]
  simp only [Scalar.ofInt]
  push_cast
  ring_nf

lemma scale_ceil_eq (v : Rat) :
    terrain.scale .ceil v = (v.ceil + terrain.divisions) / 2 := by
  have hc : v.ceil + terrain.divisions = v.ceil + terrain.divisions - 1 + 1 := by ring
  rw [hc, ← ceil_half, scale, origin]
  simp only [Scalar.ofInt]
  push_cast
  ring_nf

lemma scale_le_scale (v : Rat) : terrain.scale .floor v ≤ terrain.scale .nearest v ∧
    terrain.scale .nearest v ≤ terrain.scale .ceil v ∧
    terrain.scale .ceil v ≤ terrain.scale .floor v + 1 := by
  have hr := floor_le_round v
  rw [scale_floor_eq, scale_nearest_eq, scale_ceil_eq]
  omega

def Saturates (terrain : Terrain) (rounding : Rounding) (position : Position Rat) : Prop :=
  hold (terrain.scale rounding position.x) ≠ terrain.scale rounding position.x ∨
    hold (terrain.scale rounding position.z) ≠ terrain.scale rounding position.z

lemma coordinate_unheld_iff {rounding : Rounding} {v : Rat} {n : Int32} :
    terrain.coordinate rounding v = n.toInt ∧
      hold (terrain.scale rounding v) = terrain.scale rounding v ↔
    terrain.scale rounding v = n.toInt := by
  rw [coordinate_eq]
  constructor
  · rintro ⟨hc, hh⟩
    exact hh.symm.trans hc
  · intro hs
    rw [hs]
    exact ⟨hold_toInt n, hold_toInt n⟩

lemma coordinate_eq_iff {rounding : Rounding} {v : Rat} {n : Int32}
    (h : n ≠ Int32.minValue ∧ n ≠ Int32.maxValue) :
    terrain.coordinate rounding v = n.toInt ↔ terrain.scale rounding v = n.toInt := by
  have hl : n.toInt ≠ -2147483648 := fun he => h.1 (Int32.toInt_inj.mp he)
  have hu : n.toInt ≠ 2147483647 := fun he => h.2 (Int32.toInt_inj.mp he)
  have hn := n.le_toInt
  have hn' := n.toInt_lt
  rw [coordinate_eq, hold]
  omega

/-- A cell is what its center rounds to, also in any arithmetic that is exact on short numbers. The
cells that a position rounds to lie in order and at most one apart, a greater coordinate never
rounds to a smaller one, and the positions nearest to a cell are those of its bin. -/
theorem cells_match_positions (terrain : Terrain) :
    (∀ (rounding : Rounding) (x z : Int32), let cell : Cell := ⟨x.toInt, z.toInt⟩
      terrain.cellOf rounding (terrain.center cell : Position Rat) = cell ∧
      ∀ {α : Type} [Scalar α] {Means : α → Rat → Prop}, Scalar.IsExact Means →
        terrain.cellOf rounding (terrain.center cell : Position α) = cell) ∧
    (∀ v : Rat, terrain.coordinate .floor v ≤ terrain.coordinate .nearest v ∧
      terrain.coordinate .nearest v ≤ terrain.coordinate .ceil v ∧
      terrain.coordinate .ceil v ≤ terrain.coordinate .floor v + 1) ∧
    (∀ (rounding : Rounding) (v w : Rat), v ≤ w →
      terrain.coordinate rounding v ≤ terrain.coordinate rounding w) ∧
    ∀ (x z : Int32) (position : Position Rat), let cell : Cell := ⟨x.toInt, z.toInt⟩
      let center : Position Rat := terrain.center cell
      let bin : Prop :=
        (center.x - 3 / 2 ≤ position.x ∧ position.x < center.x + 1 / 2) ∧
        center.z - 3 / 2 ≤ position.z ∧ position.z < center.z + 1 / 2
      (terrain.cellOf .nearest position = cell ∧ ¬ terrain.Saturates .nearest position ↔ bin) ∧
      ((∀ n ∈ [x, z], n ≠ Int32.minValue ∧ n ≠ Int32.maxValue) →
        (terrain.cellOf .nearest position = cell ↔ bin)) := by
  have hexact : ∀ {α : Type} [Scalar α] {Means : α → Rat → Prop}, Scalar.IsExact Means →
      ∀ (rounding : Rounding) (x z : Int32), terrain.cellOf rounding
        (terrain.center ⟨x.toInt, z.toInt⟩ : Position α) = ⟨x.toInt, z.toInt⟩ := by
    intro α _ Means h rounding x z
    exact congrArg₂ Cell.mk (coordinate_of_means h (means_center h x) rounding)
      (coordinate_of_means h (means_center h z) rounding)
  refine ⟨fun rounding x z => ⟨hexact Scalar.isExact_rational rounding x z, fun h =>
    hexact h rounding x z⟩, fun v => ?_, fun rounding v w h => coordinate_mono h, ?_⟩
  · obtain ⟨hn, hc, hf⟩ := terrain.scale_le_scale v
    rw [coordinate_eq, coordinate_eq, coordinate_eq]
    exact ⟨hold_mono hn, hold_mono hc, (hold_mono hf).trans (hold_succ_le _)⟩
  · intro x z position cell center bin
    have hc : center = ⟨terrain.origin + 2 * x.toInt, terrain.origin + 2 * z.toInt⟩ :=
      center_eq cell
    have hb : bin ↔ terrain.scale .nearest position.x = x.toInt ∧
        terrain.scale .nearest position.z = z.toInt := by
      simp only [bin, hc, scale_nearest_iff]
    constructor
    · rw [hb, ← coordinate_unheld_iff, ← coordinate_unheld_iff, Saturates, not_or, not_not,
        not_not, cellOf, Cell.mk.injEq, and_and_and_comm]
    · intro hn
      have hx := hn x (by simp)
      have hz := hn z (by simp)
      rw [hb, ← coordinate_eq_iff hx, ← coordinate_eq_iff hz, cellOf, Cell.mk.injEq]

theorem cells_match_positions_edge :
    let terrain := ofDivisions 10
    let position : Position Rat := ⟨-1 / 2, 3 / 4⟩
    terrain.cellOf .ceil (terrain.center ⟨(-2147483648 : Int32).toInt, (2147483647 : Int32).toInt⟩ :
        Position Rat) = ⟨-2147483648, 2147483647⟩ ∧
      Scalar.IsExact (α := Rat) Eq ∧ terrain.cellOf .nearest position = ⟨5, 5⟩ ∧
      terrain.coordinate .nearest (3 / 4 : Rat) ≤ terrain.coordinate .nearest (17 / 2 : Rat) := by
  intro terrain position
  obtain ⟨hr, -, hm, hb⟩ := cells_match_positions terrain
  have hn : ∀ n ∈ [(5 : Int32), 5], n ≠ Int32.minValue ∧ n ≠ Int32.maxValue := by
    intro n hm
    obtain rfl : n = 5 := by simpa using hm
    exact ⟨by decide, by decide⟩
  refine ⟨(hr .ceil (-2147483648) 2147483647).2 Scalar.isExact_rational,
    Scalar.isExact_rational, ?_, hm .nearest (3 / 4) (17 / 2) (by norm_num)⟩
  exact ((hb 5 5 position).2 hn).mpr (by decide +kernel)

end Terrain

end RobotPuzzle
