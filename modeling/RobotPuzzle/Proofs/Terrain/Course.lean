import RobotPuzzle.Actor
import RobotPuzzle.Proofs.Terrain.Rounding
import RobotPuzzle.Proofs.Terrain.Walk

/-! A move straight ahead keeps its destination: from every position on the way there, the map gives
the same answer. -/

namespace RobotPuzzle

open Rational

namespace Cell

def along (cell : Cell) (heading : Heading) (steps : Nat) : Cell :=
  ⟨cell.x + heading.step.1 * steps, cell.z + heading.step.2 * steps⟩

variable (cell : Cell) (heading : Heading)

@[simp] lemma along_zero : cell.along heading 0 = cell := by
  simp [along]

lemma along_inj {steps count : Nat} :
    cell.along heading steps = cell.along heading count ↔ steps = count := by
  cases heading <;> simp [along, Heading.step]

lemma stepToward_along {steps count : Nat} (h : steps < count) :
    (cell.along heading steps).stepToward (cell.along heading count) =
      cell.along heading (steps + 1) := by
  have hs : ∀ v d : Int, (v + d * count - (v + d * steps)).sign = d.sign := by
    intro v d
    have hp : (count - steps : Int).sign = 1 := Int.sign_eq_one_of_pos (by omega)
    rw [add_sub_add_left_eq_sub, ← mul_sub, Int.sign_mul, hp, mul_one]
  have hx : heading.step.1.sign = heading.step.1 := by cases heading <;> rfl
  have hz : heading.step.2.sign = heading.step.2 := by cases heading <;> rfl
  simp only [stepToward, along, hs, hx, hz, mk.injEq]
  push_cast
  constructor <;> ring

lemma walk_along {steps count : Nat} (h : steps ≤ count) :
    cell.walk (cell.along heading count) steps = cell.along heading steps := by
  induction steps with
  | zero => simp [walk]
  | succ steps ih => rw [walk, ih (by omega), stepToward_along cell heading h]

end Cell

def Position.along (position : Position Rat) (heading : Heading) (distance : Rat) : Position Rat :=
  ⟨position.x + heading.step.1 * distance, position.z + heading.step.2 * distance⟩

lemma Position.lerp_along (position : Position Rat) (heading : Heading) (t u share : Rat) :
    (position.along heading t).lerp (position.along heading u) share =
      position.along heading (t + (u - t) * share) := by
  simp only [lerp, along, mk.injEq]
  constructor <;> ring

namespace Terrain

variable {terrain : Terrain} {cell : Cell}

lemma center_eq (cell : Cell) : (terrain.center cell : Position Rat) =
    ⟨terrain.origin + 2 * cell.x, terrain.origin + 2 * cell.z⟩ := by
  simp [center, Scalar.ofInt]

lemma center_along (cell : Cell) (heading : Heading) (steps : Nat) :
    (terrain.center (cell.along heading steps) : Position Rat) =
      (terrain.center cell : Position Rat).along heading (2 * steps) := by
  simp only [center, Cell.along, Position.along, Scalar.ofInt, Position.mk.injEq]
  push_cast
  constructor <;> ring

lemma cellAt_center_eq (cell : Cell) :
    terrain.cellAt (terrain.center cell : Position Rat) = ⟨hold cell.x, hold cell.z⟩ := by
  simp only [cellAt, cellOf]
  exact congrArg₂ Cell.mk (coordinate_center _ _) (coordinate_center _ _)

lemma cellAt_center (h : terrain.contains cell = true) :
    terrain.cellAt (terrain.center cell : Position Rat) = cell := by
  have hd := terrain.divisions_le
  obtain ⟨⟨hx, hx'⟩, hz, hz'⟩ := contains_iff.mp h
  obtain ⟨x, z⟩ := cell
  simp only [cellAt_center_eq, Cell.mk.injEq, hold]
  dsimp only at hx hx' hz hz'
  omega

lemma clampGoal_cellAt_center (cell : Cell) :
    terrain.clampGoal (terrain.cellAt (terrain.center cell : Position Rat)) =
      terrain.clampGoal cell := by
  have hd := terrain.divisions_le
  have hl := terrain.one_le_divisions
  simp only [cellAt_center_eq, clampGoal, Cell.mk.injEq, hold]
  omega

lemma coordinate_between (rounding : Rounding) (v : Rat) {a b : Int} (ha : 0 ≤ a)
    (hb : b < terrain.divisions) (hl : (terrain.origin + 2 * a : Rat) ≤ v)
    (hu : v ≤ terrain.origin + 2 * b) :
    a ≤ terrain.coordinate rounding v ∧ terrain.coordinate rounding v ≤ b := by
  have hd := terrain.divisions_le
  have hab : a ≤ b := by exact_mod_cast (by linarith : (a : Rat) ≤ b)
  have hla : terrain.coordinate rounding _ ≤ _ := coordinate_mono hl
  have hub : terrain.coordinate rounding _ ≤ _ := coordinate_mono hu
  rw [coordinate_center, hold] at hla hub
  omega

lemma coordinate_at {c : Int} (rounding : Rounding) (hc : 0 ≤ c) (hc' : c < terrain.divisions) :
    terrain.coordinate rounding (terrain.origin + 2 * c : Rat) = c := by
  have hb := coordinate_between rounding (terrain.origin + 2 * c) hc hc' le_rfl le_rfl
  omega

lemma exists_coordinate {c d : Int} {steps : Nat} {t : Rat} (rounding : Rounding)
    (hd : d = 1 ∨ d = -1) (hc : 0 ≤ c) (hc' : c < terrain.divisions) (hl : 0 ≤ c + d * steps)
    (hl' : c + d * steps < terrain.divisions) (ht : 0 ≤ t) (hu : t ≤ 2 * steps) :
    ∃ count ≤ steps,
      terrain.coordinate rounding (terrain.origin + 2 * c + d * t : Rat) = c + d * count := by
  rcases hd with rfl | rfl
  · have hb := coordinate_between rounding (terrain.origin + 2 * c + (1 : Int) * t)
      hc hl' (by push_cast; linarith) (by push_cast; linarith)
    exact ⟨(terrain.coordinate rounding (terrain.origin + 2 * c + (1 : Int) * t) - c).toNat,
      by omega, by omega⟩
  · have hb := coordinate_between rounding (terrain.origin + 2 * c + (-1 : Int) * t)
      hl hc' (by push_cast; linarith) (by push_cast; linarith)
    exact ⟨(c - terrain.coordinate rounding (terrain.origin + 2 * c + (-1 : Int) * t)).toNat,
      by omega, by omega⟩

lemma exists_along {heading : Heading} {steps : Nat} {t : Rat}
    (hs : terrain.contains cell = true)
    (hl : terrain.contains (cell.along heading steps) = true) (ht : 0 ≤ t) (hu : t ≤ 2 * steps)
    (first second : Rounding) :
    let position := (terrain.center cell : Position Rat).along heading t
    ∃ count ≤ steps, (⟨terrain.coordinate first position.x,
      terrain.coordinate second position.z⟩ : Cell) = cell.along heading count := by
  obtain ⟨⟨hx, hx'⟩, hz, hz'⟩ := contains_iff.mp hs
  obtain ⟨⟨hlx, hlx'⟩, hlz, hlz'⟩ := contains_iff.mp hl
  have hax := coordinate_at first hx hx'
  have haz := coordinate_at second hz hz'
  cases heading with
  | east =>
    obtain ⟨count, hk, he⟩ := exists_coordinate first (Or.inl rfl) hx hx' hlx hlx' ht hu
    exact ⟨count, hk, by
      simpa [center_eq, Position.along, Cell.along, Heading.step, haz] using he⟩
  | west =>
    obtain ⟨count, hk, he⟩ := exists_coordinate first (Or.inr rfl) hx hx' hlx hlx' ht hu
    exact ⟨count, hk, by
      simpa [center_eq, Position.along, Cell.along, Heading.step, haz] using he⟩
  | north =>
    obtain ⟨count, hk, he⟩ := exists_coordinate second (Or.inr rfl) hz hz' hlz hlz' ht hu
    exact ⟨count, hk, by
      simpa [center_eq, Position.along, Cell.along, Heading.step, hax] using he⟩
  | south =>
    obtain ⟨count, hk, he⟩ := exists_coordinate second (Or.inl rfl) hz hz' hlz hlz' ht hu
    exact ⟨count, hk, by
      simpa [center_eq, Position.along, Cell.along, Heading.step, hax] using he⟩

lemma clamp_eq (h : terrain.contains cell = true) : terrain.clamp cell = cell := by
  obtain ⟨⟨hx, hx'⟩, hz, hz'⟩ := contains_iff.mp h
  obtain ⟨x, z⟩ := cell
  simp only [clamp, Cell.mk.injEq]
  dsimp only at hx hx' hz hz'
  omega

structure Course (terrain : Terrain) where
  start : Cell
  heading : Heading
  asked : Nat
  free : Nat
  free_le : free ≤ asked
  isOpen : ∀ steps ≤ free, terrain.IsOpen (start.along heading steps)
  blocked : free < asked → ¬ terrain.IsOpen (start.along heading (free + 1))

lemma exists_course (h : terrain.IsOpen cell) (heading : Heading) (asked : Nat) :
    ∃ course : terrain.Course,
      course.start = cell ∧ course.heading = heading ∧ course.asked = asked := by
  induction asked with
  | zero =>
    refine ⟨⟨cell, heading, 0, 0, le_rfl, fun steps hs => ?_, fun hn => absurd hn (by omega)⟩,
      rfl, rfl, rfl⟩
    obtain rfl : steps = 0 := Nat.le_zero.mp hs
    rwa [Cell.along_zero]
  | succ asked ih =>
    obtain ⟨course, rfl, rfl, rfl⟩ := ih
    obtain ⟨start, heading, asked, free, hle, hopen, hblocked⟩ := course
    by_cases hn : free < asked ∨ ¬ terrain.IsOpen (start.along heading (free + 1))
    · exact ⟨⟨start, heading, asked + 1, free, by omega, hopen,
        fun _ => hn.elim hblocked id⟩, rfl, rfl, rfl⟩
    · obtain ⟨hl, ho⟩ := not_or.mp hn
      refine ⟨⟨start, heading, asked + 1, free + 1, by omega, fun steps hs => ?_,
        fun hf => absurd hf (by omega)⟩, rfl, rfl, rfl⟩
      obtain hl | rfl := Nat.le_succ_iff.mp hs
      · exact hopen steps hl
      · exact not_not.mp ho

namespace Course

variable (course : terrain.Course)

def spot (t : Rat) : Position Rat := (terrain.center course.start).along course.heading t

def requested : Position Rat := course.spot (2 * course.asked)

def target : Position Rat := course.spot (2 * course.free)

lemma spot_steps (steps : Nat) :
    course.spot (2 * steps) = terrain.center (course.start.along course.heading steps) :=
  (center_along course.start course.heading steps).symm

lemma spot_zero : course.spot 0 = terrain.center course.start := by
  simp [spot, Position.along]

lemma walk_eq {steps : Nat} (h : steps ≤ course.asked) :
    course.start.walk (course.start.along course.heading course.asked) steps =
      course.start.along course.heading steps :=
  Cell.walk_along course.start course.heading h

lemma isFree (h : course.free = course.asked) :
    terrain.IsFree course.start (course.start.along course.heading course.asked) := by
  intro steps hs
  have hl : steps < course.asked := by
    by_contra hn
    have hd := Cell.walk_eq_goal_iff.mp (course.walk_eq le_rfl)
    exact hs (Cell.walk_eq_goal_iff.mpr (hd.trans (not_lt.mp hn)))
  rw [course.walk_eq hl]
  exact course.isOpen _ (by omega)

lemma stopsAfter (h : course.free < course.asked) : ∃ blocker,
    terrain.StopsAfter course.start (course.start.along course.heading course.asked) course.free
      blocker := by
  cases hb : terrain.blockerAt (course.start.along course.heading (course.free + 1)) with
  | none => exact absurd (blockerAt_eq_none_iff.mp hb) (course.blocked h)
  | some blocker =>
    refine ⟨blocker, ?_, fun steps hs => ?_, ?_⟩
    · rw [course.walk_eq h.le, Ne, Cell.along_inj]
      exact h.ne
    · rw [course.walk_eq (by omega)]
      exact course.isOpen _ (by omega)
    · rw [course.walk_eq h]
      exact blockerAt_eq_some_iff.mp hb

lemma obstruction_eq {steps : Nat} (h : steps ≤ course.free) :
    course.free = course.asked ∧
      terrain.obstruction? (course.start.along course.heading course.asked)
        (course.start.along course.heading steps) = none ∨
    ∃ blocker, terrain.obstruction? (course.start.along course.heading course.asked)
        (course.start.along course.heading steps) =
      some (course.start.along course.heading course.free, blocker) := by
  have hw : ∀ step < steps, terrain.IsOpen
      (course.start.walk (course.start.along course.heading course.asked) (step + 1)) := by
    intro step hs
    have hf := course.free_le
    rw [course.walk_eq (by omega)]
    exact course.isOpen _ (by omega)
  have ho := obstruction_walk hw
  rw [course.walk_eq (h.trans course.free_le)] at ho
  rw [ho]
  obtain hl | he := course.free_le.lt_or_eq
  · obtain ⟨blocker, hs⟩ := course.stopsAfter hl
    rw [hs.obstruction_eq, course.walk_eq course.free_le]
    exact Or.inr ⟨blocker, rfl⟩
  · exact Or.inl ⟨he, (course.isFree he).obstruction_eq⟩

variable {course} {t : Rat}

lemma exists_steps (ht : 0 ≤ t) (hu : t ≤ 2 * course.free) (first second : Rounding) :
    ∃ steps ≤ course.free, (⟨terrain.coordinate first (course.spot t).x,
      terrain.coordinate second (course.spot t).z⟩ : Cell) =
        course.start.along course.heading steps := by
  have hs := (course.isOpen 0 (Nat.zero_le _)).1
  rw [Cell.along_zero] at hs
  exact exists_along hs (course.isOpen course.free le_rfl).1 ht hu first second

lemma isOpen_cellAt (ht : 0 ≤ t) (hu : t ≤ 2 * course.free) :
    terrain.IsOpen (terrain.cellAt (course.spot t)) := by
  obtain ⟨steps, hs, he⟩ := exists_steps ht hu .nearest .nearest
  rw [cellAt, cellOf, he]
  exact course.isOpen steps hs

theorem position_resolve (ht : 0 ≤ t) (hu : t ≤ 2 * course.free) :
    (terrain.resolve (course.spot t) course.requested).position = course.target := by
  obtain ⟨steps, hs, hh⟩ := exists_steps ht hu .nearest .nearest
  obtain ⟨entered, he, hl⟩ := exists_steps ht hu
    (.ofTravel (course.spot t).x course.requested.x)
    (.ofTravel (course.spot t).z course.requested.z)
  have hc : terrain.contains (terrain.leadingCell (course.spot t) course.requested) = true := by
    rw [leadingCell, hl]
    exact (course.isOpen entered he).1
  have hm := (course.isOpen steps hs).1
  have ho : terrain.obstruction? (terrain.clampGoal (terrain.cellAt course.requested))
      (terrain.clamp (terrain.cellAt (course.spot t))) =
    terrain.obstruction? (course.start.along course.heading course.asked)
      (course.start.along course.heading steps) := by
    rw [requested, spot_steps, clampGoal_cellAt_center, cellAt, cellOf, hh, clamp_eq hm,
      obstruction_clampGoal hm]
  obtain ⟨hf, hn⟩ | ⟨blocker, hb⟩ := course.obstruction_eq hs
  · rw [resolve_of_none hc (ho.trans hn), target, hf]
    rfl
  · rw [position_resolve_of_some hc (ho.trans hb), target, spot_steps]

end Course

end Terrain

end RobotPuzzle
