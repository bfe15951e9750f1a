import RobotPuzzle.Proofs.Terrain.Destination

namespace RobotPuzzle

open Rational

def Heading.Reaches (heading : Heading) (t : Rat) (count : Nat) : Prop :=
  match heading with
  | .east | .south => 2 * count - 3 / 2 ≤ t
  | .west | .north => 2 * count - 1 / 2 < t

lemma Heading.Reaches.anti {heading : Heading} {t : Rat} {count steps : Nat}
    (h : heading.Reaches t steps) (hl : count ≤ steps) : heading.Reaches t count := by
  have hc : (count : Rat) ≤ steps := by exact_mod_cast hl
  cases heading <;>
    simp only [Reaches] at h ⊢ <;>
    linarith

lemma Heading.reaches_of_le_add_two {heading : Heading} {t u : Rat} {count : Nat} (h : u ≤ t + 2)
    (hr : heading.Reaches u (count + 1)) : heading.Reaches t count := by
  cases heading <;>
    simp only [Reaches] at hr ⊢ <;>
    push_cast at hr <;>
    linarith

lemma Cell.distance_along (cell : Cell) (heading : Heading) (steps : Nat) :
    cell.distance (cell.along heading steps) = steps := by
  cases heading <;> simp [distance, along, Heading.step]

namespace Terrain

variable {terrain : Terrain}

lemma coordinate_nearest_iff {v : Rat} {n : Int} (hl : 0 ≤ n) (hu : n < terrain.divisions) :
    terrain.coordinate .nearest v = n ↔
      terrain.origin + 2 * n - 3 / 2 ≤ v ∧ v < terrain.origin + 2 * n + 1 / 2 := by
  have hd := terrain.divisions_le
  rw [← scale_nearest_iff, coordinate_eq, hold]
  omega

namespace Course

def passed (course : terrain.Course) (t : Rat) : Nat :=
  course.start.distance (terrain.cellAt (course.spot t))

variable {course : terrain.Course} {t u : Rat} {count : Nat}

lemma passed_eq (hc : terrain.cellAt (course.spot t) = course.start.along course.heading count) :
    course.passed t = count := by
  rw [passed, hc, Cell.distance_along]

lemma cellAt_spot (ht : 0 ≤ t) (hu : t ≤ 2 * course.free) :
    terrain.cellAt (course.spot t) = course.start.along course.heading (course.passed t) := by
  obtain ⟨steps, -, hc⟩ := exists_steps ht hu .nearest .nearest
  have hc : terrain.cellAt (course.spot t) = _ := hc
  rw [passed_eq hc, hc]

lemma passed_le (ht : 0 ≤ t) (hu : t ≤ 2 * course.free) : course.passed t ≤ course.free := by
  obtain ⟨steps, hs, hc⟩ := exists_steps ht hu .nearest .nearest
  rwa [passed_eq hc]

lemma reaches_passed (ht : 0 ≤ t) (hu : t ≤ 2 * course.free) :
    course.heading.Reaches t (course.passed t) ∧
      ¬ course.heading.Reaches t (course.passed t + 1) := by
  have hc := cellAt_spot ht hu
  obtain ⟨⟨hx, hx'⟩, hz, hz'⟩ := contains_iff.mp (course.isOpen _ (passed_le ht hu)).1
  generalize course.passed t = steps at hc hx hx' hz hz' ⊢
  obtain ⟨hxl, hxu⟩ := (coordinate_nearest_iff hx hx').mp (congrArg Cell.x hc)
  obtain ⟨hzl, hzu⟩ := (coordinate_nearest_iff hz hz').mp (congrArg Cell.z hc)
  cases hd : course.heading <;>
    simp only [hd, spot, center_eq, Position.along, Cell.along, Heading.step,
      Heading.Reaches, not_le, not_lt] at hxl hxu hzl hzu ⊢ <;>
    push_cast at hxl hxu hzl hzu ⊢ <;>
    constructor <;> linarith

lemma le_passed_iff (ht : 0 ≤ t) (hu : t ≤ 2 * course.free) :
    count ≤ course.passed t ↔ course.heading.Reaches t count := by
  obtain ⟨hr, hn⟩ := reaches_passed ht hu
  refine ⟨hr.anti, fun h => ?_⟩
  by_contra hl
  exact hn (h.anti (not_le.mp hl))

lemma passed_mono (ht : 0 ≤ t) (htu : t ≤ u) (hu : u ≤ 2 * course.free) :
    course.passed t ≤ course.passed u := by
  have hr := (le_passed_iff ht (htu.trans hu)).mp le_rfl
  refine (le_passed_iff (ht.trans htu) hu).mpr ?_
  cases hd : course.heading <;>
    simp only [hd, Heading.Reaches] at hr ⊢ <;>
    linarith

lemma passed_zero (course : terrain.Course) : course.passed 0 = 0 := by
  refine passed_eq ?_
  rw [spot_zero, cellAt_center course.isOpen_start.1, Cell.along_zero]

lemma passed_of_near (ht : 0 ≤ t) (hu : t ≤ 2 * course.free) (h : 2 * course.free - t < 1 / 2) :
    course.passed t = course.free := by
  refine le_antisymm (passed_le ht hu) ((le_passed_iff ht hu).mpr ?_)
  cases course.heading <;>
    simp only [Heading.Reaches] <;>
    linarith

end Course

end Terrain

end RobotPuzzle
