import RobotPuzzle.Proofs.Terrain.Course

namespace RobotPuzzle

namespace Terrain

variable {terrain : Terrain}

namespace Course

variable (course : terrain.Course)

def goal : Cell := terrain.cellAt course.requested

def last : Cell := course.start.along course.heading course.free

lemma target_eq : course.target = terrain.center course.last :=
  course.spot_steps course.free

lemma isOpen_last : terrain.IsOpen course.last := course.isOpen course.free le_rfl

lemma isOpen_start : terrain.IsOpen course.start := by
  have hs := course.isOpen 0 (Nat.zero_le _)
  rwa [Cell.along_zero] at hs

lemma obstruction_goal {cell : Cell} (h : terrain.contains cell = true) :
    terrain.obstruction? course.goal cell =
      terrain.obstruction? (course.start.along course.heading course.asked) cell := by
  -- A cell too far off to be told is told as another one, which lies in the same direction.
  rw [goal, requested, spot_steps, ← obstruction_clampGoal h, clampGoal_cellAt_center,
    obstruction_clampGoal h]

lemma obstruction_along {steps : Nat} (h : steps ≤ course.free) :
    terrain.obstruction? course.goal (course.start.along course.heading steps) =
      terrain.obstruction? course.goal course.start := by
  have hf := course.free_le
  have hw : ∀ step < steps, terrain.IsOpen
      (course.start.walk (course.start.along course.heading course.asked) (step + 1)) := by
    intro step hs
    rw [course.walk_eq (by omega)]
    exact course.isOpen _ (by omega)
  have ho := obstruction_walk hw
  rw [course.walk_eq (h.trans hf)] at ho
  rw [course.obstruction_goal (course.isOpen steps h).1, ho,
    course.obstruction_goal course.isOpen_start.1]

structure IsClear : Prop where
  target_eq : course.target = course.requested
  isFree : terrain.IsFree course.start course.goal
  obstruction_eq : terrain.obstruction? course.goal course.start = none

structure IsBlocked (blocker : Blocker) : Prop where
  stopsAfter : ∃ steps, terrain.StopsAfter course.start course.goal steps blocker ∧
    course.start.walk course.goal steps = course.last
  obstruction_eq : terrain.obstruction? course.goal course.start = some (course.last, blocker)

lemma isClear_or_isBlocked : course.IsClear ∨ ∃ blocker, course.IsBlocked blocker := by
  have hw := isFree_or_stopsAfter terrain course.start course.goal
  have hg := course.obstruction_goal course.isOpen_start.1
  have ho := course.obstruction_eq (Nat.zero_le _)
  rw [Cell.along_zero, ← hg] at ho
  obtain ⟨hf, hn⟩ | ⟨blocker, hs⟩ := ho
  · obtain hfree | ⟨steps, blocker, hstop⟩ := hw
    · exact Or.inl ⟨by rw [target, requested, hf], hfree, hn⟩
    · exact absurd (hn.symm.trans hstop.obstruction_eq) (Option.some_ne_none _).symm
  · obtain hfree | ⟨steps, other, hstop⟩ := hw
    · exact absurd (hfree.obstruction_eq.symm.trans hs) (Option.some_ne_none _).symm
    · obtain ⟨hl, rfl⟩ := Prod.mk.inj (Option.some.inj (hstop.obstruction_eq.symm.trans hs))
      exact Or.inr ⟨other, ⟨steps, hstop, hl⟩, hs⟩

variable {course} {t : Rat}

lemma contains_leadingCell (ht : 0 ≤ t) (hu : t ≤ 2 * course.free) :
    terrain.contains (terrain.leadingCell (course.spot t) course.requested) = true := by
  obtain ⟨entered, he, hl⟩ := exists_steps ht hu
    (.ofTravel (course.spot t).x course.requested.x)
    (.ofTravel (course.spot t).z course.requested.z)
  rw [leadingCell, hl]
  exact (course.isOpen entered he).1

lemma obstruction_spot (ht : 0 ≤ t) (hu : t ≤ 2 * course.free) :
    terrain.clamp (terrain.cellAt (course.spot t)) = terrain.cellAt (course.spot t) ∧
      terrain.obstruction? (terrain.clampGoal course.goal)
          (terrain.clamp (terrain.cellAt (course.spot t))) =
        terrain.obstruction? course.goal course.start := by
  obtain ⟨steps, hs, hc⟩ := exists_steps ht hu .nearest .nearest
  have hm := (course.isOpen steps hs).1
  rw [cellAt, cellOf, hc, clamp_eq hm, obstruction_clampGoal hm]
  exact ⟨rfl, course.obstruction_along hs⟩

lemma IsClear.resolve_eq (h : course.IsClear) (ht : 0 ≤ t) (hu : t ≤ 2 * course.free) :
    terrain.resolve (course.spot t) course.requested = .clear course.requested :=
  resolve_of_none (contains_leadingCell ht hu) ((obstruction_spot ht hu).2.trans h.obstruction_eq)

lemma IsBlocked.resolve_eq {blocker : Blocker} (h : course.IsBlocked blocker) (ht : 0 ≤ t)
    (hu : t ≤ 2 * course.free) : terrain.resolve (course.spot t) course.requested =
      if terrain.cellAt (course.spot t) = course.last then .clamped course.target blocker
      else .shortened course.target blocker := by
  obtain ⟨hc, ho⟩ := obstruction_spot ht hu
  rw [resolve_of_some (contains_leadingCell ht hu) (ho.trans h.obstruction_eq), hc, target_eq]
  simp only [eq_comm]

lemma cellAt_resolve_start {position : Position Rat}
    (hp : position = terrain.center course.start) :
    terrain.cellAt (terrain.resolve position course.requested).position = course.last := by
  rw [hp, ← spot_zero, position_resolve le_rfl (by positivity), target_eq]
  exact cellAt_center course.isOpen_last.1

end Course

/-- From wherever the robot is on its way, a move straight ahead still leads to the same place.
There the map grants what was asked for, or tells what has stopped the walk. -/
theorem destination_stays (terrain : Terrain) {cell : Cell} (ho : terrain.IsOpen cell)
    (heading : Heading) (count : Nat) :
    let start : Position Rat := terrain.center cell
    let requested := start.along heading (2 * count)
    let goal := terrain.cellAt requested
    let stop := (terrain.resolve start requested).position
    (∀ share, 0 ≤ share → share ≤ 1 →
      (terrain.resolve (start.lerp stop share) requested).position = stop) ∧
    (terrain.IsFree cell goal ∧ terrain.resolve stop requested = .clear requested ∨
      ∃ steps blocker, terrain.StopsAfter cell goal steps blocker ∧
        terrain.resolve stop requested = .clamped stop blocker) := by
  intro start requested goal stop
  obtain ⟨course, rfl, rfl, rfl⟩ := exists_course ho heading count
  have hn : (0 : Rat) ≤ 2 * course.free := by positivity
  have hstart : start = course.spot 0 := course.spot_zero.symm
  have hstop : stop = course.target := by
    simp only [stop, hstart]
    exact Course.position_resolve le_rfl hn
  have hlast : terrain.cellAt course.target = course.last := by
    rw [course.target_eq]
    exact cellAt_center course.isOpen_last.1
  constructor
  · intro share hl hu
    have hs : start.lerp stop share = course.spot (2 * course.free * share) := by
      rw [hstop, hstart]
      exact (Position.lerp_along _ _ _ _ _).trans (by rw [sub_zero, zero_add]; rfl)
    rw [hs, hstop]
    exact Course.position_resolve (mul_nonneg hn hl) (mul_le_of_le_one_right hn hu)
  · rw [hstop]
    obtain hc | ⟨blocker, hb⟩ := course.isClear_or_isBlocked
    · exact Or.inl ⟨hc.isFree, hc.resolve_eq hn le_rfl⟩
    · obtain ⟨steps, hs, -⟩ := hb.stopsAfter
      exact Or.inr ⟨steps, blocker, hs, (hb.resolve_eq hn le_rfl).trans (if_pos hlast)⟩

theorem destination_stays_obstacle :
    let terrain := Puzzle.level1Phase5.terrain
    let start : Position Rat := terrain.center ⟨9, 2⟩
    let requested := start.along .west (2 * (3000000000 : Nat))
    let stop := (terrain.resolve start requested).position
    terrain.IsOpen ⟨9, 2⟩ ∧
      (terrain.resolve (start.lerp stop (11 / 12)) requested).position = stop ∧
      ∃ steps blocker, terrain.StopsAfter ⟨9, 2⟩ (terrain.cellAt requested) steps blocker ∧
        terrain.resolve stop requested = .clamped stop blocker := by
  intro terrain start requested stop
  have ho : terrain.IsOpen ⟨9, 2⟩ := by decide
  have hn : ¬ terrain.IsFree ⟨9, 2⟩ (terrain.cellAt requested) := fun hf =>
    absurd (hf 3 (by decide +kernel)) (by decide +kernel)
  obtain ⟨hs, hl⟩ := destination_stays terrain ho .west 3000000000
  exact ⟨ho, hs (11 / 12) (by norm_num) (by norm_num), hl.resolve_left fun h => hn h.1⟩

end Terrain

end RobotPuzzle
