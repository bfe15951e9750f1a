import Mathlib.Data.Nat.Find
import Mathlib.Tactic.Common
import RobotPuzzle.Puzzle.Catalog
import RobotPuzzle.Terrain.Move

/-! How far a move may go is told by the walk, cell by cell, toward the cell it asks for, however
far beyond the edge that one lies. -/

namespace RobotPuzzle

namespace Cell

def walk (start goal : Cell) : Nat → Cell
  | 0 => start
  | steps + 1 => (start.walk goal steps).stepToward goal

variable {start goal : Cell}

lemma distance_eq_zero {a b : Cell} : a.distance b = 0 ↔ a = b := by
  obtain ⟨x, z⟩ := a
  obtain ⟨x', z'⟩ := b
  simp only [distance, mk.injEq]
  omega

lemma stepToward_self (cell : Cell) : cell.stepToward cell = cell := by
  simp [stepToward]

lemma distance_walk (steps : Nat) :
    (start.walk goal steps).distance goal = start.distance goal - steps := by
  induction steps with
  | zero => rfl
  | succ steps ih =>
    by_cases h : start.walk goal steps = goal
    · have hd := distance_eq_zero.mpr h
      rw [walk, h, stepToward_self, distance_eq_zero.mpr rfl]
      omega
    · have hs := distance_stepToward (start.walk goal steps) goal h
      rw [walk]
      omega

lemma walk_eq_goal_iff {steps : Nat} :
    start.walk goal steps = goal ↔ start.distance goal ≤ steps := by
  rw [← distance_eq_zero, distance_walk, Nat.sub_eq_zero_iff_le]

lemma walk_eq_start_iff {steps : Nat} (h : start.walk goal steps ≠ goal) :
    start.walk goal steps = start ↔ steps = 0 := by
  constructor
  · intro hs
    have hd := congrArg (·.distance goal) hs
    have hp := walk_eq_goal_iff.not.mp h
    simp only [distance_walk] at hd
    omega
  · rintro rfl
    rfl

end Cell

namespace Terrain

def IsOpen (terrain : Terrain) (cell : Cell) : Prop :=
  terrain.contains cell = true ∧ ∀ obstacle ∈ terrain.obstacles, obstacle.contains cell = false

inductive Blocks (terrain : Terrain) (cell : Cell) : Blocker → Prop
  | edge : terrain.contains cell = false → Blocks terrain cell .edge
  | obstacle {index obstacle} : terrain.contains cell = true →
      terrain.obstacles[index]? = some obstacle → obstacle.contains cell = true →
      (∀ earlier ∈ terrain.obstacles.take index, earlier.contains cell = false) →
      Blocks terrain cell (.obstacle index)

variable {terrain : Terrain} {cell start goal : Cell}

instance : Decidable (terrain.IsOpen cell) := inferInstanceAs (Decidable (_ ∧ _))

lemma blockerAt_eq_none_iff : terrain.blockerAt cell = none ↔ terrain.IsOpen cell := by
  rw [blockerAt, IsOpen]
  cases terrain.contains cell with
  | true => simp
  | false => simp

lemma blockerAt_eq_some_iff {blocker : Blocker} :
    terrain.blockerAt cell = some blocker ↔ terrain.Blocks cell blocker := by
  rw [blockerAt]
  constructor
  · intro h
    cases hc : terrain.contains cell with
    | false =>
      rw [hc] at h
      obtain rfl : .edge = blocker := Option.some.inj h
      exact .edge hc
    | true =>
      rw [hc, if_pos rfl] at h
      obtain ⟨index, hi, rfl⟩ := Option.map_eq_some_iff.mp h
      obtain ⟨hl, ho, he⟩ := List.findIdx?_eq_some_iff_getElem.mp hi
      refine .obstacle hc (List.getElem?_eq_getElem hl) ho fun earlier hm => ?_
      obtain ⟨j, hj, rfl⟩ := List.mem_take_iff_getElem.mp hm
      exact Bool.not_eq_true _ ▸ he j (Nat.lt_of_lt_of_le hj (Nat.min_le_left ..))
  · intro h
    cases h with
    | edge hc => rw [hc, if_neg Bool.false_ne_true]
    | @obstacle index obstacle hc hi ho he =>
      obtain ⟨hl, rfl⟩ := List.getElem?_eq_some_iff.mp hi
      rw [hc, if_pos rfl, Option.map_eq_some_iff]
      refine ⟨index, List.findIdx?_eq_some_iff_getElem.mpr ⟨hl, ho, fun j hj => ?_⟩, rfl⟩
      rw [he _ (List.mem_take_iff_getElem.mpr ⟨j, by omega, rfl⟩)]
      exact Bool.false_ne_true

lemma contains_iff : terrain.contains cell = true ↔
    (0 ≤ cell.x ∧ cell.x < terrain.divisions) ∧ 0 ≤ cell.z ∧ cell.z < terrain.divisions := by
  simp [contains, and_assoc]

lemma contains_clamp (cell : Cell) : terrain.contains (terrain.clamp cell) = true := by
  have := terrain.one_le_divisions
  rw [contains_iff, clamp]
  dsimp only
  omega

lemma stepToward_clampGoal (h : terrain.contains cell = true) :
    cell.stepToward (terrain.clampGoal goal) = cell.stepToward goal := by
  have hs : ∀ v g : Int, 0 ≤ v → v < terrain.divisions →
      (max (-1) (min g terrain.divisions) - v).sign = (g - v).sign := by
    intro v g hl hu
    rcases Int.lt_trichotomy g v with hg | rfl | hg
    · rw [Int.sign_eq_neg_one_of_neg (by omega), Int.sign_eq_neg_one_of_neg (by omega)]
    · rw [Int.max_eq_right (by omega), Int.min_eq_left (by omega)]
    · rw [Int.sign_eq_one_of_pos (by omega), Int.sign_eq_one_of_pos (by omega)]
  obtain ⟨⟨hx, hx'⟩, hz, hz'⟩ := contains_iff.mp h
  simp only [Cell.stepToward, clampGoal, hs cell.x goal.x hx hx', hs cell.z goal.z hz hz']

lemma eq_clampGoal_iff (h : terrain.contains cell = true) :
    cell = terrain.clampGoal goal ↔ cell = goal := by
  obtain ⟨x, z⟩ := cell
  obtain ⟨gx, gz⟩ := goal
  have hc := contains_iff.mp h
  simp only [clampGoal, Cell.mk.injEq]
  dsimp only at hc
  omega

lemma obstruction_clampGoal (h : terrain.contains start = true) :
    terrain.obstruction? (terrain.clampGoal goal) start = terrain.obstruction? goal start := by
  fun_induction terrain.obstruction? goal start with
  | case1 => rw [obstruction?, if_pos ((eq_clampGoal_iff h).mpr rfl)]
  | case2 start hg blocker hb =>
    rw [obstruction?, if_neg (mt (eq_clampGoal_iff h).mp hg), stepToward_clampGoal h]
    simp only [hb]
  | case3 start hg hb ih =>
    rw [obstruction?, if_neg (mt (eq_clampGoal_iff h).mp hg), stepToward_clampGoal h]
    simp only [hb]
    exact ih (blockerAt_eq_none_iff.mp hb).1

lemma obstruction_goal : terrain.obstruction? goal goal = none := by
  rw [obstruction?, if_pos rfl]

lemma obstruction_of_isOpen (h : terrain.IsOpen (start.stepToward goal)) :
    terrain.obstruction? goal start = terrain.obstruction? goal (start.stepToward goal) := by
  by_cases hg : start = goal
  · rw [hg, Cell.stepToward_self]
  · rw [obstruction?, if_neg hg]
    simp only [blockerAt_eq_none_iff.mpr h]

lemma obstruction_of_blocks {blocker : Blocker} (hg : start ≠ goal)
    (h : terrain.Blocks (start.stepToward goal) blocker) :
    terrain.obstruction? goal start = some (start, blocker) := by
  rw [obstruction?, if_neg hg]
  simp only [blockerAt_eq_some_iff.mpr h]

lemma obstruction_walk {steps : Nat}
    (h : ∀ step < steps, terrain.IsOpen (start.walk goal (step + 1))) :
    terrain.obstruction? goal (start.walk goal steps) = terrain.obstruction? goal start := by
  induction steps with
  | zero => rfl
  | succ steps ih =>
    rw [Cell.walk, ← obstruction_of_isOpen (h steps (Nat.lt_succ_self steps))]
    exact ih fun step hs => h step (Nat.lt_succ_of_lt hs)

def IsFree (terrain : Terrain) (start goal : Cell) : Prop :=
  ∀ steps, start.walk goal steps ≠ goal → terrain.IsOpen (start.walk goal (steps + 1))

/-- The step after the first `steps` is the first one into a blocked cell. -/
structure StopsAfter (terrain : Terrain) (start goal : Cell) (steps : Nat) (blocker : Blocker) :
    Prop where
  ne_goal : start.walk goal steps ≠ goal
  isOpen : ∀ step < steps, terrain.IsOpen (start.walk goal (step + 1))
  blocks : terrain.Blocks (start.walk goal (steps + 1)) blocker

lemma IsFree.obstruction_eq (h : terrain.IsFree start goal) :
    terrain.obstruction? goal start = none := by
  have hw : start.walk goal (start.distance goal) = goal := Cell.walk_eq_goal_iff.mpr le_rfl
  have ho : ∀ step < start.distance goal, terrain.IsOpen (start.walk goal (step + 1)) :=
    fun step hs => h step (Cell.walk_eq_goal_iff.not.mpr (Nat.not_le_of_lt hs))
  rw [← obstruction_walk ho, hw, obstruction_goal]

lemma StopsAfter.obstruction_eq {steps : Nat} {blocker : Blocker}
    (h : terrain.StopsAfter start goal steps blocker) :
    terrain.obstruction? goal start = some (start.walk goal steps, blocker) := by
  rw [← obstruction_walk h.isOpen]
  exact obstruction_of_blocks h.ne_goal h.blocks

lemma isFree_or_stopsAfter (terrain : Terrain) (start goal : Cell) :
    terrain.IsFree start goal ∨ ∃ steps blocker, terrain.StopsAfter start goal steps blocker := by
  by_cases hf : terrain.IsFree start goal
  · exact Or.inl hf
  · have hn := not_forall.mp hf
    obtain ⟨hg, hb⟩ := Classical.not_imp.mp (Nat.find_spec hn)
    have hl : ∀ step < Nat.find hn, terrain.IsOpen (start.walk goal (step + 1)) := by
      intro step hs
      refine Classical.not_not.mp (Nat.find_min hn hs) fun he => hg ?_
      rw [Cell.walk_eq_goal_iff] at he ⊢
      omega
    cases hk : terrain.blockerAt (start.walk goal (Nat.find hn + 1)) with
    | none => exact absurd (blockerAt_eq_none_iff.mp hk) hb
    | some blocker => exact Or.inr ⟨_, blocker, hg, hl, blockerAt_eq_some_iff.mp hk⟩

lemma IsFree.isOpen_goal (h : terrain.IsFree start goal) (ho : terrain.IsOpen start) :
    terrain.IsOpen goal := by
  cases hd : start.distance goal with
  | zero => rwa [← Cell.distance_eq_zero.mp hd]
  | succ steps =>
    have hw : start.walk goal (steps + 1) = goal := Cell.walk_eq_goal_iff.mpr (Nat.le_of_eq hd)
    rw [← hw]
    exact h steps (Cell.walk_eq_goal_iff.not.mpr (by omega))

lemma StopsAfter.isOpen_last {steps : Nat} {blocker : Blocker}
    (h : terrain.StopsAfter start goal steps blocker) (ho : terrain.IsOpen start) :
    terrain.IsOpen (start.walk goal steps) := by
  cases steps with
  | zero => exact ho
  | succ steps => exact h.isOpen steps (Nat.lt_succ_self steps)

section Resolve

variable {α : Type} [Scalar α] {current requested : Position α}

lemma resolve_of_leaving (h : terrain.contains (terrain.leadingCell current requested) = false) :
    terrain.resolve current requested =
      .clamped (terrain.center (terrain.clamp (terrain.cellAt current))) .edge := by
  rw [resolve, h, if_neg Bool.false_ne_true]

lemma resolve_of_none (h : terrain.contains (terrain.leadingCell current requested) = true)
    (ho : terrain.obstruction? (terrain.clampGoal (terrain.cellAt requested))
      (terrain.clamp (terrain.cellAt current)) = none) :
    terrain.resolve current requested = .clear requested := by
  simp only [resolve, h, if_true, ho]

lemma resolve_of_some {blocker : Blocker}
    (h : terrain.contains (terrain.leadingCell current requested) = true)
    (ho : terrain.obstruction? (terrain.clampGoal (terrain.cellAt requested))
      (terrain.clamp (terrain.cellAt current)) = some (cell, blocker)) :
    terrain.resolve current requested =
      if cell = terrain.clamp (terrain.cellAt current) then .clamped (terrain.center cell) blocker
      else .shortened (terrain.center cell) blocker := by
  simp only [resolve, h, if_true, ho]
  split
  · rename_i he
    rw [he]
  · rfl

lemma position_resolve_of_some {blocker : Blocker}
    (h : terrain.contains (terrain.leadingCell current requested) = true)
    (ho : terrain.obstruction? (terrain.clampGoal (terrain.cellAt requested))
      (terrain.clamp (terrain.cellAt current)) = some (cell, blocker)) :
    (terrain.resolve current requested).position = terrain.center cell := by
  rw [resolve_of_some h ho]
  split <;> rfl

/-- Where a move may go is where the walk toward the cell it asks for ends, unless the robot has
already left the map; and so an open cell is left for open cells only. -/
theorem resolve_eq_walk (terrain : Terrain) (current requested : Position α) :
    let here := terrain.clamp (terrain.cellAt current)
    let goal := terrain.cellAt requested
    (terrain.contains (terrain.leadingCell current requested) = false →
      terrain.resolve current requested = .clamped (terrain.center here) .edge) ∧
    (terrain.contains (terrain.leadingCell current requested) = true →
      (terrain.resolve current requested = .clear requested ↔ terrain.IsFree here goal) ∧
      (¬ terrain.IsFree here goal → ∃ steps blocker,
        terrain.StopsAfter here goal steps blocker ∧
        terrain.resolve current requested =
          if steps = 0 then .clamped (terrain.center here) blocker
          else .shortened (terrain.center (here.walk goal steps)) blocker)) ∧
    (terrain.IsOpen here →
      terrain.resolve current requested = .clear requested ∧ terrain.IsOpen goal ∨
      ∃ cell, terrain.IsOpen cell ∧
        (terrain.resolve current requested).position = terrain.center cell) := by
  intro here goal
  cases hc : terrain.contains (terrain.leadingCell current requested) with
  | false =>
    have hr := resolve_of_leaving hc
    exact ⟨fun _ => hr, fun h => absurd h Bool.false_ne_true,
      fun ho => Or.inr ⟨here, ho, congrArg Resolved.position hr⟩⟩
  | true =>
    have hg : terrain.obstruction? (terrain.clampGoal goal) here = terrain.obstruction? goal here :=
      obstruction_clampGoal (contains_clamp _)
    obtain hf | ⟨steps, blocker, hs⟩ := isFree_or_stopsAfter terrain here goal
    · have hr := resolve_of_none hc (hg.trans hf.obstruction_eq)
      exact ⟨fun h => absurd h Bool.noConfusion,
        fun _ => ⟨iff_of_true hr hf, fun hn => absurd hf hn⟩,
        fun ho => Or.inl ⟨hr, hf.isOpen_goal ho⟩⟩
    · have ho := hg.trans hs.obstruction_eq
      have hr := resolve_of_some hc ho
      have hn : ¬ terrain.IsFree here goal := fun hf =>
        absurd (hf.obstruction_eq.symm.trans hs.obstruction_eq) (by simp)
      refine ⟨fun h => absurd h Bool.noConfusion,
        fun _ => ⟨iff_of_false ?_ hn, fun _ => ⟨steps, blocker, hs, ?_⟩⟩,
        fun hh => Or.inr ⟨_, hs.isOpen_last hh, position_resolve_of_some hc ho⟩⟩
      · rw [hr]
        split <;> exact fun he => nomatch he
      · have he := Cell.walk_eq_start_iff hs.ne_goal
        by_cases hz : steps = 0
        · rw [hr, if_pos hz, if_pos (he.mpr hz), he.mpr hz]
        · rw [hr, if_neg hz, if_neg (mt he.mp hz)]

end Resolve

theorem resolve_eq_walk_far :
    let terrain := Puzzle.level1Phase6.terrain
    let current : Position Rat := ⟨-9, 1 / 4⟩
    let requested : Position Rat := ⟨-9, -8000000000⟩
    terrain.contains (terrain.leadingCell current requested) = true ∧
    ∃ steps blocker, terrain.StopsAfter ⟨0, 5⟩ (terrain.cellAt requested) steps blocker ∧
      terrain.resolve current requested =
        if steps = 0 then .clamped (terrain.center ⟨0, 5⟩) blocker
        else .shortened
          (terrain.center ((⟨0, 5⟩ : Cell).walk (terrain.cellAt requested) steps)) blocker := by
  intro terrain current requested
  have hc : terrain.contains (terrain.leadingCell current requested) = true := by decide +kernel
  have hh : terrain.clamp (terrain.cellAt current) = ⟨0, 5⟩ := by decide +kernel
  have hn : ¬ terrain.IsFree ⟨0, 5⟩ (terrain.cellAt requested) := fun hf =>
    absurd (hf 5 (by decide +kernel)) (by decide +kernel)
  rw [← hh] at hn ⊢
  exact ⟨hc, ((resolve_eq_walk terrain current requested).2.1 hc).2 hn⟩

end Terrain

end RobotPuzzle
