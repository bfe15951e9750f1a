import RobotPuzzle.Proofs.Terrain.Walk
import RobotPuzzle.Scalar.Binary

/-! The walk of a move in words of 32 bits. No step of it overflows, and it is over after as many
steps as the map has rows. -/

namespace RobotPuzzle

namespace Word

inductive Failure where
  | overflow
  | emptyRange
  | outOfSteps
deriving DecidableEq, Repr

def ofExact (n : Int) : Except Failure Int32 :=
  if Int32.minValue.toInt ≤ n ∧ n ≤ Int32.maxValue.toInt then .ok (.ofInt n) else .error .overflow

def add (a b : Int32) : Except Failure Int32 := ofExact (a.toInt + b.toInt)

def sub (a b : Int32) : Except Failure Int32 := ofExact (a.toInt - b.toInt)

def clamp (v low high : Int32) : Except Failure Int32 :=
  if high < low then .error .emptyRange
  else .ok (if v < low then low else if high < v then high else v)

def direction (v goal : Int32) : Int32 := if v < goal then 1 else if goal < v then -1 else 0

lemma ofExact_eq_ok {n : Int} (hl : -2147483648 ≤ n) (hu : n ≤ 2147483647) :
    ∃ w, ofExact n = .ok w ∧ w.toInt = n := by
  have hmin : Int32.minValue.toInt = -2147483648 := by decide
  have hmax : Int32.maxValue.toInt = 2147483647 := by decide
  refine ⟨.ofInt n, if_pos ⟨hmin ▸ hl, hmax ▸ hu⟩, ?_⟩
  apply Int32.toInt_ofInt_of_le
  · exact hl
  · exact Int.lt_of_le_sub_one hu

lemma toInt_direction (v goal : Int32) :
    (direction v goal).toInt = (goal.toInt - v.toInt).sign := by
  simp only [direction, Int32.lt_iff_toInt_lt]
  split
  · rename_i h
    rw [Int.sign_eq_one_of_pos (Int.sub_pos_of_lt h)]
    rfl
  · split
    · rename_i h
      rw [Int.sign_eq_neg_one_of_neg (Int.sub_neg_of_lt h)]
      rfl
    · rename_i hg hl
      rw [show goal.toInt - v.toInt = 0 by omega]
      rfl

lemma add_sign_between (v goal : Int) :
    min v goal ≤ v + (goal - v).sign ∧ v + (goal - v).sign ≤ max v goal := by
  rcases Int.lt_trichotomy goal v with h | h | h
  · rw [Int.sign_eq_neg_one_of_neg (Int.sub_neg_of_lt h)]
    omega
  · rw [h, Int.sub_self, Int.sign_zero]
    omega
  · rw [Int.sign_eq_one_of_pos (Int.sub_pos_of_lt h)]
    omega

lemma add_direction (v goal : Int32) :
    ∃ w, add v (direction v goal) = .ok w ∧ w.toInt = v.toInt + (goal.toInt - v.toInt).sign := by
  have hv := v.le_toInt
  have hv' := v.toInt_lt
  have hg := goal.le_toInt
  have hg' := goal.toInt_lt
  obtain ⟨hl, hu⟩ := add_sign_between v.toInt goal.toInt
  rw [add, toInt_direction]
  apply ofExact_eq_ok
  · omega
  · omega

lemma clamp_eq_ok {v low high : Int32} (h : low.toInt ≤ high.toInt) :
    ∃ w, clamp v low high = .ok w ∧ w.toInt = max low.toInt (min v.toInt high.toInt) := by
  rw [clamp, if_neg (by rw [Int32.lt_iff_toInt_lt]; omega)]
  refine ⟨_, rfl, ?_⟩
  simp only [Int32.lt_iff_toInt_lt]
  split
  · omega
  · split <;> omega

end Word

structure WordCell where
  x : Int32
  z : Int32
deriving DecidableEq, Repr

namespace WordCell

def toCell (cell : WordCell) : Cell := ⟨cell.x.toInt, cell.z.toInt⟩

def stepToward (cell goal : WordCell) : Except Word.Failure WordCell := do
  return ⟨← Word.add cell.x (Word.direction cell.x goal.x),
    ← Word.add cell.z (Word.direction cell.z goal.z)⟩

def clamp (cell : WordCell) (low high : Int32) : Except Word.Failure WordCell := do
  return ⟨← Word.clamp cell.x low high, ← Word.clamp cell.z low high⟩

lemma toCell_inj {cell other : WordCell} : cell.toCell = other.toCell ↔ cell = other := by
  obtain ⟨x, z⟩ := cell
  obtain ⟨x', z'⟩ := other
  simp only [toCell, Cell.mk.injEq, mk.injEq, Int32.toInt_inj]

lemma stepToward_eq_ok (cell goal : WordCell) :
    ∃ next, cell.stepToward goal = .ok next ∧ next.toCell = cell.toCell.stepToward goal.toCell := by
  obtain ⟨x, hx, hx'⟩ := Word.add_direction cell.x goal.x
  obtain ⟨z, hz, hz'⟩ := Word.add_direction cell.z goal.z
  refine ⟨⟨x, z⟩, ?_, ?_⟩
  · rw [stepToward, hx, hz]
    rfl
  · rw [toCell, hx', hz']
    rfl

lemma clamp_eq_ok (cell : WordCell) (low high : Int32) (h : low.toInt ≤ high.toInt) :
    ∃ held, cell.clamp low high = .ok held ∧
      held.toCell = ⟨max low.toInt (min cell.x.toInt high.toInt),
        max low.toInt (min cell.z.toInt high.toInt)⟩ := by
  obtain ⟨x, hx, hx'⟩ := Word.clamp_eq_ok (v := cell.x) h
  obtain ⟨z, hz, hz'⟩ := Word.clamp_eq_ok (v := cell.z) h
  refine ⟨⟨x, z⟩, ?_, ?_⟩
  · rw [clamp, hx, hz]
    rfl
  · rw [toCell, hx', hz']

end WordCell

namespace Terrain

def side (terrain : Terrain) : Int32 := .ofInt terrain.divisions

def clampInWords (terrain : Terrain) (cell : WordCell) : Except Word.Failure WordCell := do
  cell.clamp 0 (← Word.sub terrain.side 1)

def clampGoalInWords (terrain : Terrain) (cell : WordCell) : Except Word.Failure WordCell :=
  cell.clamp (-1) terrain.side

def walkInWords (terrain : Terrain) (goal : WordCell) :
    Nat → WordCell → Except Word.Failure (Option (WordCell × Blocker))
  | steps, cell =>
    if cell = goal then .ok none
    else
      match steps with
      | 0 => .error .outOfSteps
      | steps + 1 => do
        let next ← cell.stepToward goal
        match terrain.blockerAt next.toCell with
        | some blocker => .ok (some (cell, blocker))
        | none => walkInWords terrain goal steps next

variable {α : Type} [Scalar α]

def wordCellAt (terrain : Terrain) (position : Position α) : WordCell :=
  ⟨.ofInt (terrain.coordinate .nearest position.x), .ofInt (terrain.coordinate .nearest position.z)⟩

def resolveInWords (terrain : Terrain) (steps : Nat) (current requested : Position α) :
    Except Word.Failure (Resolved α) := do
  let here ← terrain.clampInWords (terrain.wordCellAt current)
  let hold := terrain.center here.toCell
  if terrain.contains (terrain.leadingCell current requested) then
    let goal ← terrain.clampGoalInWords (terrain.wordCellAt requested)
    match ← terrain.walkInWords goal steps here with
    | none => return .clear requested
    | some (cell, blocker) =>
      if cell = here then return .clamped hold blocker
      else return .shortened (terrain.center cell.toCell) blocker
  else return .clamped hold .edge

variable {terrain : Terrain}

lemma toInt_side : terrain.side.toInt = terrain.divisions := by
  have hl := terrain.one_le_divisions
  have hu := terrain.divisions_le
  apply Int32.toInt_ofInt_of_le <;> omega

lemma toCell_wordCellAt (position : Position α) :
    (terrain.wordCellAt position).toCell = terrain.cellAt position := by
  rw [WordCell.toCell, wordCellAt, coordinate, Int32.ofInt_toInt, coordinate, Int32.ofInt_toInt]
  rfl

lemma sub_side_one : ∃ last, Word.sub terrain.side 1 = .ok last ∧
    last.toInt = terrain.divisions - 1 := by
  have hl := terrain.one_le_divisions
  have hu := terrain.divisions_le
  have hone : (1 : Int32).toInt = 1 := rfl
  rw [Word.sub, toInt_side, hone]
  apply Word.ofExact_eq_ok <;> omega

lemma clampInWords_eq_ok (cell : WordCell) : ∃ held, terrain.clampInWords cell = .ok held ∧
    held.toCell = terrain.clamp cell.toCell := by
  have hl := terrain.one_le_divisions
  obtain ⟨last, hs, hs'⟩ := terrain.sub_side_one
  have hle : (0 : Int32).toInt ≤ last.toInt := by
    rw [hs', Int32.toInt_zero]
    omega
  obtain ⟨held, hc, hc'⟩ := cell.clamp_eq_ok 0 last hle
  refine ⟨held, ?_, ?_⟩
  · rw [clampInWords, hs]
    exact hc
  · rw [hc', hs', Int32.toInt_zero]
    rfl

lemma clampGoalInWords_eq_ok (cell : WordCell) :
    ∃ held, terrain.clampGoalInWords cell = .ok held ∧
      held.toCell = terrain.clampGoal cell.toCell := by
  have hl := terrain.one_le_divisions
  have hneg : (-1 : Int32).toInt = -1 := rfl
  have hle : (-1 : Int32).toInt ≤ terrain.side.toInt := by
    rw [hneg, toInt_side]
    omega
  obtain ⟨held, hc, hc'⟩ := cell.clamp_eq_ok (-1) terrain.side hle
  refine ⟨held, hc, ?_⟩
  rw [hc', hneg, toInt_side]
  rfl

lemma walkInWords_eq_ok {steps : Nat} {cell goal : WordCell}
    (h : cell.toCell.distance goal.toCell ≤ steps) :
    ∃ result, terrain.walkInWords goal steps cell = .ok result ∧
      result.map (fun (last, blocker) => (last.toCell, blocker)) =
        terrain.obstruction? goal.toCell cell.toCell := by
  induction steps generalizing cell with
  | zero =>
    have hc := WordCell.toCell_inj.mp (Cell.distance_eq_zero.mp (Nat.le_zero.mp h))
    refine ⟨none, ?_, ?_⟩
    · rw [walkInWords, if_pos hc]
    · rw [hc, obstruction_goal]
      rfl
  | succ steps ih =>
    by_cases hc : cell = goal
    · refine ⟨none, ?_, ?_⟩
      · rw [walkInWords, if_pos hc]
      · rw [hc, obstruction_goal]
        rfl
    · obtain ⟨next, hn, hn'⟩ := cell.stepToward_eq_ok goal
      have hg : cell.toCell ≠ goal.toCell := mt WordCell.toCell_inj.mp hc
      have hd := Cell.distance_stepToward _ _ hg
      rw [walkInWords, if_neg hc, obstruction?, if_neg hg, ← hn', hn]
      rw [← hn'] at hd
      cases hb : terrain.blockerAt next.toCell with
      | some blocker =>
        refine ⟨some (cell, blocker), ?_, rfl⟩
        simp only [bind, Except.bind, hb]
      | none =>
        have hs : next.toCell.distance goal.toCell ≤ steps := by omega
        obtain ⟨result, hr, hr'⟩ := ih hs
        refine ⟨result, ?_, hr'⟩
        simp only [bind, Except.bind, hb]
        exact hr

lemma distance_clampGoal (cell goal : Cell) :
    ((terrain.clamp cell).distance (terrain.clampGoal goal) : Int) ≤ terrain.divisions := by
  have hc := contains_iff.mp (terrain.contains_clamp cell)
  have hd := terrain.one_le_divisions
  simp only [Cell.distance, clampGoal]
  omega

lemma resolveInWords_eq_ok {steps : Nat} (h : terrain.divisions ≤ steps)
    (current requested : Position α) :
    terrain.resolveInWords steps current requested = .ok (terrain.resolve current requested) := by
  obtain ⟨here, hh, hh'⟩ := terrain.clampInWords_eq_ok (terrain.wordCellAt current)
  obtain ⟨goal, hg, hg'⟩ := terrain.clampGoalInWords_eq_ok (terrain.wordCellAt requested)
  rw [toCell_wordCellAt] at hh' hg'
  have hd : here.toCell.distance goal.toCell ≤ steps := by
    have hd := terrain.distance_clampGoal (terrain.cellAt current) (terrain.cellAt requested)
    rw [hh', hg']
    omega
  obtain ⟨result, hw, hw'⟩ := terrain.walkInWords_eq_ok hd
  rw [resolveInWords, hh, hg]
  simp only [bind, Except.bind, hw]
  rw [hh', hg'] at hw'
  cases hc : terrain.contains (terrain.leadingCell current requested) with
  | false =>
    rw [resolve_of_leaving hc, if_neg Bool.false_ne_true, hh']
    rfl
  | true =>
    rw [if_pos rfl]
    cases result with
    | none =>
      rw [resolve_of_none hc hw'.symm]
      rfl
    | some found =>
      obtain ⟨cell, blocker⟩ := found
      have he : cell.toCell = terrain.clamp (terrain.cellAt current) ↔ cell = here := by
        rw [← hh', WordCell.toCell_inj]
      rw [resolve_of_some hc hw'.symm]
      by_cases hs : cell = here
      · rw [if_pos (he.mpr hs), hs]
        exact if_pos rfl
      · rw [if_neg (mt he.mp hs)]
        exact if_neg hs

lemma side_ofDivisions (divisions : Int32) (obstacles : List Obstacle) :
    ({ ofDivisions divisions.toInt with obstacles } : Terrain).side = max 1 divisions := by
  have hu := divisions.toInt_lt
  have hone : (1 : Int32).toInt = 1 := rfl
  apply Int32.toInt_inj.mp
  rw [toInt_side]
  show max 1 (min divisions.toInt 2147483647) = (if 1 ≤ divisions then divisions else 1).toInt
  simp only [Int32.le_iff_toInt_le, hone]
  split
  · omega
  · rw [hone]
    omega

/-- On a map of any size, whatever the numbers are that the positions are made of, a move is
resolved in words of 32 bits as it is in integers, within as many steps as the map has rows. -/
theorem resolve_in_words (divisions : Int32) (obstacles : List Obstacle)
    (current requested : Position α) :
    let terrain : Terrain := { ofDivisions divisions.toInt with obstacles }
    terrain.side = max 1 divisions ∧
    (∃ last, Word.sub terrain.side 1 = .ok last ∧
      (terrain.origin : α) = -Scalar.ofInt last.toInt) ∧
    (∀ cell goal : WordCell, ∃ next, cell.stepToward goal = .ok next ∧
      next.toCell = cell.toCell.stepToward goal.toCell) ∧
    ∀ steps : Nat, terrain.divisions ≤ steps →
      terrain.resolveInWords steps current requested = .ok (terrain.resolve current requested) := by
  intro terrain
  refine ⟨side_ofDivisions divisions obstacles, ?_, WordCell.stepToward_eq_ok, ?_⟩
  · obtain ⟨last, hs, hs'⟩ := terrain.sub_side_one
    refine ⟨last, hs, ?_⟩
    rw [hs']
    rfl
  · intro steps h
    exact resolveInWords_eq_ok h current requested

theorem resolve_in_words_largest :
    let terrain : Terrain :=
      { ofDivisions (2147483647 : Int32).toInt with obstacles := [⟨5, 7, 7, 7⟩] }
    terrain.resolveInWords 2147483648 (⟨2147483646, -2147483646⟩ : Position Rat)
        ⟨10000000000000, -2147483646⟩ =
      .ok (.clamped (terrain.center ⟨2147483646, 0⟩) .edge) ∧
    terrain.resolveInWords 2147483648 (⟨0 / 0, -1 / 0⟩ : Position Float) ⟨1 / 0, 0 / 0⟩ =
      .ok (terrain.resolve ⟨0 / 0, -1 / 0⟩ ⟨1 / 0, 0 / 0⟩) := by
  intro terrain
  have hs : terrain.divisions ≤ (2147483648 : Nat) := by decide
  have hall {α : Type} [Scalar α] (current requested : Position α) :=
    (resolve_in_words 2147483647 [⟨5, 7, 7, 7⟩] current requested).2.2.2 2147483648 hs
  refine ⟨?_, hall _ _⟩
  have hh : terrain.clamp (terrain.cellAt (⟨2147483646, -2147483646⟩ : Position Rat)) =
      ⟨2147483646, 0⟩ := by decide +kernel
  have hg : terrain.clampGoal (terrain.cellAt (⟨10000000000000, -2147483646⟩ : Position Rat)) =
      ⟨2147483647, 0⟩ := by decide +kernel
  have ho : terrain.obstruction? ⟨2147483647, 0⟩ ⟨2147483646, 0⟩ =
      some (⟨2147483646, 0⟩, .edge) :=
    obstruction_of_blocks (by decide) (.edge (by decide))
  rw [hall, resolve_of_some (by decide +kernel) (by rw [hh, hg]; exact ho), hh, if_pos rfl]

end Terrain

end RobotPuzzle
