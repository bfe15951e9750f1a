import Mathlib.Algebra.Ring.Parity
import Mathlib.Logic.Function.Iterate
import RobotPuzzle.Proofs.Scene.Layout
import RobotPuzzle.Puzzle.Catalog

/-! Blinking fires after any number of alternations. Which half burns is not stored but read off the
first fire of the lit set. -/

namespace RobotPuzzle

namespace Flicker

variable (flicker : Flicker) (lit : Bool) (flags : List Bool)

lemma switch_switch (other : Bool) :
    flicker.switch lit (flicker.switch other flags) = flicker.switch lit flags := by
  apply List.ext_getElem?
  intro i
  rw [getElem_switch, getElem_switch, getElem_switch]
  split_ifs <;> simp [Function.comp_def]

/-- Whether the half with the lit set burns after so many alternations. If there is no lit fire to
tell, every alternation lights that half again. -/
def isLitAfter (count : ℕ) : Bool := flicker.lit.isEmpty || decide (Even count)

lemma isLitAfter_succ (h : flicker.lit ≠ []) (count : ℕ) :
    flicker.isLitAfter (count + 1) = !flicker.isLitAfter count := by
  rw [isLitAfter, isLitAfter, List.isEmpty_eq_false_iff.mpr h, Bool.false_or, Bool.false_or,
    ← decide_not, decide_eq_decide]
  exact Nat.even_add_one

end Flicker

namespace Scene

lemma isLit_eq {terrain : Terrain} {flicker : Flicker} {first : Nat} {rest : List Nat}
    (h : flicker.lit = first :: rest) :
    isLit terrain flicker = ((terrain.flags .fire)[first]?).any (· == true) := by
  rw [isLit, h, Terrain.flags, List.getElem?_map, Option.any_map]
  simp [Terrain.hazard?]

variable {α : Type} {scene : Scene α} {flicker : Flicker}

lemma alternate_eq (h : scene.puzzle.flicker = some flicker) :
    scene.alternate.1 =
      { scene with terrain := flicker.apply (!isLit scene.terrain flicker) scene.terrain } := by
  rw [alternate, h]

end Scene

namespace Puzzle

variable {α : Type} [Scalar α] {puzzle : Puzzle} {flicker : Flicker}

def afterAlternations (puzzle : Puzzle) (count : ℕ) : Scene α :=
  (fun scene : Scene α => scene.alternate.1)^[count] puzzle.scene

lemma isOf_afterAlternations (puzzle : Puzzle) (count : ℕ) :
    (puzzle.afterAlternations count : Scene α).IsOf puzzle := by
  induction count with
  | zero => exact Scene.isOf_scene puzzle
  | succ count ih =>
    rw [afterAlternations, Function.iterate_succ_apply']
    exact ih.alternate

lemma isLit_afterAlternations (hl : ∀ id ∈ flicker.lit, id < puzzle.fires.length)
    (hd : flicker.lit.Disjoint flicker.dark) {count : ℕ} {terrain : Terrain}
    (ht : terrain.flags .fire =
      flicker.switch (flicker.isLitAfter count) (puzzle.terrain.flags .fire)) :
    (!Scene.isLit terrain flicker) = flicker.isLitAfter (count + 1) := by
  cases hc : flicker.lit with
  | nil => simp [Scene.isLit, Flicker.isLitAfter, hc]
  | cons first rest =>
    have hm : first ∈ flicker.lit := hc ▸ List.mem_cons_self
    have hf : (puzzle.terrain.flags .fire)[first]? = some true := by
      simp [Terrain.flags, Terrain.hazards, Puzzle.terrain, List.getElem?_eq_getElem (hl first hm)]
    rw [flicker.isLitAfter_succ (by simp [hc]), Scene.isLit_eq hc, ht, Flicker.getElem_switch,
      if_neg (hd hm), if_pos hm, hf]
    simp

lemma flags_afterAlternations (hf : puzzle.flicker = some flicker)
    (hl : ∀ id ∈ flicker.lit, id < puzzle.fires.length) (hd : flicker.lit.Disjoint flicker.dark)
    (count : ℕ) : (puzzle.afterAlternations count : Scene α).terrain.flags =
      Function.update puzzle.terrain.flags .fire
        (flicker.switch (flicker.isLitAfter count) (puzzle.terrain.flags .fire)) := by
  induction count with
  | zero =>
    have hs : (puzzle.scene : Scene α).terrain = flicker.apply true puzzle.terrain := by
      rw [scene, applyFlicker, hf]
    have hz : flicker.isLitAfter 0 = true := by simp [Flicker.isLitAfter]
    rw [afterAlternations, Function.iterate_zero_apply, hs, flicker.flags_apply, hz]
  | succ count ih =>
    have hp := (isOf_afterAlternations (α := α) puzzle count).puzzle_eq
    have ht := congrFun ih .fire
    rw [Function.update_self] at ht
    rw [afterAlternations, Function.iterate_succ_apply', ← afterAlternations,
      Scene.alternate_eq (hp ▸ hf), flicker.flags_apply, isLit_afterAlternations hl hd ht, ih,
      Function.update_idem, Function.update_self, flicker.switch_switch]

theorem fires_burn_in_turn (puzzle : Puzzle) {flicker : Flicker}
    (hf : puzzle.flicker = some flicker)
    (hl : ∀ id ∈ flicker.lit ++ flicker.dark, id < puzzle.fires.length)
    (hd : flicker.lit.Disjoint flicker.dark) (count : ℕ) :
    let flags := ((fun scene : Scene α => scene.alternate.1)^[count] puzzle.scene).terrain.flags
    (∀ id ∈ flicker.lit, (flags .fire)[id]? = some (decide (Even count))) ∧
    (∀ id ∈ flicker.dark,
      (flags .fire)[id]? = some (decide (Odd count ∧ flicker.lit ≠ []))) ∧
    (∀ id < puzzle.fires.length, id ∉ flicker.lit → id ∉ flicker.dark →
      (flags .fire)[id]? = some true) ∧
    ∀ id < puzzle.holes.length, (flags .hole)[id]? = some true := by
  intro flags
  obtain ⟨hlit, hdark⟩ := List.forall_mem_append.mp hl
  have he : flags = _ := flags_afterAlternations (α := α) hf hlit hd count
  have hb : ∀ id < puzzle.fires.length, (puzzle.terrain.flags .fire)[id]? = some true := by
    intro id hi
    simp [Terrain.flags, Terrain.hazards, terrain, List.getElem?_eq_getElem hi]
  have hfire : ∀ id, (flags .fire)[id]? = _ := fun id => by
    rw [he, Function.update_self, Flicker.getElem_switch]
  refine ⟨fun id hi => ?_, fun id hi => ?_, fun id hi hnl hnd => ?_, fun id hi => ?_⟩
  · have hn : flicker.lit.isEmpty = false := by
      rw [List.isEmpty_eq_false_iff]
      exact List.ne_nil_of_mem hi
    rw [hfire, if_neg (hd hi), if_pos hi, hb id (hlit id hi), Flicker.isLitAfter, hn]
    rfl
  · rw [hfire, if_pos hi, hb id (hdark id hi), Flicker.isLitAfter]
    by_cases hn : flicker.lit = []
    · simp [hn]
    · simp [hn, List.isEmpty_eq_false_iff.mpr hn, ← Nat.not_even_iff_odd]
  · rw [hfire, if_neg hnd, if_neg hnl, hb id hi]
  · rw [he, Function.update_of_ne (by simp)]
    simp [Terrain.flags, Terrain.hazards, terrain, List.getElem?_eq_getElem hi]

theorem fires_burn_in_turn_thrice :
    let flags := ((fun scene : Scene Rat => scene.alternate.1)^[3] level2Phase2.scene).terrain.flags
    level2Phase2.flicker = some ⟨[0, 3], [1, 4]⟩ ∧
    (∀ id ∈ [0, 3] ++ [1, 4], id < level2Phase2.fires.length) ∧
    List.Disjoint [0, 3] [1, 4] ∧
    (flags .fire)[3]? = some false ∧ (flags .fire)[4]? = some true ∧
    (flags .fire)[2]? = some true := by
  intro flags
  have hl : ∀ id ∈ [0, 3] ++ [1, 4], id < level2Phase2.fires.length := by decide
  have hd : List.Disjoint [0, 3] [1, 4] := by
    intro id hi hn
    simp only [List.mem_cons, List.not_mem_nil, or_false] at hi hn
    omega
  obtain ⟨hlit, hdark, hother, -⟩ := fires_burn_in_turn (α := Rat) level2Phase2 rfl hl hd 3
  exact ⟨rfl, hl, hd, hlit 3 (by decide), hdark 4 (by decide),
    hother 2 (by decide) (by decide) (by decide)⟩

theorem dark_fire_stays_out :
    let flicker : Flicker := ⟨[], [0]⟩
    let puzzle : Puzzle :=
      { id := "dark", title := "Dark", start := ⟨0, 0⟩, fires := [⟨5, 5⟩], flicker := some flicker }
    let flags (count : ℕ) :=
      ((fun scene : Scene Rat => scene.alternate.1)^[count] puzzle.scene).terrain.flags
    (∀ id ∈ flicker.lit ++ flicker.dark, id < puzzle.fires.length) ∧
    flicker.lit.Disjoint flicker.dark ∧
    ¬ ∀ count : ℕ, ∀ id ∈ flicker.dark, (flags count .fire)[id]? = some true ↔ Odd count := by
  intro flicker puzzle flags
  refine ⟨by decide, fun _ hi => absurd hi List.not_mem_nil, fun h => ?_⟩
  exact absurd ((h 1 0 (by decide)).mpr odd_one) (by decide)

end Puzzle

end RobotPuzzle
