import RobotPuzzle.Proofs.Game.Mirror
import RobotPuzzle.Proofs.Scene.Alternation

/-! Blinking fires that have come out of step. Whatever has been put out in the meantime, an
alternation brings all of them back into step with the first fire of the lit set. -/

namespace RobotPuzzle

namespace Terrain

lemma hazard_foldl_setActive (terrain : Terrain) (kind : HazardKind) (ids : List Nat)
    (active : Bool) (other : HazardKind) (i : Nat) :
    (ids.foldl (fun terrain id => terrain.setActive kind id active) terrain).hazard? other i =
      (terrain.hazard? other i).map fun hazard =>
        if other = kind ∧ i ∈ ids then { hazard with active } else hazard := by
  induction ids generalizing terrain with
  | nil => simp
  | cons id ids ih =>
    rw [List.foldl_cons, ih, hazard_setActive, Option.map_map]
    congr 1
    funext hazard
    by_cases hk : other = kind
    · by_cases hi : id = i
      · subst hi
        simp [hk]
      · simp [hk, hi, Ne.symm hi]
    · simp [hk]

lemma foldl_setActive_fire (terrain : Terrain) (ids : List Nat) (active : Bool) :
    let after := ids.foldl (fun terrain id => terrain.setActive .fire id active) terrain
    after = { terrain with fires := after.fires } := by
  induction ids generalizing terrain with
  | nil => rfl
  | cons id ids ih => exact ih (terrain.setActive .fire id active)

end Terrain

namespace Flicker

variable (flicker : Flicker) (lit : Bool) (terrain : Terrain)

lemma hazard_apply (i : Nat) : (flicker.apply lit terrain).hazard? .fire i =
    (terrain.hazard? .fire i).map fun fire =>
      if i ∈ flicker.dark then { fire with active := !lit }
      else if i ∈ flicker.lit then { fire with active := lit } else fire := by
  rw [apply, Terrain.hazard_foldl_setActive, Terrain.hazard_foldl_setActive, Option.map_map]
  congr 1
  funext fire
  by_cases hl : i ∈ flicker.lit <;> by_cases hd : i ∈ flicker.dark <;> simp [hl, hd]

lemma apply_eq : flicker.apply lit terrain =
    { terrain with fires := (flicker.apply lit terrain).fires } := by
  rw [apply, Terrain.foldl_setActive_fire, Terrain.foldl_setActive_fire]

end Flicker

def Puzzle.blinking (puzzle : Puzzle) : Flicker := puzzle.flicker.getD ⟨[], []⟩

namespace Scene

variable {α : Type} {scene : Scene α} {puzzle : Puzzle} {flicker : Flicker}

structure Switches (flicker : Flicker) (burns : Bool) (scene : Scene α)
    (result : Scene α × List (Event α)) : Prop where
  lit : ∀ id ∈ flicker.lit, ∃ fire, scene.terrain.hazard? .fire id = some fire ∧
    result.1.terrain.hazard? .fire id = some { fire with active := burns }
  dark : ∀ id ∈ flicker.dark, ∃ fire, scene.terrain.hazard? .fire id = some fire ∧
    result.1.terrain.hazard? .fire id = some { fire with active := !burns }
  others : ∀ id, id ∉ flicker.lit → id ∉ flicker.dark →
    result.1.terrain.hazard? .fire id = scene.terrain.hazard? .fire id
  events_eq : result.2 =
    flicker.lit.map (fun id => .visibility (.hazard .fire id) burns) ++
      flicker.dark.map fun id => .visibility (.hazard .fire id) !burns
  frame : result.1 =
    { scene with terrain := { scene.terrain with fires := result.1.terrain.fires } }

lemma hazardEvents_eq_map {terrain : Terrain} {kind : HazardKind} {ids : List Nat} {active : Bool}
    (h : ∀ id ∈ ids, ∃ cell, terrain.hazard? kind id = some ⟨cell, active⟩) :
    (hazardEvents terrain kind ids : List (Event α)) =
      ids.map fun id => .visibility (.hazard kind id) active := by
  induction ids with
  | nil => rfl
  | cons id ids ih =>
    obtain ⟨⟨cell, hc⟩, hr⟩ := List.forall_mem_cons.mp h
    have hs := ih hr
    rw [hazardEvents] at hs ⊢
    rw [List.filterMap_cons, hc, Option.map_some, List.map_cons, hs]

lemma switches (he : ∀ id ∈ flicker.lit ++ flicker.dark,
      ∃ fire, scene.terrain.hazard? .fire id = some fire)
    (hd : flicker.lit.Disjoint flicker.dark) (burns : Bool) :
    let terrain := flicker.apply burns scene.terrain
    scene.Switches flicker burns
      ({ scene with terrain }, hazardEvents terrain .fire (flicker.lit ++ flicker.dark)) := by
  intro terrain
  obtain ⟨hl, hk⟩ := List.forall_mem_append.mp he
  have hf : ∀ id, terrain.hazard? .fire id = _ := flicker.hazard_apply burns scene.terrain
  have hlit : ∀ id ∈ flicker.lit, ∃ fire, scene.terrain.hazard? .fire id = some fire ∧
      terrain.hazard? .fire id = some { fire with active := burns } := by
    intro id hm
    obtain ⟨fire, hh⟩ := hl id hm
    exact ⟨fire, hh, by rw [hf, hh, Option.map_some, if_neg (hd hm), if_pos hm]⟩
  have hdark : ∀ id ∈ flicker.dark, ∃ fire, scene.terrain.hazard? .fire id = some fire ∧
      terrain.hazard? .fire id = some { fire with active := !burns } := by
    intro id hm
    obtain ⟨fire, hh⟩ := hk id hm
    exact ⟨fire, hh, by rw [hf, hh, Option.map_some, if_pos hm]⟩
  refine ⟨hlit, hdark, fun id hl hk => ?_, ?_, ?_⟩
  · simp only [hf, if_neg hl, if_neg hk, Option.map_id']
  · rw [hazardEvents, List.filterMap_append]
    refine congrArg₂ _ (hazardEvents_eq_map fun id hm => ?_) (hazardEvents_eq_map fun id hm => ?_)
    · obtain ⟨fire, -, hh⟩ := hlit id hm
      exact ⟨fire.cell, hh⟩
    · obtain ⟨fire, -, hh⟩ := hdark id hm
      exact ⟨fire.cell, hh⟩
  · exact congrArg (fun terrain => { scene with terrain }) (flicker.apply_eq burns scene.terrain)

lemma IsOf.alternate_eq (h : scene.IsOf puzzle) :
    let flicker := puzzle.blinking
    let terrain := flicker.apply (!isLit scene.terrain flicker) scene.terrain
    scene.alternate =
      ({ scene with terrain }, hazardEvents terrain .fire (flicker.lit ++ flicker.dark)) := by
  obtain rfl := h.puzzle_eq
  rw [Scene.alternate, Puzzle.blinking]
  cases scene.puzzle.flicker <;> rfl

lemma IsOf.exists_fire (h : scene.IsOf puzzle) {id : Nat} (hi : id < puzzle.fires.length) :
    ∃ fire, scene.terrain.hazard? .fire id = some fire := by
  have hr : puzzle.terrain.hazard? .fire id = _ :=
    h.rearm_eq ▸ scene.terrain.hazard_rearm .fire id
  have hs : (puzzle.terrain.hazard? .fire id).isSome := by
    simpa [Terrain.hazard?, Terrain.hazards, Puzzle.terrain] using hi
  rw [hr, Option.isSome_map] at hs
  exact Option.isSome_iff_exists.mp hs

end Scene

variable {α : Type} [Scalar α]

/-- However the fires have come out of step, an alternation brings them back: the lit set burns if
its first fire did not, or if there is none, and the dark set does the opposite. -/
theorem Puzzle.alternation_resynchronizes (puzzle : Puzzle) (pace : Pace α)
    (hi : ∀ id ∈ puzzle.blinking.lit ++ puzzle.blinking.dark, id < puzzle.fires.length)
    (hd : puzzle.blinking.lit.Disjoint puzzle.blinking.dark) (calls : List (Call α)) :
    let scene := ((puzzle.table pace).after calls).game.scene
    ∃ burns : Bool,
      (puzzle.blinking.lit = [] → burns = true) ∧
      (∀ first, puzzle.blinking.lit.head? = some first →
        ∃ cell, scene.terrain.hazard? .fire first = some ⟨cell, !burns⟩) ∧
      scene.Switches puzzle.blinking burns scene.alternate := by
  intro scene
  have ho : scene.IsOf puzzle := Table.isOf_after (Scene.isOf_scene puzzle) calls
  have he : ∀ id ∈ puzzle.blinking.lit ++ puzzle.blinking.dark,
      ∃ fire, scene.terrain.hazard? .fire id = some fire := fun id hm => ho.exists_fire (hi id hm)
  refine ⟨!Scene.isLit scene.terrain puzzle.blinking, fun hn => ?_, fun first hf => ?_, ?_⟩
  · rw [Scene.isLit, hn]
    rfl
  · obtain ⟨fire, hh⟩ := he first (List.mem_append_left _ (List.mem_of_head? hf))
    have hb : Scene.isLit scene.terrain puzzle.blinking = fire.active := by
      rw [Scene.isLit, hf, Option.bind_some, hh, Option.any_some]
    exact ⟨fire.cell, by rw [hh, hb, Bool.not_not]⟩
  · rw [ho.alternate_eq]
    exact Scene.switches he hd _

theorem Puzzle.alternation_resynchronizes_doused :
    let flicker : Flicker := ⟨[0, 2, 0], [1]⟩
    let puzzle : Puzzle :=
      { id := "hearth", title := "Hearth", start := ⟨1, 1⟩
        fires := [⟨0, 1⟩, ⟨2, 1⟩, ⟨1, 0⟩, ⟨5, 5⟩], flicker := some flicker }
    let code := "se(pegandoFogo())\napagarFogoECobrirBuraco()"
    let calls : List (Call Rat) := [.start code, .tick 0]
    let scene := ((puzzle.table Pace.standard).after calls).game.scene
    (∀ id ∈ flicker.lit ++ flicker.dark, id < puzzle.fires.length) ∧
    flicker.lit.Disjoint flicker.dark ∧
    scene.terrain.flags .fire = [false, false, true, true] ∧
    scene.Switches flicker true scene.alternate ∧
    scene.alternate.1.terrain.flags .fire = [true, false, true, true] := by
  intro flicker puzzle code calls scene
  have hi : ∀ id ∈ flicker.lit ++ flicker.dark, id < puzzle.fires.length := by decide
  have hn : ∀ id ∈ flicker.lit, id ∉ flicker.dark := by decide
  have hd : flicker.lit.Disjoint flicker.dark := fun id => hn id
  obtain ⟨burns, -, hf, hs⟩ := puzzle.alternation_resynchronizes Pace.standard hi hd calls
  have hz : scene.terrain.hazard? .fire 0 = some ⟨⟨0, 1⟩, false⟩ := by decide +kernel
  obtain ⟨cell, hc⟩ := hf 0 rfl
  obtain rfl : burns = true := by simpa using congrArg (·.map Hazard.active) (hz.symm.trans hc)
  exact ⟨hi, hd, by decide +kernel, hs, by decide +kernel⟩

end RobotPuzzle
