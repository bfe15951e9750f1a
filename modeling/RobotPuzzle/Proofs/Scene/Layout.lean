import RobotPuzzle.Proofs.Scene.Telling

/-! A scene keeps the layout of its puzzle, so that a reset leads to the starting scene from
everywhere. -/

namespace RobotPuzzle

namespace Terrain

lemma map_rearm (hazards : List Hazard) (id : Nat) (active : Bool) :
    (hazards.modify id fun hazard => { hazard with active }).map
        (fun hazard => ({ hazard with active := true } : Hazard)) =
      hazards.map fun hazard => { hazard with active := true } := by
  apply List.ext_getElem?
  intro i
  rw [List.getElem?_map, List.getElem?_modify, List.getElem?_map]
  by_cases hi : id = i
  · cases hazards[i]? <;> simp [hi]
  · simp [hi]

lemma rearm_setActive (terrain : Terrain) (kind : HazardKind) (id : Nat) (active : Bool) :
    (terrain.setActive kind id active).rearm = terrain.rearm := by
  cases kind with
  | hole => simp [setActive, mapHazards, rearm, map_rearm]
  | fire => simp [setActive, mapHazards, rearm, map_rearm]

lemma rearm_foldl_setActive (ids : List Nat) (terrain : Terrain) (kind : HazardKind)
    (active : Bool) :
    (ids.foldl (fun terrain id => terrain.setActive kind id active) terrain).rearm =
      terrain.rearm := by
  induction ids generalizing terrain with
  | nil => rfl
  | cons id ids ih => rw [List.foldl_cons, ih, rearm_setActive]

lemma hazard_rearm (terrain : Terrain) (kind : HazardKind) (id : Nat) :
    terrain.rearm.hazard? kind id =
      (terrain.hazard? kind id).map fun hazard => { hazard with active := true } := by
  cases kind <;> exact List.getElem?_map ..

lemma length_flags_rearm (terrain : Terrain) (kind : HazardKind) :
    (terrain.rearm.flags kind).length = (terrain.flags kind).length := by
  cases kind <;> simp [flags, hazards, rearm]

end Terrain

namespace Flicker

lemma rearm_apply (flicker : Flicker) (lit : Bool) (terrain : Terrain) :
    (flicker.apply lit terrain).rearm = terrain.rearm := by
  rw [apply, Terrain.rearm_foldl_setActive, Terrain.rearm_foldl_setActive]

end Flicker

namespace Puzzle

lemma rearm_terrain (puzzle : Puzzle) : puzzle.terrain.rearm = puzzle.terrain := by
  simp [terrain, Terrain.rearm]

lemma rearm_applyFlicker (puzzle : Puzzle) (lit : Bool) (terrain : Terrain) :
    (puzzle.applyFlicker lit terrain).rearm = terrain.rearm := by
  rw [applyFlicker]
  cases puzzle.flicker with
  | none => rfl
  | some flicker => exact flicker.rearm_apply lit terrain

lemma startActor_rearm {α : Type} [Scalar α] (puzzle : Puzzle) (terrain : Terrain) :
    (puzzle.startActor terrain.rearm : Actor α) = puzzle.startActor terrain := rfl

end Puzzle

namespace Scene

variable {α : Type}

structure IsOf (puzzle : Puzzle) (scene : Scene α) : Prop where
  puzzle_eq : scene.puzzle = puzzle
  rearm_eq : scene.terrain.rearm = puzzle.terrain
  length_collected : scene.collected.length = puzzle.crystals.length
  isSome_extinguishers : scene.extinguishers.isSome = puzzle.extinguishers.isSome

variable {puzzle : Puzzle} {scene : Scene α}

lemma IsOf.withActor (h : scene.IsOf puzzle) (actor : Actor α) :
    ({ scene with actor } : Scene α).IsOf puzzle :=
  ⟨h.puzzle_eq, h.rearm_eq, h.length_collected, h.isSome_extinguishers⟩

lemma IsOf.withTerrain (h : scene.IsOf puzzle) {terrain : Terrain}
    (ht : terrain.rearm = scene.terrain.rearm) : ({ scene with terrain } : Scene α).IsOf puzzle :=
  ⟨h.puzzle_eq, ht.trans h.rearm_eq, h.length_collected, h.isSome_extinguishers⟩

lemma IsOf.alternate (h : scene.IsOf puzzle) : scene.alternate.1.IsOf puzzle := by
  rw [Scene.alternate]
  cases scene.puzzle.flicker with
  | none => exact h
  | some flicker => exact h.withTerrain (flicker.rearm_apply ..)

variable [Scalar α]

lemma isOf_scene (puzzle : Puzzle) : (puzzle.scene : Scene α).IsOf puzzle where
  puzzle_eq := rfl
  rearm_eq := (puzzle.rearm_applyFlicker true puzzle.terrain).trans puzzle.rearm_terrain
  length_collected := List.length_map _
  isSome_extinguishers := rfl

lemma IsOf.reset_eq (h : scene.IsOf puzzle) :
    scene.reset = (puzzle.scene, (puzzle.scene : Scene α).overview) := by
  have hp := h.puzzle_eq
  have hc : (scene.collected.map fun _ => false) = puzzle.crystals.map fun _ => false := by
    rw [List.map_const', List.map_const', h.length_collected]
  have ha : (puzzle.startActor (puzzle.applyFlicker true puzzle.terrain) : Actor α) =
      puzzle.startActor puzzle.terrain := by
    rw [← puzzle.startActor_rearm, puzzle.rearm_applyFlicker, puzzle.startActor_rearm]
  have hs : scene.reset.1 = puzzle.scene := by
    simp only [reset, hp, h.rearm_eq, hc, ha]
    rfl
  exact Prod.ext hs (congrArg overview hs)

lemma IsOf.acts {result : Scene α × List (Event α)} (h : scene.IsOf puzzle)
    (ha : scene.Acts result) : result.1.IsOf puzzle := by
  cases ha with
  | refused _ => exact h
  | collected _ =>
    exact ⟨h.puzzle_eq, h.rearm_eq, List.length_set.trans h.length_collected,
      h.isSome_extinguishers⟩
  | cleared _ => exact h.withTerrain (Terrain.rearm_setActive ..)
  | @spent id left _ hl =>
    have hs := h.withTerrain (scene.terrain.rearm_setActive .fire id false)
    have hi := h.isSome_extinguishers
    rw [hl] at hi
    exact ⟨hs.puzzle_eq, hs.rearm_eq, hs.length_collected, hi⟩

lemma IsOf.reset (h : scene.IsOf puzzle) : scene.reset.1.IsOf puzzle := by
  rw [h.reset_eq]
  exact isOf_scene puzzle

lemma IsOf.act (h : scene.IsOf puzzle) (action : Action α) :
    (scene.act action).1.IsOf puzzle := by
  cases action with
  | collect => exact h.acts scene.collects.acts
  | putOutFire => exact h.acts scene.putsOut.acts
  | coverHole => exact h.acts scene.covers.acts
  | alternate => exact h.alternate
  | reset => exact h.reset
  | place actor => exact h.withActor actor

end Scene

namespace View

variable {α : Type}

structure IsOf (puzzle : Puzzle) (view : View α) : Prop where
  length_crystals : view.crystals.length = puzzle.crystals.length
  length_hazards : ∀ kind, (view.hazards kind).length = (puzzle.terrain.flags kind).length
  isSome_extinguishers : view.extinguishers.isSome = puzzle.extinguishers.isSome

lemma applyAll_extinguishers (view : View α) {charges : Option Nat}
    (h : view.extinguishers.isSome = charges.isSome) :
    view.applyAll (charges.toList.map .extinguishers) = { view with extinguishers := charges } := by
  cases charges with
  | none =>
    obtain ⟨position, yaw, crystals, hazards, left⟩ := view
    obtain rfl : left = none := by simpa using h
    rfl
  | some left => rfl

lemma applyAll_allHazards (view : View α) {terrain : Terrain} {kind : HazardKind}
    (h : (view.hazards kind).length = (terrain.flags kind).length) :
    view.applyAll (Scene.hazardEvents terrain kind (List.range (terrain.hazards kind).length)) =
      view.withHazards kind (terrain.flags kind) := by
  have hl : (terrain.hazards kind).length = (terrain.flags kind).length := (List.length_map _).symm
  rw [applyAll_hazards, hl, copyFlags_range h]

lemma applyAll_terrain (view : View α) {terrain : Terrain}
    (h : ∀ kind, (view.hazards kind).length = (terrain.flags kind).length) :
    (view.applyAll (Scene.hazardEvents terrain .hole (List.range terrain.holes.length))).applyAll
        (Scene.hazardEvents terrain .fire (List.range terrain.fires.length)) =
      { view with hazards := terrain.flags } := by
  have hh : view.applyAll (Scene.hazardEvents terrain .hole (List.range terrain.holes.length)) =
    view.withHazards .hole (terrain.flags .hole) := applyAll_allHazards view (h .hole)
  have hf : (view.withHazards .hole (terrain.flags .hole)).applyAll
      (Scene.hazardEvents terrain .fire (List.range terrain.fires.length)) =
    (view.withHazards .hole (terrain.flags .hole)).withHazards .fire (terrain.flags .fire) :=
    applyAll_allHazards _ (h .fire)
  have hu : Function.update (Function.update view.hazards .hole (terrain.flags .hole)) .fire
      (terrain.flags .fire) = terrain.flags := by
    funext kind
    cases kind <;> rfl
  rw [hh, hf]
  simp only [withHazards, hu]

variable {puzzle : Puzzle}

lemma isOf_view {scene : Scene α} (h : scene.IsOf puzzle) : scene.view.IsOf puzzle where
  length_crystals := (List.length_map _).trans h.length_collected
  length_hazards kind := by
    rw [← h.rearm_eq, Terrain.length_flags_rearm]
    rfl
  isSome_extinguishers := h.isSome_extinguishers

lemma applyAll_overview {view : View α} {scene : Scene α}
    (hc : view.crystals.length = scene.collected.length)
    (hh : ∀ kind, (view.hazards kind).length = (scene.terrain.flags kind).length)
    (he : view.extinguishers.isSome = scene.extinguishers.isSome) :
    view.applyAll scene.overview =
      { scene.view with crystals := List.replicate scene.collected.length true } := by
  rw [Scene.overview, ← hc]
  simp only [applyAll_append, applyAll_cons, applyAll_nil, apply, Actor.pose, applyAll_crystals,
    foldl_set_range]
  rw [applyAll_terrain, applyAll_extinguishers]
  · rfl
  · exact he
  · exact hh

variable [Scalar α]

theorem IsOf.applyAll_start {view : View α} (h : view.IsOf puzzle) :
    view.applyAll (puzzle.scene : Scene α).overview = (puzzle.scene : Scene α).view := by
  have hs := isOf_view (Scene.isOf_scene (α := α) puzzle)
  have hc : (puzzle.scene : Scene α).collected.map (!·) =
      List.replicate (puzzle.scene : Scene α).collected.length true := by
    rw [Puzzle.scene, List.map_map, List.length_map]
    exact List.map_const' ..
  rw [applyAll_overview, ← hc]
  · rfl
  · exact h.length_crystals.trans (List.length_map _).symm
  · exact fun kind => (h.length_hazards kind).trans (hs.length_hazards kind).symm
  · exact h.isSome_extinguishers

end View

def Action.IsTold {α : Type} : Action α → Prop
  | .place _ => False
  | _ => True

namespace Scene

variable {α : Type} [Scalar α] {puzzle : Puzzle} {scene : Scene α}

lemma tells_reset (h : scene.IsOf puzzle) : scene.Tells scene.reset.2 scene.reset.1 := by
  rw [h.reset_eq]
  exact (View.isOf_view h).applyAll_start

lemma tells_act (h : scene.IsOf puzzle) {action : Action α} (ha : action.IsTold) :
    scene.Tells (scene.act action).2 (scene.act action).1 := by
  cases action with
  | collect => exact scene.collects.acts.tells
  | putOutFire => exact scene.putsOut.acts.tells
  | coverHole => exact scene.covers.acts.tells
  | alternate => exact tells_alternate scene
  | reset => exact tells_reset h
  | place actor => exact ha.elim

end Scene

end RobotPuzzle
