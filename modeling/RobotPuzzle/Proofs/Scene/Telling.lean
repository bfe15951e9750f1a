import RobotPuzzle.Proofs.Scene.Reach
import RobotPuzzle.Proofs.Scene.View

namespace RobotPuzzle

lemma map_modify_active (hazards : List Hazard) (id : Nat) (active : Bool) :
    (hazards.modify id fun hazard => { hazard with active }).map (·.active) =
      (hazards.map (·.active)).set id active := by
  apply List.ext_getElem?
  intro i
  rw [List.getElem?_map, List.getElem?_modify, List.getElem?_set, List.getElem?_map]
  by_cases hi : id = i
  · subst hi
    cases hh : hazards[id]? with
    | none => simp_all
    | some hazard =>
      obtain ⟨hl, -⟩ := List.getElem?_eq_some_iff.mp hh
      simp [hl]
  · simp [hi]

namespace Terrain

variable (terrain : Terrain) (kind : HazardKind)

lemma flags_setActive (id : Nat) (active : Bool) : (terrain.setActive kind id active).flags =
    Function.update terrain.flags kind ((terrain.flags kind).set id active) := by
  funext other
  by_cases h : other = kind
  · subst h
    rw [flags, setActive, hazards_mapHazards, map_modify_active, Function.update_self]
    rfl
  · rw [flags, setActive, hazards_mapHazards_of_ne _ _ (Ne.symm h), Function.update_of_ne h]
    rfl

lemma hazard_setActive (id : Nat) (active : Bool) (other : HazardKind) (i : Nat) :
    (terrain.setActive kind id active).hazard? other i =
      (terrain.hazard? other i).map fun hazard =>
        if other = kind ∧ id = i then { hazard with active } else hazard := by
  by_cases h : other = kind
  · subst h
    rw [hazard?, setActive, hazards_mapHazards, List.getElem?_modify, hazard?]
    by_cases hi : id = i <;> simp [hi]
  · rw [hazard?, setActive, hazards_mapHazards_of_ne _ _ (Ne.symm h), hazard?]
    simp [h]

lemma flags_foldl_setActive (ids : List Nat) (active : Bool) :
    (ids.foldl (fun terrain id => terrain.setActive kind id active) terrain).flags =
      Function.update terrain.flags kind
        (ids.foldl (fun flags id => flags.set id active) (terrain.flags kind)) := by
  induction ids generalizing terrain with
  | nil => simp
  | cons id ids ih =>
    rw [List.foldl_cons, ih, flags_setActive]
    simp

end Terrain

lemma getElem_foldl_set (ids : List Nat) (flag : Bool) (flags : List Bool) (i : Nat) :
    (ids.foldl (fun flags id => flags.set id flag) flags)[i]? =
      if i ∈ ids then flags[i]?.map fun _ => flag else flags[i]? := by
  induction ids generalizing flags with
  | nil => rfl
  | cons id ids ih =>
    rw [List.foldl_cons, ih]
    by_cases hi : i = id
    · subst hi
      have hs : (flags.set i flag)[i]? = flags[i]?.map fun _ => flag := by
        rw [List.getElem?_set_self', Option.map_eq_map]
        rfl
      rw [hs, if_pos List.mem_cons_self, Option.map_map]
      split <;> rfl
    · rw [List.getElem?_set_ne (Ne.symm hi)]
      simp only [List.mem_cons, hi, false_or]

lemma length_foldl_set (ids : List Nat) (flag : Bool) (flags : List Bool) :
    (ids.foldl (fun flags id => flags.set id flag) flags).length = flags.length := by
  induction ids generalizing flags with
  | nil => rfl
  | cons id ids ih => rw [List.foldl_cons, ih, List.length_set]

namespace Flicker

variable (flicker : Flicker) (lit : Bool) (terrain : Terrain)

def switch (flags : List Bool) : List Bool :=
  flicker.dark.foldl (fun flags id => flags.set id !lit)
    (flicker.lit.foldl (fun flags id => flags.set id lit) flags)

lemma flags_apply : (flicker.apply lit terrain).flags =
    Function.update terrain.flags .fire (flicker.switch lit (terrain.flags .fire)) := by
  rw [apply, Terrain.flags_foldl_setActive, Terrain.flags_foldl_setActive]
  simp [switch]

lemma length_switch (flags : List Bool) : (flicker.switch lit flags).length = flags.length := by
  rw [switch, length_foldl_set, length_foldl_set]

lemma getElem_switch (flags : List Bool) (i : Nat) : (flicker.switch lit flags)[i]? =
    if i ∈ flicker.dark then flags[i]?.map fun _ => !lit
    else if i ∈ flicker.lit then flags[i]?.map fun _ => lit else flags[i]? := by
  rw [switch, getElem_foldl_set, getElem_foldl_set]
  by_cases hl : i ∈ flicker.lit
  · simp only [if_pos hl, Option.map_map]
    rfl
  · simp only [if_neg hl]

end Flicker

namespace Scene

variable {α : Type}

def Tells (before : Scene α) (events : List (Event α)) (after : Scene α) : Prop :=
  before.view.applyAll events = after.view

lemma tells_alternate (scene : Scene α) : scene.Tells scene.alternate.2 scene.alternate.1 := by
  rw [alternate]
  cases scene.puzzle.flicker with
  | none => rfl
  | some flicker =>
    simp only [Tells, View.applyAll_hazards]
    have hf := flicker.flags_apply (!isLit scene.terrain flicker) scene.terrain
    have hc : copyFlags ((flicker.apply (!isLit scene.terrain flicker) scene.terrain).flags .fire)
        (flicker.lit ++ flicker.dark) (scene.terrain.flags .fire) =
          (flicker.apply (!isLit scene.terrain flicker) scene.terrain).flags .fire := by
      rw [hf, Function.update_self]
      refine copyFlags_eq (flicker.length_switch _ _).symm fun i hi => ?_
      rw [List.mem_append, not_or] at hi
      rw [flicker.getElem_switch, if_neg hi.2, if_neg hi.1]
    simp only [view, View.withHazards, hc]
    rw [hf, Function.update_self]

variable [Scalar α]

lemma Acts.tells {scene : Scene α} {result : Scene α × List (Event α)} (h : scene.Acts result) :
    scene.Tells result.2 result.1 := by
  cases h with
  | refused _ => rfl
  | collected _ =>
    rw [Tells, View.applyAll_cons, View.applyAll_say]
    simp [view, View.apply, List.map_set]
  | cleared _ =>
    simp [Tells, view, View.apply, View.withHazards, withoutHazard, Terrain.flags_setActive]
  | spent _ _ =>
    simp [Tells, view, View.apply, View.withHazards, withoutHazard, Terrain.flags_setActive]

end Scene

end RobotPuzzle
