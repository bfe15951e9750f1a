import Mathlib.Logic.Function.Basic
import Mathlib.Tactic.Common
import RobotPuzzle.Scene.Action

namespace RobotPuzzle

structure View (α : Type) where
  position : Position α
  yaw : α
  crystals : List Bool
  hazards : HazardKind → List Bool
  extinguishers : Option Nat

def Terrain.flags (terrain : Terrain) (kind : HazardKind) : List Bool :=
  (terrain.hazards kind).map (·.active)

def Scene.view {α : Type} (scene : Scene α) : View α where
  position := scene.actor.position
  yaw := scene.actor.yaw
  crystals := scene.collected.map (!·)
  hazards := scene.terrain.flags
  extinguishers := scene.extinguishers

namespace View

variable {α : Type}

def withHazards (view : View α) (kind : HazardKind) (flags : List Bool) : View α :=
  { view with hazards := Function.update view.hazards kind flags }

def apply (view : View α) : Event α → View α
  | .console _ => view
  | .pose position yaw => { view with position, yaw }
  | .visibility (.crystal index) visible =>
    { view with crystals := view.crystals.set index visible }
  | .visibility (.hazard kind id) visible =>
    view.withHazards kind ((view.hazards kind).set id visible)
  | .extinguishers left => { view with extinguishers := some left }
  | .finished _ => view

def applyAll (view : View α) (events : List (Event α)) : View α := events.foldl apply view

@[simp] lemma applyAll_nil (view : View α) : view.applyAll [] = view := rfl

@[simp] lemma applyAll_cons (view : View α) (event : Event α) (events : List (Event α)) :
    view.applyAll (event :: events) = (view.apply event).applyAll events := rfl

lemma applyAll_append (view : View α) (events more : List (Event α)) :
    view.applyAll (events ++ more) = (view.applyAll events).applyAll more :=
  List.foldl_append

lemma applyAll_say (view : View α) (texts : List String) :
    view.applyAll (texts.map .say) = view := by
  induction texts with
  | nil => rfl
  | cons text texts ih => exact ih

end View

def copyFlags (source : List Bool) (ids : List Nat) (flags : List Bool) : List Bool :=
  ids.foldl (fun flags id => (source[id]?).elim flags fun flag => flags.set id flag) flags

lemma copyFlags_cons (source : List Bool) (id : Nat) (ids : List Nat) (flags : List Bool) :
    copyFlags source (id :: ids) flags =
      copyFlags source ids ((source[id]?).elim flags fun flag => flags.set id flag) := rfl

lemma getElem_copyFlags {source : List Bool} (ids : List Nat) {flags : List Bool}
    (h : flags.length = source.length) (i : Nat) :
    (copyFlags source ids flags)[i]? = if i ∈ ids then source[i]? else flags[i]? := by
  induction ids generalizing flags with
  | nil => rfl
  | cons id ids ih =>
    rw [copyFlags_cons]
    cases hs : source[id]? with
    | none =>
      rw [Option.elim_none, ih h]
      by_cases hi : i = id
      · subst hi
        have hf : flags[i]? = none := by simp_all
        simp [hs, hf]
      · simp [hi]
    | some flag =>
      rw [Option.elim_some, ih (by rwa [List.length_set])]
      by_cases hi : i = id
      · subst hi
        obtain ⟨hl, -⟩ := List.getElem?_eq_some_iff.mp hs
        rw [← h] at hl
        simp [hs, hl]
      · rw [List.getElem?_set_ne (Ne.symm hi)]
        simp [hi]

lemma copyFlags_eq {source flags : List Bool} {ids : List Nat}
    (h : flags.length = source.length) (hi : ∀ i, i ∉ ids → flags[i]? = source[i]?) :
    copyFlags source ids flags = source := by
  apply List.ext_getElem?
  intro i
  rw [getElem_copyFlags ids h]
  split
  · rfl
  · rename_i hn
    exact hi i hn

lemma copyFlags_range {source flags : List Bool} (h : flags.length = source.length) :
    copyFlags source (List.range source.length) flags = source := by
  refine copyFlags_eq h fun i hi => ?_
  have hl : source.length ≤ i := by simpa using hi
  rw [List.getElem?_eq_none hl, List.getElem?_eq_none (h ▸ hl)]

lemma foldl_set_eq_copyFlags {source : List Bool} {flag : Bool} {ids : List Nat}
    (h : ∀ id ∈ ids, source[id]? = some flag) (flags : List Bool) :
    ids.foldl (fun flags id => flags.set id flag) flags = copyFlags source ids flags := by
  induction ids generalizing flags with
  | nil => rfl
  | cons id ids ih =>
    obtain ⟨hs, hr⟩ := List.forall_mem_cons.mp h
    rw [List.foldl_cons, copyFlags_cons, hs, ih hr, Option.elim_some]

lemma foldl_set_range {flags : List Bool} (flag : Bool) :
    (List.range flags.length).foldl (fun flags id => flags.set id flag) flags =
      List.replicate flags.length flag := by
  have hs : ∀ id ∈ List.range flags.length,
      (List.replicate flags.length flag)[id]? = some flag := by
    intro id hi
    rw [List.getElem?_replicate_of_lt (List.mem_range.mp hi)]
  have hl : flags.length = (List.replicate flags.length flag).length := by simp
  have hr := copyFlags_range hl
  rw [List.length_replicate] at hr
  rw [foldl_set_eq_copyFlags hs, hr]

namespace View

variable {α : Type}

lemma applyAll_crystals (view : View α) (ids : List Nat) :
    view.applyAll (ids.map fun index => .visibility (.crystal index) true) =
      { view with crystals := ids.foldl (fun flags id => flags.set id true) view.crystals } := by
  induction ids generalizing view with
  | nil => rfl
  | cons id ids ih => exact ih _

lemma applyAll_hazards (view : View α) (terrain : Terrain) (kind : HazardKind) (ids : List Nat) :
    view.applyAll (Scene.hazardEvents terrain kind ids) =
      view.withHazards kind (copyFlags (terrain.flags kind) ids (view.hazards kind)) := by
  induction ids generalizing view with
  | nil => simp [Scene.hazardEvents, copyFlags, withHazards]
  | cons id ids ih =>
    have hf : (terrain.flags kind)[id]? = (terrain.hazard? kind id).map (·.active) :=
      List.getElem?_map
    rw [copyFlags_cons, hf]
    cases hh : terrain.hazard? kind id with
    | none =>
      have he : (Scene.hazardEvents terrain kind (id :: ids) : List (Event α)) =
        Scene.hazardEvents terrain kind ids := List.filterMap_cons_none (by rw [hh]; rfl)
      rw [he, ih]
      rfl
    | some hazard =>
      have he : (Scene.hazardEvents terrain kind (id :: ids) : List (Event α)) =
          .visibility (.hazard kind id) hazard.active :: Scene.hazardEvents terrain kind ids :=
        List.filterMap_cons_some (by rw [hh]; rfl)
      rw [he, applyAll_cons, ih]
      simp [apply, withHazards]

end View

end RobotPuzzle
