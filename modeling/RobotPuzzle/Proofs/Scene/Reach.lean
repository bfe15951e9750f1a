import Mathlib.Order.Bounds.Defs
import Mathlib.Tactic.Common
import RobotPuzzle.Scene.Action

namespace RobotPuzzle

lemma findIdx_eq_some_iff {β : Type} {items : List β} {p : β → Bool} {index : Nat} :
    items.findIdx? p = some index ↔ IsLeast {i | ∃ item, items[i]? = some item ∧ p item} index := by
  rw [List.findIdx?_eq_some_iff_getElem]
  constructor
  · rintro ⟨hl, hp, hn⟩
    refine ⟨⟨_, List.getElem?_eq_getElem hl, hp⟩, ?_⟩
    rintro i ⟨item, hi, hp'⟩
    obtain ⟨hb, rfl⟩ := List.getElem?_eq_some_iff.mp hi
    exact Nat.le_of_not_lt fun h => hn i h hp'
  · rintro ⟨⟨item, hi, hp⟩, hm⟩
    obtain ⟨hb, rfl⟩ := List.getElem?_eq_some_iff.mp hi
    exact ⟨hb, hp, fun j hj hp' => Nat.not_le_of_lt hj
      (hm ⟨_, List.getElem?_eq_getElem (Nat.lt_trans hj hb), hp'⟩)⟩

lemma findIdx_eq_none_iff {β : Type} {items : List β} {p : β → Bool} :
    items.findIdx? p = none ↔ ∀ i : Nat, ¬ ∃ item, items[i]? = some item ∧ p item := by
  rw [List.findIdx?_eq_none_iff]
  constructor
  · rintro h i ⟨item, hi, hp⟩
    exact Bool.false_ne_true ((h item (List.mem_of_getElem? hi)).symm.trans hp)
  · intro h item hm
    obtain ⟨i, hi⟩ := List.getElem?_of_mem hm
    exact Bool.eq_false_iff.mpr fun hp => h i ⟨item, hi, hp⟩

namespace Terrain

def HasBeside (terrain : Terrain) (kind : HazardKind) (cell : Cell) (id : Nat) : Prop :=
  ∃ hazard, terrain.hazard? kind id = some hazard ∧ hazard.active && hazard.cell.isAdjacent cell

variable {terrain : Terrain} {kind : HazardKind} {cell : Cell}

lemma adjacentHazard_eq_some_iff {id : Nat} : terrain.adjacentHazard? kind cell = some id ↔
    IsLeast {id | terrain.HasBeside kind cell id} id :=
  findIdx_eq_some_iff

lemma adjacentHazard_eq_none_iff : terrain.adjacentHazard? kind cell = none ↔
    ∀ id, ¬ terrain.HasBeside kind cell id :=
  findIdx_eq_none_iff

lemma HasBeside.cell_ne {id : Nat} {hazard : Hazard} (h : terrain.HasBeside kind cell id)
    (hh : terrain.hazard? kind id = some hazard) : hazard.cell ≠ cell := by
  obtain ⟨found, hf, ha⟩ := h
  obtain rfl := Option.some.inj (hf.symm.trans hh)
  rintro rfl
  rw [Cell.isAdjacent_self, Bool.and_false] at ha
  exact Bool.false_ne_true ha

end Terrain

variable {α : Type} [Scalar α]

namespace Scene

def HasCrystal (scene : Scene α) (index : Nat) : Prop :=
  scene.puzzle.crystals[index]? = some scene.cell ∧ scene.collected[index]? = some false

abbrev IsBeside (scene : Scene α) (kind : HazardKind) (id : Nat) : Prop :=
  scene.terrain.HasBeside kind scene.cell id

def withoutHazard (scene : Scene α) (kind : HazardKind) (id : Nat) : Scene α :=
  { scene with terrain := scene.terrain.setActive kind id false }

def refusals : List String :=
  ["Robô não está sobre o cristal.", "Estou sem extintores!", "Não posso fazer isso aqui!"]

def praise (collected : List Bool) : List String :=
  if collected.length = 1 then ["Cristal coletado com sucesso."]
  else if collected.all id then ["Cristal coletado.", "Todos os cristais coletados com sucesso!"]
  else ["Cristal coletado."]

variable {scene : Scene α} {kind : HazardKind}

lemma hasCrystal_iff {index : Nat} : scene.HasCrystal index ↔
    ∃ item, (scene.puzzle.crystals.zip scene.collected)[index]? = some item ∧
      item.1 == scene.cell && !item.2 := by
  constructor
  · rintro ⟨hc, hf⟩
    exact ⟨(scene.cell, false), List.getElem?_zip_eq_some.mpr ⟨hc, hf⟩, by simp⟩
  · rintro ⟨⟨cell, flag⟩, hi, hp⟩
    obtain ⟨hc, hf⟩ := List.getElem?_zip_eq_some.mp hi
    simp only [Bool.and_eq_true, beq_iff_eq, Bool.not_eq_true'] at hp
    obtain ⟨rfl, rfl⟩ := hp
    exact ⟨hc, hf⟩

lemma crystalHere_eq_some_iff {index : Nat} :
    scene.crystalHere? = some index ↔ IsLeast {i | scene.HasCrystal i} index := by
  simp only [hasCrystal_iff]
  exact findIdx_eq_some_iff

lemma crystalHere_eq_none_iff : scene.crystalHere? = none ↔ ∀ i, ¬ scene.HasCrystal i := by
  simp only [hasCrystal_iff]
  exact findIdx_eq_none_iff

lemma clear_of_some {id : Nat} (h : scene.terrain.adjacentHazard? kind scene.cell = some id) :
    scene.clear? kind =
      some (scene.withoutHazard kind id, .visibility (.hazard kind id) false) := by
  rw [clear?, Terrain.clearAdjacent, h]
  rfl

lemma clear_of_none (h : scene.terrain.adjacentHazard? kind scene.cell = none) :
    scene.clear? kind = none := by
  rw [clear?, Terrain.clearAdjacent, h]
  rfl

omit [Scalar α] in
lemma withoutHazard_uncounted (h : scene.extinguishers = none) {id : Nat} :
    { scene.withoutHazard kind id with extinguishers := none } = scene.withoutHazard kind id := by
  rw [← h]
  rfl

inductive Collects (scene : Scene α) : Scene α × List (Event α) → Prop
  | hit {index} : IsLeast {i | scene.HasCrystal i} index →
      scene.Collects ({ scene with collected := scene.collected.set index true },
        .visibility (.crystal index) false ::
          (praise (scene.collected.set index true)).map .say)
  | miss : (∀ i, ¬ scene.HasCrystal i) →
      scene.Collects (scene, [.say "Robô não está sobre o cristal."])

lemma collects (scene : Scene α) : scene.Collects scene.collect := by
  rw [collect]
  cases hc : scene.crystalHere? with
  | none => exact .miss (crystalHere_eq_none_iff.mp hc)
  | some index => exact .hit (crystalHere_eq_some_iff.mp hc)

def CannotDouse (scene : Scene α) : Prop :=
  scene.extinguishers = some 0 ∨ ∀ id, ¬ scene.IsBeside .fire id

inductive PutsOut (scene : Scene α) : Scene α × List (Event α) → Prop
  | fails : scene.CannotDouse → scene.PutsOut (scene,
      [.say (if scene.extinguishers = some 0 then "Estou sem extintores!"
        else "Não posso fazer isso aqui!")])
  | succeeds {id} (left : Option Nat) : IsLeast {id | scene.IsBeside .fire id} id →
      scene.extinguishers = left.map (· + 1) →
      scene.PutsOut ({ scene.withoutHazard .fire id with extinguishers := left },
        .visibility (.hazard .fire id) false :: left.toList.map .extinguishers)

lemma putsOut (scene : Scene α) : scene.PutsOut scene.putOutFire := by
  have he : scene.extinguishers = some 0 →
      scene.PutsOut (scene, [.say "Estou sem extintores!"]) := by
    intro h
    have hf := PutsOut.fails (Or.inl h)
    rwa [if_pos h] at hf
  rw [putOutFire]
  cases ha : scene.terrain.adjacentHazard? .fire scene.cell with
  | none =>
    have hn : scene.extinguishers ≠ some 0 → scene.PutsOut (scene, [refuse]) := by
      intro h
      have hf := PutsOut.fails (Or.inr (Terrain.adjacentHazard_eq_none_iff.mp ha))
      rwa [if_neg h] at hf
    rw [clear_of_none ha]
    split
    · exact he ‹_›
    · rename_i left h
      exact hn (by simp [h])
    · rename_i h
      exact hn (by simp [h])
  | some id =>
    have hl := Terrain.adjacentHazard_eq_some_iff.mp ha
    rw [clear_of_some ha]
    split
    · exact he ‹_›
    · rename_i left h
      exact .succeeds (some left) hl h
    · rename_i h
      rw [← withoutHazard_uncounted h]
      exact .succeeds none hl h

inductive Covers (scene : Scene α) : Scene α × List (Event α) → Prop
  | nothing : (∀ id, ¬ scene.IsBeside .hole id) → scene.Covers (scene, [refuse])
  | covered {id} : IsLeast {id | scene.IsBeside .hole id} id →
      scene.Covers (scene.withoutHazard .hole id, [.visibility (.hazard .hole id) false])

lemma covers (scene : Scene α) : scene.Covers scene.coverHole := by
  rw [coverHole]
  cases ha : scene.terrain.adjacentHazard? .hole scene.cell with
  | none =>
    rw [clear_of_none ha]
    exact .nothing (Terrain.adjacentHazard_eq_none_iff.mp ha)
  | some id =>
    rw [clear_of_some ha]
    exact .covered (Terrain.adjacentHazard_eq_some_iff.mp ha)

inductive Acts (scene : Scene α) : Scene α × List (Event α) → Prop
  | refused {text} : text ∈ refusals → scene.Acts (scene, [.say text])
  | collected {index} : scene.HasCrystal index →
      scene.Acts ({ scene with collected := scene.collected.set index true },
        .visibility (.crystal index) false ::
          (praise (scene.collected.set index true)).map .say)
  | cleared {kind id} : scene.IsBeside kind id →
      scene.Acts (scene.withoutHazard kind id, [.visibility (.hazard kind id) false])
  | spent {id left} : scene.IsBeside .fire id → scene.extinguishers = some (left + 1) →
      scene.Acts ({ scene.withoutHazard .fire id with extinguishers := some left },
        [.visibility (.hazard .fire id) false, .extinguishers left])

variable {result : Scene α × List (Event α)}

lemma Collects.acts (h : scene.Collects result) : scene.Acts result := by
  cases h with
  | hit hl => exact .collected hl.1
  | miss _ => exact .refused (by simp [refusals])

lemma PutsOut.acts (h : scene.PutsOut result) : scene.Acts result := by
  cases h with
  | fails _ =>
    refine .refused ?_
    split <;> simp [refusals]
  | @succeeds id left hl he =>
    cases left with
    | none =>
      rw [withoutHazard_uncounted he]
      exact .cleared hl.1
    | some left => exact .spent hl.1 he

lemma Covers.acts (h : scene.Covers result) : scene.Acts result := by
  cases h with
  | nothing _ => exact .refused (by simp [refusals])
  | covered hl => exact .cleared hl.1

lemma acts (scene : Scene α) {action : Action α}
    (h : action = .collect ∨ action = .putOutFire ∨ action = .coverHole) :
    scene.Acts (scene.act action) := by
  rcases h with rfl | rfl | rfl
  · exact scene.collects.acts
  · exact scene.putsOut.acts
  · exact scene.covers.acts

end Scene

end RobotPuzzle
