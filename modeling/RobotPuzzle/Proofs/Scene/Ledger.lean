import Mathlib.Data.List.Basic
import Mathlib.Data.Nat.PSub
import RobotPuzzle.Proofs.Scene.Layout
import RobotPuzzle.Proofs.Terrain.Register

/-! The bookkeeping of a scene. Hazards are in registers, what has been collected is asked by index
and charges are counted down one by one, so that an action may fail: at an index out of the list, or
at a count below zero. With a flag for every crystal none does, and each does to the ledger of a
scene what it does to the scene. -/

namespace RobotPuzzle

abbrev Registers := HazardKind → Register

namespace Registers

def setActive (registers : Registers) (kind : HazardKind) (key : Nat) (active : Bool) : Registers :=
  Function.update registers kind ((registers kind).setActive key active)

def applyFlicker (registers : Registers) (flicker : Flicker) (lit : Bool) : Registers :=
  flicker.dark.foldl (fun registers id => Registers.setActive registers .fire id !lit)
    (flicker.lit.foldl (fun registers id => Registers.setActive registers .fire id lit) registers)

def rearm (registers : Registers) : Registers := fun kind => (registers kind).rearm

def isLit (registers : Registers) (flicker : Flicker) : Bool :=
  (flicker.lit.head?.bind (registers .fire).get?).any (·.active)

variable {α : Type}

def eventsAt (registers : Registers) (kind : HazardKind) (keys : List Nat) : List (Event α) :=
  keys.filterMap fun key =>
    ((registers kind).get? key).map fun hazard => .visibility (.hazard kind key) hazard.active

def eventsOf (registers : Registers) (kind : HazardKind) : List (Event α) :=
  (registers kind).entries.map fun entry => .visibility (.hazard kind entry.2.id) entry.2.active

end Registers

namespace Terrain

def registers (terrain : Terrain) : Registers := fun kind => .number (terrain.hazards kind)

def withHazards (terrain : Terrain) (hazards : HazardKind → List Hazard) : Terrain :=
  { terrain with holes := hazards .hole, fires := hazards .fire }

def ground (terrain : Terrain) : Terrain := terrain.withHazards fun _ => []

variable (terrain : Terrain)

lemma ground_congr {other : Terrain} (h : other.rearm = terrain.rearm) :
    other.ground = terrain.ground := by
  have hg : other.rearm.ground = terrain.rearm.ground := by rw [h]
  exact hg

lemma registers_setActive (kind : HazardKind) (id : Nat) (active : Bool) :
    (terrain.setActive kind id active).registers =
      Registers.setActive terrain.registers kind id active := by
  funext other
  by_cases h : other = kind
  · subst h
    rw [registers, Registers.setActive, Function.update_self, setActive, hazards_mapHazards]
    exact (Register.setActive_number ..).symm
  · rw [registers, Registers.setActive, Function.update_of_ne h, setActive,
      hazards_mapHazards_of_ne _ _ (Ne.symm h)]
    rfl

lemma registers_foldl_setActive (ids : List Nat) (active : Bool) :
    (ids.foldl (fun terrain id => terrain.setActive .fire id active) terrain).registers =
      ids.foldl (fun registers id => Registers.setActive registers .fire id active)
        terrain.registers := by
  induction ids generalizing terrain with
  | nil => rfl
  | cons id ids ih => rw [List.foldl_cons, ih, registers_setActive, List.foldl_cons]

lemma registers_apply (flicker : Flicker) (lit : Bool) : (flicker.apply lit terrain).registers =
    Registers.applyFlicker terrain.registers flicker lit := by
  rw [Flicker.apply, registers_foldl_setActive, registers_foldl_setActive]
  rfl

lemma registers_applyFlicker (puzzle : Puzzle) (lit : Bool) :
    (puzzle.applyFlicker lit terrain).registers =
      puzzle.flicker.elim terrain.registers fun flicker =>
        Registers.applyFlicker terrain.registers flicker lit := by
  rw [Puzzle.applyFlicker]
  cases puzzle.flicker with
  | none => rfl
  | some flicker => exact terrain.registers_apply flicker lit

lemma registers_rearm : terrain.rearm.registers = Registers.rearm terrain.registers := by
  funext kind
  cases kind <;> exact (Register.rearm_number _).symm

lemma isLit_registers (flicker : Flicker) :
    Registers.isLit terrain.registers flicker = Scene.isLit terrain flicker := by
  rw [Registers.isLit, Scene.isLit]
  cases flicker.lit.head? with
  | none => rfl
  | some first =>
    rw [Option.bind_some, Option.bind_some, registers, Register.get_number, Option.any_map]
    rfl

variable {α : Type}

lemma eventsAt_registers (kind : HazardKind) (ids : List Nat) :
    (Registers.eventsAt terrain.registers kind ids : List (Event α)) =
      Scene.hazardEvents terrain kind ids := by
  refine congrArg (List.filterMap · ids) (funext fun id => ?_)
  rw [registers, Register.get_number, Option.map_map]
  rfl

lemma eventsOf_registers (kind : HazardKind) :
    (Registers.eventsOf terrain.registers kind : List (Event α)) =
      Scene.hazardEvents terrain kind (List.range (terrain.hazards kind).length) := by
  have hr : List.range (terrain.hazards kind).length = (terrain.hazards kind).zipIdx.map (·.2) := by
    rw [List.zipIdx_map_snd, List.range_eq_range']
  rw [hr, Scene.hazardEvents, List.filterMap_map, Registers.eventsOf, registers, Register.number,
    Register.numberFrom, List.map_map]
  refine (List.filterMap_eq_map_iff_forall_eq_some.mpr fun item hm => ?_).symm
  have hh : terrain.hazard? kind item.2 = some item.1 := List.mk_mem_zipIdx_iff_getElem?.mp hm
  rw [Function.comp_apply, hh]
  rfl

end Terrain

structure Ledger (α : Type) where
  bare : Scene α
  registers : Registers

namespace Ledger

variable {α : Type}

def scene (ledger : Ledger α) : Scene α :=
  { ledger.bare with
    terrain := ledger.bare.terrain.withHazards fun kind => (ledger.registers kind).hazards }

def withActor (ledger : Ledger α) (actor : Actor α) : Ledger α :=
  { ledger with bare := { ledger.bare with actor } }

def seek? (collected : List Bool) (cell : Cell) : List (Cell × Nat) → Option (Option Nat)
  | [] => some none
  | (crystal, index) :: crystals =>
    if crystal = cell then
      match collected[index]? with
      | none => none
      | some true => seek? collected cell crystals
      | some false => some (some index)
    else seek? collected cell crystals

def alternate (ledger : Ledger α) : Ledger α × List (Event α) :=
  match ledger.bare.puzzle.flicker with
  | none => (ledger, [])
  | some flicker =>
    let registers := Registers.applyFlicker ledger.registers flicker
      (!Registers.isLit ledger.registers flicker)
    ({ ledger with registers }, Registers.eventsAt registers .fire (flicker.lit ++ flicker.dark))

def overview (ledger : Ledger α) : List (Event α) :=
  let crystals := List.range ledger.bare.collected.length
  [ledger.bare.actor.pose] ++ crystals.map (fun index => .visibility (.crystal index) true) ++
    Registers.eventsOf ledger.registers .hole ++ Registers.eventsOf ledger.registers .fire ++
    ledger.bare.extinguishers.toList.map .extinguishers

variable [Scalar α]

def collect? (ledger : Ledger α) : Option (Ledger α × List (Event α)) :=
  let scene := ledger.bare
  (seek? scene.collected scene.cell scene.puzzle.crystals.zipIdx).map fun
    | none => (ledger, [.say "Robô não está sobre o cristal."])
    | some index =>
      let collected := scene.collected.set index true
      ({ ledger with bare := { scene with collected } },
        .visibility (.crystal index) false :: (Scene.praise collected).map .say)

def clear? (ledger : Ledger α) (kind : HazardKind) : Option (Ledger α × Event α) :=
  ((ledger.registers kind).beside? ledger.bare.cell).map fun id =>
    ({ ledger with registers := Registers.setActive ledger.registers kind id false },
      .visibility (.hazard kind id) false)

def putOutFire? (ledger : Ledger α) : Option (Ledger α × List (Event α)) :=
  if ledger.bare.extinguishers = some 0 then some (ledger, [.say "Estou sem extintores!"])
  else
    match ledger.clear? .fire with
    | none => some (ledger, [Scene.refuse])
    | some (after, event) =>
      match after.bare.extinguishers with
      | none => some (after, [event])
      | some charges => charges.ppred.map fun left =>
        ({ after with bare := { after.bare with extinguishers := some left } },
          [event, .extinguishers left])

def coverHole (ledger : Ledger α) : Ledger α × List (Event α) :=
  match ledger.clear? .hole with
  | none => (ledger, [Scene.refuse])
  | some (after, event) => (after, [event])

def reset (ledger : Ledger α) : Ledger α × List (Event α) :=
  let puzzle := ledger.bare.puzzle
  let rearmed := Registers.rearm ledger.registers
  let ledger : Ledger α :=
    { bare :=
        { ledger.bare with
          actor := puzzle.startActor ledger.bare.terrain
          collected := ledger.bare.collected.map fun _ => false
          extinguishers := puzzle.extinguishers }
      registers :=
        puzzle.flicker.elim rearmed fun flicker => Registers.applyFlicker rearmed flicker true }
  (ledger, ledger.overview)

def act? (ledger : Ledger α) : Action α → Option (Ledger α × List (Event α))
  | .collect => ledger.collect?
  | .putOutFire => ledger.putOutFire?
  | .coverHole => some ledger.coverHole
  | .alternate => some ledger.alternate
  | .reset => some ledger.reset
  | .place actor => some (ledger.withActor actor, [])

end Ledger

namespace Scene

variable {α : Type}

def ledger (scene : Scene α) : Ledger α :=
  ⟨{ scene with terrain := scene.terrain.ground }, scene.terrain.registers⟩

lemma scene_ledger (scene : Scene α) : scene.ledger.scene = scene := by
  have h : (fun kind => (scene.terrain.registers kind).hazards) = scene.terrain.hazards :=
    funext fun kind => Register.hazards_number _
  rw [Ledger.scene, ledger, h]
  rfl

lemma ledger_withTerrain (scene : Scene α) {terrain : Terrain}
    (h : terrain.rearm = scene.terrain.rearm) : ({ scene with terrain } : Scene α).ledger =
      { scene.ledger with registers := terrain.registers } := by
  rw [ledger, ledger, terrain.ground_congr h.symm]

lemma alternate_ledger (scene : Scene α) :
    scene.ledger.alternate = (scene.alternate.1.ledger, scene.alternate.2) := by
  have hp : scene.ledger.bare.puzzle.flicker = scene.puzzle.flicker := rfl
  rw [Ledger.alternate, alternate, hp]
  cases scene.puzzle.flicker with
  | none => rfl
  | some flicker =>
    have hl : Registers.isLit scene.ledger.registers flicker = isLit scene.terrain flicker :=
      scene.terrain.isLit_registers flicker
    have hr := scene.terrain.registers_apply flicker (!isLit scene.terrain flicker)
    simp only [hl]
    rw [scene.ledger_withTerrain (flicker.rearm_apply _ scene.terrain),
      ← Terrain.eventsAt_registers, hr]
    rfl

lemma overview_ledger (scene : Scene α) : scene.ledger.overview = scene.overview := by
  have h (kind : HazardKind) :
      (Registers.eventsOf scene.ledger.registers kind : List (Event α)) = _ :=
    scene.terrain.eventsOf_registers kind
  rw [Ledger.overview, h, h]
  rfl

variable [Scalar α] (scene : Scene α)

lemma seek_eq {collected : List Bool} (cell : Cell) (crystals : List Cell) (start : Nat)
    (h : crystals.length + start = collected.length) :
    Ledger.seek? collected cell (crystals.zipIdx start) =
      some (((crystals.zip (collected.drop start)).findIdx? fun (crystal, gone) =>
        crystal == cell && !gone).map (· + start)) := by
  induction crystals generalizing start with
  | nil => rfl
  | cons crystal crystals ih =>
    have hl : start < collected.length := by
      rw [← h, List.length_cons]
      omega
    have hr := ih (start + 1) (by rw [← h, List.length_cons]; omega)
    rw [List.zipIdx_cons, List.drop_eq_getElem_cons hl, List.zip_cons_cons, List.findIdx?_cons,
      Ledger.seek?, List.getElem?_eq_getElem hl, hr]
    by_cases hc : crystal = cell
    · cases collected[start] <;> simp [hc, Function.comp_def, Nat.add_assoc, Nat.add_comm 1]
    · simp [hc, Function.comp_def, Nat.add_assoc, Nat.add_comm 1]

example : Ledger.seek? [] ⟨0, 0⟩ [(⟨0, 0⟩, 0)] = none ∧
    Ledger.seek? [] ⟨0, 1⟩ [(⟨0, 0⟩, 0)] = some none := by decide

lemma clear_ledger (kind : HazardKind) : scene.ledger.clear? kind =
    (scene.clear? kind).map fun (after, event) => (after.ledger, event) := by
  have hb : (scene.terrain.registers kind).beside? scene.cell =
    scene.terrain.adjacentHazard? kind scene.cell := Register.beside_number ..
  show ((scene.terrain.registers kind).beside? scene.cell).map _ = _
  rw [hb, clear?, Terrain.clearAdjacent, Option.map_map, Option.map_map]
  refine congrArg (Option.map · _) (funext fun id => ?_)
  show (_, _) = (({ scene with terrain := _ } : Scene α).ledger, _)
  rw [scene.ledger_withTerrain (scene.terrain.rearm_setActive kind id false),
    Terrain.registers_setActive]
  rfl

lemma collect_ledger (h : scene.collected.length = scene.puzzle.crystals.length) :
    scene.ledger.collect? = some (scene.collect.1.ledger, scene.collect.2) := by
  have hs : Ledger.seek? scene.collected scene.cell scene.puzzle.crystals.zipIdx =
      some scene.crystalHere? := by
    rw [seek_eq scene.cell scene.puzzle.crystals 0 h.symm]
    simp [crystalHere?]
  show (Ledger.seek? scene.collected scene.cell scene.puzzle.crystals.zipIdx).map _ = _
  rw [hs, collect]
  cases scene.crystalHere? <;> rfl

lemma putOutFire_ledger :
    scene.ledger.putOutFire? = some (scene.putOutFire.1.ledger, scene.putOutFire.2) := by
  rw [Ledger.putOutFire?, clear_ledger, putOutFire]
  show (if scene.extinguishers = some 0 then _ else _) = _
  cases ha : scene.terrain.adjacentHazard? .fire scene.cell with
  | none =>
    rw [clear_of_none ha]
    rcases scene.extinguishers with _ | _ | left <;> rfl
  | some id =>
    have hc : (scene.withoutHazard .fire id).ledger.bare.extinguishers = scene.extinguishers := rfl
    rw [clear_of_some ha, Option.map_some]
    simp only [hc]
    rcases scene.extinguishers with _ | _ | left <;> rfl

lemma coverHole_ledger :
    scene.ledger.coverHole = (scene.coverHole.1.ledger, scene.coverHole.2) := by
  rw [Ledger.coverHole, clear_ledger, coverHole]
  cases scene.clear? .hole <;> rfl

lemma reset_ledger : scene.ledger.reset = (scene.reset.1.ledger, scene.reset.2) := by
  let terrain := scene.puzzle.applyFlicker true scene.terrain.rearm
  have hr : terrain.registers = _ := scene.terrain.rearm.registers_applyFlicker scene.puzzle true
  have hg : terrain.ground = scene.terrain.ground :=
    scene.terrain.rearm.ground_congr (scene.puzzle.rearm_applyFlicker true _)
  have ha : (scene.puzzle.startActor terrain.ground : Actor α) =
    scene.puzzle.startActor scene.terrain.ground := by rw [hg]
  have h : scene.ledger.reset.1 = scene.reset.1.ledger := by
    show _ = (⟨{ scene with
      terrain := terrain.ground
      actor := scene.puzzle.startActor terrain.ground
      collected := scene.collected.map fun _ => false
      extinguishers := scene.puzzle.extinguishers }, terrain.registers⟩ : Ledger α)
    rw [hr, ha, hg, Terrain.registers_rearm]
    rfl
  exact Prod.ext h ((congrArg Ledger.overview h).trans scene.reset.1.overview_ledger)

theorem act_ledger (h : scene.collected.length = scene.puzzle.crystals.length) (action : Action α) :
    scene.ledger.act? action = some ((scene.act action).1.ledger, (scene.act action).2) := by
  cases action with
  | collect => exact scene.collect_ledger h
  | putOutFire => exact scene.putOutFire_ledger
  | coverHole => exact congrArg some scene.coverHole_ledger
  | alternate => exact congrArg some scene.alternate_ledger
  | reset => exact congrArg some scene.reset_ledger
  | place actor => rfl

end Scene

namespace Puzzle

def hazardCells (puzzle : Puzzle) : HazardKind → List Cell
  | .hole => puzzle.holes
  | .fire => puzzle.fires

variable {α : Type} [Scalar α] (puzzle : Puzzle)

def ledger : Ledger α :=
  let registers : Registers := fun kind => (puzzle.hazardCells kind).foldl Register.add .empty
  { bare :=
      { puzzle
        terrain := puzzle.terrain.ground
        actor := puzzle.startActor puzzle.terrain.ground
        collected := puzzle.crystals.map fun _ => false
        extinguishers := puzzle.extinguishers }
    registers :=
      puzzle.flicker.elim registers fun flicker => Registers.applyFlicker registers flicker true }

lemma hazards_terrain (kind : HazardKind) :
    puzzle.terrain.hazards kind = (puzzle.hazardCells kind).map (⟨·, true⟩) := by
  cases kind <;> rfl

lemma ledger_scene : (puzzle.scene : Scene α).ledger = puzzle.ledger := by
  have hr : (fun kind => (puzzle.hazardCells kind).foldl Register.add .empty) =
      puzzle.terrain.registers := by
    funext kind
    rw [Terrain.registers, hazards_terrain]
    exact Register.foldl_add_number [] _
  have hs : (puzzle.scene : Scene α).ledger = _ :=
    ({ puzzle.scene with terrain := puzzle.terrain } : Scene α).ledger_withTerrain
      (puzzle.rearm_applyFlicker true puzzle.terrain)
  rw [hs, ledger, hr, Terrain.registers_applyFlicker]
  rfl

end Puzzle

end RobotPuzzle
