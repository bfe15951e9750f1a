import RobotPuzzle.Scene.Basic

namespace RobotPuzzle

inductive Action (α : Type) where
  | collect
  | putOutFire
  | coverHole
  | alternate
  | reset
  | place (actor : Actor α)

namespace Scene

variable {α : Type} [Scalar α]

def crystalHere? (scene : Scene α) : Option Nat :=
  (scene.puzzle.crystals.zip scene.collected).findIdx? fun (cell, collected) =>
    cell == scene.cell && !collected

def collect (scene : Scene α) : Scene α × List (Event α) :=
  match scene.crystalHere? with
  | none => (scene, [.say "Robô não está sobre o cristal."])
  | some index =>
    let collected := scene.collected.set index true
    let messages :=
      if collected.length = 1 then ["Cristal coletado com sucesso."]
      else if collected.all id then
        ["Cristal coletado.", "Todos os cristais coletados com sucesso!"]
      else ["Cristal coletado."]
    ({ scene with collected }, .visibility (.crystal index) false :: messages.map .say)

def clear? (scene : Scene α) (kind : HazardKind) : Option (Scene α × Event α) :=
  (scene.terrain.clearAdjacent kind scene.cell).map fun (id, terrain) =>
    ({ scene with terrain }, .visibility (.hazard kind id) false)

def refuse : Event α := .say "Não posso fazer isso aqui!"

def putOutFire (scene : Scene α) : Scene α × List (Event α) :=
  match scene.extinguishers with
  | some 0 => (scene, [.say "Estou sem extintores!"])
  | some (left + 1) =>
    match scene.clear? .fire with
    | none => (scene, [refuse])
    | some (scene, event) =>
      ({ scene with extinguishers := some left }, [event, .extinguishers left])
  | none =>
    match scene.clear? .fire with
    | none => (scene, [refuse])
    | some (scene, event) => (scene, [event])

def coverHole (scene : Scene α) : Scene α × List (Event α) :=
  match scene.clear? .hole with
  | none => (scene, [refuse])
  | some (scene, event) => (scene, [event])

def hazardEvents (terrain : Terrain) (kind : HazardKind) (ids : List Nat) : List (Event α) :=
  ids.filterMap fun id =>
    (terrain.hazard? kind id).map fun hazard => .visibility (.hazard kind id) hazard.active

def isLit (terrain : Terrain) (flicker : Flicker) : Bool :=
  (flicker.lit.head?.bind (terrain.hazard? .fire)).any (·.active)

def alternate (scene : Scene α) : Scene α × List (Event α) :=
  match scene.puzzle.flicker with
  | none => (scene, [])
  | some flicker =>
    let terrain := flicker.apply (!isLit scene.terrain flicker) scene.terrain
    ({ scene with terrain }, hazardEvents terrain .fire (flicker.lit ++ flicker.dark))

def overview (scene : Scene α) : List (Event α) :=
  [scene.actor.pose] ++
    (List.range scene.collected.length).map (fun index => .visibility (.crystal index) true) ++
    hazardEvents scene.terrain .hole (List.range scene.terrain.holes.length) ++
    hazardEvents scene.terrain .fire (List.range scene.terrain.fires.length) ++
    scene.extinguishers.toList.map .extinguishers

def reset (scene : Scene α) : Scene α × List (Event α) :=
  let terrain := scene.puzzle.applyFlicker true scene.terrain.rearm
  let scene : Scene α :=
    { scene with
      terrain
      actor := scene.puzzle.startActor terrain
      collected := scene.collected.map fun _ => false
      extinguishers := scene.puzzle.extinguishers }
  (scene, scene.overview)

def act (scene : Scene α) : Action α → Scene α × List (Event α)
  | .collect => scene.collect
  | .putOutFire => scene.putOutFire
  | .coverHole => scene.coverHole
  | .alternate => scene.alternate
  | .reset => scene.reset
  | .place actor => ({ scene with actor }, [])

end Scene

end RobotPuzzle
