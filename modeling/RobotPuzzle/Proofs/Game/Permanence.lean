import RobotPuzzle.Proofs.Game.Blinking
import RobotPuzzle.Proofs.Game.Charges
import RobotPuzzle.Proofs.Game.Collection
import RobotPuzzle.Proofs.Scene.Clearing
import RobotPuzzle.Proofs.Scene.Ledger

/-! What no run changes: the layout of the puzzle, the names of its hazards and the bounds of what
is counted. The ledger of the puzzle goes through all that happens to the scene and never fails. -/

namespace RobotPuzzle

variable {α : Type} [Scalar α]

namespace Ledger

def undergo? (ledger : Ledger α) : Happening α → Option (Ledger α × List (Event α))
  | .act action => ledger.act? action
  | .motion motion pace =>
    let result := (motion.step pace ledger.scene).2
    some (ledger.withActor result.1.actor, result.2)
  | .rejected rejection => some (ledger, [.console rejection.console])
  | .closed won => some (ledger, [.finished won])

def through? (ledger : Ledger α) : List (Happening α) → Option (Ledger α × List (Event α))
  | [] => some (ledger, [])
  | happening :: happenings => do
    let (next, events) ← ledger.undergo? happening
    let (last, more) ← next.through? happenings
    return (last, events ++ more)

end Ledger

namespace Scene

variable {scene : Scene α} {puzzle : Puzzle}

lemma undergo_ledger (h : scene.collected.length = scene.puzzle.crystals.length)
    (happening : Happening α) : scene.ledger.undergo? happening =
      some ((scene.undergo happening).1.ledger, (scene.undergo happening).2) := by
  cases happening with
  | act action => exact scene.act_ledger h action
  | motion motion pace =>
    obtain ⟨actor, ha⟩ := scene.motion_scene pace motion
    simp only [Ledger.undergo?, scene.scene_ledger, undergo]
    rw [ha]
    rfl
  | rejected rejection => rfl
  | closed won => rfl

lemma IsOf.through_ledger (h : scene.IsOf puzzle) (happenings : List (Happening α)) :
    scene.ledger.through? happenings = some ((scene.through happenings).ledger,
      (scene.moments happenings).flatMap Moment.events) := by
  induction happenings generalizing scene with
  | nil => rfl
  | cons happening happenings ih =>
    have hl : scene.collected.length = scene.puzzle.crystals.length := by
      rw [h.length_collected, h.puzzle_eq]
    rw [Ledger.through?, undergo_ledger hl, Option.bind_eq_bind, Option.bind_some]
    dsimp only
    rw [ih (h.undergo happening)]
    rfl

omit [Scalar α] in
lemma IsOf.cells (h : scene.IsOf puzzle) (kind : HazardKind) :
    (scene.terrain.hazards kind).map (·.cell) = puzzle.hazardCells kind := by
  have hr : (scene.terrain.rearm.hazards kind).map (·.cell) =
      (scene.terrain.hazards kind).map (·.cell) := by
    cases kind <;> exact List.map_map
  rw [← hr, h.rearm_eq, puzzle.hazards_terrain, List.map_map]
  exact List.map_id _

lemma map_happening_moments (scene : Scene α) (happenings : List (Happening α)) :
    (scene.moments happenings).map (·.happening) = happenings := by
  induction happenings generalizing scene with
  | nil => rfl
  | cons happening happenings ih => exact congrArg (happening :: ·) (ih _)

end Scene

lemma Terrain.covered_setActive {terrain : Terrain} {id : Nat} {cell : Cell}
    (h : terrain.hazard? .hole id = some ⟨cell, false⟩) (kind : HazardKind) (other : Nat) :
    (terrain.setActive kind other false).hazard? .hole id = some ⟨cell, false⟩ := by
  rw [hazard_setActive, h, Option.map_some]
  split <;> rfl

namespace Scene

variable {scene : Scene α} {id : Nat} {cell : Cell}

lemma Acts.covered {result : Scene α × List (Event α)} (ha : scene.Acts result)
    (h : scene.terrain.hazard? .hole id = some ⟨cell, false⟩) :
    result.1.terrain.hazard? .hole id = some ⟨cell, false⟩ := by
  cases ha with
  | refused _ => exact h
  | collected _ => exact h
  | cleared _ => exact Terrain.covered_setActive h ..
  | spent _ _ => exact Terrain.covered_setActive h ..

lemma covered_undergo {happening : Happening α} (hr : happening.isReset = false)
    (h : scene.terrain.hazard? .hole id = some ⟨cell, false⟩) :
    (scene.undergo happening).1.terrain.hazard? .hole id = some ⟨cell, false⟩ := by
  cases happening with
  | act action =>
    cases action with
    | collect => exact scene.collects.acts.covered h
    | putOutFire => exact scene.putsOut.acts.covered h
    | coverHole => exact scene.covers.acts.covered h
    | alternate =>
      show scene.alternate.1.terrain.hazard? .hole id = _
      rw [alternate]
      cases scene.puzzle.flicker with
      | none => exact h
      | some flicker =>
        dsimp only
        rw [flicker.apply_eq]
        exact h
    | reset => exact absurd hr.symm Bool.false_ne_true
    | place actor => exact h
  | motion motion pace =>
    obtain ⟨actor, ha⟩ := scene.motion_scene pace motion
    show (motion.step pace scene).2.1.terrain.hazard? .hole id = _
    rw [ha]
    exact h
  | rejected rejection => exact h
  | closed won => exact h

lemma covered_through {happenings : List (Happening α)}
    (hn : ∀ happening ∈ happenings, happening.isReset = false)
    (h : scene.terrain.hazard? .hole id = some ⟨cell, false⟩) :
    (scene.through happenings).terrain.hazard? .hole id = some ⟨cell, false⟩ :=
  kept_through (P := fun scene => scene.terrain.hazard? .hole id = some ⟨cell, false⟩)
    (fun _ happening hm => covered_undergo (hn happening hm)) h

end Scene

/-- The calls that can lead back to the start, as that of a program does if it is accepted. -/
def Call.mayReset {α : Type} : Call α → Bool
  | .start _ => true
  | .reset => true
  | .act .reset => true
  | _ => false

namespace Table

variable {table : Table α} {id : Nat} {cell : Cell}

lemma not_isReset_of_mayReset {call : Call α} (h : call.mayReset = false) :
    ∀ happening ∈ table.happenings call, happening.isReset = false := by
  apply not_isReset
  · rintro rfl
    exact Bool.false_ne_true h.symm
  · rintro rfl
    exact Bool.false_ne_true h.symm
  · rintro code index rfl
    exact absurd h.symm Bool.false_ne_true

lemma covered_after {calls : List (Call α)} (hn : ∀ call ∈ calls, call.mayReset = false)
    (h : table.game.scene.terrain.hazard? .hole id = some ⟨cell, false⟩) :
    (table.after calls).game.scene.terrain.hazard? .hole id = some ⟨cell, false⟩ := by
  refine after_induction
    (P := fun table => table.game.scene.terrain.hazard? .hole id = some ⟨cell, false⟩) h
    fun before call later hc hb => ?_
  rw [← ((table.after before).unfolds_call call).through_eq]
  exact Scene.covered_through (not_isReset_of_mayReset (hn call (by simp [hc]))) hb

end Table

namespace Puzzle

variable (puzzle : Puzzle) (pace : Pace α) (calls : List (Call α))

lemma exists_left_le {charges : Nat} (h : puzzle.extinguishers = some charges) :
    ∃ left, ((puzzle.table pace).after calls).game.scene.extinguishers = some left ∧
      left ≤ charges := by
  obtain ⟨recent, -, hn, ht⟩ := puzzle.exists_sinceReset pace calls
  have hs : (puzzle.scene : Scene α).extinguishers = some charges := h
  obtain ⟨⟨left, hl, hsum⟩, -⟩ := Scene.charges_through hn hs
  exact ⟨left, ht ▸ hl, hsum ▸ Nat.le_add_right ..⟩

lemma through_moments : (puzzle.ledger : Ledger α).through?
    (((puzzle.table pace).moments calls).map (·.happening)) =
      some (((puzzle.table pace).after calls).game.scene.ledger,
        (puzzle.table pace).events calls) := by
  obtain ⟨happenings, hm, hu⟩ := (puzzle.table pace).exists_unfolds calls
  have hs : (puzzle.table pace).game.scene.IsOf puzzle := Scene.isOf_scene puzzle
  rw [hm, Scene.map_happening_moments, ← puzzle.ledger_scene, ← hu.events_eq, ← hu.through_eq]
  exact hs.through_ledger happenings

/-- Whatever is called, the puzzle, the size of the map, the obstacles and the traps stay as they
were, and so do the cells of the hazards. The ledger never fails, and its registers have the hazards
in the order of the puzzle, each under its number, which is its id too. There is a flag for every
crystal, and charges that are counted are never more than at the start. A covered hole is open again
only after a reset. -/
theorem layout_never_changes :
    let table := (puzzle.table pace).after calls
    let scene := table.game.scene
    (scene.puzzle = puzzle ∧ scene.terrain.divisions = puzzle.terrain.divisions ∧
      scene.terrain.obstacles = puzzle.obstacles ∧ scene.terrain.traps = puzzle.traps) ∧
    (∃ ledger : Ledger α,
      puzzle.ledger.through? (((puzzle.table pace).moments calls).map (·.happening)) =
        some (ledger, (puzzle.table pace).events calls) ∧
      ledger.scene = scene ∧
      ∀ kind, (scene.terrain.hazards kind).map (·.cell) = puzzle.hazardCells kind ∧
        (ledger.registers kind).entries.map (fun entry => (entry.1, entry.2.id, entry.2.cell)) =
          (puzzle.hazardCells kind).zipIdx.map fun item => (item.2, item.2, item.1)) ∧
    scene.collected.length = puzzle.crystals.length ∧
    (puzzle.extinguishers = none → scene.extinguishers = none) ∧
    (∀ charges, puzzle.extinguishers = some charges →
      ∃ left, scene.extinguishers = some left ∧ left ≤ charges) ∧
    ∀ later : List (Call α), (∀ call ∈ later, call.mayReset = false) → ∀ id cell,
      scene.terrain.hazard? .hole id = some ⟨cell, false⟩ →
      (table.after later).game.scene.terrain.hazard? .hole id = some ⟨cell, false⟩ := by
  intro table scene
  have hs : scene.IsOf puzzle := Table.isOf_after (Scene.isOf_scene puzzle) calls
  refine ⟨⟨hs.puzzle_eq, ?_⟩, ⟨scene.ledger, ?_, scene.scene_ledger, fun kind => ?_⟩,
    hs.length_collected, fun hn => ?_, fun charges hc => ?_, fun later hl id cell hh => ?_⟩
  · exact Terrain.ground_of_rearm (hs.rearm_eq.trans puzzle.rearm_terrain.symm)
  · exact puzzle.through_moments pace calls
  · refine ⟨hs.cells kind, ?_⟩
    rw [← hs.cells kind]
    exact Register.entries_number _
  · rw [← Option.not_isSome_iff_eq_none, hs.isSome_extinguishers, hn]
    exact Bool.false_ne_true
  · exact puzzle.exists_left_le pace calls hc
  · exact Table.covered_after hl hh

theorem layout_never_changes_missing :
    let puzzle : Puzzle :=
      { id := "cellar", title := "Cellar", start := ⟨1, 1⟩, holes := [⟨5, 5⟩, ⟨1, 0⟩]
        fires := [⟨0, 1⟩, ⟨2, 1⟩], crystals := [⟨1, 1⟩, ⟨1, 1⟩], extinguishers := some 2
        flicker := some ⟨[7, 0], [1, 9]⟩ }
    let calls : List (Call Rat) :=
      [.start "se(buracoAFrente())\ncobrirBuraco()", .tick 0, .act .putOutFire]
    let later : List (Call Rat) :=
      [.act .alternate, .act .collect, .act .putOutFire, .act .coverHole, .tick 0]
    let scene := ((puzzle.table Pace.standard).after calls).game.scene
    let last := ((puzzle.table Pace.standard).after (calls ++ later)).game.scene
    (∀ call ∈ later, call.mayReset = false) ∧
    scene.terrain.hazard? .hole 1 = some ⟨⟨1, 0⟩, false⟩ ∧
    last.terrain.hazard? .hole 1 = some ⟨⟨1, 0⟩, false⟩ ∧
    last.collected = [true, false] ∧ last.extinguishers = some 0 ∧
    (∃ left, scene.extinguishers = some left ∧ left ≤ 2) ∧
    ∃ ledger : Ledger Rat, ledger.scene = scene ∧
      (ledger.registers .fire).entries.map (fun entry => (entry.1, entry.2.id, entry.2.cell)) =
        [(0, 0, ⟨0, 1⟩), (1, 1, ⟨2, 1⟩)] := by
  intro puzzle calls later scene last
  obtain ⟨-, ⟨ledger, -, hs, hr⟩, -, -, hc, hh⟩ :=
    puzzle.layout_never_changes (Pace.standard : Pace Rat) calls
  have hl : ∀ call ∈ later, call.mayReset = false := by simp [later, Call.mayReset]
  have hb : scene.terrain.hazard? .hole 1 = some ⟨⟨1, 0⟩, false⟩ := by decide +kernel
  refine ⟨hl, hb, ?_, by decide +kernel, by decide +kernel, hc 2 rfl, ledger, hs, (hr .fire).2⟩
  show ((puzzle.table Pace.standard).after (calls ++ later)).game.scene.terrain.hazard? .hole 1 = _
  rw [Table.after_append]
  exact hh later hl 1 ⟨1, 0⟩ hb

end Puzzle

end RobotPuzzle
