import RobotPuzzle.Proofs.Game.Calls
import RobotPuzzle.Puzzle.Catalog

namespace RobotPuzzle

namespace View

variable {α : Type}

lemma applyAll_asides {events : List (Event α)} (h : ∀ event ∈ events, event.IsAside)
    (view : View α) : view.applyAll events = view := by
  induction events with
  | nil => rfl
  | cons event events ih =>
    obtain ⟨he, hr⟩ := List.forall_mem_cons.mp h
    have ha : view.apply event = view := by
      cases event with
      | console line => rfl
      | finished won => rfl
      | _ => exact he.elim
    rw [applyAll_cons, ha, ih hr]

end View

variable {α : Type} [Scalar α] {puzzle : Puzzle}

namespace Scene

lemma Turns.tells {scene after : Scene α} {events : List (Event α)}
    (ht : scene.Turns events after) (h : scene.IsOf puzzle) : scene.Tells events after := by
  cases ht with
  | stay ha => exact View.applyAll_asides ha scene.view
  | act action ha => exact tells_act h ha
  | frame run cancelled => exact isLaw_tells.tick run cancelled scene

lemma Turns.isOf {scene after : Scene α} {events : List (Event α)}
    (ht : scene.Turns events after) (h : scene.IsOf puzzle) : after.IsOf puzzle := by
  cases ht with
  | stay ha => exact h
  | act action ha => exact h.act action
  | frame run cancelled => exact (isLaw_isOf puzzle).tick run cancelled scene h

end Scene

namespace Table

variable {table : Table α}

lemma isOf_call (h : table.game.scene.IsOf puzzle) (call : Call α) :
    (table.call call).1.game.scene.IsOf puzzle := by
  by_cases hc : call.IsTold
  · exact (table.turns_call hc).isOf h
  · cases call with
    | act action => exact h.act action
    | _ => exact absurd trivial hc

lemma isOf_after (h : table.game.scene.IsOf puzzle) (calls : List (Call α)) :
    (table.after calls).game.scene.IsOf puzzle :=
  kept_after (P := (·.game.scene.IsOf puzzle)) (fun _ call h => isOf_call h call) h calls

lemma applyAll_events (h : table.game.scene.IsOf puzzle) {calls : List (Call α)}
    (hc : ∀ call ∈ calls, call.IsTold) :
    table.game.scene.view.applyAll (table.events calls) = (table.after calls).game.scene.view := by
  induction calls generalizing table with
  | nil => rfl
  | cons call calls ih =>
    obtain ⟨hf, hr⟩ := List.forall_mem_cons.mp hc
    have ht : table.game.scene.view.applyAll (table.call call).2 =
      (table.call call).1.game.scene.view := (table.turns_call hf).tells h
    rw [events, View.applyAll_append, ht, ih (isOf_call h call) hr]
    rfl

end Table

theorem Puzzle.events_mirror_scene (puzzle : Puzzle) (pace : Pace α) (before : List (Call α)) :
    (∀ calls : List (Call α), (∀ call ∈ calls, call.IsTold) →
      ((puzzle.table pace).after before).game.scene.view.applyAll
          (((puzzle.table pace).after before).events calls) =
        ((puzzle.table pace).after (before ++ calls)).game.scene.view) ∧
    ∀ view : View α, view.IsOf puzzle →
      view.applyAll ((puzzle.table pace).after before).game.scene.reset.2 =
        (puzzle.scene : Scene α).view := by
  have h : ((puzzle.table pace).after before).game.scene.IsOf puzzle :=
    Table.isOf_after (Scene.isOf_scene puzzle) before
  refine ⟨fun calls hc => ?_, fun view hv => ?_⟩
  · rw [Table.after_append]
    exact Table.applyAll_events h hc
  · rw [h.reset_eq]
    exact hv.applyAll_start

theorem Puzzle.events_mirror_scene_blink :
    let before : List (Call Rat) := [.act (.place ⟨⟨0, 0⟩, 0, .east⟩)]
    let calls : List (Call Rat) :=
      [.alternate, .start "se(pegandoFogo()) \x7b\napagarFogoECobrirBuraco()\n\x7d", .tick 0,
        .finish 0 .completed, .act .putOutFire, .alternate]
    let stale : View Rat :=
      ⟨⟨3, 4⟩, 7, [false], fun kind => if kind = .fire then List.replicate 5 false else [], some 9⟩
    ((level2Phase2.table Pace.standard).after before).game.scene.view.applyAll
        (((level2Phase2.table Pace.standard).after before).events calls) =
      ((level2Phase2.table Pace.standard).after (before ++ calls)).game.scene.view ∧
    stale.applyAll ((level2Phase2.table Pace.standard).after before).game.scene.reset.2 =
      (level2Phase2.scene : Scene Rat).view := by
  intro before calls stale
  have hc : ∀ call ∈ calls, call.IsTold := by
    simp [calls, Call.IsTold, Action.IsTold]
  have hv : stale.IsOf level2Phase2 := by
    refine ⟨rfl, fun kind => ?_, rfl⟩
    cases kind <;> rfl
  obtain ⟨ht, hr⟩ := events_mirror_scene level2Phase2 Pace.standard before
  exact ⟨ht calls hc, hr stale hv⟩

end RobotPuzzle
