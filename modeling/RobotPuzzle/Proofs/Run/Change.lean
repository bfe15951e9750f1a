import RobotPuzzle.Proofs.Scene.Layout
import RobotPuzzle.Run.Tick

/-! What holds of every action and of every frame of a motion holds of whole frames of a run. -/

namespace RobotPuzzle

abbrev Change (α : Type) := Scene α → List (Event α) → Scene α → Prop

variable {α : Type} [Scalar α]

structure Change.IsLaw (change : Change α) : Prop where
  refl (scene) : change scene [] scene
  trans {scene next last events more} : change scene events next → change next more last →
    change scene (events ++ more) last
  deed {scene pace command action} : scene.actor.deed pace command = .action action →
    change scene (scene.act action).2 (scene.act action).1
  motion (motion : Motion α) (pace scene) :
    change scene (motion.step pace scene).2.2 (motion.step pace scene).2.1

namespace Change

variable {change : Change α}

lemma IsLaw.proceed (h : change.IsLaw) (pace : Pace α) (statements : List Statement)
    (scene : Scene α) : change scene (proceed pace statements scene).events
      (proceed pace statements scene).scene := by
  fun_induction RobotPuzzle.proceed pace statements scene with
  | case1 scene => exact h.refl scene
  | case2 scene body rest ih => exact ih
  | case3 scene condition source body rest holds ih => exact ih
  | case4 c rest scene motion hd => exact h.refl scene
  | case5 c rest scene action hd next events ha ih =>
    have hs := h.deed hd
    rw [ha] at hs
    exact h.trans hs ih

theorem IsLaw.tick (h : change.IsLaw) (run : Run α) (cancelled : Bool) (scene : Scene α) :
    change scene (run.tick cancelled scene).events (run.tick cancelled scene).scene := by
  rw [Run.tick]
  split
  · exact h.refl scene
  · split
    · exact h.refl scene
    · split
      · exact h.proceed run.pace run.pending scene
      · rename_i motion hm
        have hs := h.motion motion run.pace scene
        split
        · rename_i next after events hp
          rw [hp] at hs
          exact hs
        · rename_i after events hp
          rw [hp] at hs
          exact hs
        · rename_i after events hp
          rw [hp] at hs
          exact h.trans hs (h.proceed run.pace run.pending after)

end Change

lemma deed_action {actor : Actor α} {pace : Pace α} {c : Command} {action : Action α}
    (h : actor.deed pace c = .action action) :
    action = .collect ∨ action = .putOutFire ∨ action = .coverHole := by
  cases c <;> cases h <;> simp

namespace Scene

variable (scene : Scene α) (pace : Pace α)

lemma tells_advance (requested : Position α) (share : α) (warned : Bool) :
    scene.Tells (scene.advance pace requested share warned).2.2
      (scene.advance pace requested share warned).2.1 := by
  have hw : ∀ b : Bool, scene.view.applyAll (if b then [.warn blockedWarning] else []) =
      scene.view := by
    intro b
    cases b <;> rfl
  rw [advance]
  dsimp only
  split
  · rw [Tells, View.applyAll_append, hw]
    rfl
  · rw [Tells, View.applyAll_append, hw]
    rfl

lemma tells_travel (requested : Position α) (share : α) (warned : Bool) :
    scene.Tells (scene.travel pace requested share warned).2.2
      (scene.travel pace requested share warned).2.1 := by
  rw [travel]
  split
  · rfl
  · split
    · rfl
    · split
      · rfl
      · exact scene.tells_advance pace requested share warned

lemma tells_turn (target : α) (heading : Heading) :
    scene.Tells (scene.turn pace target heading).2.2 (scene.turn pace target heading).2.1 := by
  rw [turn]
  dsimp only
  split <;> rfl

lemma tells_motion (motion : Motion α) :
    scene.Tells (motion.step pace scene).2.2 (motion.step pace scene).2.1 := by
  cases motion with
  | travel requested share warned => exact scene.tells_travel pace requested share warned
  | turn target heading => exact scene.tells_turn pace target heading

lemma motion_scene (motion : Motion α) :
    ∃ actor, (motion.step pace scene).2.1 = { scene with actor } := by
  cases motion with
  | travel requested share warned =>
    simp only [Motion.step, travel, advance]
    repeat' split
    all_goals exact ⟨_, rfl⟩
  | turn target heading =>
    simp only [Motion.step, turn]
    split <;> exact ⟨_, rfl⟩

end Scene

lemma isLaw_tells : Change.IsLaw (Scene.Tells (α := α)) where
  refl _ := rfl
  trans hs hm := by
    rw [Scene.Tells, View.applyAll_append, hs, hm]
  deed {scene pace command action} hd := (scene.acts (deed_action hd)).tells
  motion motion pace scene := scene.tells_motion pace motion

lemma isLaw_isOf (puzzle : Puzzle) :
    Change.IsLaw fun (scene : Scene α) _ after => scene.IsOf puzzle → after.IsOf puzzle where
  refl _ h := h
  trans hs hm h := hm (hs h)
  deed {scene pace command action} _ h := h.act action
  motion motion pace scene h := by
    obtain ⟨actor, ha⟩ := scene.motion_scene pace motion
    rw [ha]
    exact h.withActor actor

end RobotPuzzle
