import Mathlib.Tactic.Common
import RobotPuzzle.Run.Trial

/-! Programs executed by recursion on their statements, every motion being carried to its end at
once. -/

namespace RobotPuzzle

/-- What a piece of a program comes to; `frames` are those of its motions. -/
structure Outcome (α : Type) where
  scene : Scene α
  events : List (Event α)
  frames : Nat
  ending : Ending

namespace Outcome

variable {α : Type}

def idle (scene : Scene α) : Outcome α := ⟨scene, [], 0, .completed⟩

def after (outcome : Outcome α) (events : List (Event α)) (frames : Nat) : Outcome α :=
  { outcome with events := events ++ outcome.events, frames := frames + outcome.frames }

@[simp]
lemma after_nil_zero (outcome : Outcome α) : outcome.after [] 0 = outcome := by
  simp [after]

@[simp]
lemma after_after (outcome : Outcome α) (events more : List (Event α)) (frames count : Nat) :
    (outcome.after more count).after events frames =
      outcome.after (events ++ more) (frames + count) := by
  simp [after, Nat.add_assoc]

@[simp]
lemma scene_after (outcome : Outcome α) (events : List (Event α)) (frames : Nat) :
    (outcome.after events frames).scene = outcome.scene := rfl

@[simp]
lemma ending_after (outcome : Outcome α) (events : List (Event α)) (frames : Nat) :
    (outcome.after events frames).ending = outcome.ending := rfl

end Outcome

variable {α : Type} [Scalar α]

inductive Motion.Executes (pace : Pace α) : Motion α → Scene α → Outcome α → Prop
  | settled {motion scene after events} : motion.step pace scene = (.settled, after, events) →
      Executes pace motion scene ⟨after, events, 1, .completed⟩
  | trapped {motion scene after events} : motion.step pace scene = (.trapped, after, events) →
      Executes pace motion scene ⟨after, events, 1, .trapped⟩
  | moving {motion next scene after events outcome} :
      motion.step pace scene = (.moving next, after, events) →
      Executes pace next after outcome → Executes pace motion scene (outcome.after events 1)

/-- The statements of a block are executed from the first to the last, unless one is `stopped` by a
trap. -/
inductive Statement.Executes (pace : Pace α) : Statement → Scene α → Outcome α → Prop
  | action {c scene action} : scene.actor.deed pace c = .action action →
      Executes pace (.command c) scene
        ⟨(scene.act action).1, (scene.act action).2, 0, .completed⟩
  | motion {c scene motion outcome} : scene.actor.deed pace c = .motion motion →
      motion.Executes pace scene outcome → Executes pace (.command c) scene outcome
  | holds {condition source body scene outcome} : scene.evaluate condition = true →
      Executes pace body scene outcome →
      Executes pace (.when condition source body) scene outcome
  | fails {condition source body scene} : scene.evaluate condition = false →
      Executes pace (.when condition source body) scene (.idle scene)
  | nil {scene} : Executes pace (.block []) scene (.idle scene)
  | stopped {statement body scene outcome} : Executes pace statement scene outcome →
      outcome.ending = .trapped → Executes pace (.block (statement :: body)) scene outcome
  | cons {statement body scene first last} : Executes pace statement scene first →
      first.ending = .completed → Executes pace (.block body) first.scene last →
      Executes pace (.block (statement :: body)) scene (last.after first.events first.frames)

lemma Motion.not_executes {pace : Pace α} {motion : Motion α} {scene : Scene α}
    {events : List (Event α)} (h : motion.step pace scene = (.moving motion, scene, events))
    (outcome : Outcome α) : ¬ motion.Executes pace scene outcome := by
  intro he
  induction he with
  | settled hs => exact nomatch hs.symm.trans h
  | trapped hs => exact nomatch hs.symm.trans h
  | moving hs _ ih =>
    obtain ⟨hm, hr⟩ := Prod.mk.inj (hs.symm.trans h)
    obtain rfl := Progress.moving.inj hm
    obtain ⟨rfl, -⟩ := Prod.mk.inj hr
    exact ih h

lemma Motion.Executes.ending_ne {pace : Pace α} {motion : Motion α} {scene : Scene α}
    {outcome : Outcome α} (h : motion.Executes pace scene outcome) :
    outcome.ending ≠ .cancelled := by
  induction h with
  | settled _ => simp
  | trapped _ => simp
  | moving _ _ ih => exact ih

lemma Statement.Executes.exists_head {pace : Pace α} {statement : Statement}
    {body : List Statement} {scene : Scene α} {outcome : Outcome α}
    (h : (Statement.block (statement :: body)).Executes pace scene outcome) :
    ∃ first, statement.Executes pace scene first := by
  cases h with
  | stopped hs _ => exact ⟨_, hs⟩
  | cons hs _ _ => exact ⟨_, hs⟩

lemma Statement.Executes.ending_ne {pace : Pace α} {statement : Statement} {scene : Scene α}
    {outcome : Outcome α} (h : statement.Executes pace scene outcome) :
    outcome.ending ≠ .cancelled := by
  induction h with
  | action _ => simp
  | motion _ hm => exact hm.ending_ne
  | holds _ _ ih => exact ih
  | fails _ => simp [Outcome.idle]
  | nil => simp [Outcome.idle]
  | stopped _ _ ih => exact ih
  | cons _ _ _ _ ih => exact ih

def Program.Executes (program : Program) (pace : Pace α) (scene : Scene α)
    (outcome : Outcome α) : Prop :=
  (Statement.block program.body).Executes pace scene outcome

end RobotPuzzle
