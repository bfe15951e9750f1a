import Mathlib.Tactic.Common
import RobotPuzzle.Run.Tick

namespace RobotPuzzle

variable {α : Type} [Scalar α]

lemma proceed_ended (pace : Pace α) (statements : List Statement) (scene : Scene α)
    {ending : Ending} (h : (proceed pace statements scene).step = .done ending) :
    (proceed pace statements scene).run.ended = some ending := by
  fun_induction proceed pace statements scene with
  | case1 scene => exact congrArg some (Step.done.inj h)
  | case2 scene body rest ih => exact ih h
  | case3 scene condition source body rest holds ih => exact ih h
  | case4 c rest scene motion hd => exact nomatch h
  | case5 c rest scene action hd next events ha ih => exact ih h

namespace Run

variable {run : Run α} {cancelled : Bool} {scene : Scene α} {ending : Ending}

lemma tick_of_ended (h : run.ended = some ending) :
    run.tick cancelled scene = ⟨run, scene, [], [], .done ending⟩ := by
  simp only [tick, h]

lemma tick_of_cancelled (h : run.ended = none) :
    run.tick true scene = .stopped run.pace .cancelled scene [] := by
  simp only [tick, h, if_true]

lemma tick_ended (h : (run.tick cancelled scene).step = .done ending) :
    (run.tick cancelled scene).run.ended = some ending := by
  cases he : run.ended with
  | some other =>
    rw [tick_of_ended he] at h ⊢
    exact he.trans (congrArg some (Step.done.inj h))
  | none =>
    cases cancelled with
    | true =>
      rw [tick_of_cancelled he] at h ⊢
      exact congrArg some (Step.done.inj h)
    | false =>
      simp only [tick, he, Bool.false_eq_true, if_false] at h ⊢
      cases hm : run.motion with
      | none =>
        simp only [hm] at h ⊢
        exact proceed_ended run.pace run.pending scene h
      | some motion =>
        rcases hp : motion.step run.pace scene with ⟨progress, after, events⟩
        simp only [hm, hp] at h ⊢
        cases progress with
        | moving next => exact nomatch h
        | settled => exact proceed_ended run.pace run.pending after h
        | trapped => exact congrArg some (Step.done.inj h)

lemma live_of_tick (h : (run.tick cancelled scene).run.ended = none) :
    run.ended = none ∧ cancelled = false := by
  cases he : run.ended with
  | some ending =>
    rw [tick_of_ended he, he] at h
    exact nomatch h
  | none =>
    cases cancelled with
    | false => exact ⟨rfl, rfl⟩
    | true =>
      rw [tick_of_cancelled he] at h
      exact nomatch h

lemma not_cancelled_of_running (h : (run.tick cancelled scene).step = .running) :
    cancelled = false := by
  by_contra hc
  rw [Bool.not_eq_false] at hc
  subst hc
  cases he : run.ended with
  | some ending =>
    rw [tick_of_ended he] at h
    exact nomatch h
  | none =>
    rw [tick_of_cancelled he] at h
    exact nomatch h

end Run

end RobotPuzzle
