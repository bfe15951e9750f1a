import RobotPuzzle.Proofs.Run.Footing
import RobotPuzzle.Proofs.Run.Rest
import RobotPuzzle.Puzzle.Catalog
import RobotPuzzle.Run.Trial

namespace RobotPuzzle

def Trial.follow {α : Type} [Scalar α] (trial : Trial α) (schedule : List Bool) : Trial α :=
  schedule.foldl (fun trial cancels => (if cancels then trial.cancel else trial).tick.2) trial

def Trial.next {α : Type} [Scalar α] (trial : Trial α) (cancels : Bool) : Frame α × Trial α :=
  (if cancels then trial.cancel else trial).tick

def Trial.frames {α : Type} [Scalar α] (trial : Trial α) : List Bool → List (Frame α)
  | [] => []
  | cancels :: schedule => (trial.next cancels).1 :: (trial.next cancels).2.frames schedule

lemma Change.IsLaw.follow {α : Type} [Scalar α] {change : Change α} (h : change.IsLaw)
    (trial : Trial α) (schedule : List Bool) :
    ∃ events, change trial.scene events (trial.follow schedule).scene := by
  induction schedule generalizing trial with
  | nil => exact ⟨[], h.refl trial.scene⟩
  | cons cancels schedule ih =>
    have ht : ∀ trial : Trial α, ∃ events, change trial.scene events trial.tick.2.scene :=
      fun trial => ⟨_, h.tick trial.run trial.cancelled trial.scene⟩
    cases cancels with
    | true =>
      obtain ⟨events, he⟩ := ht trial.cancel
      obtain ⟨more, hm⟩ := ih trial.cancel.tick.2
      exact ⟨_, h.trans he hm⟩
    | false =>
      obtain ⟨events, he⟩ := ht trial
      obtain ⟨more, hm⟩ := ih trial.tick.2
      exact ⟨_, h.trans he hm⟩

structure Pace.IsFair (pace : Pace Rat) : Prop where
  share_nonneg : 0 ≤ pace.share
  share_le_one : pace.share ≤ 1
  gain_nonneg : 0 ≤ pace.gain

structure Run.IsSafe (run : Run Rat) (scene : Scene Rat) : Prop where
  isFair : run.pace.IsFair
  isOpen : scene.terrain.IsOpen scene.cell
  goesOn : run.ended = none → run.motion.elim scene.IsAtRest scene.Allows

def Frame.IsSafe (frame : Frame Rat) : Prop := frame.run.IsSafe frame.scene

lemma Scene.Allows.isOpen {scene : Scene Rat} {motion : Motion Rat} (h : scene.Allows motion) :
    scene.terrain.IsOpen scene.cell := by
  cases motion with
  | travel requested share warned =>
    obtain ⟨-, hs | ⟨terrain, course, t, -, hf⟩⟩ := h
    · exact hs.1
    · exact hf.isOpen
  | turn target heading => exact Scene.IsAtRest.isOpen h

variable {pace : Pace Rat} {scene : Scene Rat} {events : List (Event Rat)}

namespace Frame

lemma isSafe_stopped (hp : pace.IsFair) (h : scene.terrain.IsOpen scene.cell) (ending : Ending) :
    (stopped pace ending scene events).IsSafe :=
  ⟨hp, h, fun hn => nomatch hn⟩

lemma isSafe_paused {pending : List Statement} {motion : Motion Rat} (hp : pace.IsFair)
    (h : scene.Allows motion) : (paused pace pending motion scene events).IsSafe :=
  ⟨hp, h.isOpen, fun _ => h⟩

end Frame

lemma isSafe_proceed (hp : pace.IsFair) (h : scene.IsAtRest) (statements : List Statement) :
    (proceed pace statements scene).IsSafe := by
  fun_induction proceed pace statements scene with
  | case1 scene => exact Frame.isSafe_stopped hp h.isOpen .completed
  | case2 scene body rest ih => exact ih h
  | case3 scene condition source body rest holds ih => exact ih h
  | case4 c rest scene motion hd =>
    show (Frame.paused pace rest motion scene []).IsSafe
    refine Frame.isSafe_paused hp ?_
    obtain ⟨-, requested, rfl, ht⟩ | ⟨-, target, heading, rfl, -⟩ := h.deed hd
    · exact ⟨⟨hp.share_nonneg, hp.share_le_one⟩, ht⟩
    · exact h
  | case5 c rest scene action hd after events ha ih =>
    have hs := Scene.sameFooting_act hd
    rw [ha] at hs
    exact ih (h.same hs)

lemma Run.IsSafe.tick {run : Run Rat} (h : run.IsSafe scene) (cancelled : Bool) :
    (run.tick cancelled scene).IsSafe := by
  cases he : run.ended with
  | some ending =>
    rw [Run.tick_of_ended he]
    exact h
  | none =>
    cases cancelled with
    | true =>
      rw [Run.tick_of_cancelled he]
      exact Frame.isSafe_stopped h.isFair h.isOpen .cancelled
    | false =>
      simp only [Run.tick, he, Bool.false_eq_true, if_false]
      have hg := h.goesOn he
      cases hm : run.motion with
      | none =>
        rw [hm] at hg
        exact isSafe_proceed h.isFair hg run.pending
      | some motion =>
        rw [hm] at hg
        dsimp only
        have hs := Scene.Allows.step hg h.isFair.gain_nonneg
        generalize motion.step run.pace scene = result at hs
        cases hs with
        | moving ha => exact Frame.isSafe_paused h.isFair ha
        | settled ha => exact isSafe_proceed h.isFair ha run.pending
        | trapped => exact Frame.isSafe_stopped h.isFair h.isOpen .trapped

namespace Trial

variable {trial : Trial Rat} {puzzle : Puzzle}

lemma isSafe_follow (h : trial.run.IsSafe trial.scene) (schedule : List Bool) :
    (trial.follow schedule).run.IsSafe (trial.follow schedule).scene := by
  induction schedule generalizing trial with
  | nil => exact h
  | cons cancels schedule ih =>
    cases cancels with
    | true => exact ih (h.tick true)
    | false => exact ih (h.tick trial.cancelled)

lemma isOf_follow (h : trial.scene.IsOf puzzle) (schedule : List Bool) :
    (trial.follow schedule).scene.IsOf puzzle := by
  obtain ⟨_, hf⟩ := (isLaw_isOf puzzle).follow trial schedule
  exact hf h

end Trial

theorem Puzzle.robot_stays_on_open_cells (puzzle : Puzzle) (program : Program) (pace : Pace Rat)
    (hs : puzzle.terrain.IsOpen puzzle.start) (hl : 0 ≤ pace.share) (hu : pace.share ≤ 1)
    (hg : 0 ≤ pace.gain) (schedule : List Bool) :
    let trial := (⟨program.start pace, puzzle.scene, false⟩ : Trial Rat).follow schedule
    puzzle.terrain.IsOpen trial.scene.cell := by
  intro trial
  have hr := Scene.isAtRest_scene hs
  have h : (program.start pace).IsSafe (puzzle.scene : Scene Rat) :=
    ⟨⟨hl, hu, hg⟩, hr.isOpen, fun _ => hr⟩
  have hp : trial.scene.IsOf puzzle := Trial.isOf_follow (Scene.isOf_scene puzzle) schedule
  exact hp.isOpen_iff.mpr (Trial.isSafe_follow h schedule).isOpen

theorem Puzzle.robot_stays_on_open_cells_halfway :
    let program : Program := ⟨[.command (.forward 3), .command .turnLeft]⟩
    let trial := (⟨program.start Pace.standard, level2Phase2.scene, false⟩ : Trial Rat).follow
      (List.replicate 20 false ++ [true, false])
    level2Phase2.terrain.IsOpen level2Phase2.start ∧ 0 ≤ (Pace.standard : Pace Rat).share ∧
      (Pace.standard : Pace Rat).share ≤ 1 ∧ 0 ≤ (Pace.standard : Pace Rat).gain ∧
      level2Phase2.terrain.IsOpen trial.scene.cell := by
  intro program trial
  have hs : level2Phase2.terrain.IsOpen level2Phase2.start := by decide
  have hl : 0 ≤ (Pace.standard : Pace Rat).share := by decide +kernel
  have hu : (Pace.standard : Pace Rat).share ≤ 1 := by decide +kernel
  have hg : 0 ≤ (Pace.standard : Pace Rat).gain := by decide +kernel
  exact ⟨hs, hl, hu, hg, robot_stays_on_open_cells level2Phase2 program Pace.standard hs hl hu hg
    (List.replicate 20 false ++ [true, false])⟩

end RobotPuzzle
