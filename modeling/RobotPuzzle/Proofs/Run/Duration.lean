import Mathlib.Algebra.Order.Floor.Ring
import Mathlib.Data.Rat.Floor
import RobotPuzzle.Proofs.Run.Footing
import RobotPuzzle.Proofs.Run.Simulation

namespace RobotPuzzle

lemma Position.isNear_self {precision : Rat} (h : 0 < precision) (position : Position Rat) :
    position.isNear position precision = true := by
  simp [isNear, Rational.abs_eq, h]

lemma Rational.abs_sub_signum {x step : Rat} (h : step < |x|) :
    |x - step * Scalar.signum x| = |x| - step := by
  by_cases hx : x < 0
  · have he : Scalar.signum x = (-1 : Rat) := if_pos hx
    rw [abs_of_neg hx] at h ⊢
    rw [he, abs_of_nonpos (by linarith)]
    ring
  · have he : Scalar.signum x = (1 : Rat) := if_neg hx
    rw [abs_of_nonneg (not_lt.mp hx)] at h ⊢
    rw [he, abs_of_nonneg (by linarith), mul_one]

structure Outcome.IsWithin (outcome : Outcome Rat) (frames : Nat) : Prop where
  frames_le : outcome.frames ≤ frames
  isAtRest : outcome.ending = .completed → outcome.scene.IsAtRest

lemma Outcome.IsWithin.mono {outcome : Outcome Rat} {frames more : Nat}
    (h : outcome.IsWithin frames) (hm : frames ≤ more) : outcome.IsWithin more :=
  ⟨h.frames_le.trans hm, h.isAtRest⟩

lemma Outcome.IsWithin.after {outcome : Outcome Rat} {frames : Nat} (h : outcome.IsWithin frames)
    (events : List (Event Rat)) : (outcome.after events 1).IsWithin (frames + 1) := by
  refine ⟨?_, h.isAtRest⟩
  have hf := h.frames_le
  simp only [Outcome.after]
  omega

namespace Motion

variable {pace : Pace Rat} {scene : Scene Rat}

def EndsWithin (pace : Pace Rat) (motion : Motion Rat) (scene : Scene Rat) (frames : Nat) : Prop :=
  ∃ outcome, motion.Executes pace scene outcome ∧ outcome.IsWithin frames

section Travel

variable {terrain : Terrain} {course : terrain.Course} {t share : Rat} {warned : Bool}

lemma endsWithin_travel {frames : Nat} (h : scene.Follows course t) (hl : 0 ≤ share)
    (hu : share ≤ 1)
    (hn : ∀ after told, after.Follows course (t + (2 * course.free - t) * share) →
      (course.spot t).isNear course.target pace.precision = false →
      EndsWithin pace (travel course.requested (Scalar.capOne (share + pace.gain)) told) after
        frames) :
    EndsWithin pace (travel course.requested share warned) scene (frames + 1) := by
  obtain ⟨events, he⟩ | ⟨after, events, he, ha⟩ | ⟨after, events, told, he, ha, hf⟩ :=
    h.travel hl hu
  · exact ⟨_, .trapped he, by simp, fun hc => nomatch hc⟩
  · exact ⟨_, .settled he, by simp, fun _ => ha⟩
  · obtain ⟨outcome, ho, hw⟩ := hn after told ha hf
    exact ⟨_, .moving he ho, hw.after events⟩

lemma endsWithin_arrived (h : scene.Follows course (2 * course.free)) (hl : 0 ≤ share)
    (hu : share ≤ 1) (hp : 0 < pace.precision) :
    EndsWithin pace (travel course.requested share warned) scene 1 :=
  endsWithin_travel h hl hu fun _ _ _ hn =>
    absurd ((Position.isNear_self hp _).symm.trans hn) (by simp)

lemma endsWithin_follows {count : Nat} (h : scene.Follows course t) (hl : 0 ≤ share)
    (hu : share ≤ 1) (hc : 1 ≤ share + count * pace.gain) (hg : 0 ≤ pace.gain)
    (hp : 0 < pace.precision) :
    EndsWithin pace (travel course.requested share warned) scene (count + 2) := by
  induction count generalizing scene t share warned with
  | zero =>
    obtain rfl : share = 1 := le_antisymm hu (by simpa using hc)
    refine endsWithin_travel h hl hu fun after told ha _ => ?_
    obtain ⟨hl', hu'⟩ := Rational.capOne_mem (add_nonneg hl hg)
    rw [mul_one, add_sub_cancel] at ha
    exact endsWithin_arrived ha hl' hu' hp
  | succ count ih =>
    refine endsWithin_travel h hl hu fun after told ha _ => ?_
    obtain ⟨hl', hu'⟩ := Rational.capOne_mem (add_nonneg hl hg)
    have hm : 0 ≤ (count : Rat) * pace.gain := mul_nonneg (Nat.cast_nonneg count) hg
    have hc' : 1 ≤ Scalar.capOne (share + pace.gain) + count * pace.gain := by
      rw [Rational.capOne_eq, ← min_add_add_right]
      refine le_min ?_ (by linarith)
      push_cast at hc
      linarith
    exact ih ha hl' hu' hc'

end Travel

lemma endsWithin_turn {target : Rat} {heading : Heading} {count : Nat} (h : scene.IsAtRest)
    (hd : |target - scene.actor.yaw| ≤ (count + 1) * pace.turn) :
    EndsWithin pace (turn target heading) scene (count + 1) := by
  induction count generalizing scene with
  | zero =>
    obtain ⟨after, events, he, ha⟩ | ⟨hn, -⟩ := scene.turn_cases pace target heading
    · exact ⟨_, .settled he, le_rfl, fun _ => h.same ha⟩
    · norm_num at hd
      exact absurd hn (not_lt.mpr hd)
  | succ count ih =>
    obtain ⟨after, events, he, ha⟩ | ⟨hn, after, events, he, ha, hy⟩ :=
      scene.turn_cases pace target heading
    · exact ⟨_, .settled he, by simp, fun _ => h.same ha⟩
    · have hr : |target - after.actor.yaw| ≤ (count + 1) * pace.turn := by
        rw [hy, ← sub_sub, Rational.abs_sub_signum hn]
        push_cast at hd
        linarith
      obtain ⟨outcome, ho, hw⟩ := ih (h.same ha) hr
      exact ⟨_, .moving he ho, hw.after events⟩

end Motion

mutual

def Statement.count (kind : Command → Bool) : Statement → Nat
  | .command c => if kind c then 1 else 0
  | .when _ _ body => body.count kind
  | .block body => Statement.countAll kind body

def Statement.countAll (kind : Command → Bool) : List Statement → Nat
  | [] => 0
  | statement :: rest => statement.count kind + Statement.countAll kind rest

end

def Program.count (kind : Command → Bool) (program : Program) : Nat :=
  Statement.countAll kind program.body

structure Pace.IsBrisk (pace : Pace Rat) : Prop where
  share_nonneg : 0 ≤ pace.share
  share_le_one : pace.share ≤ 1
  gain_pos : 0 < pace.gain
  precision_pos : 0 < pace.precision
  turn_pos : 0 < pace.turn

def Pace.moveFrames (pace : Pace Rat) : Nat := ⌈(1 - pace.share) / pace.gain⌉₊ + 2

def Pace.turnFrames (pace : Pace Rat) : Nat := ⌈180 / pace.turn⌉₊

variable {pace : Pace Rat} {scene : Scene Rat}

lemma Pace.IsBrisk.endsWithin_move (hp : pace.IsBrisk) {requested : Position Rat}
    (h : scene.CanTravel requested) :
    Motion.EndsWithin pace (.travel requested pace.share false) scene pace.moveFrames := by
  obtain hs | ⟨terrain, course, t, rfl, hf⟩ := h
  · have hm : 1 ≤ pace.moveFrames := Nat.le_add_left 1 _
    obtain ⟨progress, events, he, rfl | rfl⟩ := hs.travel
    · exact ⟨_, .trapped he, hm, fun hc => nomatch hc⟩
    · exact ⟨_, .settled he, hm, fun _ => .stuck hs⟩
  · have hc := Nat.le_ceil ((1 - pace.share) / pace.gain)
    rw [div_le_iff₀ hp.gain_pos] at hc
    exact Motion.endsWithin_follows hf hp.share_nonneg hp.share_le_one (by linarith) hp.gain_pos.le
      hp.precision_pos

lemma Pace.IsBrisk.endsWithin_turn (hp : pace.IsBrisk) {target : Rat} {heading : Heading}
    (h : scene.IsAtRest) (hd : |target - scene.actor.yaw| ≤ 180) :
    Motion.EndsWithin pace (.turn target heading) scene pace.turnFrames := by
  have hn : 0 < pace.turnFrames := Nat.ceil_pos.mpr (div_pos (by norm_num) hp.turn_pos)
  have hc : 180 ≤ pace.turnFrames * pace.turn := by
    rw [← div_le_iff₀ hp.turn_pos]
    exact Nat.le_ceil _
  obtain ⟨count, he⟩ := Nat.exists_eq_add_one_of_ne_zero hn.ne'
  rw [he] at hc ⊢
  push_cast at hc
  exact Motion.endsWithin_turn h (hd.trans hc)

namespace Statement

def framesAllowed (pace : Pace Rat) (statement : Statement) : Nat :=
  statement.count (·.isMove) * pace.moveFrames + statement.count (·.isTurn) * pace.turnFrames

lemma framesAllowed_cons (statement : Statement) (body : List Statement) :
    (block (statement :: body)).framesAllowed pace =
      statement.framesAllowed pace + (block body).framesAllowed pace := by
  simp only [framesAllowed, count, countAll]
  ring

mutual

lemma exists_isWithin (hp : pace.IsBrisk) : (statement : Statement) → {scene : Scene Rat} →
    scene.IsAtRest → ∃ outcome, statement.Executes pace scene outcome ∧
      outcome.IsWithin (statement.framesAllowed pace)
  | .command c, scene, h => by
    cases hd : scene.actor.deed pace c with
    | motion motion =>
      obtain ⟨hk, requested, rfl, ht⟩ | ⟨hk, target, heading, rfl, ha⟩ := h.deed hd
      · obtain ⟨outcome, ho, hw⟩ := hp.endsWithin_move ht
        exact ⟨outcome, .motion hd ho, hw.mono (by simp [framesAllowed, count, hk])⟩
      · obtain ⟨outcome, ho, hw⟩ := hp.endsWithin_turn h ha
        exact ⟨outcome, .motion hd ho, hw.mono (by simp [framesAllowed, count, hk])⟩
    | action action =>
      exact ⟨_, .action hd, Nat.zero_le _, fun _ => h.same (Scene.sameFooting_act hd)⟩
  | .when condition source body, scene, h => by
    cases he : scene.evaluate condition with
    | true =>
      obtain ⟨outcome, ho, hw⟩ := exists_isWithin hp body h
      exact ⟨outcome, .holds he ho, hw⟩
    | false => exact ⟨_, .fails he, Nat.zero_le _, fun _ => h⟩
  | .block body, scene, h => exists_isWithin_block hp body h

lemma exists_isWithin_block (hp : pace.IsBrisk) : (body : List Statement) → {scene : Scene Rat} →
    scene.IsAtRest → ∃ outcome, (Statement.block body).Executes pace scene outcome ∧
      outcome.IsWithin ((Statement.block body).framesAllowed pace)
  | [], scene, h => ⟨_, .nil, Nat.zero_le _, fun _ => h⟩
  | statement :: body, scene, h => by
    obtain ⟨first, hf, hw⟩ := exists_isWithin hp statement h
    have hframes := hw.frames_le
    rw [framesAllowed_cons]
    cases he : first.ending with
    | trapped => exact ⟨first, .stopped hf he, hw.mono (Nat.le_add_right _ _)⟩
    | cancelled => exact absurd he hf.ending_ne
    | completed =>
      obtain ⟨last, hl, hv⟩ := exists_isWithin_block hp body (hw.isAtRest he)
      have hmore := hv.frames_le
      refine ⟨_, .cons hf he hl, ?_, hv.isAtRest⟩
      simp only [Outcome.after]
      omega

end

end Statement

/-- A run from an open cell, on which every motion makes headway, is done after one frame and those
that its moves and turns may take, whatever stands in its way. -/
theorem Program.run_ends_within (puzzle : Puzzle) (program : Program) (pace : Pace Rat)
    (hs : puzzle.terrain.IsOpen puzzle.start) (hl : 0 ≤ pace.share) (hu : pace.share ≤ 1)
    (hg : 0 < pace.gain) (hp : 0 < pace.precision) (ht : 0 < pace.turn) :
    ∃ frames ending,
      frames + 1 ≤ 1 + program.count (·.isMove) * (⌈(1 - pace.share) / pace.gain⌉₊ + 2) +
        program.count (·.isTurn) * ⌈180 / pace.turn⌉₊ ∧
      ∀ n, frames < n →
        ((⟨program.start pace, puzzle.scene, false⟩ : Trial Rat).ticks n).1.map (·.step) =
          List.replicate frames .running ++ [.done ending] := by
  have hb : pace.IsBrisk := ⟨hl, hu, hg, hp, ht⟩
  obtain ⟨outcome, ho, hw⟩ := Statement.exists_isWithin hb (.block program.body)
    (Scene.isAtRest_scene hs)
  refine ⟨outcome.frames, outcome.ending, ?_, fun n hn => ?_⟩
  · have hf := hw.frames_le
    simp only [Statement.framesAllowed, Statement.count] at hf
    rw [add_comm, add_assoc]
    exact Nat.add_le_add_left hf 1
  · exact ((Program.leadsTo_iff.mpr ho).ticks hn).1

theorem Program.run_ends_within_quick :
    let program : Program := ⟨[.command (.backward 2), .command .turnAround,
      .when (.literal true) "true" (.block [.command (.forward 9), .command .collect])]⟩
    let quick : Pace Rat := ⟨1 / 2, 1 / 4, 1 / 8, 60⟩
    Puzzle.level1Phase6.terrain.IsOpen Puzzle.level1Phase6.start ∧ 0 ≤ quick.share ∧
      quick.share ≤ 1 ∧ 0 < quick.gain ∧ 0 < quick.precision ∧ 0 < quick.turn ∧
      ∃ frames ending, frames + 1 ≤ 12 ∧ ∀ n, frames < n →
        ((⟨program.start quick, Puzzle.level1Phase6.scene, false⟩ : Trial Rat).ticks n).1.map
          (·.step) = List.replicate frames .running ++ [.done ending] := by
  intro program quick
  have hs : Puzzle.level1Phase6.terrain.IsOpen Puzzle.level1Phase6.start := by decide
  have hl : 0 ≤ quick.share := by norm_num [quick]
  have hu : quick.share ≤ 1 := by norm_num [quick]
  have hg : 0 < quick.gain := by norm_num [quick]
  have hp : 0 < quick.precision := by norm_num [quick]
  have ht : 0 < quick.turn := by norm_num [quick]
  obtain ⟨frames, ending, hf, hn⟩ :=
    run_ends_within Puzzle.level1Phase6 program quick hs hl hu hg hp ht
  have hmove : ⌈(1 - quick.share) / quick.gain⌉₊ = 2 := by
    rw [Nat.ceil_eq_iff two_ne_zero]
    norm_num [quick]
  have hturn : ⌈180 / quick.turn⌉₊ = 3 := by
    rw [Nat.ceil_eq_iff three_ne_zero]
    norm_num [quick]
  rw [hmove, hturn] at hf
  exact ⟨hs, hl, hu, hg, hp, ht, frames, ending, hf, hn⟩

end RobotPuzzle
