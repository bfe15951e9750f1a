import Mathlib.Data.ZMod.Defs
import RobotPuzzle.Proofs.Run.Visits
import RobotPuzzle.Scalar.Binary

/-! Turns. The robot's yaw is that of its heading whenever it does not turn, and its heading is what
the turns so far make of the first one. -/

namespace RobotPuzzle

namespace Scalar

/-- Sums, differences and remainders of quarters of a circle come out exactly. -/
structure IsExactOnQuarters (α : Type) [Scalar α] : Prop where
  add : ∀ yaw ∈ [0, 90, 180, 270], ∀ turn ∈ [90, 180],
    (ofInt yaw + ofInt turn : α) = ofInt (yaw + turn)
  sub : ∀ yaw ∈ [0, 90, 180, 270], ∀ turn ∈ [90, 180],
    (ofInt yaw - ofInt turn : α) = ofInt (yaw - turn)
  wrap_add : ∀ yaw ∈ [0, 90, 180, 270], ∀ turn ∈ [90, 180],
    (wrap (ofInt (yaw + turn)) (ofInt 360) : α) = ofInt ((yaw + turn) % 360)
  wrap_sub : ∀ yaw ∈ [0, 90, 180, 270], ∀ turn ∈ [90, 180],
    (wrap (ofInt (yaw - turn)) (ofInt 360) : α) = ofInt ((yaw - turn) % 360)

lemma isExactOnQuarters_float : IsExactOnQuarters Float where
  add := by decide +kernel
  sub := by decide +kernel
  wrap_add := by decide +kernel
  wrap_sub := by decide +kernel

end Scalar

namespace Heading

def quarter : Heading → ZMod 4
  | east => 0
  | north => 1
  | west => 2
  | south => 3

variable (heading : Heading)

lemma quarter_left : heading.left.quarter = heading.quarter + 1 := by
  cases heading <;> decide

lemma quarter_right : heading.right.quarter = heading.quarter + -1 := by
  cases heading <;> decide

lemma quarter_reverse : heading.reverse.quarter = heading.quarter + 2 := by
  cases heading <;> decide

lemma yaw_mem : heading.yaw ∈ [0, 90, 180, 270] := by
  cases heading <;> decide

lemma yaw_left : (heading.yaw + 90) % 360 = heading.left.yaw := by
  cases heading <;> rfl

lemma yaw_right : (heading.yaw - 90) % 360 = heading.right.yaw := by
  cases heading <;> rfl

lemma yaw_reverse : (heading.yaw + 180) % 360 = heading.reverse.yaw := by
  cases heading <;> rfl

end Heading

namespace Command

def quarters : Command → ZMod 4
  | turnLeft => 1
  | turnRight => -1
  | turnAround => 2
  | _ => 0

lemma quarters_of_not_isTurn {c : Command} (h : c.isTurn = false) : c.quarters = 0 := by
  cases c with
  | turnLeft => cases h
  | turnRight => cases h
  | turnAround => cases h
  | _ => rfl

def turned (commands : List Command) : ZMod 4 := (commands.map quarters).sum

lemma turned_concat (commands : List Command) (c : Command) :
    turned (commands ++ [c]) = turned commands + c.quarters := by
  simp [turned]

end Command

variable {α : Type} [Scalar α]

namespace Actor

def facing (actor : Actor α) : α × Heading := (actor.yaw, actor.heading)

def IsAligned (actor : Actor α) : Prop := actor.yaw = Scalar.ofInt actor.heading.yaw

omit [Scalar α] in
lemma heading_eq {actor other : Actor α} (h : actor.facing = other.facing) :
    actor.heading = other.heading :=
  congrArg Prod.snd h

lemma IsAligned.of_facing {actor other : Actor α} (h : actor.IsAligned)
    (hf : other.facing = actor.facing) : other.IsAligned := by
  obtain ⟨hy, hh⟩ := Prod.mk.inj hf
  rw [IsAligned, hy, hh]
  exact h

variable {actor : Actor α} {pace : Pace α} {c : Command}

lemma not_isTurn_of_action {action : Action α} (h : actor.deed pace c = .action action) :
    c.isTurn = false := by
  cases c <;> cases h <;> rfl

lemma not_isTurn_of_travel {requested : Position α} {share : α} {warned : Bool}
    (h : actor.deed pace c = .motion (.travel requested share warned)) : c.isTurn = false := by
  cases c <;> cases h <;> rfl

lemma IsAligned.turn_deed (exact : Scalar.IsExactOnQuarters α) (ha : actor.IsAligned) {target : α}
    {heading : Heading} (h : actor.deed pace c = .motion (.turn target heading)) :
    c.isTurn = true ∧ heading.quarter = actor.heading.quarter + c.quarters ∧
      Scalar.wrap target (Scalar.ofInt 360) = Scalar.ofInt heading.yaw := by
  have hy := actor.heading.yaw_mem
  cases c with
  | turnLeft =>
    cases h
    refine ⟨rfl, actor.heading.quarter_left, ?_⟩
    rw [ha, exact.add _ hy 90 (by decide), exact.wrap_add _ hy 90 (by decide), Heading.yaw_left]
  | turnRight =>
    cases h
    refine ⟨rfl, actor.heading.quarter_right, ?_⟩
    rw [ha, exact.sub _ hy 90 (by decide), exact.wrap_sub _ hy 90 (by decide), Heading.yaw_right]
  | turnAround =>
    cases h
    refine ⟨rfl, actor.heading.quarter_reverse, ?_⟩
    rw [ha, exact.add _ hy 180 (by decide), exact.wrap_add _ hy 180 (by decide),
      Heading.yaw_reverse]
  | _ => cases h

end Actor

namespace Scene

variable (scene : Scene α) (pace : Pace α)

lemma travel_straight (requested : Position α) (share : α) (warned : Bool) :
    (scene.travel pace requested share warned).2.1.actor.facing = scene.actor.facing ∧
      ∀ next, (scene.travel pace requested share warned).1 = .moving next →
        ∃ requested share warned, next = .travel requested share warned := by
  simp only [travel, advance]
  repeat' split
  all_goals refine ⟨rfl, fun next hn => ?_⟩
  all_goals cases hn
  all_goals exact ⟨_, _, _, rfl⟩

lemma turn_settles_or_moves (target : α) (heading : Heading) :
    (∃ events, scene.turn pace target heading =
      (.settled, { scene with actor := { scene.actor with
        yaw := Scalar.wrap target (Scalar.ofInt 360), heading } }, events)) ∨
    ∃ yaw events, scene.turn pace target heading =
      (.moving (.turn target heading),
        { scene with actor := { scene.actor with yaw } }, events) := by
  rw [turn]
  split
  · exact .inl ⟨_, rfl⟩
  · exact .inr ⟨_, _, rfl⟩

variable {scene}

lemma facing_act {c : Command} {action : Action α}
    (h : scene.actor.deed pace c = .action action) :
    (scene.act action).1.actor.facing = scene.actor.facing := by
  have ha := scene.acts (deed_action h)
  generalize scene.act action = result at ha
  cases ha <;> rfl

end Scene

namespace Run

def isTurning {β : Type} (run : Run β) : Bool :=
  match run.motion with
  | some (.turn ..) => true
  | _ => false

/-- How the robot faces, having turned from `start`, once the run has performed some commands. The
flag tells that the run was cancelled during the last one, a turn. -/
inductive Faces (run : Run α) (actor : Actor α) (start : Heading) : List Command → Bool → Prop
  | straight {commands} : run.isTurning = false → actor.IsAligned →
      actor.heading.quarter = start.quarter + Command.turned commands →
      Faces run actor start commands false
  | turning {commands c target heading} : run.ended = none →
      run.motion = some (.turn target heading) → c.isTurn = true →
      actor.heading.quarter = start.quarter + Command.turned commands →
      heading.quarter = start.quarter + Command.turned (commands ++ [c]) →
      Scalar.wrap target (Scalar.ofInt 360) = Scalar.ofInt heading.yaw →
      Faces run actor start (commands ++ [c]) false
  | brokenOff {commands c ending} : run.ended = some ending → run.isTurning = false →
      c.isTurn = true → actor.heading.quarter = start.quarter + Command.turned commands →
      Faces run actor start (commands ++ [c]) true

end Run

namespace Frame

def commands {β : Type} (frame : Frame β) : List Command :=
  frame.journal.filterMap Entry.command?

def Faces (frame : Frame α) (start : Heading) (earlier : List Command) (cut : Bool) : Prop :=
  frame.run.Faces frame.scene.actor start (earlier ++ frame.commands) cut

variable {frame : Frame α} {start : Heading} {earlier : List Command} {cut : Bool}

lemma faces_of_none (hc : frame.commands = [])
    (h : frame.run.Faces frame.scene.actor start earlier cut) : frame.Faces start earlier cut := by
  rw [Faces, hc, List.append_nil]
  exact h

lemma Faces.after {c : Command} (events : List (Event α))
    (h : frame.Faces start (earlier ++ [c]) cut) :
    (frame.after events [.performed c]).Faces start earlier cut := by
  rw [Faces, List.append_assoc] at h
  exact h

end Frame

lemma faces_proceed (exact : Scalar.IsExactOnQuarters α) (pace : Pace α)
    (statements : List Statement) (scene : Scene α) {start : Heading} :
    ∀ {earlier : List Command}, scene.actor.IsAligned →
      scene.actor.heading.quarter = start.quarter + Command.turned earlier →
      (proceed pace statements scene).Faces start earlier false := by
  fun_induction proceed pace statements scene with
  | case1 scene =>
    intro earlier ha hq
    exact Frame.faces_of_none rfl (.straight rfl ha hq)
  | case2 scene body rest ih => exact ih
  | case3 =>
    rename_i ih
    exact ih
  | case4 c rest scene motion hd =>
    intro earlier ha hq
    refine Frame.Faces.after [] (Frame.faces_of_none rfl ?_)
    cases motion with
    | travel requested share warned =>
      have hz := Command.quarters_of_not_isTurn (Actor.not_isTurn_of_travel hd)
      refine .straight rfl ha ?_
      rw [Command.turned_concat, hz, add_zero]
      exact hq
    | turn target heading =>
      obtain ⟨ht, hh, hw⟩ := ha.turn_deed exact hd
      refine .turning rfl rfl ht hq ?_ hw
      rw [Command.turned_concat, ← add_assoc, ← hq]
      exact hh
  | case5 c rest scene action hd next events hact ih =>
    intro earlier ha hq
    have hf := Scene.facing_act pace hd
    rw [hact] at hf
    have hz := Command.quarters_of_not_isTurn (Actor.not_isTurn_of_action hd)
    refine Frame.Faces.after events (ih (ha.of_facing hf) ?_)
    rw [Actor.heading_eq hf, hq, Command.turned_concat, hz, add_zero]

lemma facing_proceed (pace : Pace α) (statements : List Statement) (scene : Scene α) :
    (proceed pace statements scene).scene.actor.facing = scene.actor.facing := by
  fun_induction proceed pace statements scene with
  | case1 scene => rfl
  | case2 scene body rest ih => exact ih
  | case3 scene condition source body rest holds ih => exact ih
  | case4 c rest scene motion hd => rfl
  | case5 c rest scene action hd next events hact ih =>
    have hf := Scene.facing_act pace hd
    rw [hact] at hf
    exact ih.trans hf

namespace Run

variable {run : Run α} {scene : Scene α} {start : Heading} {commands : List Command} {cut : Bool}

omit [Scalar α] in
lemma isTurning_of_turn {target : α} {heading : Heading}
    (h : run.motion = some (.turn target heading)) : run.isTurning = true := by
  rw [isTurning, h]

inductive TicksStraight (run : Run α) (scene : Scene α) : Frame α → Prop
  | still {frame} : frame.commands = [] → frame.run.isTurning = false →
      frame.scene.actor.facing = scene.actor.facing → TicksStraight run scene frame
  | proceeds {after} (events) : after.actor.facing = scene.actor.facing →
      TicksStraight run scene ((proceed run.pace run.pending after).after events [])

lemma ticksStraight (scene : Scene α) (h : run.isTurning = false) (cancelled : Bool) :
    run.TicksStraight scene (run.tick cancelled scene) := by
  cases he : run.ended with
  | some ending =>
    rw [tick_of_ended he]
    exact .still rfl h rfl
  | none =>
    cases cancelled with
    | true =>
      rw [tick_of_cancelled he]
      exact .still rfl rfl rfl
    | false =>
      simp only [tick, he, Bool.false_eq_true, if_false]
      cases hm : run.motion with
      | none => exact .proceeds [] rfl
      | some motion =>
        cases motion with
        | turn target heading =>
          exact absurd (h.symm.trans (isTurning_of_turn hm)) Bool.false_ne_true
        | travel requested share warned =>
          have ht := scene.travel_straight run.pace requested share warned
          simp only [Motion.step]
          generalize scene.travel run.pace requested share warned = result at ht ⊢
          obtain ⟨progress, after, events⟩ := result
          obtain ⟨hf, hn⟩ := ht
          cases progress with
          | moving next =>
            obtain ⟨requested, share, warned, rfl⟩ := hn next rfl
            exact .still rfl rfl hf
          | trapped => exact .still rfl rfl hf
          | settled => exact .proceeds events hf

lemma facing_tick (scene : Scene α) (h : run.isTurning = false) (cancelled : Bool) :
    (run.tick cancelled scene).scene.actor.facing = scene.actor.facing := by
  have ht := ticksStraight scene h cancelled
  generalize run.tick cancelled scene = frame at ht
  cases ht with
  | still _ _ hf => exact hf
  | proceeds events hf => exact (facing_proceed _ _ _).trans hf

lemma Faces.tick_straight (exact : Scalar.IsExactOnQuarters α) (hn : run.isTurning = false)
    (ha : scene.actor.IsAligned)
    (hq : scene.actor.heading.quarter = start.quarter + Command.turned commands)
    (cancelled : Bool) : (run.tick cancelled scene).Faces start commands false := by
  have ht := ticksStraight scene hn cancelled
  generalize run.tick cancelled scene = frame at ht
  have hq' : ∀ {actor : Actor α}, actor.facing = scene.actor.facing →
      actor.heading.quarter = start.quarter + Command.turned commands := fun hf =>
    (congrArg Heading.quarter (Actor.heading_eq hf)).trans hq
  cases ht with
  | still hc hs hf => exact Frame.faces_of_none hc (.straight hs (ha.of_facing hf) (hq' hf))
  | proceeds events hf => exact faces_proceed exact _ _ _ (ha.of_facing hf) (hq' hf)

lemma Faces.tick_turning (exact : Scalar.IsExactOnQuarters α) {c : Command} {target : α}
    {heading : Heading} (he : run.ended = none) (hm : run.motion = some (.turn target heading))
    (ht : c.isTurn = true)
    (hq : scene.actor.heading.quarter = start.quarter + Command.turned commands)
    (hh : heading.quarter = start.quarter + Command.turned (commands ++ [c]))
    (hw : Scalar.wrap target (Scalar.ofInt 360) = Scalar.ofInt heading.yaw) :
    (run.tick false scene).Faces start (commands ++ [c]) false := by
  simp only [tick, he, hm, Bool.false_eq_true, if_false, Motion.step]
  obtain ⟨events, hs⟩ | ⟨yaw, events, hs⟩ := scene.turn_settles_or_moves run.pace target heading
  · rw [hs]
    exact faces_proceed exact run.pace run.pending _ hw hh
  · rw [hs]
    exact Frame.faces_of_none rfl (.turning rfl rfl ht hq hh hw)

lemma Faces.tick (exact : Scalar.IsExactOnQuarters α)
    (h : run.Faces scene.actor start commands cut) (cancelled : Bool) :
    (run.tick cancelled scene).Faces start commands (cancelled && run.isTurning || cut) := by
  cases h with
  | straight hn ha hq =>
    rw [hn, Bool.and_false]
    exact Faces.tick_straight exact hn ha hq cancelled
  | @turning commands c target heading he hm ht hq hh hw =>
    rw [isTurning_of_turn hm, Bool.and_true, Bool.or_false]
    cases cancelled with
    | true =>
      rw [tick_of_cancelled he]
      exact Frame.faces_of_none rfl (.brokenOff rfl rfl ht hq)
    | false => exact Faces.tick_turning exact he hm ht hq hh hw
  | brokenOff he hn ht hq =>
    rw [hn, Bool.and_false, tick_of_ended he]
    exact Frame.faces_of_none rfl (.brokenOff he hn ht hq)

end Run

namespace Trial

def breaksOff (trial : Trial α) : List Bool → Bool
  | [] => false
  | cancels :: schedule =>
    (trial.next cancels).2.breaksOff schedule || (cancels || trial.cancelled) && trial.run.isTurning

def commands (trial : Trial α) (schedule : List Bool) : List Command :=
  (trial.frames schedule).flatMap Frame.commands

-- By induction on the schedule, which moves the commands of each frame over to the earlier ones; a
-- turn that was broken off stays so.
lemma faces_follow (exact : Scalar.IsExactOnQuarters α) {trial : Trial α} {start : Heading}
    {earlier : List Command} {cut : Bool}
    (h : trial.run.Faces trial.scene.actor start earlier cut) (schedule : List Bool) :
    (trial.follow schedule).run.Faces (trial.follow schedule).scene.actor start
      (earlier ++ trial.commands schedule) (trial.breaksOff schedule || cut) := by
  induction schedule generalizing trial earlier cut with
  | nil =>
    rw [commands, frames, List.flatMap_nil, List.append_nil]
    exact h
  | cons cancels schedule ih =>
    have hn := h.tick exact (cancels || trial.cancelled)
    rw [← frame_next] at hn
    have hs := @ih (trial.next cancels).2 _ _ hn
    rw [commands, frames, List.flatMap_cons, breaksOff, Bool.or_assoc, ← List.append_assoc]
    exact hs

end Trial

/-- All along a run from the start, the robot's yaw is that of its heading unless a turn is under
way or was broken off, and its heading is the first one turned by the commands performed. During a turn
the heading is still the one before it, and a frame outside of turns changes neither. -/
theorem Program.heading_follows_turns (exact : Scalar.IsExactOnQuarters α) (puzzle : Puzzle)
    (program : Program) (pace : Pace α) (schedule : List Bool) :
    let trial : Trial α := ⟨program.start pace, puzzle.scene, false⟩
    let now := trial.follow schedule
    let robot := now.scene.actor
    let commands := trial.commands schedule
    (now.run.isTurning = false → trial.breaksOff schedule = false →
      robot.yaw = Scalar.ofInt robot.heading.yaw ∧
      robot.heading.quarter = puzzle.heading.quarter + Command.turned commands) ∧
    (now.run.isTurning = true ∨ trial.breaksOff schedule = true →
      ∃ earlier c, commands = earlier ++ [c] ∧ c.isTurn = true ∧
        robot.heading.quarter = puzzle.heading.quarter + Command.turned earlier) ∧
    ∀ cancels, now.run.isTurning = false →
      let after := (now.next cancels).1.scene.actor
      after.yaw = robot.yaw ∧ after.heading = robot.heading := by
  intro trial now robot commands
  have hs : trial.run.Faces trial.scene.actor puzzle.heading [] false :=
    .straight rfl rfl (add_zero _).symm
  have hf : now.run.Faces robot puzzle.heading commands (trial.breaksOff schedule) := by
    have h := Trial.faces_follow exact hs schedule
    rwa [Bool.or_false] at h
  refine ⟨fun hn hb => ?_, fun h => ?_, fun cancels hn => ?_⟩
  · rw [hb] at hf
    generalize commands = performed at hf ⊢
    cases hf with
    | straight _ ha hq => exact ⟨ha, hq⟩
    | turning _ hm _ _ _ _ =>
      exact absurd (hn.symm.trans (Run.isTurning_of_turn hm)) Bool.false_ne_true
  · generalize commands = performed at hf ⊢
    generalize trial.breaksOff schedule = cut at hf h
    cases hf with
    | straight hn _ _ =>
      exact absurd (hn.symm.trans (h.resolve_right Bool.false_ne_true)) Bool.false_ne_true
    | turning _ _ ht hq _ _ => exact ⟨_, _, rfl, ht, hq⟩
    | brokenOff _ _ ht hq => exact ⟨_, _, rfl, ht, hq⟩
  · have ht := Run.facing_tick now.scene hn (cancels || now.cancelled)
    rw [← Trial.frame_next] at ht
    exact Prod.mk.inj ht

theorem Program.heading_follows_turns_right :
    let puzzle : Puzzle := { id := "bend", title := "Bend", start := ⟨0, 0⟩, heading := .south }
    let pace : Pace Float := { Pace.standard with turn := Scalar.ofInt 90 }
    let trial : Trial Float :=
      ⟨(⟨[.command .turnRight]⟩ : Program).start pace, puzzle.scene, false⟩
    let before := (trial.follow [false]).scene.actor
    let after := (trial.follow [false, false]).scene.actor
    Scalar.IsExactOnQuarters Float ∧ (trial.follow [false]).run.isTurning = true ∧
      before.heading.quarter = Heading.south.quarter ∧
      (trial.follow [false, false]).run.isTurning = false ∧
      trial.breaksOff [false, false] = false ∧
      after.yaw = Scalar.ofInt after.heading.yaw ∧
      after.heading.quarter = Heading.west.quarter := by
  intro puzzle pace trial before after
  have exact := Scalar.isExactOnQuarters_float
  have hturning : (trial.follow [false]).run.isTurning = true := by decide +kernel
  have hrests : (trial.follow [false, false]).run.isTurning = false := by decide +kernel
  have hcut : trial.breaksOff [false, false] = false := by decide +kernel
  have hc : trial.commands [false] = [.turnRight] := by decide +kernel
  have hc' : trial.commands [false, false] = [.turnRight] := by decide +kernel
  obtain ⟨-, hold, -⟩ := heading_follows_turns exact puzzle ⟨[.command .turnRight]⟩ pace [false]
  obtain ⟨hnew, -, -⟩ :=
    heading_follows_turns exact puzzle ⟨[.command .turnRight]⟩ pace [false, false]
  obtain ⟨earlier, c, he, -, hq⟩ := hold (Or.inl hturning)
  obtain ⟨hy, hq'⟩ := hnew hrests hcut
  refine ⟨exact, hturning, ?_, hrests, hcut, hy, ?_⟩
  · have hl : [] ++ [Command.turnRight] = earlier ++ [c] := hc.symm.trans he
    obtain ⟨rfl, -⟩ := List.append_inj' hl rfl
    exact hq
  · rw [hc'] at hq'
    exact hq'

end RobotPuzzle
