import RobotPuzzle.Proofs.Run.Peril

/-! What the frames of a run add up to. Each frame of a motion either shows the robot or tells what
the ground does to it, and a move warns at most once that its way is blocked. -/

namespace RobotPuzzle

namespace Event

variable {α : Type}

def isPose : Event α → Bool
  | pose .. => true
  | _ => false

def isPeril : Event α → Bool
  | console line => Peril.isTold line
  | _ => false

def isBlockedWarning : Event α → Bool
  | console line => line = .warning blockedWarning
  | _ => false

def marks (events : List (Event α)) : Nat := events.countP isPose + events.countP isPeril

lemma marks_append (events more : List (Event α)) :
    marks (events ++ more) = marks events + marks more := by
  simp only [marks, List.countP_append]
  omega

lemma IsCalm.not_isPose {event : Event α} (h : event.IsCalm) : event.isPose = false := by
  cases event with
  | pose position yaw => exact h.elim
  | _ => rfl

lemma IsCalm.not_isPeril {event : Event α} (h : event.IsCalm) : event.isPeril = false := by
  cases event with
  | console line => exact h
  | _ => rfl

lemma isBlockedWarning_say (text : String) : (say text : Event α).isBlockedWarning = false := by
  simp [say, isBlockedWarning, ConsoleLine.info, ConsoleLine.warning]

end Event

def Entry.isMove : Entry → Bool
  | performed c => c.isMove
  | _ => false

variable {α : Type}

def Motion.warningsLeft : Motion α → Nat
  | travel _ _ false => 1
  | _ => 0

def Progress.warningsLeft : Progress α → Nat
  | moving motion => motion.warningsLeft
  | _ => 0

def Run.warningsLeft (run : Run α) : Nat := run.motion.elim 0 Motion.warningsLeft

variable [Scalar α]

lemma Actor.warningsLeft_deed {actor : Actor α} {pace : Pace α} {c : Command} {motion : Motion α}
    (h : actor.deed pace c = .motion motion) :
    motion.warningsLeft ≤ [Entry.performed c].countP Entry.isMove := by
  cases c <;> cases h <;> exact le_rfl

lemma Scene.forall_mem_act {scene : Scene α} {pace : Pace α} {c : Command} {action : Action α}
    {P : Event α → Prop} (hs : ∀ text, P (.say text))
    (hv : ∀ fixture visible, P (.visibility fixture visible))
    (he : ∀ left, P (.extinguishers left)) (hd : scene.actor.deed pace c = .action action) :
    ∀ event ∈ (scene.act action).2, P event := by
  have ha := scene.acts (deed_action hd)
  generalize scene.act action = result at ha ⊢
  cases ha with
  | refused _ => exact List.forall_mem_singleton.mpr (hs _)
  | collected _ =>
    exact List.forall_mem_cons.mpr ⟨hv _ _, List.forall_mem_map.mpr fun text _ => hs text⟩
  | cleared _ => exact List.forall_mem_singleton.mpr (hv _ _)
  | spent _ _ => exact List.forall_mem_cons.mpr ⟨hv _ _, List.forall_mem_singleton.mpr (he _)⟩

lemma Motion.step_cases (motion : Motion α) (pace : Pace α) (scene : Scene α) :
    (∃ peril : Peril,
      motion.step pace scene = (peril.progress, scene, [.say peril.message])) ∨
    ∃ progress actor, ∃ warns : Bool, motion.step pace scene = (progress, { scene with actor },
        (if warns then [.warn blockedWarning] else []) ++ [actor.pose]) ∧
      warns.toNat + progress.warningsLeft ≤ motion.warningsLeft := by
  cases motion with
  | turn target heading =>
    refine Or.inr ?_
    rw [step, Scene.turn]
    dsimp only
    split
    · exact ⟨_, _, false, rfl, le_rfl⟩
    · exact ⟨_, _, false, rfl, le_rfl⟩
  | travel requested share warned =>
    rw [step]
    cases hp : scene.terrain.peril? scene.cell with
    | some peril => exact Or.inl ⟨peril, Scene.travel_of_peril hp⟩
    | none =>
      refine Or.inr ?_
      rw [Scene.travel_of_none hp, Scene.advance]
      dsimp only
      generalize scene.terrain.resolve scene.actor.position requested = resolved
      split
      all_goals
        refine ⟨_, _, resolved.isClamped && !warned, rfl, ?_⟩
        cases warned <;> cases resolved.isClamped <;>
          simp [Progress.warningsLeft, Motion.warningsLeft]

structure Motion.Adds (motion : Motion α) (progress : Progress α) (events : List (Event α)) :
    Prop where
  marks_eq : Event.marks events = 1
  warnings_le : events.countP Event.isBlockedWarning + progress.warningsLeft ≤ motion.warningsLeft

lemma Motion.adds_step (motion : Motion α) (pace : Pace α) (scene : Scene α) :
    motion.Adds (motion.step pace scene).1 (motion.step pace scene).2.2 := by
  obtain ⟨peril, h⟩ | ⟨progress, actor, warns, h, hw⟩ := motion.step_cases pace scene
  · have ht : (Event.say peril.message : Event α).isPeril = true := Peril.isTold_message peril
    have hn : [(Event.say peril.message : Event α)].countP Event.isBlockedWarning = 0 :=
      List.countP_cons_of_neg (Bool.eq_false_iff.mp (Event.isBlockedWarning_say _))
    have hp : (peril.progress : Progress α).warningsLeft = 0 := by cases peril <;> rfl
    rw [h]
    refine ⟨(Nat.zero_add _).trans (List.countP_cons_of_pos ht), ?_⟩
    rw [hn, hp]
    exact Nat.zero_le _
  · rw [h]
    cases warns with
    | true => exact ⟨rfl, hw⟩
    | false => exact ⟨rfl, hw⟩

inductive Run.Ticks (run : Run α) (scene : Scene α) : Bool → Frame α → Prop
  | ended {cancelled ending} : run.ended = some ending →
      Ticks run scene cancelled ⟨run, scene, [], [], .done ending⟩
  | cancelled : run.ended = none → Ticks run scene true (.stopped run.pace .cancelled scene [])
  | fresh : run.ended = none → run.motion = none →
      Ticks run scene false (proceed run.pace run.pending scene)
  | moving {motion next events} (after) : run.ended = none → run.motion = some motion →
      motion.Adds (.moving next) events →
      Ticks run scene false (.paused run.pace run.pending next after events)
  | trapped {motion events} (after) : run.ended = none → run.motion = some motion →
      motion.Adds .trapped events →
      Ticks run scene false (.stopped run.pace .trapped after events)
  | settled {motion events} (after) : run.ended = none → run.motion = some motion →
      motion.Adds .settled events →
      Ticks run scene false ((proceed run.pace run.pending after).after events [])

lemma Run.ticks (run : Run α) (cancelled : Bool) (scene : Scene α) :
    run.Ticks scene cancelled (run.tick cancelled scene) := by
  cases he : run.ended with
  | some ending =>
    rw [tick_of_ended he]
    exact .ended he
  | none =>
    cases cancelled with
    | true =>
      rw [tick_of_cancelled he]
      exact .cancelled he
    | false =>
      simp only [tick, he, Bool.false_eq_true, if_false]
      cases hm : run.motion with
      | none => exact .fresh he hm
      | some motion =>
        have ha := motion.adds_step run.pace scene
        dsimp only
        generalize motion.step run.pace scene = result at ha ⊢
        obtain ⟨progress, after, events⟩ := result
        cases progress with
        | moving next => exact .moving after he hm ha
        | trapped => exact .trapped after he hm ha
        | settled => exact .settled after he hm ha

lemma marks_proceed (pace : Pace α) (statements : List Statement) (scene : Scene α) :
    Event.marks (proceed pace statements scene).events = 0 := by
  have hc := isCalm_proceed pace statements scene
  have hp : (proceed pace statements scene).events.countP Event.isPose = 0 :=
    List.countP_eq_zero.mpr fun event he => Bool.eq_false_iff.mp (hc event he).not_isPose
  have ht : (proceed pace statements scene).events.countP Event.isPeril = 0 :=
    List.countP_eq_zero.mpr fun event he => Bool.eq_false_iff.mp (hc event he).not_isPeril
  rw [Event.marks, hp, ht]

lemma warnings_proceed (pace : Pace α) (statements : List Statement) (scene : Scene α) :
    (proceed pace statements scene).events.countP Event.isBlockedWarning +
      (proceed pace statements scene).run.warningsLeft ≤
      (proceed pace statements scene).journal.countP Entry.isMove := by
  fun_induction proceed pace statements scene with
  | case1 scene => exact le_rfl
  | case2 scene body rest ih => exact ih
  | case3 scene condition source body rest holds ih => exact ih
  | case4 c rest scene motion hd => exact (Nat.zero_add _).trans_le (Actor.warningsLeft_deed hd)
  | case5 c rest scene action hd next events ha ih =>
    have hn : ∀ event ∈ (scene.act action).2, event.isBlockedWarning = false :=
      Scene.forall_mem_act Event.isBlockedWarning_say (fun _ _ => rfl) (fun _ => rfl) hd
    rw [ha] at hn
    have hz : events.countP Event.isBlockedWarning = 0 :=
      List.countP_eq_zero.mpr fun event he => Bool.eq_false_iff.mp (hn event he)
    have hj : [Entry.performed c].countP Entry.isMove ≤ 1 := List.countP_le_length
    simp only [Frame.events_after, Frame.run_after, Frame.journal_after, List.countP_append, hz]
    omega

namespace Frame

def isRunning {β : Type} (frame : Frame β) : Bool := frame.step = .running

lemma countP_isRunning_cons {β : Type} (frame : Frame β) (frames : List (Frame β)) :
    (frame :: frames).countP isRunning = frame.isRunning.toNat + frames.countP isRunning := by
  rw [List.countP_cons, Nat.add_comm]
  cases frame.isRunning <;> rfl

end Frame

namespace Run

/-- The marks shown over the frames after which the run went on. The last one of them is still
owed while the run goes on, and for good if it is cancelled. -/
inductive Accounts (run : Run α) : Nat → Nat → Prop
  | fresh : run.ended = none → run.motion = none → Accounts run 0 0
  | moving {motion} (running) : run.ended = none → run.motion = some motion →
      Accounts run (running + 1) running
  | cancelled (running) : run.ended = some .cancelled → Accounts run running (running - 1)
  | ended {ending} (running) : run.ended = some ending → ending ≠ .cancelled →
      Accounts run running running

variable {run : Run α} {scene : Scene α} {running marks : Nat}

lemma accounts_proceed (pace : Pace α) (statements : List Statement) (scene : Scene α)
    (marks : Nat) : (proceed pace statements scene).run.Accounts
      (marks + (proceed pace statements scene).isRunning.toNat) marks := by
  fun_induction proceed pace statements scene with
  | case1 scene => exact .ended marks rfl (by decide)
  | case2 scene body rest ih => exact ih
  | case3 scene condition source body rest holds ih => exact ih
  | case4 c rest scene motion hd => exact .moving marks rfl rfl
  | case5 c rest scene action hd next events ha ih => exact ih

omit [Scalar α] in
lemma Accounts.of_motion {motion : Motion α} (h : run.Accounts running marks)
    (he : run.ended = none) (hm : run.motion = some motion) : running = marks + 1 := by
  cases h with
  | fresh _ hn => exact nomatch hn.symm.trans hm
  | moving _ _ _ => rfl
  | cancelled _ hc => exact nomatch hc.symm.trans he
  | ended _ hc _ => exact nomatch hc.symm.trans he

omit [Scalar α] in
lemma Accounts.of_live (h : run.Accounts running marks) (he : run.ended = none) :
    marks = running - 1 := by
  cases h with
  | fresh _ _ => rfl
  | moving _ _ _ => rfl
  | cancelled _ hc => exact nomatch hc.symm.trans he
  | ended _ hc _ => exact nomatch hc.symm.trans he

omit [Scalar α] in
lemma Accounts.of_ended {ending : Ending} (h : run.Accounts running marks)
    (he : run.ended = some ending) :
    marks = if ending = .cancelled then running - 1 else running := by
  cases h with
  | fresh hn _ => exact nomatch hn.symm.trans he
  | moving _ hn _ => exact nomatch hn.symm.trans he
  | cancelled _ hc =>
    obtain rfl := Option.some.inj (hc.symm.trans he)
    exact (if_pos rfl).symm
  | ended _ hc hn =>
    obtain rfl := Option.some.inj (hc.symm.trans he)
    exact (if_neg hn).symm

lemma Accounts.tick (h : run.Accounts running marks) (cancelled : Bool) :
    (run.tick cancelled scene).run.Accounts
      (running + (run.tick cancelled scene).isRunning.toNat)
      (marks + Event.marks (run.tick cancelled scene).events) := by
  have ht := run.ticks cancelled scene
  generalize run.tick cancelled scene = frame at ht ⊢
  cases ht with
  | ended he => exact h
  | cancelled he =>
    obtain rfl := h.of_live he
    exact .cancelled running rfl
  | fresh he hm =>
    rw [marks_proceed]
    cases h with
    | fresh _ _ => exact accounts_proceed run.pace run.pending scene 0
    | moving _ _ hs => exact nomatch hm.symm.trans hs
    | cancelled _ hc => exact nomatch hc.symm.trans he
    | ended _ hc _ => exact nomatch hc.symm.trans he
  | moving after he hm ha =>
    obtain rfl := h.of_motion he hm
    rw [show Event.marks (Frame.paused run.pace run.pending _ after _).events = 1 from ha.marks_eq]
    exact .moving (marks + 1) rfl rfl
  | trapped after he hm ha =>
    obtain rfl := h.of_motion he hm
    rw [show Event.marks (Frame.stopped run.pace .trapped after _).events = 1 from ha.marks_eq]
    exact .ended (marks + 1) rfl (show Ending.trapped ≠ .cancelled by decide)
  | settled after he hm ha =>
    obtain rfl := h.of_motion he hm
    rw [Frame.events_after, Event.marks_append, marks_proceed, ha.marks_eq]
    exact accounts_proceed run.pace run.pending after (marks + 1)

lemma marks_tick_le (run : Run α) (cancelled : Bool) (scene : Scene α) :
    Event.marks (run.tick cancelled scene).events ≤ 1 := by
  have ht := run.ticks cancelled scene
  generalize run.tick cancelled scene = frame at ht ⊢
  cases ht with
  | ended _ => exact Nat.zero_le 1
  | cancelled _ => exact Nat.zero_le 1
  | fresh _ _ => exact (marks_proceed _ _ _).trans_le (Nat.zero_le 1)
  | moving after _ _ ha => exact ha.marks_eq.le
  | trapped after _ _ ha => exact ha.marks_eq.le
  | settled after _ _ ha =>
    rw [Frame.events_after, Event.marks_append, marks_proceed]
    exact ha.marks_eq.le

omit [Scalar α] in
lemma warningsLeft_of_motion {motion : Motion α} (hm : run.motion = some motion) :
    run.warningsLeft = motion.warningsLeft := by
  rw [warningsLeft, hm, Option.elim_some]

lemma warnings_tick (run : Run α) (cancelled : Bool) (scene : Scene α) :
    (run.tick cancelled scene).events.countP Event.isBlockedWarning +
      (run.tick cancelled scene).run.warningsLeft ≤
      run.warningsLeft + (run.tick cancelled scene).journal.countP Entry.isMove := by
  have ht := run.ticks cancelled scene
  generalize run.tick cancelled scene = frame at ht ⊢
  cases ht with
  | ended _ => exact (Nat.zero_add _).le
  | cancelled _ => exact Nat.zero_le _
  | fresh _ _ => exact (warnings_proceed _ _ _).trans (Nat.le_add_left _ _)
  | moving after _ hm ha =>
    rw [warningsLeft_of_motion hm]
    exact ha.warnings_le
  | trapped after _ hm ha =>
    rw [warningsLeft_of_motion hm]
    exact ha.warnings_le
  | settled after _ hm ha =>
    rw [warningsLeft_of_motion hm, Frame.events_after, List.countP_append, Nat.add_assoc]
    exact Nat.add_le_add ha.warnings_le (warnings_proceed run.pace run.pending after)

end Run

def View.pose {β : Type} (view : View β) : Event β := .pose view.position view.yaw

lemma View.pose_applyAll {β : Type} (view : View β) (events : List (Event β)) :
    (view.applyAll events).pose =
      ((events.filter Event.isPose).getLast?).getD view.pose := by
  induction events generalizing view with
  | nil => rfl
  | cons event events ih =>
    rw [applyAll_cons, ih]
    cases event with
    | pose position yaw =>
      rw [List.filter_cons_of_pos rfl, List.getLast?_cons]
      rfl
    | visibility fixture visible => cases fixture <;> rfl
    | _ => rfl

namespace Trial

variable {trial : Trial α} {running marks : Nat}

lemma frame_next (trial : Trial α) (cancels : Bool) :
    (trial.next cancels).1 = trial.run.tick (cancels || trial.cancelled) trial.scene := by
  cases cancels <;> rfl

lemma run_next (trial : Trial α) (cancels : Bool) :
    (trial.next cancels).2.run = (trial.next cancels).1.run := rfl

lemma pose_next (trial : Trial α) (cancels : Bool) :
    let frame := (trial.next cancels).1
    frame.events.filter Event.isPose = [frame.scene.actor.pose] ∨
      (frame.events.filter Event.isPose = [] ∧
        frame.scene.actor.position = trial.scene.actor.position ∧
        frame.scene.actor.yaw = trial.scene.actor.yaw) := by
  intro frame
  have hf : frame = trial.run.tick (cancels || trial.cancelled) trial.scene :=
    frame_next trial cancels
  have ht : trial.scene.view.applyAll frame.events = frame.scene.view :=
    hf ▸ isLaw_tells.tick trial.run _ trial.scene
  have hm : Event.marks frame.events ≤ 1 := hf ▸ Run.marks_tick_le trial.run _ trial.scene
  have hl : (frame.events.filter Event.isPose).length ≤ 1 := by
    rw [← List.countP_eq_length_filter]
    exact (Nat.le_add_right _ _).trans hm
  have hp := View.pose_applyAll trial.scene.view frame.events
  rw [ht] at hp
  cases hs : frame.events.filter Event.isPose with
  | nil =>
    rw [hs] at hp
    obtain ⟨hpos, hyaw⟩ := Event.pose.inj hp
    exact Or.inr ⟨rfl, hpos, hyaw⟩
  | cons event rest =>
    rw [hs] at hl hp
    obtain rfl : rest = [] :=
      List.eq_nil_of_length_eq_zero (Nat.le_zero.mp (Nat.le_of_succ_le_succ hl))
    exact Or.inl (congrArg (fun event => [event]) hp.symm)

lemma accounts_follow (h : trial.run.Accounts running marks) (schedule : List Bool) :
    (trial.follow schedule).run.Accounts
      (running + (trial.frames schedule).countP Frame.isRunning)
      (marks + Event.marks ((trial.frames schedule).flatMap (·.events))) := by
  induction schedule generalizing trial running marks with
  | nil => exact h
  | cons cancels schedule ih =>
    have hn : (trial.next cancels).2.run.Accounts
        (running + (trial.next cancels).1.isRunning.toNat)
        (marks + Event.marks (trial.next cancels).1.events) := by
      rw [run_next, frame_next]
      exact h.tick (cancels || trial.cancelled)
    rw [frames, Frame.countP_isRunning_cons, List.flatMap_cons, Event.marks_append,
      ← Nat.add_assoc, ← Nat.add_assoc]
    exact ih hn

lemma warnings_follow (trial : Trial α) (schedule : List Bool) :
    ((trial.frames schedule).flatMap (·.events)).countP Event.isBlockedWarning +
      (trial.follow schedule).run.warningsLeft ≤
      trial.run.warningsLeft +
        ((trial.frames schedule).flatMap (·.journal)).countP Entry.isMove := by
  induction schedule generalizing trial with
  | nil => exact (Nat.zero_add _).le
  | cons cancels schedule ih =>
    have hn := Run.warnings_tick trial.run (cancels || trial.cancelled) trial.scene
    have hf := ih (trial.next cancels).2
    rw [← frame_next, ← run_next] at hn
    rw [frames, List.flatMap_cons, List.flatMap_cons, List.countP_append, List.countP_append]
    have hs : trial.follow (cancels :: schedule) = (trial.next cancels).2.follow schedule := rfl
    rw [hs]
    omega

lemma ended_of_getLast {ending : Ending} (trial : Trial α) (schedule : List Bool)
    (h : (trial.frames schedule).getLast?.map (·.step) = some (.done ending)) :
    (trial.follow schedule).run.ended = some ending := by
  induction schedule generalizing trial with
  | nil => exact nomatch h
  | cons cancels schedule ih =>
    cases schedule with
    | nil =>
      have hs := Option.some.inj h
      rw [frame_next] at hs
      rw [show trial.follow [cancels] = (trial.next cancels).2 from rfl, run_next, frame_next]
      exact Run.tick_ended hs
    | cons next schedule => exact ih _ h

end Trial

/-- A frame shows the robot at most once, as it then is, and whenever it is elsewhere or turned. Up
to the end, as many poses and perils are told as there are frames after which the run goes on, less
the last one if the run is cancelled, and at most one warning for each move. -/
theorem Program.frames_add_up (program : Program) (pace : Pace α) (scene : Scene α)
    (schedule : List Bool) :
    let trial : Trial α := ⟨program.start pace, scene, false⟩
    let frames := trial.frames schedule
    let events := frames.flatMap (·.events)
    let running := frames.countP Frame.isRunning
    (∀ cancels, let before := trial.follow schedule
      let frame := (before.next cancels).1
      frame.events.filter Event.isPose = [frame.scene.actor.pose] ∨
        (frame.events.filter Event.isPose = [] ∧
          frame.scene.actor.position = before.scene.actor.position ∧
          frame.scene.actor.yaw = before.scene.actor.yaw)) ∧
    (∀ ending, frames.getLast?.map (·.step) = some (.done ending) →
      events.countP Event.isPose + events.countP Event.isPeril =
        if ending = .cancelled then running - 1 else running) ∧
    events.countP Event.isBlockedWarning ≤ (frames.flatMap (·.journal)).countP Entry.isMove := by
  intro trial frames events running
  have hs : trial.run.Accounts 0 0 := .fresh rfl rfl
  have ha := Trial.accounts_follow hs schedule
  rw [Nat.zero_add, Nat.zero_add] at ha
  have hw := Trial.warnings_follow trial schedule
  rw [show trial.run.warningsLeft = 0 from rfl, Nat.zero_add] at hw
  exact ⟨fun cancels => Trial.pose_next (trial.follow schedule) cancels,
    fun ending he => ha.of_ended (Trial.ended_of_getLast trial schedule he),
    (Nat.le_add_right _ _).trans hw⟩

theorem Program.frames_add_up_burnt :
    let scene : Scene Rat :=
      { (Puzzle.level2Phase1.scene : Scene Rat) with actor := ⟨⟨17 / 4, 1⟩, 90, .east⟩ }
    let program : Program := ⟨[.command (.backward 2)]⟩
    let frames := (⟨program.start .standard, scene, false⟩ : Trial Rat).frames
    let told := fun schedule => ((frames schedule).flatMap (·.events)).countP Event.isPose +
      ((frames schedule).flatMap (·.events)).countP Event.isPeril
    (frames [false, false]).getLast?.map (·.step) = some (.done .completed) ∧
      told [false, false] = 1 ∧
      (frames [false, true]).getLast?.map (·.step) = some (.done .cancelled) ∧
      told [false, true] = 0 := by
  intro scene program frames told
  have hp : scene.terrain.peril? scene.cell = some (.hazard .fire) := by decide +kernel
  let first : Frame Rat := (Frame.paused .standard [] (scene.actor.travel .standard (-1) 2) scene
    []).after [] [.performed (.backward 2)]
  have hf : (program.start .standard : Run Rat).tick false scene = first := by
    simp only [Program.start, program, Run.tick, proceed, Actor.deed, Bool.false_eq_true, if_false]
    rfl
  have hb : first.run.tick false scene =
      .stopped .standard .completed scene [.say "Robô foi queimado!"] := by
    rw [Run.tick_of_peril rfl rfl hp]
    simp only [first, proceed, Frame.paused, Frame.run_after]
    rfl
  have hc : first.run.tick true scene = .stopped .standard .cancelled scene [] :=
    Run.tick_of_cancelled rfl
  have hburnt : frames [false, false] =
      [first, .stopped .standard .completed scene [.say "Robô foi queimado!"]] := by
    simp only [frames, Trial.frames, Trial.next, Trial.tick, Bool.false_eq_true, if_false, hf]
    exact congrArg (fun last => [first, last]) hb
  have hcut : frames [false, true] = [first, .stopped .standard .cancelled scene []] := by
    simp only [frames, Trial.frames, Trial.next, Trial.tick, Trial.cancel, Bool.false_eq_true,
      if_false, if_true, hf]
    exact congrArg (fun last => [first, last]) hc
  have hs : (frames [false, false]).getLast?.map (·.step) = some (.done .completed) := by
    rw [hburnt]
    rfl
  have ht : (frames [false, true]).getLast?.map (·.step) = some (.done .cancelled) := by
    rw [hcut]
    rfl
  have hr : (frames [false, false]).countP Frame.isRunning = 1 := by
    rw [hburnt]
    rfl
  have hn : (frames [false, true]).countP Frame.isRunning = 1 := by
    rw [hcut]
    rfl
  have hone := (frames_add_up program .standard scene [false, false]).2.1 .completed hs
  have hnone := (frames_add_up program .standard scene [false, true]).2.1 .cancelled ht
  exact ⟨hs, hone.trans (by rw [hr]; rfl), ht, hnone.trans (by rw [hn]; rfl)⟩

end RobotPuzzle
