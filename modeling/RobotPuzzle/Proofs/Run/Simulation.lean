import RobotPuzzle.Proofs.Run.Execution
import RobotPuzzle.Puzzle.Catalog

namespace RobotPuzzle

variable {α : Type} [Scalar α]

inductive Frame.LeadsTo : Frame α → Outcome α → Prop
  | done (frame) {ending} : frame.step = .done ending →
      LeadsTo frame ⟨frame.scene, frame.events, 0, ending⟩
  | running (frame) {outcome} : frame.step = .running →
      LeadsTo (frame.run.tick false frame.scene) outcome →
      LeadsTo frame (outcome.after frame.events 1)

namespace Frame

lemma leadsTo_after {frame : Frame α} {events : List (Event α)} {journal : List Entry}
    {outcome : Outcome α} : (frame.after events journal).LeadsTo outcome ↔
      ∃ rest, frame.LeadsTo rest ∧ outcome = rest.after events 0 := by
  constructor
  · intro h
    cases h with
    | done _ hd => exact ⟨_, .done frame hd, by simp [Outcome.after]⟩
    | running _ hr h => exact ⟨_, .running frame hr h, by simp⟩
  · rintro ⟨rest, h, rfl⟩
    cases h with
    | done _ hd => simpa [Outcome.after] using LeadsTo.done (frame.after events journal) hd
    | running _ hr h => simpa using LeadsTo.running (frame.after events journal) hr h

lemma leadsTo_after_nil {frame : Frame α} {journal : List Entry} {outcome : Outcome α} :
    (frame.after [] journal).LeadsTo outcome ↔ frame.LeadsTo outcome := by
  simp [leadsTo_after]

lemma leadsTo_stopped {pace : Pace α} {ending : Ending} {scene : Scene α}
    {events : List (Event α)} {outcome : Outcome α} :
    (stopped pace ending scene events).LeadsTo outcome ↔ outcome = ⟨scene, events, 0, ending⟩ := by
  constructor
  · intro h
    cases h with
    | done _ hd =>
      obtain rfl := Step.done.inj hd
      rfl
    | running _ hr => exact nomatch hr
  · rintro rfl
    exact .done _ rfl

lemma leadsTo_paused {pace : Pace α} {pending : List Statement} {motion : Motion α}
    {scene : Scene α} {events : List (Event α)} {outcome : Outcome α} :
    (paused pace pending motion scene events).LeadsTo outcome ↔
      ∃ rest, (Run.tick ⟨pending, some motion, pace, none⟩ false scene).LeadsTo rest ∧
        outcome = rest.after events 1 := by
  constructor
  · intro h
    cases h with
    | done _ hd => exact nomatch hd
    | running _ _ h => exact ⟨_, h, rfl⟩
  · rintro ⟨rest, h, rfl⟩
    exact .running (paused pace pending motion scene events) rfl h

end Frame

namespace Outcome

def Continues (first : Outcome α) (frame : Frame α) (last : Outcome α) : Prop :=
  (first.ending = .trapped ∧ last = first) ∨
    (first.ending = .completed ∧
      ∃ rest, frame.LeadsTo rest ∧ last = rest.after first.events first.frames)

lemma continues_after {first last : Outcome α} {frame : Frame α} {events : List (Event α)}
    {frames : Nat} : (first.after events frames).Continues frame last ↔
      ∃ rest, first.Continues frame rest ∧ last = rest.after events frames := by
  constructor
  · rintro (⟨ht, rfl⟩ | ⟨hc, rest, hr, rfl⟩)
    · exact ⟨first, Or.inl ⟨ht, rfl⟩, rfl⟩
    · exact ⟨rest.after first.events first.frames, Or.inr ⟨hc, rest, hr, rfl⟩,
        by simp [after, Nat.add_assoc]⟩
  · rintro ⟨rest, ⟨ht, rfl⟩ | ⟨hc, rest, hr, rfl⟩, rfl⟩
    · exact Or.inl ⟨ht, rfl⟩
    · exact Or.inr ⟨hc, rest, hr, by simp [after, Nat.add_assoc]⟩

end Outcome

open RobotPuzzle.Frame

variable {pace : Pace α} {pending : List Statement} {scene : Scene α} {last : Outcome α}

lemma leadsTo_proceed_nil : (proceed pace [] scene).LeadsTo last ↔ last = .idle scene := by
  rw [proceed, leadsTo_stopped]
  rfl

lemma leadsTo_proceed_block {body : List Statement} :
    (proceed pace (.block body :: pending) scene).LeadsTo last ↔
      (proceed pace (body ++ pending) scene).LeadsTo last := by
  rw [proceed, leadsTo_after_nil]

lemma leadsTo_proceed_when {condition : Condition} {source : String} {body : Statement} :
    (proceed pace (.when condition source body :: pending) scene).LeadsTo last ↔
      (proceed pace (if scene.evaluate condition then body :: pending else pending)
        scene).LeadsTo last := by
  rw [proceed, leadsTo_after_nil]

lemma leadsTo_proceed_motion {c : Command} {motion : Motion α}
    (h : scene.actor.deed pace c = .motion motion) :
    (proceed pace (.command c :: pending) scene).LeadsTo last ↔
      (paused pace pending motion scene []).LeadsTo last := by
  simp only [proceed, h, leadsTo_after_nil]

lemma leadsTo_proceed_action {c : Command} {action : Action α}
    (h : scene.actor.deed pace c = .action action) :
    (proceed pace (.command c :: pending) scene).LeadsTo last ↔
      ∃ rest, (proceed pace pending (scene.act action).1).LeadsTo rest ∧
        last = rest.after (scene.act action).2 0 := by
  simp only [proceed, h, leadsTo_after]

section Motion

variable {motion next : Motion α} {after : Scene α} {events : List (Event α)}

lemma tick_motion : Run.tick ⟨pending, some motion, pace, none⟩ false scene =
    match motion.step pace scene with
    | (.moving motion, scene, events) => .paused pace pending motion scene events
    | (.trapped, scene, events) => .stopped pace .trapped scene events
    | (.settled, scene, events) => (proceed pace pending scene).after events [] := rfl

lemma leadsTo_settled (h : motion.step pace scene = (.settled, after, events)) :
    (paused pace pending motion scene []).LeadsTo last ↔
      ∃ rest, (proceed pace pending after).LeadsTo rest ∧ last = rest.after events 1 := by
  rw [leadsTo_paused, tick_motion, h]
  constructor
  · rintro ⟨rest, hr, rfl⟩
    obtain ⟨more, hm, rfl⟩ := leadsTo_after.mp hr
    exact ⟨more, hm, by simp⟩
  · rintro ⟨rest, hr, rfl⟩
    exact ⟨_, leadsTo_after.mpr ⟨rest, hr, rfl⟩, by simp⟩

lemma leadsTo_trapped (h : motion.step pace scene = (.trapped, after, events)) :
    (paused pace pending motion scene []).LeadsTo last ↔ last = ⟨after, events, 1, .trapped⟩ := by
  rw [leadsTo_paused, tick_motion, h]
  constructor
  · rintro ⟨rest, hr, rfl⟩
    rw [leadsTo_stopped.mp hr]
    rfl
  · rintro rfl
    exact ⟨_, leadsTo_stopped.mpr rfl, rfl⟩

lemma leadsTo_moving (h : motion.step pace scene = (.moving next, after, events)) :
    (paused pace pending motion scene []).LeadsTo last ↔
      ∃ rest, (paused pace pending next after []).LeadsTo rest ∧ last = rest.after events 1 := by
  rw [leadsTo_paused, tick_motion, h]
  constructor
  · rintro ⟨rest, hr, rfl⟩
    obtain ⟨more, hm, rfl⟩ := leadsTo_paused.mp hr
    exact ⟨_, leadsTo_paused.mpr ⟨more, hm, rfl⟩, by simp⟩
  · rintro ⟨rest, hr, rfl⟩
    obtain ⟨more, hm, rfl⟩ := leadsTo_paused.mp hr
    exact ⟨_, leadsTo_paused.mpr ⟨more, hm, rfl⟩, by simp⟩

end Motion

namespace Motion

lemma Executes.leadsTo {motion : Motion α} {first : Outcome α}
    (h : motion.Executes pace scene first)
    (hc : first.Continues (proceed pace pending first.scene) last) :
    (paused pace pending motion scene []).LeadsTo last := by
  induction h generalizing last with
  | settled hs =>
    obtain ⟨ht, -⟩ | ⟨-, hr⟩ := hc
    · exact nomatch ht
    · exact (leadsTo_settled hs).mpr hr
  | trapped hs =>
    obtain ⟨-, rfl⟩ | ⟨hn, -⟩ := hc
    · exact (leadsTo_trapped hs).mpr rfl
    · exact nomatch hn
  | moving hs _ ih =>
    obtain ⟨rest, hr, rfl⟩ := Outcome.continues_after.mp hc
    exact (leadsTo_moving hs).mpr ⟨rest, ih hr, rfl⟩

lemma exists_executes {motion : Motion α}
    (h : (paused pace pending motion scene []).LeadsTo last) :
    ∃ first, motion.Executes pace scene first ∧
      first.Continues (proceed pace pending first.scene) last := by
  -- On the frames that are left, of which the first one belongs to the motion.
  induction hn : last.frames generalizing motion scene last with
  | zero =>
    obtain ⟨rest, -, rfl⟩ := leadsTo_paused.mp h
    simp [Outcome.after] at hn
  | succ n ih =>
    rcases hs : motion.step pace scene with ⟨progress, after, events⟩
    cases progress with
    | settled => exact ⟨_, .settled hs, Or.inr ⟨rfl, (leadsTo_settled hs).mp h⟩⟩
    | trapped => exact ⟨_, .trapped hs, Or.inl ⟨rfl, (leadsTo_trapped hs).mp h⟩⟩
    | moving next =>
      obtain ⟨rest, hr, rfl⟩ := (leadsTo_moving hs).mp h
      have hf : rest.frames = n := by
        simp only [Outcome.after] at hn
        omega
      obtain ⟨first, hf, hc⟩ := ih hr hf
      exact ⟨_, .moving hs hf, Outcome.continues_after.mpr ⟨rest, hc, rfl⟩⟩

end Motion

namespace Statement

lemma Executes.leadsTo {statement : Statement} {first : Outcome α}
    (h : statement.Executes pace scene first)
    (hc : first.Continues (proceed pace pending first.scene) last) :
    (proceed pace (statement :: pending) scene).LeadsTo last := by
  induction h generalizing pending last with
  | action hd =>
    obtain ⟨⟨⟩, -⟩ | ⟨-, hr⟩ := hc
    exact (leadsTo_proceed_action hd).mpr hr
  | motion hd hm => exact (leadsTo_proceed_motion hd).mpr (hm.leadsTo hc)
  | holds ht _ ih =>
    rw [leadsTo_proceed_when, if_pos ht]
    exact ih hc
  | fails hf =>
    rw [leadsTo_proceed_when, if_neg (by simp [hf])]
    obtain ⟨⟨⟩, -⟩ | ⟨-, rest, hr, rfl⟩ := hc
    simpa [Outcome.idle] using hr
  | nil =>
    rw [leadsTo_proceed_block]
    obtain ⟨⟨⟩, -⟩ | ⟨-, rest, hr, rfl⟩ := hc
    simpa [Outcome.idle] using hr
  | stopped _ ht ih =>
    rw [leadsTo_proceed_block]
    obtain ⟨-, rfl⟩ | ⟨hn, -⟩ := hc
    · exact ih (Or.inl ⟨ht, rfl⟩)
    · exact absurd (ht.symm.trans hn) (by simp)
  | cons _ hn _ ihf ihl =>
    rw [leadsTo_proceed_block]
    obtain ⟨rest, hr, rfl⟩ := Outcome.continues_after.mp hc
    exact ihf (Or.inr ⟨hn, rest, leadsTo_proceed_block.mp (ihl hr), rfl⟩)

mutual

lemma exists_executes : (statement : Statement) → {pending : List Statement} →
    {scene : Scene α} → {last : Outcome α} →
    (proceed pace (statement :: pending) scene).LeadsTo last →
    ∃ first, statement.Executes pace scene first ∧
      first.Continues (proceed pace pending first.scene) last
  | .command c, pending, scene, last, h => by
    cases hd : scene.actor.deed pace c with
    | motion motion =>
      obtain ⟨first, hm, hc⟩ := Motion.exists_executes ((leadsTo_proceed_motion hd).mp h)
      exact ⟨first, .motion hd hm, hc⟩
    | action action =>
      exact ⟨_, .action hd, Or.inr ⟨rfl, (leadsTo_proceed_action hd).mp h⟩⟩
  | .when condition source body, pending, scene, last, h => by
    rw [leadsTo_proceed_when] at h
    cases he : scene.evaluate condition with
    | true =>
      rw [he] at h
      obtain ⟨first, hb, hc⟩ := exists_executes body h
      exact ⟨first, .holds he hb, hc⟩
    | false =>
      rw [he] at h
      exact ⟨_, .fails he, Or.inr ⟨rfl, last, h, (Outcome.after_nil_zero last).symm⟩⟩
  | .block body, pending, scene, last, h => exists_executes_block body (leadsTo_proceed_block.mp h)

lemma exists_executes_block : (body : List Statement) → {pending : List Statement} →
    {scene : Scene α} → {last : Outcome α} →
    (proceed pace (body ++ pending) scene).LeadsTo last →
    ∃ first, (Statement.block body).Executes pace scene first ∧
      first.Continues (proceed pace pending first.scene) last
  | [], pending, scene, last, h =>
    ⟨_, .nil, Or.inr ⟨rfl, last, h, (Outcome.after_nil_zero last).symm⟩⟩
  | statement :: body, pending, scene, last, h => by
    obtain ⟨first, hf, ⟨ht, rfl⟩ | ⟨hn, rest, hr, rfl⟩⟩ := exists_executes statement h
    · exact ⟨_, .stopped hf ht, Or.inl ⟨ht, rfl⟩⟩
    · obtain ⟨next, hb, hc⟩ := exists_executes_block body hr
      exact ⟨_, .cons hf hn hb, Outcome.continues_after.mpr ⟨rest, hc, rfl⟩⟩

end

end Statement

namespace Trial

lemma ticksFrom_eq (seen : List (Frame α)) (n : Nat) (trial : Trial α) :
    ticksFrom seen n trial = (seen.reverse ++ (trial.ticks n).1, (trial.ticks n).2) := by
  induction n generalizing seen trial with
  | zero => simp [ticks, ticksFrom]
  | succ n ih =>
    simp only [ticks, ticksFrom]
    cases trial.tick.1.step with
    | done ending => simp
    | running =>
      simp only [ih (trial.tick.1 :: seen), ih [trial.tick.1], List.reverse_cons]
      simp

lemma ticks_done {run : Run α} {frame : Frame α} {ending : Ending}
    (hf : run.tick false scene = frame) (h : frame.step = .done ending) (n : Nat) :
    (⟨run, scene, false⟩ : Trial α).ticks (n + 1) =
      ([frame], (⟨run, scene, false⟩ : Trial α).tick.2) := by
  subst hf
  simp only [ticks, ticksFrom, tick, h]
  rfl

lemma ticks_running {run : Run α} {frame : Frame α} (hf : run.tick false scene = frame)
    (h : frame.step = .running) (n : Nat) :
    (⟨run, scene, false⟩ : Trial α).ticks (n + 1) =
      (frame :: ((⟨frame.run, frame.scene, false⟩ : Trial α).ticks n).1,
        ((⟨frame.run, frame.scene, false⟩ : Trial α).ticks n).2) := by
  have ht : (⟨run, scene, false⟩ : Trial α).tick = (frame, ⟨frame.run, frame.scene, false⟩) := by
    simp [tick, hf, h]
  simp only [ticks, ticksFrom, ht, h]
  exact ticksFrom_eq [frame] n _

end Trial

namespace Frame.LeadsTo

variable {run : Run α} {outcome : Outcome α}

lemma ticks (h : (run.tick false scene).LeadsTo outcome) {n : Nat} (hn : outcome.frames < n) :
    let played := (⟨run, scene, false⟩ : Trial α).ticks n
    played.1.map (·.step) = List.replicate outcome.frames .running ++ [.done outcome.ending] ∧
      played.1.flatMap (·.events) = outcome.events ∧ played.2.scene = outcome.scene := by
  generalize hf : run.tick false scene = frame at h
  obtain ⟨n, rfl⟩ := Nat.exists_eq_add_one_of_ne_zero (Nat.ne_zero_of_lt hn)
  induction h generalizing run scene n with
  | done frame hd =>
    rw [Trial.ticks_done hf hd]
    simp [Trial.tick, hf, hd]
  | @running frame outcome hr _ ih =>
    have hl : outcome.frames < n := by
      simp only [Outcome.after] at hn
      omega
    obtain ⟨n, rfl⟩ := Nat.exists_eq_add_one_of_ne_zero (Nat.ne_zero_of_lt hl)
    obtain ⟨hs, he, hl⟩ := ih rfl n hl
    rw [Trial.ticks_running hf hr]
    refine ⟨?_, ?_, hl⟩
    · simp [hr, hs, Outcome.after, Nat.add_comm 1, List.replicate_succ]
    · simp [he, Outcome.after]

lemma or_running (run : Run α) (scene : Scene α) (n : Nat) :
    (∃ outcome, (run.tick false scene).LeadsTo outcome) ∨
      ((⟨run, scene, false⟩ : Trial α).ticks n).1.map (·.step) = List.replicate n .running := by
  induction n generalizing run scene with
  | zero => exact Or.inr rfl
  | succ n ih =>
    cases hs : (run.tick false scene).step with
    | done ending => exact Or.inl ⟨_, .done _ hs⟩
    | running =>
      obtain ⟨outcome, ho⟩ | hr := ih (run.tick false scene).run (run.tick false scene).scene
      · exact Or.inl ⟨_, .running _ hs ho⟩
      · exact Or.inr (by simp [Trial.ticks_running rfl hs, hs, hr, List.replicate_succ])

end Frame.LeadsTo

namespace Program

variable {program : Program}

lemma leadsTo_iff {outcome : Outcome α} :
    ((program.start pace).tick false scene).LeadsTo outcome ↔
      program.Executes pace scene outcome := by
  have hb : (proceed pace (.block program.body :: []) scene).LeadsTo outcome ↔
      ((program.start pace).tick false scene).LeadsTo outcome := by
    rw [leadsTo_proceed_block, List.append_nil]
    rfl
  have hl : ∀ first : Outcome α, first.ending ≠ .cancelled →
      (first.Continues (proceed pace [] first.scene) outcome ↔ outcome = first) := by
    rintro ⟨scene, events, frames, ending⟩ hc
    simp only [Outcome.Continues, leadsTo_proceed_nil]
    cases ending <;> simp_all [Outcome.after, Outcome.idle]
  rw [← hb]
  constructor
  · intro h
    obtain ⟨first, hf, hc⟩ := Statement.exists_executes _ h
    obtain rfl := (hl first hf.ending_ne).mp hc
    exact hf
  · intro h
    exact Statement.Executes.leadsTo h ((hl outcome (Statement.Executes.ending_ne h)).mpr rfl)

/-- Frame by frame, a run ends as its program does when it is executed by recursion, after one frame
more than the motions take; when the program comes to no end, neither does the run. -/
theorem ticks_eq_execution (program : Program) (pace : Pace α) (scene : Scene α) :
    (∀ outcome, program.Executes pace scene outcome → ∀ n, outcome.frames < n →
      let played := (⟨program.start pace, scene, false⟩ : Trial α).ticks n
      played.1.map (·.step) =
          List.replicate outcome.frames .running ++ [.done outcome.ending] ∧
        played.1.flatMap (·.events) = outcome.events ∧ played.2.scene = outcome.scene) ∧
    ((¬ ∃ outcome, program.Executes pace scene outcome) → ∀ n,
      ((⟨program.start pace, scene, false⟩ : Trial α).ticks n).1.map (·.step) =
        List.replicate n .running) := by
  constructor
  · intro outcome h n hn
    exact (leadsTo_iff.mpr h).ticks hn
  · intro h n
    obtain ⟨outcome, ho⟩ | hr := Frame.LeadsTo.or_running (program.start pace) scene n
    · exact absurd ⟨outcome, leadsTo_iff.mp ho⟩ h
    · exact hr

theorem ticks_eq_execution_trap :
    let program : Program :=
      ⟨[.when (.literal true) "true" (.block [.command .turnRight, .command (.forward 3)]),
        .command .collect]⟩
    let scene : Scene Rat :=
      { (Puzzle.level2Phase2.scene : Scene Rat) with actor := ⟨⟨7, 1⟩, 90, .east⟩ }
    let quick : Pace Rat := { Pace.standard with turn := 90 }
    let stuck : Pace Rat := { Pace.standard with turn := 0 }
    (∃ outcome, program.Executes quick scene outcome ∧
      let played := (⟨program.start quick, scene, false⟩ : Trial Rat).ticks 9
      played.1.map (·.step) = [.running, .running, .done .trapped] ∧
        played.1.flatMap (·.events) = outcome.events ∧ played.2.scene = outcome.scene) ∧
    (¬ ∃ outcome, program.Executes stuck scene outcome) ∧
    ∀ n, ((⟨program.start stuck, scene, false⟩ : Trial Rat).ticks n).1.map (·.step) =
      List.replicate n .running := by
  intro program scene quick stuck
  constructor
  · have hd : Scalar.abs ((90 - 90 : Rat) - 90) ≤ 90 := by decide +kernel
    have hturn : (Motion.turn (90 - 90) .south).step quick scene = (.settled, _, _) := if_pos hd
    have htrap : ∀ requested,
        (Motion.travel requested quick.share false).step quick
          ({ scene with actor := ⟨⟨7, 1⟩, Scalar.wrap (90 - 90) 360, .south⟩ } : Scene Rat) =
        (.trapped, _, _) := fun requested => if_pos (by decide +kernel)
    have hbody : (Statement.block [.command .turnRight, .command (.forward 3)]).Executes quick
        scene _ :=
      .cons (.motion rfl (.settled hturn)) rfl (.stopped (.motion rfl (.trapped (htrap _))) rfl)
    have he : program.Executes quick scene _ := .stopped (.holds rfl hbody) rfl
    exact ⟨_, he, (ticks_eq_execution program quick scene).1 _ he 9 (by decide)⟩
  · have hd : ¬ Scalar.abs ((90 - 90 : Rat) - 90) ≤ 0 := by decide +kernel
    have hyaw : (90 : Rat) + 0 * Scalar.signum (90 - 90 - 90 : Rat) = 90 := by decide +kernel
    have hturn : (Motion.turn (90 - 90) .south).step stuck scene =
        (.moving (.turn (90 - 90) .south), scene, [scene.actor.pose]) := by
      refine (if_neg hd).trans ?_
      show (_, ({ scene with actor := ⟨⟨7, 1⟩, _, .east⟩ } : Scene Rat), [Event.pose _ _]) = _
      rw [hyaw]
      rfl
    have hn : ¬ ∃ outcome, program.Executes stuck scene outcome := by
      rintro ⟨outcome, he⟩
      obtain ⟨_, hw⟩ := Statement.Executes.exists_head he
      cases hw with
      | holds _ hb =>
        obtain ⟨_, hc⟩ := hb.exists_head
        cases hc with
        | action ha => exact nomatch ha
        | motion hm ht =>
          obtain rfl := Deed.motion.inj hm
          exact Motion.not_executes hturn _ ht
      | fails hf => exact nomatch hf
    exact ⟨hn, (ticks_eq_execution program stuck scene).2 hn⟩

end Program

end RobotPuzzle
