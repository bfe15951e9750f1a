import Mathlib.Data.Setoid.Basic
import RobotPuzzle.Proofs.Run.Safety

/-! Blocks, and conditions that do not depend on the sensors, leave no trace in a run. -/

namespace RobotPuzzle

namespace Statement

mutual

inductive Rewrites : Statement → Statement → Prop
  | single (statement) : Rewrites (.block [statement]) statement
  | always (source body) : Rewrites (.when (.literal true) source body) body
  | source (condition source other body) :
      Rewrites (.when condition source body) (.when condition other body)
  | body {condition source body other} : Rewrites body other →
      Rewrites (.when condition source body) (.when condition source other)
  | block {body other} : RewritesIn body other → Rewrites (.block body) (.block other)

inductive RewritesIn : List Statement → List Statement → Prop
  | inline (body rest) : RewritesIn (.block body :: rest) (body ++ rest)
  | never (source body rest) : RewritesIn (.when (.literal false) source body :: rest) rest
  | head {statement other} (rest) : Rewrites statement other →
      RewritesIn (statement :: rest) (other :: rest)
  | tail (statement) {rest other} : RewritesIn rest other →
      RewritesIn (statement :: rest) (statement :: other)

end

mutual

def core : Statement → List Statement
  | .command c => [.command c]
  | .when (.literal true) _ body => body.core
  | .when (.literal false) _ _ => []
  | .when (.sensor sensor) _ body => [.when (.sensor sensor) "" (.block body.core)]
  | .block body => cores body

def cores : List Statement → List Statement
  | [] => []
  | statement :: rest => statement.core ++ cores rest

end

lemma cores_append (body rest : List Statement) :
    cores (body ++ rest) = cores body ++ cores rest := by
  induction body with
  | nil => rfl
  | cons statement body ih => rw [List.cons_append, cores, cores, ih, List.append_assoc]

mutual

lemma Rewrites.core_eq {statement other : Statement} : statement.Rewrites other →
    statement.core = other.core
  | .single statement => by rw [core, cores, cores, List.append_nil]
  | .always source body => by rw [core]
  | .source condition source other body => by
    rcases condition with (_ | _) | _ <;> simp only [core]
  | @Rewrites.body condition _ _ _ h => by
    rcases condition with (_ | _) | _ <;> simp only [core, h.core_eq]
  | .block h => by rw [core, core, h.cores_eq]

lemma RewritesIn.cores_eq {body other : List Statement} : RewritesIn body other →
    cores body = cores other
  | .inline body rest => by rw [cores, core, cores_append]
  | .never source body rest => by rw [cores, core, List.nil_append]
  | .head rest h => by rw [cores, cores, h.core_eq]
  | .tail statement h => by rw [cores, cores, h.cores_eq]

end

end Statement

def Run.core {α : Type} (run : Run α) : Run α :=
  { run with pending := Statement.cores run.pending }

structure Frame.HasCore {α : Type} (frame other : Frame α) : Prop where
  run_eq : other.run = frame.run.core
  scene_eq : other.scene = frame.scene
  events_eq : other.events = frame.events
  step_eq : other.step = frame.step

def Frame.visible {α : Type} (frame : Frame α) : Step × List (Event α) × Scene α :=
  (frame.step, frame.events, frame.scene)

namespace Frame.HasCore

variable {α : Type} {frame other : Frame α}

lemma visible_eq (h : frame.HasCore other) : other.visible = frame.visible := by
  rw [visible, visible, h.step_eq, h.events_eq, h.scene_eq]

lemma after (h : frame.HasCore other) (events : List (Event α)) (journal journal' : List Entry) :
    (frame.after events journal).HasCore (other.after events journal') :=
  ⟨h.run_eq, h.scene_eq, congrArg (events ++ ·) h.events_eq, h.step_eq⟩

lemma after_nil (h : frame.HasCore other) (journal : List Entry) :
    (frame.after [] journal).HasCore other :=
  ⟨h.run_eq, h.scene_eq, h.events_eq, h.step_eq⟩

lemma nil_after (h : frame.HasCore other) (journal : List Entry) :
    frame.HasCore (other.after [] journal) :=
  ⟨h.run_eq, h.scene_eq, h.events_eq, h.step_eq⟩

lemma stopped (pace : Pace α) (ending : Ending) (scene : Scene α) (events : List (Event α)) :
    (stopped pace ending scene events).HasCore (stopped pace ending scene events) :=
  ⟨rfl, rfl, rfl, rfl⟩

lemma paused (pace : Pace α) (pending : List Statement) (motion : Motion α) (scene : Scene α)
    (events : List (Event α)) : (paused pace pending motion scene events).HasCore
      (paused pace (Statement.cores pending) motion scene events) :=
  ⟨rfl, rfl, rfl, rfl⟩

end Frame.HasCore

variable {α : Type} [Scalar α]

open Statement in
lemma hasCore_proceed (pace : Pace α) (statements : List Statement) (scene : Scene α) :
    (proceed pace statements scene).HasCore (proceed pace (cores statements) scene) := by
  fun_induction proceed pace statements scene with
  | case1 scene =>
    rw [cores, proceed]
    exact .stopped pace .completed scene []
  | case2 body rest scene ih =>
    rw [cores_append] at ih
    rw [cores, core]
    exact ih.after_nil _
  | case3 condition source body rest scene holds ih =>
    rcases condition with (_ | _) | sensor
    · rw [cores, core, List.nil_append]
      exact ih.after_nil _
    · rw [cores, core]
      exact ih.after_nil _
    · -- A sensor is asked in both runs, and the other one enters the body as a block.
      rw [cores, core, List.singleton_append, proceed]
      refine Frame.HasCore.after ?_ [] _ _
      cases hh : scene.evaluate (.sensor sensor) with
      | true =>
        simp only [holds, hh, dite_eq_ite, if_true, cores] at ih ⊢
        rw [proceed]
        exact ih.nil_after _
      | false =>
        simp only [holds, hh, dite_eq_ite, Bool.false_eq_true, if_false] at ih ⊢
        exact ih
  | case4 c rest scene motion hd =>
    rw [cores, core, List.singleton_append, proceed]
    simp only [hd]
    exact (Frame.HasCore.paused pace rest motion scene []).after [] _ _
  | case5 c rest scene action hd next events ha ih =>
    rw [cores, core, List.singleton_append, proceed]
    simp only [hd, ha]
    exact ih.after events _ _

lemma hasCore_tick (run : Run α) (cancelled : Bool) (scene : Scene α) :
    (run.tick cancelled scene).HasCore (run.core.tick cancelled scene) := by
  obtain ⟨pending, motion, pace, ended⟩ := run
  simp only [Run.tick, Run.core]
  cases ended with
  | some ending => exact ⟨rfl, rfl, rfl, rfl⟩
  | none =>
    cases cancelled with
    | true => exact .stopped pace .cancelled scene []
    | false =>
      cases motion with
      | none => exact hasCore_proceed pace pending scene
      | some motion =>
        rcases hs : motion.step pace scene with ⟨progress, next, events⟩
        simp only [hs, Bool.false_eq_true, if_false]
        cases progress with
        | moving motion => exact .paused pace pending motion next events
        | trapped => exact .stopped pace .trapped next events
        | settled => exact (hasCore_proceed pace pending next).after events [] []

namespace Trial

lemma visible_frames_core (run : Run α) (scene : Scene α) (cancelled : Bool)
    (schedule : List Bool) :
    ((⟨run.core, scene, cancelled⟩ : Trial α).frames schedule).map Frame.visible =
      ((⟨run, scene, cancelled⟩ : Trial α).frames schedule).map Frame.visible := by
  induction schedule generalizing run scene cancelled with
  | nil => rfl
  | cons cancels schedule ih =>
    have hc := hasCore_tick run (cancels || cancelled) scene
    have ht : ∀ run : Run α, (⟨run, scene, cancelled⟩ : Trial α).next cancels =
        (⟨run, scene, cancels || cancelled⟩ : Trial α).tick := by
      intro run
      cases cancels <;> rfl
    simp only [frames, ht, tick, List.map_cons, hc.visible_eq, hc.run_eq, hc.scene_eq,
      hc.step_eq, ih]

end Trial

namespace Program

def Equivalent (program other : Program) : Prop :=
  Relation.EqvGen Statement.RewritesIn program.body other.body

lemma Equivalent.cores_eq {program other : Program} (h : program.Equivalent other) :
    Statement.cores program.body = Statement.cores other.body := by
  have hr : ∀ body rest, Statement.RewritesIn body rest →
      Setoid.ker Statement.cores body rest := fun _ _ hr => hr.cores_eq
  exact Setoid.eqvGen_le hr h

/-- Frame by frame, and whenever it is cancelled, a run shows the same for every program that is
made from its own by dissolving blocks and deciding constant conditions. -/
theorem rewrites_leave_no_trace {program other : Program} (h : program.Equivalent other)
    (pace : Pace α) (scene : Scene α) (schedule : List Bool) :
    ((⟨program.start pace, scene, false⟩ : Trial α).frames schedule).map Frame.visible =
      ((⟨other.start pace, scene, false⟩ : Trial α).frames schedule).map Frame.visible := by
  have hc : (program.start pace : Run α).core = (other.start pace).core := by
    simp only [start, Run.core, h.cores_eq]
  rw [← Trial.visible_frames_core, hc, Trial.visible_frames_core]

theorem rewrites_leave_no_trace_fire :
    let program : Program :=
      ⟨[.when (.literal true) "true" (.block [.command .turnLeft,
          .when (.literal false) "false" (.command (.forward 2))]),
        .when (.sensor .fire) "pegandoFogo()" (.block [.command .putOutFire]),
        .command .turnAround]⟩
    let other : Program :=
      ⟨[.command .turnLeft, .when (.sensor .fire) " pegandoFogo( )" (.command .putOutFire),
        .command .turnAround]⟩
    let scene : Scene Rat :=
      { (Puzzle.level2Phase1.scene : Scene Rat) with actor := ⟨⟨3, 1⟩, 90, .east⟩ }
    let quick : Pace Rat := { Pace.standard with turn := 90 }
    program.Equivalent other ∧
      ((⟨program.start quick, scene, false⟩ : Trial Rat).frames [false, false, true]).map
          Frame.visible =
        ((⟨other.start quick, scene, false⟩ : Trial Rat).frames [false, false, true]).map
          Frame.visible := by
  intro program other scene quick
  have h : program.Equivalent other := by
    refine .trans _ _ _ (.rel _ _ (.head _ (.always _ _))) ?_
    refine .trans _ _ _ (.rel _ _ (.inline _ _)) ?_
    refine .trans _ _ _ (.rel _ _ (.tail _ (.never _ _ _))) ?_
    refine .trans _ _ _ (.rel _ _ (.tail _ (.head _ (.body (.single _))))) ?_
    exact .rel _ _ (.tail _ (.head _ (.source _ _ _ _)))
  exact ⟨h, rewrites_leave_no_trace h quick scene [false, false, true]⟩

end Program

end RobotPuzzle
