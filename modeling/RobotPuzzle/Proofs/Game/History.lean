import Mathlib.Data.List.DropRight
import RobotPuzzle.Proofs.Game.Calls
import RobotPuzzle.Proofs.Run.Rest
import RobotPuzzle.Proofs.Scene.Reach

/-! What befalls a scene, one thing after the other, in the calls on a game and within the frames of
its runs. -/

namespace RobotPuzzle

inductive Happening (α : Type) where
  | act (action : Action α)
  | motion (motion : Motion α) (pace : Pace α)
  | rejected (rejection : Script.Rejection)
  | closed (won : Bool)

def Happening.isReset {α : Type} : Happening α → Bool
  | act .reset => true
  | _ => false

structure Moment (α : Type) where
  scene : Scene α
  happening : Happening α

def Moment.sinceReset {α : Type} (moments : List (Moment α)) : List (Moment α) :=
  moments.rtakeWhile fun moment => !moment.happening.isReset

def Entry.action? {α : Type} : Entry → Option (Action α)
  | performed .collect => some .collect
  | performed .putOutFire => some .putOutFire
  | performed .coverHole => some .coverHole
  | _ => none

variable {α : Type} [Scalar α]

namespace Scene

def undergo (scene : Scene α) : Happening α → Scene α × List (Event α)
  | .act action => scene.act action
  | .motion motion pace => (motion.step pace scene).2
  | .rejected rejection => (scene, [.console rejection.console])
  | .closed won => (scene, [.finished won])

def through (scene : Scene α) (happenings : List (Happening α)) : Scene α :=
  happenings.foldl (fun scene happening => (scene.undergo happening).1) scene

def moments (scene : Scene α) : List (Happening α) → List (Moment α)
  | [] => []
  | happening :: happenings => ⟨scene, happening⟩ :: (scene.undergo happening).1.moments happenings

end Scene

namespace Moment

def after (moment : Moment α) : Scene α := (moment.scene.undergo moment.happening).1

def events (moment : Moment α) : List (Event α) := (moment.scene.undergo moment.happening).2

end Moment

namespace Scene

lemma moments_append (scene : Scene α) (happenings more : List (Happening α)) :
    scene.moments (happenings ++ more) =
      scene.moments happenings ++ (scene.through happenings).moments more := by
  induction happenings generalizing scene with
  | nil => rfl
  | cons happening happenings ih => exact congrArg (_ :: ·) (ih _)

lemma through_append (scene : Scene α) (happenings more : List (Happening α)) :
    scene.through (happenings ++ more) = (scene.through happenings).through more :=
  List.foldl_append

lemma kept_through {P : Scene α → Prop} {happenings : List (Happening α)}
    (step : ∀ scene, ∀ happening ∈ happenings, P scene → P (scene.undergo happening).1)
    {scene : Scene α} (h : P scene) : P (scene.through happenings) :=
  List.foldlRecOn happenings _ h fun scene h happening hm => step scene happening hm h

structure Unfolds (scene : Scene α) (happenings : List (Happening α)) (events : List (Event α))
    (after : Scene α) : Prop where
  through_eq : scene.through happenings = after
  events_eq : (scene.moments happenings).flatMap Moment.events = events

variable {scene next last : Scene α} {events more : List (Event α)}

lemma Unfolds.nil (scene : Scene α) : scene.Unfolds [] [] scene := ⟨rfl, rfl⟩

lemma Unfolds.single (scene : Scene α) (happening : Happening α) :
    scene.Unfolds [happening] (scene.undergo happening).2 (scene.undergo happening).1 :=
  ⟨rfl, List.append_nil _⟩

lemma Unfolds.append {happenings later : List (Happening α)}
    (h : scene.Unfolds happenings events next) (hn : next.Unfolds later more last) :
    scene.Unfolds (happenings ++ later) (events ++ more) last where
  through_eq := by rw [through_append, h.through_eq, hn.through_eq]
  events_eq := by
    rw [moments_append, List.flatMap_append, h.events_eq, h.through_eq, hn.events_eq]

lemma IsOf.undergo {puzzle : Puzzle} (h : scene.IsOf puzzle) (happening : Happening α) :
    (scene.undergo happening).1.IsOf puzzle := by
  cases happening with
  | act action => exact h.act action
  | motion motion pace =>
    obtain ⟨actor, ha⟩ := scene.motion_scene pace motion
    exact ha ▸ h.withActor actor
  | rejected rejection => exact h
  | closed won => exact h

lemma IsOf.through {puzzle : Puzzle} (h : scene.IsOf puzzle) (happenings : List (Happening α)) :
    (scene.through happenings).IsOf puzzle :=
  kept_through (fun _ happening _ h => h.undergo happening) h

lemma exists_split {happenings : List (Happening α)} {moment : Moment α}
    (h : moment ∈ scene.moments happenings) : ∃ earlier later,
      happenings = earlier ++ moment.happening :: later ∧ scene.through earlier = moment.scene := by
  induction happenings generalizing scene with
  | nil => exact absurd h List.not_mem_nil
  | cons happening happenings ih =>
    rcases List.mem_cons.mp h with rfl | h
    · exact ⟨[], happenings, rfl, rfl⟩
    · obtain ⟨earlier, later, he, hs⟩ := ih h
      exact ⟨happening :: earlier, later, congrArg (happening :: ·) he, hs⟩

lemma IsOf.of_mem_moments {puzzle : Puzzle} (h : scene.IsOf puzzle)
    {happenings : List (Happening α)} {moment : Moment α}
    (hm : moment ∈ scene.moments happenings) : moment.scene.IsOf puzzle := by
  obtain ⟨earlier, later, -, hs⟩ := exists_split hm
  rw [← hs]
  exact h.through earlier

end Scene

lemma Moment.exists_after_eq {moment : Moment α} (hr : moment.happening.isReset = false)
    (hc : moment.happening ≠ .act .collect) (hp : moment.happening ≠ .act .putOutFire) :
    ∃ terrain actor, moment.after = { moment.scene with terrain, actor } := by
  obtain ⟨scene, happening⟩ := moment
  cases happening with
  | act action =>
    cases action with
    | collect => exact absurd rfl hc
    | putOutFire => exact absurd rfl hp
    | coverHole =>
      show ∃ terrain actor, scene.coverHole.1 = { scene with terrain, actor }
      have hc := scene.covers
      generalize scene.coverHole = result at hc
      cases hc with
      | nothing _ => exact ⟨scene.terrain, scene.actor, rfl⟩
      | @covered id _ => exact ⟨scene.terrain.setActive .hole id false, scene.actor, rfl⟩
    | alternate =>
      show ∃ terrain actor, scene.alternate.1 = { scene with terrain, actor }
      rw [Scene.alternate]
      cases scene.puzzle.flicker with
      | none => exact ⟨scene.terrain, scene.actor, rfl⟩
      | some flicker => exact ⟨_, scene.actor, rfl⟩
    | reset => exact absurd hr.symm Bool.false_ne_true
    | place actor => exact ⟨scene.terrain, actor, rfl⟩
  | motion motion pace =>
    obtain ⟨actor, ha⟩ := scene.motion_scene pace motion
    exact ⟨scene.terrain, actor, ha⟩
  | rejected rejection => exact ⟨scene.terrain, scene.actor, rfl⟩
  | closed won => exact ⟨scene.terrain, scene.actor, rfl⟩

lemma Actor.action_deed {actor : Actor α} {pace : Pace α} {c : Command} {action : Action α}
    (h : actor.deed pace c = .action action) : (Entry.performed c).action? = some action := by
  cases c <;> cases h <;> rfl

lemma Actor.action_motion {actor : Actor α} {pace : Pace α} {c : Command} {motion : Motion α}
    (h : actor.deed pace c = .motion motion) :
    (Entry.performed c).action? = (none : Option (Action α)) := by
  cases c <;> cases h <;> rfl

def Frame.happenings (frame : Frame α) : List (Happening α) :=
  (frame.journal.filterMap Entry.action?).map .act

def Run.happenings (run : Run α) (cancelled : Bool) (scene : Scene α) : List (Happening α) :=
  (if run.ended = none ∧ cancelled = false then run.motion.toList else []).map
    (.motion · run.pace) ++ (run.tick cancelled scene).happenings

omit [Scalar α] in
lemma Frame.happenings_after (frame : Frame α) (events : List (Event α)) (journal : List Entry) :
    (frame.after events journal).happenings =
      (journal.filterMap Entry.action?).map .act ++ frame.happenings := by
  rw [happenings, journal_after, List.filterMap_append, List.map_append]
  rfl

lemma unfolds_proceed (pace : Pace α) (statements : List Statement) (scene : Scene α) :
    scene.Unfolds (proceed pace statements scene).happenings (proceed pace statements scene).events
      (proceed pace statements scene).scene := by
  fun_induction proceed pace statements scene with
  | case1 scene => exact .nil scene
  | case2 scene body rest ih => exact ih
  | case3 scene condition source body rest holds ih => exact ih
  | case4 c rest scene motion hd =>
    rw [Frame.happenings_after, List.filterMap_cons_none (Actor.action_motion hd)]
    exact .nil scene
  | case5 c rest scene action hd next events ha ih =>
    have hs := Scene.Unfolds.single scene (.act action)
    rw [Scene.undergo, ha] at hs
    rw [Frame.happenings_after, List.filterMap_cons_some (Actor.action_deed hd)]
    exact hs.append ih

lemma Run.unfolds_tick (run : Run α) (cancelled : Bool) (scene : Scene α) :
    scene.Unfolds (run.happenings cancelled scene) (run.tick cancelled scene).events
      (run.tick cancelled scene).scene := by
  rw [Run.happenings]
  cases he : run.ended with
  | some ending =>
    rw [Run.tick_of_ended he]
    exact .nil scene
  | none =>
    cases cancelled with
    | true =>
      rw [Run.tick_of_cancelled he]
      exact .nil scene
    | false =>
      simp only [tick, he, and_self, if_true, Bool.false_eq_true, if_false]
      cases hm : run.motion with
      | none => exact unfolds_proceed run.pace run.pending scene
      | some motion =>
        have hs := Scene.Unfolds.single scene (.motion motion run.pace)
        rw [Scene.undergo] at hs
        rcases hp : motion.step run.pace scene with ⟨progress, after, events⟩
        rw [hp] at hs
        simp only [hp]
        cases progress with
        | moving next => exact hs
        | trapped => exact hs
        | settled => exact hs.append (unfolds_proceed run.pace run.pending after)

namespace Table

def happenings (table : Table α) : Call α → List (Happening α)
  | .start code =>
    match (table.start code).2.2 with
    | .ok _ => [.act .reset]
    | .error .busy => []
    | .error (.rejected rejection) => [.rejected rejection]
  | .reset => [.act .reset]
  | .alternate => if table.game.running then [] else [.act .alternate]
  | .tick index =>
    table.plays[index]?.elim [] fun play =>
      play.run.happenings (table.isCancelled play) table.game.scene
  | .cancel _ => []
  | .finish index ending =>
    table.plays[index]?.elim [] fun play =>
      if play.signal = table.game.current then [.closed (table.finish index ending).1.won] else []
  | .act action => [.act action]
  | .frame run cancelled => run.happenings cancelled table.game.scene

def moments (table : Table α) : List (Call α) → List (Moment α)
  | [] => []
  | call :: calls =>
    table.game.scene.moments (table.happenings call) ++ (table.call call).1.moments calls

variable (table : Table α)

lemma unfolds_start (code : String) : table.game.scene.Unfolds (table.happenings (.start code))
    (table.start code).2.1 (table.start code).1.game.scene := by
  rw [happenings]
  cases hs : (table.start code).2.2 with
  | ok index =>
    obtain ⟨hr, -, program, hp⟩ := start_ok hs
    rw [start_of_accepted hr hp]
    exact .single table.game.scene (.act .reset)
  | error refusal =>
    obtain ⟨ht, ⟨-, rfl, he⟩ | ⟨rejection, -, -, rfl, he⟩⟩ := start_error hs
    · rw [ht, he]
      exact .nil table.game.scene
    · rw [ht, he]
      exact .single table.game.scene (.rejected rejection)

lemma unfolds_finish (index : Nat) (ending : Ending) :
    table.game.scene.Unfolds (table.happenings (.finish index ending))
      (table.finish index ending).2.2 (table.finish index ending).2.1.game.scene := by
  rw [happenings, finish]
  cases table.plays[index]? with
  | none => exact .nil table.game.scene
  | some play =>
    simp only [Option.elim_some, Game.finish]
    split
    · exact .single table.game.scene (.closed _)
    · exact .nil table.game.scene

lemma unfolds_call (call : Call α) : table.game.scene.Unfolds (table.happenings call)
    (table.call call).2 (table.call call).1.game.scene := by
  cases call with
  | start code => exact table.unfolds_start code
  | reset => exact .single table.game.scene (.act .reset)
  | alternate =>
    simp only [Table.call, happenings, alternate, Game.alternate]
    cases table.game.running with
    | true => exact .nil table.game.scene
    | false => exact .single table.game.scene (.act .alternate)
  | tick index =>
    rw [happenings, Table.call]
    cases hp : table.plays[index]? with
    | none =>
      rw [tick_none hp]
      exact .nil table.game.scene
    | some play =>
      rw [tick_some hp]
      exact play.run.unfolds_tick (table.isCancelled play) table.game.scene
  | cancel index =>
    rw [happenings, Table.call, cancel]
    cases table.plays[index]? <;> exact .nil table.game.scene
  | finish index ending => exact table.unfolds_finish index ending
  | act action => exact .single table.game.scene (.act action)
  | frame run cancelled => exact run.unfolds_tick cancelled table.game.scene

lemma exists_unfolds (calls : List (Call α)) : ∃ happenings,
    table.moments calls = table.game.scene.moments happenings ∧
      table.game.scene.Unfolds happenings (table.events calls) (table.after calls).game.scene := by
  induction calls generalizing table with
  | nil => exact ⟨[], rfl, .nil table.game.scene⟩
  | cons call calls ih =>
    obtain ⟨later, hm, hu⟩ := ih (table.call call).1
    have hc := table.unfolds_call call
    refine ⟨table.happenings call ++ later, ?_, hc.append hu⟩
    rw [moments, hm, Scene.moments_append, hc.through_eq]

theorem events_eq_moments (calls : List (Call α)) :
    table.events calls = (table.moments calls).flatMap Moment.events := by
  obtain ⟨happenings, hm, hu⟩ := table.exists_unfolds calls
  rw [hm, hu.events_eq]

lemma moments_append (calls more : List (Call α)) :
    table.moments (calls ++ more) = table.moments calls ++ (table.after calls).moments more := by
  induction calls generalizing table with
  | nil => rfl
  | cons call calls ih =>
    rw [List.cons_append, moments, moments, ih, List.append_assoc]
    rfl

end Table

lemma Scene.exists_sinceReset (puzzle : Puzzle) (happenings : List (Happening α)) : ∃ recent,
    Moment.sinceReset ((puzzle.scene : Scene α).moments happenings) =
        (puzzle.scene : Scene α).moments recent ∧
      (∀ happening ∈ recent, happening.isReset = false) ∧
      (puzzle.scene : Scene α).through happenings = (puzzle.scene : Scene α).through recent := by
  induction happenings using List.reverseRecOn with
  | nil => exact ⟨[], rfl, List.forall_mem_nil _, rfl⟩
  | append_singleton happenings happening ih =>
    obtain ⟨recent, hm, hn, ht⟩ := ih
    have hs : Moment.sinceReset ((puzzle.scene : Scene α).moments (happenings ++ [happening])) =
        if happening.isReset then []
        else Moment.sinceReset ((puzzle.scene : Scene α).moments happenings) ++
          [⟨(puzzle.scene : Scene α).through happenings, happening⟩] := by
      rw [moments_append, Moment.sinceReset, moments, moments, List.rtakeWhile_concat]
      cases happening.isReset <;> rfl
    rw [hs, through_append]
    cases hr : happening.isReset with
    | true =>
      have ha : happening = .act .reset := by
        cases happening with
        | act action =>
          cases action with
          | reset => rfl
          | _ => exact absurd hr Bool.false_ne_true
        | _ => exact absurd hr Bool.false_ne_true
      refine ⟨[], rfl, List.forall_mem_nil _, ?_⟩
      rw [ha]
      exact congrArg Prod.fst (((isOf_scene puzzle).through happenings).reset_eq)
    | false =>
      refine ⟨recent ++ [happening], ?_, ?_, ?_⟩
      · rw [moments_append, hm, ht]
        rfl
      · exact List.forall_mem_append.mpr ⟨hn, List.forall_mem_singleton.mpr hr⟩
      · rw [ht, through_append]

lemma Puzzle.exists_sinceReset (puzzle : Puzzle) (pace : Pace α) (calls : List (Call α)) :
    ∃ recent, Moment.sinceReset ((puzzle.table pace).moments calls) =
        (puzzle.scene : Scene α).moments recent ∧
      (∀ happening ∈ recent, happening.isReset = false) ∧
      ((puzzle.table pace).after calls).game.scene = (puzzle.scene : Scene α).through recent := by
  obtain ⟨happenings, hm, hu⟩ := (puzzle.table pace).exists_unfolds calls
  obtain ⟨recent, hs, hn, ht⟩ := Scene.exists_sinceReset puzzle happenings
  exact ⟨recent, (congrArg Moment.sinceReset hm).trans hs, hn, hu.through_eq.symm.trans ht⟩

end RobotPuzzle
