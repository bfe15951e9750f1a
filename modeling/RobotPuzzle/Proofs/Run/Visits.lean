import RobotPuzzle.Proofs.Program.Sites
import RobotPuzzle.Proofs.Run.Accounting

/-! The statements that a run comes to. They are taken from the front of a queue, and what a
statement is made of goes in front of what is left. -/

namespace RobotPuzzle

structure Visit (α : Type) where
  site : Site
  scene : Scene α

variable {α : Type} [Scalar α]

namespace Visit

def entry (visit : Visit α) : Entry :=
  match visit.site.statement with
  | .command c => .performed c
  | .when condition _ _ => .tested condition (visit.scene.evaluate condition)
  | .block _ => .entered

def isRefused (visit : Visit α) : Bool :=
  match visit.site.statement with
  | .when condition _ _ => !visit.scene.evaluate condition
  | _ => false

def opened (visit : Visit α) : List Site := if visit.isRefused then [] else visit.site.inner

def skipped (visit : Visit α) : List Site :=
  if visit.isRefused then visit.site.inner.flatMap Site.tree else []

def onward? (pace : Pace α) (visit : Visit α) : Option (Scene α) :=
  match visit.site.statement with
  | .command c =>
    match visit.scene.actor.deed pace c with
    | .motion _ => none
    | .action action => some (visit.scene.act action).1
  | _ => some visit.scene

end Visit

def nodes (queue : List Site) : Nat := Statement.sizes (queue.map (·.statement))

lemma nodes_append (queue rest : List Site) : nodes (queue ++ rest) = nodes queue + nodes rest := by
  rw [nodes, List.map_append, Statement.sizes_append, nodes, nodes]

lemma nodes_inner (site : Site) : nodes site.inner + 1 = site.statement.size := by
  obtain ⟨place, statement⟩ := site
  cases statement with
  | command c => rfl
  | when condition source body => rfl
  | block body => rw [Site.inner, nodes, Statement.placed_statements, Statement.size]

lemma nodes_opened_lt (visit : Visit α) (rest : List Site) :
    nodes (visit.opened ++ rest) < nodes (visit.site :: rest) := by
  have hi := nodes_inner visit.site
  have hc : nodes (visit.site :: rest) = visit.site.statement.size + nodes rest := rfl
  rw [nodes_append, hc, Visit.opened]
  split
  · have hz : nodes [] = 0 := rfl
    omega
  · omega

def popAll (pace : Pace α) : List Site → Scene α → List (Visit α) × List Site
  | [], _ => ([], [])
  | site :: rest, scene =>
    match Visit.onward? pace ⟨site, scene⟩ with
    | none => ([⟨site, scene⟩], rest)
    | some after =>
      let (visits, left) := popAll pace (Visit.opened ⟨site, scene⟩ ++ rest) after
      (⟨site, scene⟩ :: visits, left)
termination_by queue => nodes queue
decreasing_by exact nodes_opened_lt ⟨site, scene⟩ rest

def Pops (pace : Pace α) (before after : List Site × Scene α) : Prop :=
  ∃ site rest, before.1 = site :: rest ∧ Visit.onward? pace ⟨site, before.2⟩ = some after.2 ∧
    after.1 = Visit.opened ⟨site, before.2⟩ ++ rest

lemma pops_wellFounded (pace : Pace α) :
    WellFounded fun after before : List Site × Scene α => Pops pace before after := by
  refine Subrelation.wf ?_ (measure fun state : List Site × Scene α => nodes state.1).wf
  rintro ⟨after, _⟩ ⟨before, scene⟩ ⟨site, rest, rfl, -, rfl⟩
  exact nodes_opened_lt ⟨site, scene⟩ rest

lemma proceed_motion {pace : Pace α} {scene : Scene α} {site : Site} (rest : List Statement)
    (h : Visit.onward? pace ⟨site, scene⟩ = none) :
    site.inner = [] ∧ ∃ motion, proceed pace (site.statement :: rest) scene =
      (Frame.paused pace rest motion scene []).after [] [Visit.entry ⟨site, scene⟩] := by
  obtain ⟨place, statement⟩ := site
  cases statement with
  | command c =>
    refine ⟨rfl, ?_⟩
    cases hd : scene.actor.deed pace c with
    | motion motion => exact ⟨motion, by simp [proceed, hd, Visit.entry]⟩
    | action action => simp [Visit.onward?, hd] at h
  | _ => cases h

lemma proceed_onward {pace : Pace α} {scene after : Scene α} {site : Site} (rest : List Site)
    (h : Visit.onward? pace ⟨site, scene⟩ = some after) : ∃ events,
      proceed pace ((site :: rest).map (·.statement)) scene =
        (proceed pace ((Visit.opened ⟨site, scene⟩ ++ rest).map (·.statement)) after).after events
          [Visit.entry ⟨site, scene⟩] := by
  obtain ⟨place, statement⟩ := site
  cases statement with
  | command c =>
    cases hd : scene.actor.deed pace c with
    | motion motion => simp [Visit.onward?, hd] at h
    | action action =>
      obtain rfl : (scene.act action).1 = after := by simpa [Visit.onward?, hd] using h
      refine ⟨(scene.act action).2, ?_⟩
      rw [List.map_cons, proceed, hd]
      rfl
  | block body =>
    obtain rfl := Option.some.inj h
    refine ⟨[], ?_⟩
    have ho : Visit.opened ⟨⟨place, .block body⟩, scene⟩ = Statement.placed (place + 1) body := rfl
    rw [List.map_cons, proceed, ho, List.map_append, Statement.placed_statements]
    rfl
  | when condition source body =>
    obtain rfl := Option.some.inj h
    refine ⟨[], ?_⟩
    have ho : Visit.opened ⟨⟨place, .when condition source body⟩, scene⟩ =
        if !scene.evaluate condition then [] else [⟨place + 1, body⟩] := rfl
    rw [List.map_cons, proceed, ho]
    cases hc : scene.evaluate condition <;> simp [hc, Visit.entry]

lemma proceed_popAll (pace : Pace α) (queue : List Site) (scene : Scene α) :
    let frame := proceed pace (queue.map (·.statement)) scene
    let (visits, left) := popAll pace queue scene
    frame.journal = visits.map Visit.entry ∧ frame.run.pending = left.map (·.statement) ∧
      (frame.run.ended ≠ none → left = []) := by
  fun_induction popAll pace queue scene with
  | case1 scene =>
    rw [List.map_nil, proceed]
    exact ⟨rfl, rfl, fun _ => rfl⟩
  | case2 site rest scene ho =>
    obtain ⟨-, motion, hp⟩ := proceed_motion (rest.map (·.statement)) ho
    rw [List.map_cons, hp]
    exact ⟨rfl, rfl, fun h => absurd rfl h⟩
  | case3 site rest scene after ho visits left hr ih =>
    obtain ⟨events, hp⟩ := proceed_onward rest ho
    rw [hr] at ih
    rw [hp]
    exact ⟨congrArg (_ :: ·) ih.1, ih.2⟩

structure Divides (queue : List Site) (visits : List (Visit α)) (left : List Site) : Prop where
  inOrder : (visits.map (·.site) ++ left.flatMap Site.tree).Sublist (queue.flatMap Site.tree)
  accounts : ((queue.flatMap Site.tree : List Site) : Multiset Site) =
    (visits.map (·.site) : List Site) + (visits.flatMap Visit.skipped : List Site) +
      (left.flatMap Site.tree : List Site)

namespace Divides

lemma refl (queue : List Site) : Divides queue ([] : List (Visit α)) queue :=
  ⟨List.Sublist.refl _, by simp⟩

lemma trans {queue middle left : List Site} {visits more : List (Visit α)}
    (h : Divides queue visits middle) (hm : Divides middle more left) :
    Divides queue (visits ++ more) left := by
  constructor
  · rw [List.map_append, List.append_assoc]
    exact ((List.append_sublist_append_left _).mpr hm.inOrder).trans h.inOrder
  · rw [h.accounts, hm.accounts, List.map_append, List.flatMap_append, ← Multiset.coe_add,
      ← Multiset.coe_add]
    abel

lemma of_visit (visit : Visit α) (rest : List Site) :
    Divides (visit.site :: rest) [visit] (visit.opened ++ rest) := by
  constructor
  · rw [List.flatMap_cons, Site.tree_eq, List.flatMap_append, List.map_singleton,
      List.cons_append, List.cons_append, List.nil_append]
    refine List.Sublist.cons_cons _ ((List.append_sublist_append_right _).mpr ?_)
    rw [Visit.opened]
    split
    · exact List.nil_sublist _
    · exact List.Sublist.refl _
  · rw [List.flatMap_cons, Site.tree_eq, List.flatMap_append, List.map_singleton,
      List.flatMap_singleton, Visit.opened, Visit.skipped]
    split <;> simp

lemma popAll (pace : Pace α) (queue : List Site) (scene : Scene α) :
    Divides queue (popAll pace queue scene).1 (popAll pace queue scene).2 := by
  fun_induction RobotPuzzle.popAll pace queue scene with
  | case1 scene => exact refl []
  | case2 site rest scene ho =>
    have hi := (proceed_motion [] ho).1
    have hv := of_visit ⟨site, scene⟩ rest
    rwa [Visit.opened, hi, ite_self, List.nil_append] at hv
  | case3 site rest scene after ho visits left hr ih =>
    rw [hr] at ih
    exact (of_visit ⟨site, scene⟩ rest).trans ih

end Divides

namespace Run

def resumes? (run : Run α) (cancelled : Bool) (scene : Scene α) : Option (Scene α) :=
  match run.ended with
  | some _ => none
  | none =>
    if cancelled then none
    else
      match run.motion with
      | none => some scene
      | some motion =>
        match motion.step run.pace scene with
        | (.settled, after, _) => some after
        | _ => none

variable {run : Run α} {cancelled : Bool} {scene : Scene α} {queue : List Site}

lemma tick_resumed {after : Scene α} (h : run.resumes? cancelled scene = some after) :
    run.ended = none ∧ ∃ events,
      run.tick cancelled scene = (proceed run.pace run.pending after).after events [] := by
  rw [resumes?] at h
  cases he : run.ended with
  | some ending => simp [he] at h
  | none =>
    refine ⟨rfl, ?_⟩
    cases cancelled with
    | true => simp [he] at h
    | false =>
      simp only [he, Bool.false_eq_true, if_false] at h
      simp only [tick, he, Bool.false_eq_true, if_false]
      cases hm : run.motion with
      | none =>
        simp only [hm, Option.some.injEq] at h
        exact ⟨[], by rw [← h]; rfl⟩
      | some motion =>
        simp only [hm] at h
        dsimp only
        rcases hp : motion.step run.pace scene with ⟨progress, last, events⟩
        cases progress <;> simp [hp] at h
        subst h
        exact ⟨events, rfl⟩

structure IsHeld (run : Run α) (frame : Frame α) : Prop where
  journal : frame.journal = []
  pending : frame.run.ended = none → run.ended = none ∧ frame.run.pending = run.pending
  completed : frame.run.ended = some .completed → run.ended = some .completed

lemma tick_held (h : run.resumes? cancelled scene = none) :
    run.IsHeld (run.tick cancelled scene) := by
  rw [resumes?] at h
  cases he : run.ended with
  | some ending =>
    rw [tick_of_ended he]
    exact ⟨rfl, fun hn => ⟨hn, rfl⟩, fun hc => hc⟩
  | none =>
    cases cancelled with
    | true =>
      rw [tick_of_cancelled he]
      exact ⟨rfl, nofun, nofun⟩
    | false =>
      simp only [he, Bool.false_eq_true, if_false] at h
      simp only [tick, he, Bool.false_eq_true, if_false]
      cases hm : run.motion with
      | none => simp [hm] at h
      | some motion =>
        simp only [hm] at h
        dsimp only
        rcases hp : motion.step run.pace scene with ⟨progress, last, events⟩
        cases progress with
        | settled => simp [hp] at h
        | moving next => exact ⟨rfl, fun _ => ⟨he, rfl⟩, nofun⟩
        | trapped => exact ⟨rfl, nofun, nofun⟩

structure Tracks (run : Run α) (queue : List Site) : Prop where
  pending : run.ended = none → run.pending = queue.map (·.statement)
  completed : run.ended = some .completed → queue = []

omit [Scalar α] in
lemma Tracks.of_held {frame : Frame α} (h : run.Tracks queue) (hh : run.IsHeld frame) :
    frame.run.Tracks queue :=
  ⟨fun hn => (hh.pending hn).2.trans (h.pending (hh.pending hn).1),
    fun hc => h.completed (hh.completed hc)⟩

lemma Tracks.of_resumed {after : Scene α} (h : run.Tracks queue)
    (hr : run.resumes? cancelled scene = some after) :
    (run.tick cancelled scene).journal = (popAll run.pace queue after).1.map Visit.entry ∧
      (run.tick cancelled scene).run.Tracks (popAll run.pace queue after).2 := by
  obtain ⟨he, events, ht⟩ := tick_resumed hr
  obtain ⟨hj, hp, hl⟩ := proceed_popAll run.pace queue after
  rw [ht, h.pending he]
  exact ⟨hj, fun _ => hp, fun hc => hl (Option.ne_none_iff_exists'.mpr ⟨_, hc⟩)⟩

end Run

namespace Trial

def visits (trial : Trial α) (queue : List Site) : List Bool → List (Visit α) × List Site
  | [] => ([], queue)
  | cancels :: schedule =>
    match trial.run.resumes? (cancels || trial.cancelled) trial.scene with
    | none => (trial.next cancels).2.visits queue schedule
    | some scene =>
      let (taken, left) := popAll trial.run.pace queue scene
      let (more, rest) := (trial.next cancels).2.visits left schedule
      (taken ++ more, rest)

lemma visits_spec {trial : Trial α} {queue : List Site} (h : trial.run.Tracks queue)
    (schedule : List Bool) :
    let (visits, left) := trial.visits queue schedule
    (trial.frames schedule).flatMap (·.journal) = visits.map Visit.entry ∧
      Divides queue visits left ∧ (trial.follow schedule).run.Tracks left := by
  induction schedule generalizing trial queue with
  | nil => exact ⟨rfl, .refl queue, h⟩
  | cons cancels schedule ih =>
    have hf : trial.follow (cancels :: schedule) = (trial.next cancels).2.follow schedule := rfl
    rw [visits, frames, List.flatMap_cons, frame_next, hf]
    cases hr : trial.run.resumes? (cancels || trial.cancelled) trial.scene with
    | none =>
      have hh := Run.tick_held hr
      have ht : (trial.next cancels).2.run.Tracks queue := by
        rw [run_next, frame_next]
        exact h.of_held hh
      rw [hh.journal, List.nil_append]
      exact ih ht
    | some scene =>
      obtain ⟨hj, ht⟩ := h.of_resumed hr
      rw [← frame_next, ← run_next] at ht
      obtain ⟨hm, hd, hl⟩ := ih ht
      rw [hj, hm, ← List.map_append]
      exact ⟨rfl, (Divides.popAll ..).trans hd, hl⟩

end Trial

def Entry.command? : Entry → Option Command
  | performed c => some c
  | _ => none

def Site.command? (site : Site) : Option Command :=
  match site.statement with
  | .command c => some c
  | _ => none

lemma Visit.isRefused_of_mem {visit : Visit α} {site : Site} (h : site ∈ visit.skipped) :
    visit.isRefused := by
  by_contra hr
  rw [skipped, if_neg hr] at h
  exact nomatch h

lemma Visit.entry_command (visit : Visit α) : visit.entry.command? = visit.site.command? := by
  obtain ⟨⟨place, statement⟩, scene⟩ := visit
  cases statement <;> rfl

lemma Site.filterMap_command (sites : List Site) :
    (sites.filter isCommand).filterMap command? = sites.filterMap command? := by
  rw [List.filterMap_filter]
  refine List.filterMap_congr fun site _ => ?_
  obtain ⟨place, statement⟩ := site
  cases statement <;> rfl

namespace Divides

variable {visits : List (Visit α)} {program : Program} {left : List Site}

lemma taken_sublist (h : Divides program.queue visits left) :
    (visits.map (·.site)).Sublist program.sites := by
  rw [program.sites_eq]
  exact (List.sublist_append_left _ _).trans h.inOrder

lemma not_taken_iff (h : Divides program.queue visits []) {site : Site}
    (hs : site ∈ program.sites) :
    site ∉ visits.map (·.site) ↔ ∃ visit ∈ visits, site ∈ visit.skipped := by
  have hp : program.sites.Perm (visits.map (·.site) ++ visits.flatMap Visit.skipped) := by
    rw [program.sites_eq, ← Multiset.coe_eq_coe, h.accounts]
    simp
  have hd := List.nodup_append.mp (hp.nodup_iff.mp program.nodup_sites)
  rw [← List.mem_flatMap]
  constructor
  · intro hn
    exact (List.mem_append.mp (hp.mem_iff.mp hs)).resolve_left hn
  · intro hk ht
    exact hd.2.2 site ht site hk rfl

end Divides

/-- A run takes the statements of its program in their order, none of them twice, and every turn of
the loop brings it closer to the end of the queue. The commands that a completed run has not
performed are those below a condition that was tested and did not hold. -/
theorem Program.statements_taken_once (program : Program) (pace : Pace α) (scene : Scene α)
    (cancelled : Bool) (schedule : List Bool) :
    let trial : Trial α := ⟨program.start pace, scene, cancelled⟩
    let frames := trial.frames schedule
    let journal := frames.flatMap (·.journal)
    let visits := (trial.visits program.queue schedule).1
    let taken := visits.map (·.site)
    let performed := taken.filter Site.isCommand
    journal = visits.map Visit.entry ∧
    taken.Sublist program.sites ∧ taken.Nodup ∧
    program.sites.map (·.place) = List.range (Statement.sizes program.body) ∧
    journal.filterMap Entry.command? = performed.filterMap Site.command? ∧
    performed.Sublist program.commandSites ∧
    (journal.filterMap Entry.command?).length ≤ program.commandCount ∧
    journal.length ≤ Statement.sizes program.body ∧
    (WellFounded fun after before : List Site × Scene α => Pops pace before after) ∧
    (frames.getLast?.map (·.step) = some (.done .completed) →
      ∀ site ∈ program.commandSites,
        site ∉ performed ↔ ∃ visit ∈ visits, visit.isRefused ∧ site ∈ visit.skipped) := by
  intro trial frames journal visits taken performed
  have hq : trial.run.Tracks program.queue :=
    ⟨fun _ => (Statement.placed_statements 0 program.body).symm, nofun⟩
  obtain ⟨(hj : journal = visits.map Visit.entry), hd, ht⟩ := Trial.visits_spec hq schedule
  have hs : taken.Sublist program.sites := hd.taken_sublist
  have hp : performed.Sublist program.commandSites := hs.filter _
  have hc : journal.filterMap Entry.command? = performed.filterMap Site.command? := by
    rw [Site.filterMap_command, hj, List.filterMap_map]
    refine Eq.trans ?_ List.filterMap_map.symm
    exact List.filterMap_congr fun visit _ => visit.entry_command
  refine ⟨hj, hs, hs.nodup program.nodup_sites, program.places, hc, hp, ?_, ?_,
    pops_wellFounded pace, fun hl site hm => ?_⟩
  · rw [hc, ← program.length_commandSites]
    exact (List.length_filterMap_le ..).trans hp.length_le
  · rw [hj, List.length_map, ← program.length_sites, ← List.length_map (·.site)]
    exact hs.length_le
  · obtain ⟨hm, hk⟩ := List.mem_filter.mp hm
    have hn : (trial.visits program.queue schedule).2 = [] :=
      ht.completed (Trial.ended_of_getLast trial schedule hl)
    rw [hn] at hd
    have ho : site ∉ performed ↔ site ∉ taken := by
      rw [List.mem_filter, and_iff_left hk]
    rw [ho, hd.not_taken_iff hm]
    exact exists_congr fun visit => and_congr_right fun _ =>
      ⟨fun h => ⟨Visit.isRefused_of_mem h, h⟩, And.right⟩

theorem Program.statements_taken_once_refused :
    let program : Program :=
      ⟨[.when (.literal false) "false" (.command .turnLeft), .command .collect]⟩
    let trial : Trial Rat :=
      ⟨program.start .standard, (Puzzle.level2Phase1.scene : Scene Rat), false⟩
    (trial.frames [false]).getLast?.map (·.step) = some (.done .completed) ∧
      ∃ visit ∈ (trial.visits program.queue [false]).1,
        visit.isRefused ∧ ⟨1, .command .turnLeft⟩ ∈ visit.skipped := by
  intro program trial
  have hl : (trial.frames [false]).getLast?.map (·.step) = some (.done .completed) := by
    simp [trial, program, Trial.frames, Trial.next, Trial.tick, Run.tick, Program.start, proceed,
      Scene.evaluate, Actor.deed, Frame.stopped]
  have hv : (trial.visits program.queue [false]).1.map (·.site) =
      [⟨0, .when (.literal false) "false" (.command .turnLeft)⟩, ⟨2, .command .collect⟩] := by
    simp [trial, program, Trial.visits, Run.resumes?, Program.start, Program.queue,
      Statement.placed, Statement.size, popAll, Visit.onward?, Visit.opened, Visit.isRefused,
      Site.inner, Scene.evaluate, Actor.deed]
  have hm : ⟨1, .command .turnLeft⟩ ∈ program.commandSites := List.mem_cons_self
  obtain ⟨-, -, -, -, -, -, -, -, -, hc⟩ :=
    statements_taken_once program .standard (Puzzle.level2Phase1.scene : Scene Rat) false [false]
  refine ⟨hl, (hc hl _ hm).mp ?_⟩
  rw [hv]
  simp [Site.isCommand, Statement.isCommand]

end RobotPuzzle
