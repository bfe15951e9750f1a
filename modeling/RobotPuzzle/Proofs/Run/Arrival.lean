import RobotPuzzle.Proofs.Run.Duration
import RobotPuzzle.Proofs.Run.Peril
import RobotPuzzle.Proofs.Terrain.Milestones

namespace RobotPuzzle

lemma Event.consoleLines_append {α : Type} (events more : List (Event α)) :
    consoleLines (events ++ more) = consoleLines events ++ consoleLines more :=
  List.filterMap_append

lemma Command.executes_iff {α : Type} [Scalar α] {c : Command} {scene : Scene α} {pace : Pace α}
    {motion : Motion α} {outcome : Outcome α} (hd : scene.actor.deed pace c = .motion motion) :
    (Statement.command c).Executes pace scene outcome ↔ motion.Executes pace scene outcome := by
  refine ⟨fun he => ?_, .motion hd⟩
  cases he with
  | action ha => exact nomatch hd.symm.trans ha
  | motion hm he =>
    obtain rfl := Deed.motion.inj (hd.symm.trans hm)
    exact he

namespace Pace

lemma isBrisk_standard : (standard : Pace Rat).IsBrisk := by
  constructor <;> decide +kernel

lemma IsBrisk.isFair {pace : Pace Rat} (h : pace.IsBrisk) : pace.IsFair :=
  ⟨h.share_nonneg, h.share_le_one, h.gain_pos.le⟩

variable (pace : Pace Rat)

def shareAt : Nat → Rat
  | 0 => pace.share
  | frame + 1 => Scalar.capOne (shareAt frame + pace.gain)

def left : Nat → Rat
  | 0 => 1
  | frame + 1 => left frame * (1 - pace.shareAt frame)

variable {pace}

lemma IsFair.shareAt_mem (h : pace.IsFair) (frame : Nat) :
    0 ≤ pace.shareAt frame ∧ pace.shareAt frame ≤ 1 := by
  induction frame with
  | zero => exact ⟨h.share_nonneg, h.share_le_one⟩
  | succ frame ih => exact Rational.capOne_mem (add_nonneg ih.1 h.gain_nonneg)

lemma IsFair.left_nonneg (h : pace.IsFair) (frame : Nat) : 0 ≤ pace.left frame := by
  induction frame with
  | zero => exact zero_le_one
  | succ frame ih => exact mul_nonneg ih (sub_nonneg.mpr (h.shareAt_mem frame).2)

lemma IsFair.left_antitone (h : pace.IsFair) : Antitone pace.left :=
  antitone_nat_of_succ_le fun frame =>
    mul_le_of_le_one_right (h.left_nonneg frame) (sub_le_self _ (h.shareAt_mem frame).1)

end Pace

namespace Terrain.Course

variable {terrain : Terrain} (course : terrain.Course) {pace : Pace Rat}

def way (pace : Pace Rat) (frame : Nat) : Rat := 2 * course.free * (1 - pace.left frame)

lemma way_zero (pace : Pace Rat) : course.way pace 0 = 0 := by
  simp [way, Pace.left]

lemma way_succ (frame : Nat) : course.way pace (frame + 1) =
    course.way pace frame + (2 * course.free - course.way pace frame) * pace.shareAt frame := by
  simp only [way, Pace.left]
  ring

lemma way_mono (h : pace.IsFair) {frame later : Nat} (hl : frame ≤ later) :
    course.way pace frame ≤ course.way pace later :=
  mul_le_mul_of_nonneg_left (sub_le_sub_left (h.left_antitone hl) 1) (by positivity)

lemma way_nonneg (h : pace.IsFair) (frame : Nat) : 0 ≤ course.way pace frame := by
  rw [← course.way_zero pace]
  exact course.way_mono h (Nat.zero_le frame)

lemma way_le (h : pace.IsFair) (frame : Nat) : course.way pace frame ≤ 2 * course.free :=
  mul_le_of_le_one_right (by positivity) (sub_le_self _ (h.left_nonneg frame))

def passedAt (pace : Pace Rat) (frame : Nat) : Nat := course.passed (course.way pace frame)

lemma passedAt_mono (h : pace.IsFair) {frame later : Nat} (hl : frame ≤ later) :
    course.passedAt pace frame ≤ course.passedAt pace later :=
  passed_mono (course.way_nonneg h frame) (course.way_mono h hl) (course.way_le h later)

lemma passedAt_le (h : pace.IsFair) (frame : Nat) : course.passedAt pace frame ≤ course.free :=
  passed_le (course.way_nonneg h frame) (course.way_le h frame)

def cellOn (pace : Pace Rat) (frame : Nat) : Cell :=
  course.start.along course.heading (course.passedAt pace frame)

lemma cellAt_way (h : pace.IsFair) (frame : Nat) :
    terrain.cellAt (course.spot (course.way pace frame)) = course.cellOn pace frame :=
  cellAt_spot (course.way_nonneg h frame) (course.way_le h frame)

def alarms (pace : Pace Rat) (frame : Nat) : Bool :=
  (terrain.resolve (course.spot (course.way pace frame)) course.requested).isClamped

variable {course}

lemma IsClear.alarms_eq (hc : course.IsClear) (h : pace.IsFair) (frame : Nat) :
    course.alarms pace frame = false := by
  rw [alarms, hc.resolve_eq (course.way_nonneg h frame) (course.way_le h frame)]
  rfl

lemma IsBlocked.alarms_iff {blocker : Blocker} (hb : course.IsBlocked blocker) (h : pace.IsFair)
    {frame : Nat} :
    course.alarms pace frame = true ↔ course.passedAt pace frame = course.free := by
  rw [← course.start.along_inj course.heading]
  show _ ↔ course.cellOn pace frame = course.last
  rw [alarms, hb.resolve_eq (course.way_nonneg h frame) (course.way_le h frame),
    ← cellAt_way course h]
  split_ifs with he
  · exact iff_of_true rfl he
  · exact iff_of_false Bool.false_ne_true he

lemma passedAt_of_alarms (h : pace.IsFair) {frame : Nat} (ha : course.alarms pace frame = true) :
    course.passedAt pace frame = course.free := by
  obtain hc | ⟨blocker, hb⟩ := course.isClear_or_isBlocked
  · exact nomatch (hc.alarms_eq h frame).symm.trans ha
  · exact (hb.alarms_iff h).mp ha

lemma alarms_of_le (h : pace.IsFair) {frame later : Nat} (hl : frame ≤ later)
    (ha : course.alarms pace frame = true) : course.alarms pace later = true := by
  obtain hc | ⟨blocker, hb⟩ := course.isClear_or_isBlocked
  · exact nomatch (hc.alarms_eq h frame).symm.trans ha
  · rw [hb.alarms_iff h] at ha ⊢
    exact le_antisymm (course.passedAt_le h later) (ha ▸ course.passedAt_mono h hl)

lemma passedAt_of_isNear (h : pace.IsFair) (hp : pace.precision ≤ 1 / 2) {frame : Nat}
    (hn : (course.spot (course.way pace frame)).isNear course.target pace.precision = true) :
    course.passedAt pace frame = course.free := by
  have hl := course.way_nonneg h frame
  have hu := course.way_le h frame
  refine passed_of_near hl hu ?_
  generalize course.way pace frame = t at hn hu
  simp only [Position.isNear, Bool.and_eq_true, decide_eq_true_eq, Rational.abs_eq, abs_lt, spot,
    target, Position.along] at hn
  obtain ⟨⟨hxl, hxu⟩, hzl, hzu⟩ := hn
  cases hd : course.heading <;>
    simp only [hd, Heading.step] at hxl hxu hzl hzu <;>
    push_cast at hxl hxu hzl hzu <;>
    linarith

end Terrain.Course

namespace Scene

def put (scene : Scene Rat) (position : Position Rat) : Scene Rat :=
  { scene with actor := { scene.actor with position } }

variable (scene : Scene Rat) (course : scene.terrain.Course) (pace : Pace Rat)

def onFrame (frame : Nat) : Scene Rat := scene.put (course.spot (course.way pace frame))

def alerts (clamped warned : Bool) : List (Event Rat) :=
  if clamped && !warned then [.warn blockedWarning] else []

variable {pace} in
lemma frame_cases (h : pace.IsFair) (hp : pace.precision ≤ 1 / 2) (frame : Nat) (warned : Bool) :
    let step := (Motion.travel course.requested (pace.shareAt frame) warned).step pace
      (scene.onFrame course pace frame)
    let told := alerts (course.alarms pace frame) warned
    (∃ peril, scene.terrain.peril? (course.cellOn pace frame) = some peril ∧
      step = (peril.progress, scene.onFrame course pace frame, [.say peril.message])) ∨
    (scene.terrain.peril? (course.cellOn pace frame) = none ∧
      ((course.passedAt pace frame = course.free ∧
        step = (.settled, scene.put course.target,
          told ++ [(scene.put course.target).actor.pose])) ∨
       step = (.moving (.travel course.requested (pace.shareAt (frame + 1))
          (warned || course.alarms pace frame)), scene.onFrame course pace (frame + 1),
          told ++ [(scene.onFrame course pace (frame + 1)).actor.pose]))) := by
  intro step told
  have hcell : (scene.onFrame course pace frame).cell = course.cellOn pace frame :=
    course.cellAt_way h frame
  cases hperil : scene.terrain.peril? (course.cellOn pace frame) with
  | some peril =>
    exact Or.inl ⟨peril, rfl, travel_of_peril (hcell ▸ hperil)⟩
  | none =>
    refine Or.inr ⟨rfl, ?_⟩
    have hs : step = _ := travel_of_none (hcell ▸ hperil)
    rw [hs]
    have hr := Terrain.Course.position_resolve (course.way_nonneg h frame) (course.way_le h frame)
    rw [onFrame, put, advance]
    dsimp only
    rw [hr]
    by_cases hn : (course.spot (course.way pace frame)).isNear course.target pace.precision = true
    · exact Or.inl ⟨Terrain.Course.passedAt_of_isNear h hp hn, if_pos hn⟩
    · have hw : (course.spot (course.way pace frame)).lerp course.target (pace.shareAt frame) =
          course.spot (course.way pace (frame + 1)) := by
        rw [course.way_succ]
        exact Position.lerp_along _ _ _ _ _
      rw [hw]
      exact Or.inr (if_neg hn)

variable {scene course pace}

structure Halts (scene : Scene Rat) (course : scene.terrain.Course) (pace : Pace Rat) (first : Nat)
    (outcome : Outcome Rat) (frame : Nat) (peril : Peril) : Prop where
  first_le : first ≤ frame
  calm : ∀ earlier, first ≤ earlier → earlier < frame →
    scene.terrain.peril? (course.cellOn pace earlier) = none
  peril_eq : scene.terrain.peril? (course.cellOn pace frame) = some peril
  scene_eq : outcome.scene = scene.onFrame course pace frame
  ending_eq : outcome.ending = peril.ending
  lines_eq : Event.consoleLines outcome.events = [.info peril.message]
  pose : ∀ position yaw, .pose position yaw ∈ outcome.events →
    ∃ earlier ≤ frame, position = course.spot (course.way pace earlier)

structure Arrives (scene : Scene Rat) (course : scene.terrain.Course) (pace : Pace Rat)
    (first : Nat) (warned : Bool) (outcome : Outcome Rat) (frame : Nat) : Prop where
  first_le : first ≤ frame
  calm : ∀ earlier, first ≤ earlier → earlier ≤ frame →
    scene.terrain.peril? (course.cellOn pace earlier) = none
  passed_eq : course.passedAt pace frame = course.free
  scene_eq : outcome.scene = scene.put course.target
  ending_eq : outcome.ending = .completed
  lines_eq : Event.consoleLines outcome.events =
    if course.alarms pace frame && !warned then [.warning blockedWarning] else []

lemma consoleLines_alerts (clamped warned : Bool) (actor : Actor Rat) :
    Event.consoleLines (alerts clamped warned ++ [actor.pose]) =
      if clamped && !warned then [.warning blockedWarning] else [] := by
  cases clamped <;> cases warned <;> rfl

lemma pose_alerts {clamped warned : Bool} {actor : Actor Rat} {position : Position Rat} {yaw : Rat}
    (h : .pose position yaw ∈ alerts clamped warned ++ [actor.pose]) :
    position = actor.position := by
  cases clamped <;> cases warned <;> simp_all [alerts, Event.warn, Actor.pose]

section Next

variable {first frame : Nat} {warned : Bool} {outcome : Outcome Rat}

lemma halts_now {peril : Peril}
    (hk : scene.terrain.peril? (course.cellOn pace first) = some peril) :
    scene.Halts course pace first
      ⟨scene.onFrame course pace first, [.say peril.message], 1, peril.ending⟩ first peril where
  first_le := le_rfl
  calm _ hl hu := absurd hl hu.not_ge
  peril_eq := hk
  scene_eq := rfl
  ending_eq := rfl
  lines_eq := rfl
  pose _ _ hm := nomatch List.mem_singleton.mp hm

lemma arrives_now (hn : scene.terrain.peril? (course.cellOn pace first) = none)
    (hf : course.passedAt pace first = course.free) :
    scene.Arrives course pace first warned ⟨scene.put course.target,
      alerts (course.alarms pace first) warned ++ [(scene.put course.target).actor.pose], 1,
      .completed⟩ first where
  first_le := le_rfl
  calm earlier hl hu := by rwa [le_antisymm hu hl]
  passed_eq := hf
  scene_eq := rfl
  ending_eq := rfl
  lines_eq := consoleLines_alerts _ _ _

lemma Halts.of_next {peril : Peril} (h : pace.IsFair)
    (hn : scene.terrain.peril? (course.cellOn pace first) = none)
    (ho : scene.Halts course pace (first + 1) outcome frame peril) :
    scene.Halts course pace first (outcome.after (alerts (course.alarms pace first) warned ++
      [(scene.onFrame course pace (first + 1)).actor.pose]) 1) frame peril where
  first_le := (Nat.le_succ first).trans ho.first_le
  calm earlier hl hu := by
    obtain rfl | hl := hl.eq_or_lt
    · exact hn
    · exact ho.calm earlier hl hu
  peril_eq := ho.peril_eq
  scene_eq := ho.scene_eq
  ending_eq := ho.ending_eq
  lines_eq := by
    have ha : course.alarms pace first = false := by
      rw [← Bool.not_eq_true]
      intro ha
      have hl := Terrain.Course.alarms_of_le h ((Nat.le_succ first).trans ho.first_le) ha
      have he : course.cellOn pace frame = course.cellOn pace first := by
        rw [Terrain.Course.cellOn, Terrain.Course.passedAt_of_alarms h hl, Terrain.Course.cellOn,
          Terrain.Course.passedAt_of_alarms h ha]
      rw [← he] at hn
      exact nomatch hn.symm.trans ho.peril_eq
    rw [Outcome.after, Event.consoleLines_append, consoleLines_alerts, ha]
    exact ho.lines_eq
  pose position yaw hm := by
    obtain hm | hm := List.mem_append.mp hm
    · exact ⟨first + 1, ho.first_le, pose_alerts hm⟩
    · exact ho.pose position yaw hm

lemma Arrives.of_next (h : pace.IsFair)
    (hn : scene.terrain.peril? (course.cellOn pace first) = none)
    (ho : scene.Arrives course pace (first + 1) (warned || course.alarms pace first) outcome
      frame) :
    scene.Arrives course pace first warned
      (outcome.after (alerts (course.alarms pace first) warned ++
        [(scene.onFrame course pace (first + 1)).actor.pose]) 1) frame where
  first_le := (Nat.le_succ first).trans ho.first_le
  calm earlier hl hu := by
    obtain rfl | hl := hl.eq_or_lt
    · exact hn
    · exact ho.calm earlier hl hu
  passed_eq := ho.passed_eq
  scene_eq := ho.scene_eq
  ending_eq := ho.ending_eq
  lines_eq := by
    have hl : course.alarms pace first = true → course.alarms pace frame = true :=
      Terrain.Course.alarms_of_le h ((Nat.le_succ first).trans ho.first_le)
    rw [Outcome.after, Event.consoleLines_append, consoleLines_alerts, ho.lines_eq]
    cases ha : course.alarms pace first with
    | true =>
      rw [hl ha]
      cases warned <;> rfl
    | false => cases warned <;> rfl

end Next

lemma ends (h : pace.IsFair) (hp : pace.precision ≤ 1 / 2) {first : Nat} {warned : Bool}
    {outcome : Outcome Rat}
    (he : (Motion.travel course.requested (pace.shareAt first) warned).Executes pace
      (scene.onFrame course pace first) outcome) :
    (∃ frame peril, scene.Halts course pace first outcome frame peril) ∨
      ∃ frame, scene.Arrives course pace first warned outcome frame := by
  generalize hm : Motion.travel course.requested (pace.shareAt first) warned = motion at he
  generalize hs : scene.onFrame course pace first = before at he
  induction he generalizing first warned with
  | settled he =>
    subst hm hs
    obtain ⟨peril, hk, hr⟩ | ⟨hk, ⟨hf, hr⟩ | hr⟩ :=
      frame_cases scene course h hp first warned
    · obtain ⟨hprogress, hrest⟩ := Prod.mk.inj (he.symm.trans hr)
      obtain ⟨rfl, rfl⟩ := Prod.mk.inj hrest
      cases peril with
      | trap => exact nomatch hprogress
      | hazard kind => exact Or.inl ⟨first, .hazard kind, halts_now hk⟩
    · obtain ⟨rfl, rfl⟩ := Prod.mk.inj (Prod.mk.inj (he.symm.trans hr)).2
      exact Or.inr ⟨first, arrives_now hk hf⟩
    · exact nomatch (Prod.mk.inj (he.symm.trans hr)).1
  | trapped he =>
    subst hm hs
    obtain ⟨peril, hk, hr⟩ | ⟨hk, ⟨hf, hr⟩ | hr⟩ :=
      frame_cases scene course h hp first warned
    · obtain ⟨hprogress, hrest⟩ := Prod.mk.inj (he.symm.trans hr)
      obtain ⟨rfl, rfl⟩ := Prod.mk.inj hrest
      cases peril with
      | trap => exact Or.inl ⟨first, .trap, halts_now hk⟩
      | hazard kind => exact nomatch hprogress
    · exact nomatch (Prod.mk.inj (he.symm.trans hr)).1
    · exact nomatch (Prod.mk.inj (he.symm.trans hr)).1
  | moving he ho ih =>
    subst hm hs
    obtain ⟨peril, hk, hr⟩ | ⟨hk, ⟨hf, hr⟩ | hr⟩ :=
      frame_cases scene course h hp first warned
    · obtain ⟨hprogress, -⟩ := Prod.mk.inj (he.symm.trans hr)
      cases peril <;> exact nomatch hprogress
    · exact nomatch (Prod.mk.inj (he.symm.trans hr)).1
    · obtain ⟨hprogress, hrest⟩ := Prod.mk.inj (he.symm.trans hr)
      obtain rfl := Progress.moving.inj hprogress
      obtain ⟨rfl, rfl⟩ := Prod.mk.inj hrest
      obtain ⟨frame, peril, hh⟩ | ⟨frame, ha⟩ := ih rfl rfl
      · exact Or.inl ⟨frame, peril, hh.of_next h hk⟩
      · exact Or.inr ⟨frame, ha.of_next h hk⟩

lemma ends_of_deed (h : pace.IsFair) (hp : pace.precision ≤ 1 / 2) {c : Command}
    {outcome : Outcome Rat} (hs : scene.onFrame course pace 0 = scene)
    (hd : scene.actor.deed pace c = .motion (.travel course.requested pace.share false))
    (he : (Statement.command c).Executes pace scene outcome) :
    (∃ frame peril, scene.Halts course pace 0 outcome frame peril) ∨
      ∃ frame, scene.Arrives course pace 0 false outcome frame := by
  refine ends h hp ?_
  rw [hs]
  exact (Command.executes_iff hd).mp he

lemma Arrives.cell_eq {first frame : Nat} {warned : Bool} {outcome : Outcome Rat}
    (ha : scene.Arrives course pace first warned outcome frame) :
    outcome.scene.cell = course.last := by
  rw [ha.scene_eq, put, cell, course.target_eq]
  exact Terrain.cellAt_center course.isOpen_last.1

lemma Arrives.isCalm {first frame : Nat} {warned : Bool} {outcome : Outcome Rat}
    (ha : scene.Arrives course pace first warned outcome frame) :
    outcome.scene.isTrapped = false ∧ ∀ kind, outcome.scene.isOn kind = false := by
  have hn := ha.calm frame ha.first_le le_rfl
  rw [Terrain.Course.cellOn, ha.passed_eq] at hn
  have hp : outcome.scene.terrain.peril? outcome.scene.cell = none := by
    rw [ha.cell_eq, ha.scene_eq]
    exact hn
  exact Terrain.peril_eq_none_iff.mp hp

lemma onFrame_zero (hp : scene.actor.position = scene.terrain.center course.start) :
    scene.onFrame course pace 0 = scene := by
  rw [onFrame, course.way_zero, course.spot_zero, ← hp]
  rfl

lemma exists_course_of_deed {c : Command} {cell : Cell} {requested : Position Rat} {share : Rat}
    {warned : Bool} (ho : scene.terrain.IsOpen cell)
    (hp : scene.actor.position = scene.terrain.center cell)
    (hd : scene.actor.deed pace c = .motion (.travel requested share warned)) :
    share = pace.share ∧ warned = false ∧ ∃ course : scene.terrain.Course,
      course.start = cell ∧ course.requested = requested ∧ scene.onFrame course pace 0 = scene := by
  have hc : ∀ heading count,
      Motion.travel (scene.actor.position.along heading (2 * (count : Nat))) pace.share false =
        .travel requested share warned →
      share = pace.share ∧ warned = false ∧ ∃ course : scene.terrain.Course,
        course.start = cell ∧ course.requested = requested ∧
          scene.onFrame course pace 0 = scene := by
    intro heading count hm
    obtain ⟨rfl, rfl, rfl⟩ := Motion.travel.inj hm
    obtain ⟨course, rfl, rfl, rfl⟩ := Terrain.exists_course ho heading count
    refine ⟨rfl, rfl, course, rfl, ?_, onFrame_zero hp⟩
    rw [hp]
    rfl
  cases c with
  | forward count => exact hc _ _ ((Actor.travel_forward ..).symm.trans (Deed.motion.inj hd))
  | backward count => exact hc _ _ ((Actor.travel_backward ..).symm.trans (Deed.motion.inj hd))
  | _ => exact nomatch hd

end Scene

/-- A move that the robot starts on the center of an open cell tells at most once that the way is
blocked. One that tells nothing ends where it was to go, and one that tells of no peril, but that
the way is blocked, ends on the last open cell of the walk there. -/
theorem Command.no_silent_shortfall {scene : Scene Rat} {pace : Pace Rat} {c : Command}
    {cell : Cell} {requested : Position Rat} {outcome : Outcome Rat}
    (ho : scene.terrain.IsOpen cell) (hc : scene.actor.position = scene.terrain.center cell)
    (hl : 0 ≤ pace.share) (hu : pace.share ≤ 1) (hg : 0 ≤ pace.gain)
    (hp : pace.precision ≤ 1 / 2)
    (hd : scene.actor.deed pace c = .motion (.travel requested pace.share false))
    (he : (Statement.command c).Executes pace scene outcome) :
    let lines := Event.consoleLines outcome.events
    let goal := scene.terrain.cellAt requested
    let calm := outcome.scene.isTrapped = false ∧ ∀ kind, outcome.scene.isOn kind = false
    lines.count (.warning blockedWarning) ≤ 1 ∧
    (lines = [] → outcome.scene.actor.position = requested ∧ calm) ∧
    (.warning blockedWarning ∈ lines → (∀ line ∈ lines, Peril.isTold line = false) →
      (∃ steps blocker, scene.terrain.StopsAfter cell goal steps blocker ∧
        outcome.scene.actor.position = scene.terrain.center (cell.walk goal steps)) ∧ calm) := by
  intro lines goal calm
  have hf : pace.IsFair := ⟨hl, hu, hg⟩
  obtain ⟨-, -, course, rfl, rfl, hs⟩ := Scene.exists_course_of_deed ho hc hd
  obtain ⟨frame, peril, hh⟩ | ⟨frame, ha⟩ := Scene.ends_of_deed hf hp hs hd he
  · have hlines : lines = [.info peril.message] := hh.lines_eq
    have hne : ConsoleLine.warning blockedWarning ∉ [ConsoleLine.info peril.message] :=
      fun hw => nomatch congrArg ConsoleLine.severity (List.mem_singleton.mp hw)
    rw [hlines]
    refine ⟨?_, (fun hn => nomatch hn), fun hw => absurd hw hne⟩
    rw [List.count_eq_zero_of_not_mem hne]
    exact Nat.zero_le 1
  · have hlines : lines = if course.alarms pace frame && !false then _ else _ := ha.lines_eq
    have hposition : outcome.scene.actor.position = course.target :=
      congrArg (·.actor.position) ha.scene_eq
    rw [hlines, hposition]
    obtain hclear | ⟨blocker, hb⟩ := course.isClear_or_isBlocked
    · rw [hclear.alarms_eq hf]
      exact ⟨Nat.zero_le 1, fun _ => ⟨hclear.target_eq, ha.isCalm⟩, fun hw => nomatch hw⟩
    · rw [(hb.alarms_iff hf).mpr ha.passed_eq]
      obtain ⟨steps, hs, hw⟩ := hb.stopsAfter
      refine ⟨List.count_le_length, (fun hn => nomatch hn),
        fun _ _ => ⟨⟨steps, blocker, hs, ?_⟩, ha.isCalm⟩⟩
      rw [course.target_eq, ← hw]
      rfl

theorem Command.no_silent_shortfall_obstacle :
    let scene : Scene Rat := Puzzle.level1Phase5.scene
    let pace : Pace Rat := .standard
    let requested := scene.actor.position.along .east (2 * (8 : UInt32).toNat)
    let goal := scene.terrain.cellAt requested
    scene.terrain.IsOpen ⟨0, 2⟩ ∧ scene.actor.position = scene.terrain.center ⟨0, 2⟩ ∧
      0 ≤ pace.share ∧ pace.share ≤ 1 ∧ 0 ≤ pace.gain ∧ pace.precision ≤ 1 / 2 ∧
      scene.actor.deed pace (.forward 8) = .motion (.travel requested pace.share false) ∧
      ∃ outcome, (Statement.command (.forward 8)).Executes pace scene outcome ∧
        Event.consoleLines outcome.events = [.warning blockedWarning] ∧
        (∃ steps blocker, scene.terrain.StopsAfter ⟨0, 2⟩ goal steps blocker ∧
          outcome.scene.actor.position =
            scene.terrain.center ((⟨0, 2⟩ : Cell).walk goal steps)) ∧
        outcome.scene.isTrapped = false ∧ ∀ kind, outcome.scene.isOn kind = false := by
  intro scene pace requested goal
  have hb := Pace.isBrisk_standard
  have ho : scene.terrain.IsOpen ⟨0, 2⟩ := by decide
  have hp : pace.precision ≤ 1 / 2 := by decide +kernel
  have hd : scene.actor.deed pace (.forward 8) = .motion (.travel requested pace.share false) :=
    congrArg Deed.motion (Actor.travel_forward ..)
  let course : scene.terrain.Course :=
    ⟨⟨0, 2⟩, .east, 8, 4, by decide, by decide, fun _ => by decide⟩
  have hcalm : ∀ steps ≤ 4, scene.terrain.peril? ((⟨0, 2⟩ : Cell).along .east steps) = none := by
    decide +kernel
  obtain ⟨outcome, he, -⟩ :=
    Statement.exists_isWithin hb (.command (.forward 8)) (.centered ho rfl)
  have hlines : Event.consoleLines outcome.events = [.warning blockedWarning] := by
    have hs : scene.onFrame course pace 0 = scene := Scene.onFrame_zero rfl
    obtain ⟨frame, peril, hh⟩ | ⟨frame, ha⟩ := Scene.ends_of_deed hb.isFair hp hs hd he
    · have hn := hcalm _ (course.passedAt_le hb.isFair frame)
      exact nomatch hn.symm.trans hh.peril_eq
    · obtain hclear | ⟨blocker, hblocked⟩ := course.isClear_or_isBlocked
      · exact absurd hclear.obstruction_eq (by decide +kernel)
      · rw [ha.lines_eq, (hblocked.alarms_iff hb.isFair).mpr ha.passed_eq]
        rfl
  obtain ⟨-, -, hwarned⟩ := no_silent_shortfall ho rfl hb.share_nonneg
    hb.share_le_one hb.gain_pos.le hp hd he
  rw [hlines] at hwarned
  exact ⟨ho, rfl, hb.share_nonneg, hb.share_le_one, hb.gain_pos.le, hp, hd, outcome, he, hlines,
    hwarned List.mem_cons_self (by decide)⟩

end RobotPuzzle
