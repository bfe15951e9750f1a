import RobotPuzzle.Proofs.Run.Arrival

/-! At the standard pace no frame of a move takes the robot past a whole cell, as long as the way is
not longer than fifty cells; so it gets no farther than to the first peril on its way. -/

namespace RobotPuzzle

lemma Heading.reaches_of_bounds {heading : Heading} {t u : Rat} {count steps : Nat}
    (hl : 2 * steps - 15 / 2 ≤ t) (hu : u ≤ 2 * steps - 9 / 2)
    (hr : heading.Reaches u (count + 1)) : heading.Reaches t count := by
  -- Between the bounds a robot that goes east or south comes to the cell of number `steps - 2`
  -- and to no other, and one that goes west or north to the cell before that.
  have hlater : count + 3 ≤ steps → 2 * count - 3 / 2 ≤ t := by
    intro h
    have h : (count + 3 : Rat) ≤ steps := by exact_mod_cast h
    linarith
  have hearly : count + 4 ≤ steps → 2 * count - 1 / 2 < t := by
    intro h
    have h : (count + 4 : Rat) ≤ steps := by exact_mod_cast h
    linarith
  cases heading <;>
    simp only [Reaches] at hr ⊢ <;>
    push_cast at hr
  case east | south =>
    have h : (2 * count + 5 : Rat) ≤ 2 * steps := by linarith
    have h : 2 * count + 5 ≤ 2 * steps := by exact_mod_cast h
    exact hlater (by omega)
  case west | north =>
    have h : (2 * count + 6 : Rat) < 2 * steps := by linarith
    have h : 2 * count + 6 < 2 * steps := by exact_mod_cast h
    exact hearly (by omega)

namespace Pace

variable {pace : Pace Rat} {frame : Nat}

def stride (pace : Pace Rat) (frame : Nat) : Rat := pace.shareAt frame * pace.left frame

lemma IsFair.shareAt_mono (h : pace.IsFair) : Monotone pace.shareAt :=
  monotone_nat_of_le_succ fun frame => by
    rw [shareAt, Rational.capOne_eq]
    exact le_min (le_add_of_nonneg_right h.gain_nonneg) (h.shareAt_mem frame).2

lemma IsFair.stride_succ_le (h : pace.IsFair)
    (hg : pace.gain ≤ pace.shareAt frame * pace.shareAt frame) :
    pace.stride (frame + 1) ≤ pace.stride frame := by
  obtain ⟨hl, hu⟩ := h.shareAt_mem frame
  have hn := mul_nonneg h.gain_nonneg hl
  have hs : pace.shareAt (frame + 1) * (1 - pace.shareAt frame) ≤ pace.shareAt frame := calc
    _ ≤ (pace.shareAt frame + pace.gain) * (1 - pace.shareAt frame) := by
      rw [shareAt, Rational.capOne_eq]
      exact mul_le_mul_of_nonneg_right (min_le_left _ _) (sub_nonneg.mpr hu)
    _ ≤ pace.shareAt frame := by linarith
  have hm := mul_le_mul_of_nonneg_right hs (h.left_nonneg frame)
  rw [stride, left, stride]
  linarith

lemma stride_standard_le (frame : Nat) : (standard : Pace Rat).stride frame ≤ 1 / 49 ∧
    ((18 ≤ frame ∧ frame ≤ 25) ∨ (standard : Pace Rat).stride frame ≤ 1 / 50) := by
  have hf := isBrisk_standard.isFair
  have hg : (standard : Pace Rat).gain = 1 / 1000 := by decide +kernel
  have hearly : ∀ frame < 26, (standard : Pace Rat).stride frame ≤ 1 / 49 ∧
      ((18 ≤ frame ∧ frame ≤ 25) ∨ (standard : Pace Rat).stride frame ≤ 1 / 50) := by
    decide +kernel
  have hlate : ∀ more, (standard : Pace Rat).stride (26 + more) ≤ 1 / 50 := by
    intro more
    induction more with
    | zero => decide +kernel
    | succ more ih =>
      have hs : 36 / 1000 ≤ (standard : Pace Rat).shareAt (26 + more) :=
        (by decide +kernel : (36 / 1000 : Rat) ≤ (standard : Pace Rat).shareAt 26).trans
          (hf.shareAt_mono (Nat.le_add_right 26 more))
      have hn : (standard : Pace Rat).gain ≤ (standard : Pace Rat).shareAt (26 + more) *
          (standard : Pace Rat).shareAt (26 + more) := by
        rw [hg]
        nlinarith
      exact (hf.stride_succ_le hn).trans ih
  obtain hl | hl := Nat.lt_or_ge frame 26
  · exact hearly frame hl
  · obtain ⟨more, rfl⟩ := Nat.exists_eq_add_of_le hl
    exact ⟨(hlate more).trans (by norm_num), Or.inr (hlate more)⟩

lemma left_standard_bounds {frame : Nat} (hl : 18 ≤ frame) (hu : frame ≤ 25) :
    2 * frame - 15 / 2 ≤ 100 * (1 - (standard : Pace Rat).left frame) ∧
      100 * (1 - (standard : Pace Rat).left (frame + 1)) ≤ 2 * frame - 9 / 2 := by
  have hn : ∀ frame : Nat, frame < 26 → 18 ≤ frame →
      (2 * frame - 15 / 2 : Rat) ≤ 100 * (1 - (standard : Pace Rat).left frame) ∧
        100 * (1 - (standard : Pace Rat).left (frame + 1)) ≤ (2 * frame - 9 / 2 : Rat) := by
    decide +kernel
  exact hn frame (Nat.lt_succ_of_le hu) hl

end Pace

namespace Terrain.Course

variable {terrain : Terrain} {course : terrain.Course}

lemma way_succ_stride (pace : Pace Rat) (frame : Nat) :
    course.way pace (frame + 1) =
      course.way pace frame + 2 * (course.free * pace.stride frame) := by
  simp only [way, Pace.left, Pace.stride]
  ring

lemma reaches_way (h : course.free ≤ 50) {frame count : Nat}
    (hr : course.heading.Reaches (course.way .standard (frame + 1)) (count + 1)) :
    course.heading.Reaches (course.way .standard frame) count := by
  obtain ⟨hmost, hlong⟩ := Pace.stride_standard_le frame
  -- Up to two units are never more than from one cell to the next. Only the longest frames of the
  -- longest way cover more, and where they begin and end is known.
  have hshort : course.free * (Pace.standard : Pace Rat).stride frame ≤ 1 →
      course.heading.Reaches (course.way .standard frame) count := by
    intro hs
    refine Heading.reaches_of_le_add_two ?_ hr
    rw [way_succ_stride]
    linarith
  have hfree : (0 : Rat) ≤ course.free := by positivity
  obtain hf | hf := h.lt_or_eq
  · have hf : (course.free : Rat) ≤ 49 := by exact_mod_cast Nat.le_of_lt_succ hf
    exact hshort (by nlinarith)
  · obtain ⟨hl, hu⟩ | hs := hlong
    · obtain ⟨hbegin, hend⟩ := Pace.left_standard_bounds hl hu
      have hw : ∀ frame, course.way (.standard : Pace Rat) frame =
          100 * (1 - (Pace.standard : Pace Rat).left frame) := by
        intro frame
        rw [way, hf]
        norm_num
      rw [hw] at hr ⊢
      exact Heading.reaches_of_bounds hbegin hend hr
    · refine hshort ?_
      rw [hf]
      push_cast
      linarith

lemma passedAt_succ_le (h : course.free ≤ 50) (frame : Nat) :
    course.passedAt .standard (frame + 1) ≤ course.passedAt .standard frame + 1 := by
  have hn := course.way_nonneg Pace.isBrisk_standard.isFair
  have hm := course.way_le Pace.isBrisk_standard.isFair
  cases hp : course.passedAt .standard (frame + 1) with
  | zero => exact Nat.zero_le _
  | succ count =>
    have hr := (le_passed_iff (hn _) (hm _)).mp hp.ge
    exact Nat.succ_le_succ ((le_passed_iff (hn frame) (hm frame)).mpr (reaches_way h hr))

lemma passedAt_le_of_calm (h : course.free ≤ 50) {steps frame : Nat} {peril : Peril}
    (hk : terrain.peril? (course.start.along course.heading steps) = some peril)
    (hc : ∀ earlier < frame, terrain.peril? (course.cellOn .standard earlier) = none) :
    course.passedAt .standard frame ≤ steps := by
  induction frame with
  | zero =>
    rw [passedAt, way_zero, passed_zero]
    exact Nat.zero_le steps
  | succ frame ih =>
    have hl := ih fun earlier he => hc earlier (Nat.lt_succ_of_lt he)
    have hn : course.passedAt .standard frame ≠ steps := by
      rintro rfl
      exact nomatch (hc frame (Nat.lt_succ_self frame)).symm.trans hk
    exact (passedAt_succ_le h frame).trans (hl.lt_of_ne hn)

lemma passedAt_ne_of_west (hd : course.heading = .west) (h : course.free = 51) (frame : Nat) :
    course.passedAt .standard frame ≠ 21 := by
  have hf := Pace.isBrisk_standard.isFair
  have hr : ∀ frame count, count ≤ course.passedAt .standard frame ↔
      2 * count - 1 / 2 < 2 * 51 * (1 - (Pace.standard : Pace Rat).left frame) := by
    intro frame count
    rw [passedAt, le_passed_iff (course.way_nonneg hf frame) (course.way_le hf frame), hd, way, h]
    rfl
  have hbefore : course.passedAt .standard 24 < 21 := by
    rw [← not_le, hr]
    decide +kernel
  have hbehind : 22 ≤ course.passedAt .standard 25 := by
    rw [hr]
    decide +kernel
  obtain hl | hl := Nat.lt_or_ge frame 25
  · exact ((course.passedAt_mono hf (Nat.le_of_lt_succ hl)).trans_lt hbefore).ne
  · exact Nat.ne_of_gt (hbehind.trans (course.passedAt_mono hf hl))

end Terrain.Course

lemma Scene.halts_at_first_peril {scene : Scene Rat} {course : scene.terrain.Course} {c : Command}
    {steps : Nat} {peril : Peril} {outcome : Outcome Rat} (h : course.free ≤ 50)
    (hs : scene.onFrame course .standard 0 = scene)
    (hd : scene.actor.deed .standard c =
      .motion (.travel course.requested (Pace.standard : Pace Rat).share false))
    (hle : steps ≤ course.free)
    (hk : scene.terrain.peril? (course.start.along course.heading steps) = some peril)
    (hcalm : ∀ earlier < steps,
      scene.terrain.peril? (course.start.along course.heading earlier) = none)
    (he : (Statement.command c).Executes .standard scene outcome) :
    ∃ frame, scene.Halts course .standard 0 outcome frame peril ∧
      course.passedAt .standard frame = steps := by
  have hp : (Pace.standard : Pace Rat).precision ≤ 1 / 2 := by decide +kernel
  obtain ⟨frame, reached, hh⟩ | ⟨frame, ha⟩ :=
    ends_of_deed Pace.isBrisk_standard.isFair hp hs hd he
  · have hl := Terrain.Course.passedAt_le_of_calm h hk fun earlier =>
      hh.calm earlier (Nat.zero_le earlier)
    have hr := hh.peril_eq
    rw [Terrain.Course.cellOn] at hr
    obtain hl | rfl := hl.lt_or_eq
    · exact absurd ((hcalm _ hl).symm.trans hr) (Option.some_ne_none reached).symm
    · obtain rfl := Option.some.inj (hr.symm.trans hk)
      exact ⟨frame, hh, rfl⟩
  · have hl := Terrain.Course.passedAt_le_of_calm h hk fun earlier hl =>
      ha.calm earlier (Nat.zero_le earlier) hl.le
    have hn := ha.calm frame ha.first_le le_rfl
    rw [ha.passed_eq] at hl
    rw [Terrain.Course.cellOn, ha.passed_eq, hl.antisymm hle] at hn
    exact absurd (hn.symm.trans hk) (Option.some_ne_none peril).symm

/-- On a way of fifty cells at most, a move from the center of an open cell comes no farther than to
the first peril: a trap ends the run there, a fire or an open hole the move. -/
theorem Command.ends_at_first_peril {scene : Scene Rat} {c : Command} {cell : Cell}
    {requested : Position Rat} {share : Rat} (ho : scene.terrain.IsOpen cell)
    (hc : scene.actor.position = scene.terrain.center cell)
    (hd : scene.actor.deed .standard c = .motion (.travel requested share false)) :
    let stop := scene.terrain.cellAt
      (scene.terrain.resolve scene.actor.position requested).position
    cell.distance stop ≤ 50 → ∀ steps ≤ cell.distance stop, ∀ peril,
      scene.terrain.peril? (cell.walk stop steps) = some peril →
      (∀ earlier < steps, scene.terrain.peril? (cell.walk stop earlier) = none) →
      (∃ outcome, (Statement.command c).Executes .standard scene outcome) ∧
      ∀ outcome, (Statement.command c).Executes .standard scene outcome →
        outcome.scene.cell = cell.walk stop steps ∧ outcome.ending = peril.ending ∧
        (peril = .trap →
          ∀ rest, (Statement.block (.command c :: rest)).Executes .standard scene outcome) ∧
        Event.consoleLines outcome.events = [.info peril.message] ∧
        ∀ position yaw, .pose position yaw ∈ outcome.events →
          ∃ earlier ≤ steps, scene.terrain.cellAt position = cell.walk stop earlier := by
  intro stop hfree steps hsteps peril hk hcalm
  have hb := Pace.isBrisk_standard
  obtain ⟨rfl, -, course, rfl, rfl, hs⟩ := Scene.exists_course_of_deed ho hc hd
  have hstop : stop = course.start.along course.heading course.free :=
    Terrain.Course.cellAt_resolve_start hc
  rw [hstop, Cell.distance_along] at hfree hsteps
  have hw : ∀ step ≤ steps, course.start.walk stop step =
      course.start.along course.heading step := by
    intro step hl
    rw [hstop, Cell.walk_along _ _ (hl.trans hsteps)]
  have hahead : ∀ earlier < steps,
      scene.terrain.peril? (course.start.along course.heading earlier) = none := by
    intro earlier hl
    rw [← hw earlier hl.le]
    exact hcalm earlier hl
  rw [hw steps le_rfl] at hk ⊢
  constructor
  · obtain ⟨outcome, he, -⟩ := Statement.exists_isWithin hb (.command c) (.centered ho hc)
    exact ⟨outcome, he⟩
  · intro outcome he
    obtain ⟨frame, hh, rfl⟩ := Scene.halts_at_first_peril hfree hs hd hsteps hk hahead he
    refine ⟨?_, hh.ending_eq, ?_, hh.lines_eq, fun position yaw hm => ?_⟩
    · rw [hh.scene_eq]
      exact course.cellAt_way hb.isFair frame
    · rintro rfl rest
      exact .stopped he hh.ending_eq
    · obtain ⟨earlier, hl, rfl⟩ := hh.pose position yaw hm
      have hle := course.passedAt_mono hb.isFair hl
      exact ⟨_, hle, (course.cellAt_way hb.isFair earlier).trans (hw _ hle).symm⟩

theorem Command.ends_at_first_peril_trap :
    let scene : Scene Rat := Puzzle.level2Phase2.scene
    let requested := scene.actor.position.along .east (2 * (9 : UInt32).toNat)
    let stop := scene.terrain.cellAt
      (scene.terrain.resolve scene.actor.position requested).position
    let start : Cell := ⟨0, 5⟩
    scene.terrain.IsOpen start ∧ scene.actor.position = scene.terrain.center start ∧
      scene.actor.deed .standard (.forward 9) =
        .motion (.travel requested (Pace.standard : Pace Rat).share false) ∧
      stop = ⟨9, 5⟩ ∧ start.distance stop ≤ 50 ∧ 8 ≤ start.distance stop ∧
      scene.terrain.peril? (start.walk stop 8) = some .trap ∧
      (∀ earlier < 8, scene.terrain.peril? (start.walk stop earlier) = none) ∧
      ∃ outcome, (Statement.command (.forward 9)).Executes .standard scene outcome ∧
        outcome.scene.cell = ⟨8, 5⟩ ∧ outcome.ending = .trapped ∧
        Event.consoleLines outcome.events = [.info "Você caiu na armadilha."] := by
  intro scene requested stop start
  have ho : scene.terrain.IsOpen start := by decide
  have hd : scene.actor.deed .standard (.forward 9) =
      .motion (.travel requested (Pace.standard : Pace Rat).share false) :=
    congrArg Deed.motion (Actor.travel_forward ..)
  have hstop : stop = ⟨9, 5⟩ := by decide +kernel
  have hfirst := ends_at_first_peril ho rfl hd
  have hw : start.walk ⟨9, 5⟩ 8 = ⟨8, 5⟩ := by decide
  have hk : scene.terrain.peril? ⟨8, 5⟩ = some .trap := by decide +kernel
  have hcalm : ∀ earlier < 8, scene.terrain.peril? (start.walk ⟨9, 5⟩ earlier) = none := by
    decide +kernel
  rw [show scene.terrain.cellAt
    (scene.terrain.resolve scene.actor.position requested).position = ⟨9, 5⟩ from hstop] at hfirst
  obtain ⟨⟨outcome, he⟩, hall⟩ :=
    hfirst (by decide) 8 (by decide) .trap (by rw [hw]; exact hk) hcalm
  obtain ⟨hcell, hending, -, hlines, -⟩ := hall outcome he
  rw [hw] at hcell
  rw [hstop, hw]
  exact ⟨ho, rfl, hd, rfl, by decide, by decide, hk, hcalm, outcome, he, hcell, hending, hlines⟩

/-- On a longer way than that the robot may pass over a trap. -/
theorem Command.trap_passed_over :
    let puzzle : Puzzle :=
      { id := "", title := "", start := ⟨51, 0⟩, divisions := 52, heading := .west,
        traps := [⟨30, 0⟩] }
    let scene : Scene Rat := puzzle.scene
    let requested := scene.actor.position.along .west (2 * (51 : UInt32).toNat)
    let stop := scene.terrain.cellAt
      (scene.terrain.resolve scene.actor.position requested).position
    scene.terrain.IsOpen puzzle.start ∧
      scene.actor.position = scene.terrain.center puzzle.start ∧
      scene.actor.deed .standard (.forward 51) =
        .motion (.travel requested (Pace.standard : Pace Rat).share false) ∧
      puzzle.start.distance stop = 51 ∧
      scene.terrain.peril? (puzzle.start.walk stop 21) = some .trap ∧
      (∀ earlier < 21, scene.terrain.peril? (puzzle.start.walk stop earlier) = none) ∧
      ∃ outcome, (Statement.command (.forward 51)).Executes .standard scene outcome ∧
        outcome.ending = .completed ∧ outcome.scene.cell = stop := by
  intro puzzle scene requested stop
  have hb := Pace.isBrisk_standard
  have hp : (Pace.standard : Pace Rat).precision ≤ 1 / 2 := by decide +kernel
  have ho : scene.terrain.IsOpen puzzle.start := by decide
  have hd : scene.actor.deed .standard (.forward 51) =
      .motion (.travel requested (Pace.standard : Pace Rat).share false) :=
    congrArg Deed.motion (Actor.travel_forward ..)
  have hway : ∀ steps ≤ 51, scene.terrain.IsOpen (puzzle.start.along .west steps) := by
    decide +kernel
  let course : scene.terrain.Course :=
    ⟨puzzle.start, .west, 51, 51, le_rfl, hway, fun hn => absurd hn (lt_irrefl 51)⟩
  have hs : scene.onFrame course .standard 0 = scene := Scene.onFrame_zero rfl
  have hstop : stop = puzzle.start.along .west 51 := course.cellAt_resolve_start rfl
  have hcalm : ∀ steps ≤ 51, steps ≠ 21 →
      scene.terrain.peril? (puzzle.start.along .west steps) = none := by
    decide +kernel
  obtain ⟨outcome, he, -⟩ :=
    Statement.exists_isWithin hb (.command (.forward 51)) (.centered ho rfl)
  refine ⟨ho, rfl, hd, ?_, ?_, fun earlier hl => ?_, outcome, he, ?_⟩
  · rw [hstop, Cell.distance_along]
  · rw [hstop, Cell.walk_along _ _ (by decide)]
    decide +kernel
  · rw [hstop, Cell.walk_along _ _ (by omega)]
    exact hcalm earlier (by omega) hl.ne
  · obtain ⟨frame, peril, hh⟩ | ⟨frame, ha⟩ := Scene.ends_of_deed hb.isFair hp hs hd he
    · have hn := hcalm _ (course.passedAt_le hb.isFair frame)
        (Terrain.Course.passedAt_ne_of_west rfl rfl frame)
      exact nomatch hn.symm.trans hh.peril_eq
    · exact ⟨ha.ending_eq, ha.cell_eq.trans hstop.symm⟩

end RobotPuzzle
