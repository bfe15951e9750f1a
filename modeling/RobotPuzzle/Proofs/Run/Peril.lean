import RobotPuzzle.Proofs.Run.Safety

namespace RobotPuzzle

inductive Peril where
  | trap
  | hazard (kind : HazardKind)
deriving DecidableEq

namespace Peril

def message : Peril → String
  | trap => "Você caiu na armadilha."
  | hazard .fire => "Robô foi queimado!"
  | hazard .hole => "Você caiu no buraco!"

def ending : Peril → Ending
  | trap => .trapped
  | hazard _ => .completed

def progress {α : Type} : Peril → Progress α
  | trap => .trapped
  | hazard _ => .settled

def isTold (line : ConsoleLine) : Bool :=
  [trap, hazard .fire, hazard .hole].any fun peril => line = .info peril.message

lemma isTold_message (peril : Peril) : isTold (.info peril.message) = true := by
  cases peril with
  | trap => rfl
  | hazard kind => cases kind <;> rfl

end Peril

namespace Terrain

def peril? (terrain : Terrain) (cell : Cell) : Option Peril :=
  if terrain.traps.contains cell then some .trap
  else if terrain.hasActive .fire cell then some (.hazard .fire)
  else if terrain.hasActive .hole cell then some (.hazard .hole)
  else none

variable {terrain : Terrain} {cell : Cell}

lemma peril_eq_none_iff : terrain.peril? cell = none ↔
    terrain.traps.contains cell = false ∧ ∀ kind, terrain.hasActive kind cell = false := by
  rw [peril?]
  constructor
  · intro h
    split_ifs at h with ht hf hh
    refine ⟨Bool.eq_false_iff.mpr ht, fun kind => ?_⟩
    cases kind with
    | hole => exact Bool.eq_false_iff.mpr hh
    | fire => exact Bool.eq_false_iff.mpr hf
  · rintro ⟨ht, hk⟩
    rw [ht, hk .fire, hk .hole]
    rfl

lemma peril_cases {peril : Peril} (h : terrain.peril? cell = some peril) :
    (terrain.traps.contains cell = true ∧ peril = .trap) ∨
    (terrain.traps.contains cell = false ∧
      ((terrain.hasActive .fire cell = true ∧ peril = .hazard .fire) ∨
       (terrain.hasActive .fire cell = false ∧ terrain.hasActive .hole cell = true ∧
        peril = .hazard .hole))) := by
  rw [peril?] at h
  split_ifs at h with ht hf hh
  · exact Or.inl ⟨ht, (Option.some.inj h).symm⟩
  · exact Or.inr ⟨Bool.eq_false_iff.mpr ht, Or.inl ⟨hf, (Option.some.inj h).symm⟩⟩
  · exact Or.inr ⟨Bool.eq_false_iff.mpr ht,
      Or.inr ⟨Bool.eq_false_iff.mpr hf, hh, (Option.some.inj h).symm⟩⟩

lemma hazard_setActive_of_ne {kind other : HazardKind} {id i : Nat} {active : Bool}
    (h : other = kind → i ≠ id) :
    (terrain.setActive other i active).hazard? kind id = terrain.hazard? kind id := by
  have hn : ¬ (kind = other ∧ i = id) := fun hk => h hk.1.symm hk.2
  rw [hazard_setActive]
  simp only [if_neg hn, Option.map_id']

lemma HasBeside.ne {kind other : HazardKind} {id i : Nat} {active : Bool}
    (hb : terrain.HasBeside other cell i) (h : terrain.hazard? kind id = some ⟨cell, active⟩) :
    other = kind → i ≠ id := by
  rintro rfl rfl
  exact hb.cell_ne h rfl

end Terrain

variable {α : Type} [Scalar α]

namespace Scene

variable {scene after : Scene α} {pace : Pace α} {requested : Position α} {share : α}
  {warned : Bool}

lemma travel_of_peril {peril : Peril} (h : scene.terrain.peril? scene.cell = some peril) :
    scene.travel pace requested share warned = (peril.progress, scene, [.say peril.message]) := by
  rw [travel]
  obtain ⟨ht, rfl⟩ | ⟨ht, ⟨hf, rfl⟩ | ⟨hf, hh, rfl⟩⟩ := Terrain.peril_cases h
  · exact if_pos ht
  · exact (if_neg (Bool.eq_false_iff.mp ht)).trans (if_pos hf)
  · exact (if_neg (Bool.eq_false_iff.mp ht)).trans
      ((if_neg (Bool.eq_false_iff.mp hf)).trans (if_pos hh))

lemma travel_of_none (h : scene.terrain.peril? scene.cell = none) :
    scene.travel pace requested share warned = scene.advance pace requested share warned := by
  rw [travel]
  obtain ⟨ht, hk⟩ := Terrain.peril_eq_none_iff.mp h
  exact (if_neg (Bool.eq_false_iff.mp ht)).trans
    ((if_neg (Bool.eq_false_iff.mp (hk .fire))).trans (if_neg (Bool.eq_false_iff.mp (hk .hole))))

def IsCaught (scene : Scene α) (kind : HazardKind) (id : Nat) : Prop :=
  scene.terrain.hazard? kind id = some ⟨scene.cell, true⟩

variable {kind : HazardKind} {id : Nat}

lemma IsCaught.exists_peril (h : scene.IsCaught kind id) :
    ∃ peril, scene.terrain.peril? scene.cell = some peril := by
  refine Option.ne_none_iff_exists'.mp fun hn => ?_
  have ho : scene.terrain.hasActive kind scene.cell = true :=
    List.any_eq_true.mpr ⟨_, List.mem_of_getElem? h, by simp⟩
  exact Bool.false_ne_true (((Terrain.peril_eq_none_iff.mp hn).2 kind).symm.trans ho)

structure StillCaught (scene after : Scene α) (kind : HazardKind) (id : Nat) : Prop where
  position_eq : after.actor.position = scene.actor.position
  cell_eq : after.cell = scene.cell
  isCaught : after.IsCaught kind id

lemma IsCaught.still (h : scene.IsCaught kind id) (ht : after.terrain = scene.terrain)
    (hp : after.actor.position = scene.actor.position) : scene.StillCaught after kind id := by
  have hc : after.cell = scene.cell := by rw [cell, ht, hp, cell]
  exact ⟨hp, hc, by rw [IsCaught, ht, hc]; exact h⟩

lemma IsCaught.clear {other : HazardKind} {i : Nat} (h : scene.IsCaught kind id)
    (hb : scene.IsBeside other i) : scene.StillCaught (scene.withoutHazard other i) kind id := by
  have hcell : scene.cell = (scene.withoutHazard other i).cell :=
    (Terrain.cellAt_setActive _).symm
  refine ⟨rfl, hcell.symm, ?_⟩
  rw [IsCaught, ← hcell]
  exact (Terrain.hazard_setActive_of_ne (hb.ne h)).trans h

lemma IsCaught.act {c : Command} {action : Action α} (h : scene.IsCaught kind id)
    (hd : scene.actor.deed pace c = .action action) :
    scene.StillCaught (scene.act action).1 kind id := by
  have ha := scene.acts (deed_action hd)
  generalize scene.act action = result at ha ⊢
  cases ha with
  | refused _ => exact h.still rfl rfl
  | collected _ => exact h.still rfl rfl
  | cleared hb => exact h.clear hb
  | spent hb _ =>
    have hs := h.clear hb
    exact ⟨hs.position_eq, hs.cell_eq, hs.isCaught⟩

lemma IsCaught.motion (h : scene.IsCaught kind id) (motion : Motion α) (pace : Pace α) :
    scene.StillCaught (motion.step pace scene).2.1 kind id := by
  cases motion with
  | travel requested share warned =>
    obtain ⟨peril, hp⟩ := h.exists_peril
    rw [Motion.step, travel_of_peril hp]
    exact h.still rfl rfl
  | turn target heading =>
    rw [Motion.step, turn]
    dsimp only
    split <;> exact h.still rfl rfl

end Scene

lemma isLaw_stillCaught (kind : HazardKind) (id : Nat) :
    Change.IsLaw fun (scene : Scene α) _ after =>
      scene.IsCaught kind id → scene.StillCaught after kind id where
  refl _ h := h.still rfl rfl
  trans hs hm h := by
    obtain ⟨hp, hc, hn⟩ := hs h
    obtain ⟨hp', hc', hl⟩ := hm hn
    exact ⟨hp'.trans hp, hc'.trans hc, hl⟩
  deed hd h := h.act hd
  motion motion pace _ h := h.motion motion pace

def Event.IsCalm : Event α → Prop
  | .pose .. => False
  | .console line => Peril.isTold line = false
  | _ => True

lemma Scene.isCalm_act {scene : Scene α} {pace : Pace α} {c : Command} {action : Action α}
    (hd : scene.actor.deed pace c = .action action) :
    ∀ event ∈ (scene.act action).2, event.IsCalm := by
  have ha := scene.acts (deed_action hd)
  generalize scene.act action = result at ha ⊢
  cases ha with
  | refused ht =>
    have hr : ∀ text ∈ Scene.refusals, Peril.isTold (.info text) = false := by decide
    exact List.forall_mem_singleton.mpr (hr _ ht)
  | @collected index _ =>
    have hp : ∀ text ∈ Scene.praise (scene.collected.set index true),
        Peril.isTold (.info text) = false := by
      rw [Scene.praise]
      split_ifs <;> decide
    exact List.forall_mem_cons.mpr ⟨trivial, List.forall_mem_map.mpr hp⟩
  | cleared _ => exact List.forall_mem_singleton.mpr trivial
  | spent _ _ => exact List.forall_mem_cons.mpr ⟨trivial, List.forall_mem_singleton.mpr trivial⟩

lemma isCalm_proceed (pace : Pace α) (statements : List Statement) (scene : Scene α) :
    ∀ event ∈ (proceed pace statements scene).events, event.IsCalm := by
  fun_induction proceed pace statements scene with
  | case1 scene => exact List.forall_mem_nil _
  | case2 scene body rest ih => exact ih
  | case3 scene condition source body rest holds ih => exact ih
  | case4 c rest scene motion hd => exact List.forall_mem_nil _
  | case5 c rest scene action hd next events ha ih =>
    intro event h
    have hs := Scene.isCalm_act hd
    rw [ha] at hs
    exact (List.mem_append.mp h).elim (hs event) (ih event)

namespace Run

variable {run : Run α} {scene : Scene α} {requested : Position α} {share : α} {warned : Bool}

lemma tick_of_peril {peril : Peril} (he : run.ended = none)
    (hm : run.motion = some (.travel requested share warned))
    (hp : scene.terrain.peril? scene.cell = some peril) :
    run.tick false scene =
      match peril with
      | .trap => .stopped run.pace .trapped scene [.say peril.message]
      | .hazard _ => (proceed run.pace run.pending scene).after [.say peril.message] [] := by
  simp only [tick, he, hm, Motion.step, Scene.travel_of_peril hp, Bool.false_eq_true, if_false]
  cases peril <;> rfl

end Run

lemma told_after (pace : Pace α) (statements : List Statement) (scene : Scene α) (peril : Peril) :
    let frame := (proceed pace statements scene).after [.say peril.message] []
    (∀ position yaw, .pose position yaw ∉ frame.events) ∧
      (Event.consoleLines frame.events).filter Peril.isTold = [.info peril.message] := by
  intro frame
  have hc := isCalm_proceed pace statements scene
  have hn : (Event.consoleLines (proceed pace statements scene).events).filter Peril.isTold =
      [] := by
    refine List.filter_eq_nil_iff.mpr fun line hl => ?_
    obtain ⟨event, he, hline⟩ := List.mem_filterMap.mp hl
    cases event with
    | console other =>
      obtain rfl := Option.some.inj hline
      exact Bool.eq_false_iff.mp (hc _ he)
    | _ => exact nomatch hline
  constructor
  · intro position yaw hp
    obtain hs | hp := List.mem_cons.mp hp
    · exact nomatch hs
    · exact hc _ hp
  · have hl : Event.consoleLines frame.events =
        .info peril.message :: Event.consoleLines (proceed pace statements scene).events := rfl
    rw [hl, List.filter_cons_of_pos (Peril.isTold_message peril), hn]

/-- A robot on an active hazard never leaves it, and the hazard is never cleared. Each of its moves
is over in one frame, which tells once what the ground does to the robot: first comes a trap, which
ends the run, then a fire and then a hole, and the run goes on with what is behind the move. -/
theorem Trial.stuck_on_hazard (trial : Trial α) (kind : HazardKind) (id : Nat)
    (h : trial.scene.terrain.hazard? kind id = some ⟨trial.scene.cell, true⟩)
    (schedule : List Bool) :
    let later := trial.follow schedule
    let frame := later.tick.1
    later.scene.actor.position = trial.scene.actor.position ∧
    later.scene.terrain.hazard? kind id = some ⟨trial.scene.cell, true⟩ ∧
    ∀ requested share warned, later.run.motion = some (.travel requested share warned) →
      later.run.ended = none → later.cancelled = false →
      if later.scene.isTrapped then
        frame = .stopped later.run.pace .trapped later.scene [.say "Você caiu na armadilha."]
      else
        let message :=
          if later.scene.isOn .fire then "Robô foi queimado!" else "Você caiu no buraco!"
        frame = (proceed later.run.pace later.run.pending later.scene).after [.say message] [] ∧
          (∀ position yaw, .pose position yaw ∉ frame.events) ∧
          (Event.consoleLines frame.events).filter Peril.isTold = [.info message] := by
  intro later frame
  obtain ⟨_, hf⟩ := (isLaw_stillCaught kind id).follow trial schedule
  obtain ⟨hp, hc, hn⟩ := hf h
  refine ⟨hp, hc ▸ hn, fun requested share warned hm he hcan => ?_⟩
  have htick : frame = later.run.tick false later.scene := by rw [← hcan]; rfl
  obtain ⟨peril, hperil⟩ := hn.exists_peril
  have hf := htick.trans (Run.tick_of_peril he hm hperil)
  obtain ⟨ht, rfl⟩ | ⟨ht, ⟨hfire, rfl⟩ | ⟨hfire, -, rfl⟩⟩ := Terrain.peril_cases hperil
  · rw [show later.scene.isTrapped = true from ht]
    exact hf
  · rw [show later.scene.isTrapped = false from ht, show later.scene.isOn .fire = true from hfire]
    exact ⟨hf, hf ▸ told_after _ _ _ (.hazard .fire)⟩
  · rw [show later.scene.isTrapped = false from ht, show later.scene.isOn .fire = false from hfire]
    exact ⟨hf, hf ▸ told_after _ _ _ (.hazard .hole)⟩

theorem Trial.stuck_on_hazard_burnt :
    let scene : Scene Rat :=
      { (Puzzle.level2Phase1.scene : Scene Rat) with actor := ⟨⟨17 / 4, 1⟩, 90, .east⟩ }
    let run : Run Rat := ⟨[.command .putOutFire, .command (.backward 2), .command .collect],
      some (.travel ⟨9, 1⟩ (1 / 20) false), .standard, none⟩
    let later := (⟨run, scene, false⟩ : Trial Rat).follow [false]
    scene.terrain.hazard? .fire 0 = some ⟨scene.cell, true⟩ ∧
      later.scene.actor.position = scene.actor.position ∧
      later.run.motion = some (.travel ⟨1 / 4, 1⟩ (1 / 100) false) ∧
      later.run.ended = none ∧ later.cancelled = false ∧
      later.tick.1 = (proceed .standard [.command .collect] scene).after
        [.say "Robô foi queimado!"] [] := by
  intro scene run later
  have hh : scene.terrain.hazard? .fire 0 = some ⟨scene.cell, true⟩ := by decide +kernel
  have hp : scene.terrain.peril? scene.cell = some (.hazard .fire) := by decide +kernel
  have ha : scene.terrain.adjacentHazard? .fire scene.cell = none := by decide +kernel
  have hc : scene.act .putOutFire = (scene, [Scene.refuse]) := by
    simp only [Scene.act, Scene.putOutFire, Scene.clear?, Terrain.clearAdjacent, ha]
    rfl
  have hm : scene.actor.travel .standard (-1) 2 = .travel ⟨1 / 4, 1⟩ (1 / 100) false := by
    have hx : (17 / 4 + (1 : Int) * (-1 * 2 * 2) : Rat) = 1 / 4 := by norm_num
    have hz : (1 + (0 : Int) * (-1 * 2 * 2) : Rat) = 1 := by norm_num
    exact congrArg (Motion.travel · (1 / 100) false) (congrArg₂ Position.mk hx hz)
  have ht : run.tick false scene = ⟨⟨[.command .collect],
      some (.travel ⟨1 / 4, 1⟩ (1 / 100) false), .standard, none⟩, scene,
      [.say "Robô foi queimado!", Scene.refuse],
      [.performed .putOutFire, .performed (.backward 2)], .running⟩ := by
    rw [Run.tick_of_peril rfl rfl hp]
    simp only [run, proceed, Actor.deed, hc, hm]
    rfl
  have hl : later = ⟨⟨[.command .collect], some (.travel ⟨1 / 4, 1⟩ (1 / 100) false), .standard,
      none⟩, scene, false⟩ :=
    congrArg (fun frame : Frame Rat => (⟨frame.run, frame.scene, frame.step == .done .trapped⟩ :
      Trial Rat)) ht
  have hs := stuck_on_hazard ⟨run, scene, false⟩ .fire 0 hh [false]
  rw [show (⟨run, scene, false⟩ : Trial Rat).follow [false] = _ from hl] at hs
  have hn : scene.isTrapped = false := by decide +kernel
  have hf : scene.isOn .fire = true := by decide +kernel
  obtain ⟨hpos, -, hmove⟩ := hs
  have hlast := hmove ⟨1 / 4, 1⟩ (1 / 100) false rfl rfl rfl
  simp only [hn, hf, Bool.false_eq_true, if_false, if_true] at hlast
  rw [hl]
  exact ⟨hh, hpos, rfl, rfl, rfl, hlast.1⟩

end RobotPuzzle
