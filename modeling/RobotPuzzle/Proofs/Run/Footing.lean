import RobotPuzzle.Proofs.Run.Change
import RobotPuzzle.Proofs.Terrain.Course

namespace RobotPuzzle

lemma any_modify {β : Type} {p : β → Bool} {f : β → β} {items : List β} {i : Nat}
    (h : ∀ item, items[i]? = some item → p (f item) = p item) :
    (items.modify i f).any p = items.any p := by
  induction items generalizing i with
  | nil => simp
  | cons item items ih =>
    cases i with
    | zero => simp [h item rfl]
    | succ i => simp [ih fun item hi => h item hi]

namespace Rational

lemma abs_eq (x : Rat) : Scalar.abs x = |x| := by
  by_cases h : x < 0
  · exact (if_pos h).trans (abs_of_neg h).symm
  · exact (if_neg h).trans (abs_of_nonneg (not_lt.mp h)).symm

lemma capOne_eq (x : Rat) : Scalar.capOne x = min x 1 := by
  by_cases h : x < 1
  · exact (if_pos h).trans (min_eq_left h.le).symm
  · exact (if_neg h).trans (min_eq_right (not_lt.mp h)).symm

lemma capOne_mem {x : Rat} (h : 0 ≤ x) : 0 ≤ Scalar.capOne x ∧ Scalar.capOne x ≤ 1 := by
  rw [capOne_eq]
  exact ⟨le_min h zero_le_one, min_le_right ..⟩

end Rational

namespace Terrain

variable {terrain : Terrain} {kind : HazardKind} {id : Nat} {active : Bool}

lemma isOpen_setActive {cell : Cell} :
    (terrain.setActive kind id active).IsOpen cell ↔ terrain.IsOpen cell := by
  cases kind <;> rfl

lemma center_setActive {α : Type} [Scalar α] (cell : Cell) :
    ((terrain.setActive kind id active).center cell : Position α) = terrain.center cell := by
  cases kind <;> rfl

lemma cellAt_setActive {α : Type} [Scalar α] (position : Position α) :
    (terrain.setActive kind id active).cellAt position = terrain.cellAt position := by
  cases kind <;> rfl

lemma hasActive_setActive {cell : Cell} (h : terrain.HasBeside kind cell id)
    (other : HazardKind) :
    (terrain.setActive kind id active).hasActive other cell = terrain.hasActive other cell := by
  by_cases ho : kind = other
  · subst ho
    rw [hasActive, setActive, hazards_mapHazards, hasActive]
    refine any_modify fun hazard hh => ?_
    simp [beq_eq_false_iff_ne.mpr (h.cell_ne hh)]
  · rw [hasActive, setActive, hazards_mapHazards_of_ne _ _ ho, hasActive]

end Terrain

namespace Scene

section Actions

variable {α : Type} [Scalar α] {scene after : Scene α}

structure SameFooting (scene after : Scene α) : Prop where
  position_eq : after.actor.position = scene.actor.position
  isOpen_iff : ∀ cell, after.terrain.IsOpen cell ↔ scene.terrain.IsOpen cell
  center_eq : ∀ cell, (after.terrain.center cell : Position α) = scene.terrain.center cell
  cell_eq : after.cell = scene.cell
  isOn_eq : ∀ kind, after.isOn kind = scene.isOn kind

lemma SameFooting.of_eq (ht : after.terrain = scene.terrain) (ha : after.actor = scene.actor) :
    scene.SameFooting after := by
  obtain ⟨puzzle, terrain, actor, collected, extinguishers⟩ := after
  obtain rfl : terrain = scene.terrain := ht
  obtain rfl : actor = scene.actor := ha
  exact ⟨rfl, fun _ => Iff.rfl, fun _ => rfl, rfl, fun _ => rfl⟩

lemma sameFooting_clear {kind : HazardKind} {id : Nat} (h : scene.IsBeside kind id) :
    scene.SameFooting (scene.withoutHazard kind id) := by
  refine ⟨rfl, fun _ => Terrain.isOpen_setActive, Terrain.center_setActive,
    Terrain.cellAt_setActive _, fun other => ?_⟩
  rw [isOn, cell, withoutHazard, Terrain.cellAt_setActive]
  exact Terrain.hasActive_setActive h other

lemma sameFooting_act {pace : Pace α} {c : Command} {action : Action α}
    (h : scene.actor.deed pace c = .action action) : scene.SameFooting (scene.act action).1 := by
  have ha := scene.acts (deed_action h)
  generalize scene.act action = result at ha ⊢
  cases ha with
  | refused _ => exact .of_eq rfl rfl
  | collected _ => exact .of_eq rfl rfl
  | cleared hb => exact sameFooting_clear hb
  | spent hb _ =>
    have hs := sameFooting_clear hb
    exact ⟨hs.position_eq, hs.isOpen_iff, hs.center_eq, hs.cell_eq, hs.isOn_eq⟩

end Actions

variable {scene after : Scene Rat}

def IsStuck (scene : Scene Rat) : Prop :=
  scene.terrain.IsOpen scene.cell ∧ ∃ kind, scene.isOn kind = true

inductive IsAtRest (scene : Scene Rat) : Prop
  | centered {cell} : scene.terrain.IsOpen cell →
      scene.actor.position = scene.terrain.center cell → IsAtRest scene
  | stuck : scene.IsStuck → IsAtRest scene

lemma IsAtRest.isOpen (h : scene.IsAtRest) : scene.terrain.IsOpen scene.cell := by
  cases h with
  | centered ho hp => rwa [Scene.cell, hp, Terrain.cellAt_center ho.1]
  | stuck hs => exact hs.1

lemma IsAtRest.same (h : scene.IsAtRest) (hs : scene.SameFooting after) : after.IsAtRest := by
  cases h with
  | @centered cell ho hp =>
    exact .centered ((hs.isOpen_iff cell).mpr ho)
      (hs.position_eq.trans (hp.trans (hs.center_eq cell).symm))
  | stuck hst =>
    obtain ⟨ho, kind, hk⟩ := hst
    refine .stuck ⟨?_, kind, (hs.isOn_eq kind).trans hk⟩
    rw [hs.cell_eq]
    exact (hs.isOpen_iff _).mpr ho

structure Follows {terrain : Terrain} (scene : Scene Rat) (course : terrain.Course) (t : Rat) :
    Prop where
  terrain_eq : scene.terrain = terrain
  nonneg : 0 ≤ t
  le_free : t ≤ 2 * course.free
  position_eq : scene.actor.position = course.spot t

section Travel

variable {terrain : Terrain} {course : terrain.Course} {t : Rat}

lemma Follows.isOpen (h : scene.Follows course t) : scene.terrain.IsOpen scene.cell := by
  rw [Scene.cell, h.position_eq, h.terrain_eq]
  exact Terrain.Course.isOpen_cellAt h.nonneg h.le_free

variable {pace : Pace Rat} {share : Rat} {warned : Bool}

lemma travel_cases (scene : Scene Rat) (pace : Pace Rat) (requested : Position Rat) (share : Rat)
    (warned : Bool) :
    (∃ progress events, scene.travel pace requested share warned = (progress, scene, events) ∧
      (progress = .trapped ∨ progress = .settled ∧ ∃ kind, scene.isOn kind = true)) ∨
    (∀ kind, scene.isOn kind = false) ∧
      scene.travel pace requested share warned = scene.advance pace requested share warned := by
  rw [Scene.travel]
  by_cases htrap : scene.isTrapped = true
  · rw [if_pos htrap]
    exact Or.inl ⟨_, _, rfl, Or.inl rfl⟩
  by_cases hfire : scene.isOn .fire = true
  · rw [if_neg htrap, if_pos hfire]
    exact Or.inl ⟨_, _, rfl, Or.inr ⟨rfl, .fire, hfire⟩⟩
  by_cases hhole : scene.isOn .hole = true
  · rw [if_neg htrap, if_neg hfire, if_pos hhole]
    exact Or.inl ⟨_, _, rfl, Or.inr ⟨rfl, .hole, hhole⟩⟩
  rw [if_neg htrap, if_neg hfire, if_neg hhole]
  refine Or.inr ⟨fun kind => ?_, rfl⟩
  cases kind with
  | hole => exact Bool.eq_false_iff.mpr hhole
  | fire => exact Bool.eq_false_iff.mpr hfire

lemma Follows.travel (h : scene.Follows course t) (hl : 0 ≤ share) (hu : share ≤ 1) :
    (∃ events, scene.travel pace course.requested share warned = (.trapped, scene, events)) ∨
    (∃ after events, scene.travel pace course.requested share warned = (.settled, after, events) ∧
      after.IsAtRest) ∨
    (∃ after events told, scene.travel pace course.requested share warned =
        (.moving (.travel course.requested (Scalar.capOne (share + pace.gain)) told), after,
          events) ∧
      after.Follows course (t + (2 * course.free - t) * share) ∧
      (course.spot t).isNear course.target pace.precision = false) := by
  obtain ⟨progress, events, he, rfl | ⟨rfl, hk⟩⟩ | ⟨-, he⟩ :=
    scene.travel_cases pace course.requested share warned
  · exact Or.inl ⟨_, he⟩
  · exact Or.inr (Or.inl ⟨_, _, he, .stuck ⟨h.isOpen, hk⟩⟩)
  obtain ⟨rfl, h0, hle, hp⟩ := h
  have hr := Terrain.Course.position_resolve h0 hle
  simp only [he, advance, hp, hr]
  cases hn : (course.spot t).isNear course.target pace.precision with
  | true =>
    refine Or.inr (Or.inl ⟨_, _, rfl, .centered (course.isOpen course.free le_rfl) ?_⟩)
    exact course.spot_steps course.free
  | false =>
    refine Or.inr (Or.inr ⟨_, _, _, rfl, ⟨rfl, ?_, ?_, ?_⟩, rfl⟩)
    · have hm := mul_nonneg (sub_nonneg.mpr hle) hl
      linarith
    · have hm := mul_le_of_le_one_right (sub_nonneg.mpr hle) hu
      linarith
    · exact Position.lerp_along _ _ _ _ _

lemma IsStuck.travel {requested : Position Rat} (h : scene.IsStuck) : ∃ progress events,
    scene.travel pace requested share warned = (progress, scene, events) ∧
      (progress = .trapped ∨ progress = .settled) := by
  obtain ⟨-, kind, hk⟩ := h
  obtain ⟨progress, events, he, hp⟩ | ⟨hn, -⟩ := scene.travel_cases pace requested share warned
  · exact ⟨progress, events, he, hp.imp_right And.left⟩
  · exact absurd (hk.symm.trans (hn kind)) (by simp)

end Travel

lemma turn_cases (scene : Scene Rat) (pace : Pace Rat) (target : Rat) (heading : Heading) :
    (∃ after events, scene.turn pace target heading = (.settled, after, events) ∧
      scene.SameFooting after) ∨
    (pace.turn < |target - scene.actor.yaw| ∧ ∃ after events,
      scene.turn pace target heading = (.moving (.turn target heading), after, events) ∧
      scene.SameFooting after ∧
      after.actor.yaw =
        scene.actor.yaw + pace.turn * Scalar.signum (target - scene.actor.yaw)) := by
  have hs : ∀ yaw heading, scene.SameFooting
      { scene with actor := { scene.actor with yaw, heading } } :=
    fun _ _ => ⟨rfl, fun _ => Iff.rfl, fun _ => rfl, rfl, fun _ => rfl⟩
  rw [turn, Rational.abs_eq]
  by_cases hd : |target - scene.actor.yaw| ≤ pace.turn
  · rw [if_pos hd]
    exact Or.inl ⟨_, _, rfl, hs _ _⟩
  · rw [if_neg hd]
    exact Or.inr ⟨not_le.mp hd, _, _, rfl, hs _ _, rfl⟩

end Scene

namespace Command

def isMove : Command → Bool
  | forward _ | backward _ => true
  | _ => false

def isTurn : Command → Bool
  | turnLeft | turnRight | turnAround => true
  | _ => false

end Command

namespace Actor

variable (actor : Actor Rat) (pace : Pace Rat) (count : UInt32)

lemma travel_forward : actor.travel pace 1 count =
    .travel (actor.position.along actor.heading (2 * count.toNat)) pace.share false := by
  simp only [travel, Position.along, Scalar.ofInt]
  push_cast
  rw [one_mul]

lemma travel_backward : actor.travel pace (-1) count =
    .travel (actor.position.along actor.heading.reverse (2 * count.toNat)) pace.share false := by
  simp only [travel, Position.along, Scalar.ofInt]
  cases actor.heading <;> simp [Heading.reverse, Heading.step]

end Actor

namespace Scene

variable {scene : Scene Rat} {pace : Pace Rat}

def CanTravel (scene : Scene Rat) (requested : Position Rat) : Prop :=
  scene.IsStuck ∨ ∃ (terrain : Terrain) (course : terrain.Course) (t : Rat),
    course.requested = requested ∧ scene.Follows course t

lemma IsAtRest.canTravel (h : scene.IsAtRest) (heading : Heading) (steps : Nat) :
    scene.CanTravel (scene.actor.position.along heading (2 * steps)) := by
  cases h with
  | @centered cell ho hp =>
    obtain ⟨course, rfl, rfl, rfl⟩ := Terrain.exists_course ho heading steps
    refine Or.inr ⟨_, course, 0, ?_, rfl, le_rfl, by positivity, ?_⟩
    · rw [hp]
      rfl
    · rw [hp]
      simp [Terrain.Course.spot, Position.along]
  | stuck hs => exact Or.inl hs

lemma IsAtRest.deed {c : Command} {motion : Motion Rat} (h : scene.IsAtRest)
    (hd : scene.actor.deed pace c = .motion motion) :
    (c.isMove = true ∧
      ∃ requested, motion = .travel requested pace.share false ∧ scene.CanTravel requested) ∨
    (c.isTurn = true ∧
      ∃ target heading, motion = .turn target heading ∧ |target - scene.actor.yaw| ≤ 180) := by
  cases c with
  | forward count =>
    obtain rfl := Deed.motion.inj hd
    exact Or.inl ⟨rfl, _, Actor.travel_forward .., h.canTravel _ _⟩
  | backward count =>
    obtain rfl := Deed.motion.inj hd
    exact Or.inl ⟨rfl, _, Actor.travel_backward .., h.canTravel _ _⟩
  | turnLeft =>
    obtain rfl := Deed.motion.inj hd
    refine Or.inr ⟨rfl, _, _, rfl, ?_⟩
    rw [add_sub_cancel_left]
    norm_num [Scalar.ofInt]
  | turnRight =>
    obtain rfl := Deed.motion.inj hd
    refine Or.inr ⟨rfl, _, _, rfl, ?_⟩
    rw [sub_sub_cancel_left]
    norm_num [Scalar.ofInt]
  | turnAround =>
    obtain rfl := Deed.motion.inj hd
    refine Or.inr ⟨rfl, _, _, rfl, ?_⟩
    rw [add_sub_cancel_left]
    norm_num [Scalar.ofInt]
  | collect => exact nomatch hd
  | putOutFire => exact nomatch hd
  | coverHole => exact nomatch hd

lemma IsOf.isOpen_iff {puzzle : Puzzle} (h : scene.IsOf puzzle) {cell : Cell} :
    puzzle.terrain.IsOpen cell ↔ scene.terrain.IsOpen cell := by
  rw [← h.rearm_eq]
  rfl

lemma isAtRest_scene {puzzle : Puzzle} (h : puzzle.terrain.IsOpen puzzle.start) :
    (puzzle.scene : Scene Rat).IsAtRest := by
  have hp : (puzzle.scene : Scene Rat).IsOf puzzle := isOf_scene puzzle
  have hc : (puzzle.terrain.center puzzle.start : Position Rat) =
      (puzzle.scene : Scene Rat).terrain.center puzzle.start := by
    rw [← hp.rearm_eq]
    rfl
  exact .centered (hp.isOpen_iff.mp h) hc

def Allows (scene : Scene Rat) : Motion Rat → Prop
  | .travel requested share _ => (0 ≤ share ∧ share ≤ 1) ∧ scene.CanTravel requested
  | .turn _ _ => scene.IsAtRest

inductive Leaves (scene : Scene Rat) : Progress Rat × Scene Rat × List (Event Rat) → Prop
  | moving {next after events} : after.Allows next → Leaves scene (.moving next, after, events)
  | settled {after events} : after.IsAtRest → Leaves scene (.settled, after, events)
  | trapped {events} : Leaves scene (.trapped, scene, events)

lemma Allows.step {motion : Motion Rat} (h : scene.Allows motion) (hg : 0 ≤ pace.gain) :
    scene.Leaves (motion.step pace scene) := by
  cases motion with
  | travel requested share warned =>
    obtain ⟨⟨hl, hu⟩, hs | ⟨terrain, course, t, rfl, hf⟩⟩ := h
    · obtain ⟨progress, events, he, rfl | rfl⟩ := hs.travel
      · rw [Motion.step, he]
        exact .trapped
      · rw [Motion.step, he]
        exact .settled (.stuck hs)
    · obtain ⟨events, he⟩ | ⟨after, events, he, ha⟩ | ⟨after, events, told, he, ha, -⟩ :=
        hf.travel hl hu
      · rw [Motion.step, he]
        exact .trapped
      · rw [Motion.step, he]
        exact .settled ha
      · rw [Motion.step, he]
        exact .moving
          ⟨Rational.capOne_mem (add_nonneg hl hg), Or.inr ⟨terrain, course, _, rfl, ha⟩⟩
  | turn target heading =>
    obtain ⟨after, events, he, ha⟩ | ⟨-, after, events, he, ha, -⟩ :=
      scene.turn_cases pace target heading
    · rw [Motion.step, he]
      exact .settled (h.same ha)
    · rw [Motion.step, he]
      exact .moving (h.same ha)

end Scene

end RobotPuzzle
