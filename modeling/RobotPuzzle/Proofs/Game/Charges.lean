import RobotPuzzle.Proofs.Game.History
import RobotPuzzle.Proofs.Scene.Reach
import RobotPuzzle.Puzzle.Catalog

namespace RobotPuzzle

namespace Terrain

def losesFire (before after : Terrain) : Bool :=
  ((before.flags .fire).zip (after.flags .fire)).any fun (old, new) => old && !new

lemma losesFire_self (terrain : Terrain) : terrain.losesFire terrain = false := by
  refine List.any_eq_false.mpr fun ⟨old, new⟩ h => ?_
  obtain ⟨i, hi⟩ := List.getElem?_of_mem h
  obtain ⟨ho, hn⟩ := List.getElem?_zip_eq_some.mp hi
  obtain rfl : old = new := Option.some.inj (ho.symm.trans hn)
  simp

lemma losesFire_setActive {terrain : Terrain} {cell : Cell} {id : Nat}
    (h : terrain.HasBeside .fire cell id) :
    terrain.losesFire (terrain.setActive .fire id false) = true := by
  obtain ⟨hazard, hh, ha⟩ := h
  have hf : (terrain.flags .fire)[id]? = some true := by
    rw [Bool.and_eq_true] at ha
    exact List.getElem?_map.trans ((congrArg (Option.map _) hh).trans (congrArg some ha.1))
  obtain ⟨hl, -⟩ := List.getElem?_eq_some_iff.mp hf
  have hs : ((terrain.setActive .fire id false).flags .fire)[id]? = some false := by
    rw [flags_setActive, Function.update_self, List.getElem?_set_self hl]
  exact List.any_eq_true.mpr
    ⟨(true, false), List.mem_of_getElem? (List.getElem?_zip_eq_some.mpr ⟨hf, hs⟩), rfl⟩

end Terrain

variable {α : Type} [Scalar α]

namespace Moment

def isDousing (moment : Moment α) : Bool :=
  match moment.happening with
  | .act .putOutFire => moment.scene.terrain.losesFire moment.after.terrain
  | _ => false

structure Douses (moment : Moment α) (id : Nat) (left : Option Nat) : Prop where
  isLeast : IsLeast {id | moment.scene.IsBeside .fire id} id
  after_eq : moment.after = { moment.scene.withoutHazard .fire id with extinguishers := left }
  events_eq : moment.events =
    .visibility (.hazard .fire id) false :: left.toList.map .extinguishers

lemma happening_of_isDousing {moment : Moment α} (h : moment.isDousing = true) :
    moment.happening = .act .putOutFire := by
  rw [isDousing] at h
  split at h
  · assumption
  · exact absurd h Bool.false_ne_true

lemma attempt_cases {moment : Moment α} (h : moment.happening = .act .putOutFire) :
    (moment.isDousing = false ∧ moment.scene.CannotDouse ∧ moment.after = moment.scene ∧
      moment.events = [.say (if moment.scene.extinguishers = some 0 then "Estou sem extintores!"
        else "Não posso fazer isso aqui!")]) ∨
    ∃ id left, moment.isDousing = true ∧ moment.scene.extinguishers = left.map (· + 1) ∧
      moment.Douses id left := by
  have hd : moment.isDousing = moment.scene.terrain.losesFire moment.after.terrain := by
    rw [isDousing, h]
  have hp : moment.scene.PutsOut (moment.after, moment.events) := by
    rw [after, events, h]
    exact moment.scene.putsOut
  generalize hr : (moment.after, moment.events) = result at hp
  cases hp with
  | fails hc =>
    obtain ⟨ha, hm⟩ := Prod.mk.inj hr
    rw [ha, Terrain.losesFire_self] at hd
    exact Or.inl ⟨hd, hc, ha, hm⟩
  | @succeeds id left hl he =>
    obtain ⟨ha, hm⟩ := Prod.mk.inj hr
    rw [ha] at hd
    exact Or.inr ⟨id, left, hd.trans (Terrain.losesFire_setActive hl.1), he, hl, ha, hm⟩

lemma isDousing_eq_false_iff {moment : Moment α} (h : moment.happening = .act .putOutFire) :
    moment.isDousing = false ↔ moment.scene.CannotDouse := by
  obtain ⟨hd, hc, -⟩ | ⟨id, left, hd, he, hs⟩ := attempt_cases h
  · exact iff_of_true hd hc
  · refine iff_of_false (by simp [hd]) ?_
    rintro (hz | hn)
    · cases left <;> simp [hz] at he
    · exact hn id hs.isLeast.1

lemma extinguishers_after {moment : Moment α} (hr : moment.happening.isReset = false)
    (hd : moment.isDousing = false) : moment.after.extinguishers = moment.scene.extinguishers := by
  by_cases hp : moment.happening = .act .putOutFire
  · obtain ⟨-, -, ha, -⟩ | ⟨id, left, hs, -⟩ := attempt_cases hp
    · rw [ha]
    · exact absurd (hd.symm.trans hs) Bool.false_ne_true
  · by_cases hc : moment.happening = .act .collect
    · rw [after, hc]
      show moment.scene.collect.1.extinguishers = moment.scene.extinguishers
      have hm := moment.scene.collects
      generalize moment.scene.collect = result at hm
      cases hm <;> rfl
    · obtain ⟨terrain, actor, ha⟩ := exists_after_eq hr hc hp
      rw [ha]

end Moment

namespace Scene

variable {scene : Scene α} {happenings : List (Happening α)}

lemma charges_through (hn : ∀ happening ∈ happenings, happening.isReset = false) {charges : Nat}
    (h : scene.extinguishers = some charges) :
    let doused := (scene.moments happenings).filter Moment.isDousing
    (∃ left, (scene.through happenings).extinguishers = some left ∧
      left + doused.length = charges) ∧
    ∀ (k : Nat) (moment : Moment α), doused[k]? = some moment →
      ∃ id, moment.Douses id (some (charges - (k + 1))) := by
  induction happenings generalizing scene charges with
  | nil => exact ⟨⟨charges, h, rfl⟩, fun k moment hk => absurd hk (by simp [moments])⟩
  | cons happening happenings ih =>
    obtain ⟨hr, hn⟩ := List.forall_mem_cons.mp hn
    let first : Moment α := ⟨scene, happening⟩
    have hm : scene.moments (happening :: happenings) = first :: first.after.moments happenings :=
      rfl
    have ht : scene.through (happening :: happenings) = first.after.through happenings := rfl
    cases hd : first.isDousing with
    | true =>
      obtain ⟨hf, -⟩ | ⟨id, left, -, he, hs⟩ :=
        Moment.attempt_cases (Moment.happening_of_isDousing hd)
      · exact absurd (hf.symm.trans hd) Bool.false_ne_true
      · obtain ⟨left, rfl, rfl⟩ := Option.map_eq_some_iff.mp (he.symm.trans h)
        obtain ⟨⟨rest, hrest, hsum⟩, hk⟩ := ih hn (congrArg Scene.extinguishers hs.after_eq)
        -- One charge less is left for the rest, so what the rest tells of counts from there.
        rw [hm, ht, List.filter_cons_of_pos hd]
        refine ⟨⟨rest, hrest, ?_⟩, fun k moment hmom => ?_⟩
        · rw [List.length_cons, ← Nat.add_assoc, hsum]
        · cases k with
          | zero =>
            obtain rfl := Option.some.inj hmom
            exact ⟨id, hs⟩
          | succ k =>
            rw [Nat.add_sub_add_right]
            exact hk k moment hmom
    | false =>
      rw [hm, ht, List.filter_cons_of_neg (by simp [hd])]
      exact ih hn ((Moment.extinguishers_after hr hd).trans h)

end Scene

namespace Puzzle

variable (puzzle : Puzzle) (pace : Pace α) (calls : List (Call α))

/-- Where charges are counted, those left and the fires put out since the last reset add up to those
given out, and each fire put out is told with the charges left. An attempt fails just if there is no
charge or no fire, and then it does nothing but say so. -/
theorem charges_add_up {charges : Nat} (h : puzzle.extinguishers = some charges) :
    let moments := Moment.sinceReset ((puzzle.table pace).moments calls)
    let doused := moments.filter Moment.isDousing
    (∃ left, ((puzzle.table pace).after calls).game.scene.extinguishers = some left ∧
      left + doused.length = charges) ∧
    (∀ (k : Nat) (moment : Moment α), doused[k]? = some moment →
      ∃ id, moment.Douses id (some (charges - (k + 1)))) ∧
    ∀ moment ∈ moments, moment.happening = .act .putOutFire →
      (moment.isDousing = false ↔ moment.scene.CannotDouse) ∧
      (moment.scene.CannotDouse → moment.after = moment.scene ∧
        moment.events = [.say (if moment.scene.extinguishers = some 0 then "Estou sem extintores!"
          else "Não posso fazer isso aqui!")]) := by
  intro moments doused
  obtain ⟨recent, hm, hn, ht⟩ := puzzle.exists_sinceReset pace calls
  have hs : (puzzle.scene : Scene α).extinguishers = some charges := h
  have hd : doused = ((puzzle.scene : Scene α).moments recent).filter Moment.isDousing :=
    congrArg (List.filter Moment.isDousing) hm
  rw [ht, hd]
  obtain ⟨hsum, hk⟩ := Scene.charges_through hn hs
  refine ⟨hsum, hk, fun moment _ ha => ⟨Moment.isDousing_eq_false_iff ha, fun hc => ?_⟩⟩
  obtain ⟨-, -, hafter, htext⟩ | ⟨id, left, hd, -⟩ := Moment.attempt_cases ha
  · exact ⟨hafter, htext⟩
  · rw [(Moment.isDousing_eq_false_iff ha).mpr hc] at hd
    exact absurd hd Bool.false_ne_true

theorem charges_add_up_relit :
    let puzzle : Puzzle :=
      { id := "stove", title := "Stove", start := ⟨0, 0⟩, fires := [⟨1, 0⟩]
        extinguishers := some 2, flicker := some ⟨[0], []⟩ }
    let calls : List (Call Rat) :=
      [.start "", .act .putOutFire, .act .putOutFire, .act .alternate, .act .putOutFire,
        .act .alternate, .act .putOutFire]
    let moments := Moment.sinceReset ((puzzle.table Pace.standard).moments calls)
    moments.length = 6 ∧ (moments.filter Moment.isDousing).length = 2 ∧
    ((puzzle.table Pace.standard).after calls).game.scene.extinguishers = some 0 ∧
    ∃ moment, (moments.filter Moment.isDousing)[0]? = some moment ∧
      ∃ id, moment.Douses id (some 1) := by
  intro puzzle calls moments
  have hd : (moments.filter Moment.isDousing).length = 2 := by decide +kernel
  obtain ⟨⟨left, hl, hs⟩, hk, -⟩ := puzzle.charges_add_up Pace.standard calls rfl
  refine ⟨by decide +kernel, hd, ?_, ?_⟩
  · rw [hl]
    exact congrArg some (Nat.add_right_cancel (hs.trans (by rw [hd])))
  · have hm := List.getElem?_eq_getElem (show 0 < (moments.filter Moment.isDousing).length by omega)
    exact ⟨_, hm, hk 0 _ hm⟩

/-- Where charges are not counted, they never run out: an attempt succeeds wherever there is a
fire. -/
theorem fires_put_out_uncounted (h : puzzle.extinguishers = none) :
    ((puzzle.table pace).after calls).game.scene.extinguishers = none ∧
    ∀ moment ∈ (puzzle.table pace).moments calls, moment.happening = .act .putOutFire →
      (moment.isDousing = true ↔ ∃ id, moment.scene.IsBeside .fire id) ∧
      (moment.isDousing = true → ∃ id, moment.Douses id none) ∧
      (moment.isDousing = false → moment.after = moment.scene ∧
        moment.events = [Scene.refuse]) := by
  have hu : ∀ scene : Scene α, scene.IsOf puzzle → scene.extinguishers = none := by
    intro scene hs
    rw [← Option.not_isSome_iff_eq_none, hs.isSome_extinguishers, h]
    exact Bool.false_ne_true
  obtain ⟨happenings, hm, ht⟩ := (puzzle.table pace).exists_unfolds calls
  have hs : (puzzle.table pace).game.scene.IsOf puzzle := Scene.isOf_scene puzzle
  refine ⟨hu _ (ht.through_eq ▸ hs.through happenings), fun moment hmem ha => ?_⟩
  rw [hm] at hmem
  have hn := hu moment.scene (hs.of_mem_moments hmem)
  obtain ⟨hd, hc, hafter, htext⟩ | ⟨id, left, hd, he, hdouses⟩ := Moment.attempt_cases ha
  · have hfire : ∀ id, ¬ moment.scene.IsBeside .fire id :=
      hc.resolve_left fun hz => nomatch hn.symm.trans hz
    rw [hd]
    refine ⟨iff_of_false Bool.false_ne_true fun ⟨id, hb⟩ => hfire id hb, nofun, fun _ => ?_⟩
    exact ⟨hafter, by rw [htext, hn]; rfl⟩
  · obtain rfl : left = none := Option.map_eq_none_iff.mp (he.symm.trans hn)
    rw [hd]
    exact ⟨iff_of_true rfl ⟨id, hdouses.isLeast.1⟩, fun _ => ⟨id, hdouses⟩, nofun⟩

theorem fires_put_out_uncounted_twice :
    let puzzle : Puzzle :=
      { id := "hearth", title := "Hearth", start := ⟨1, 0⟩, fires := [⟨0, 0⟩, ⟨2, 0⟩] }
    let calls : List (Call Rat) := [.act .putOutFire, .act .putOutFire]
    let table := (puzzle.table Pace.standard).after calls
    puzzle.extinguishers = none ∧ table.game.scene.extinguishers = none ∧
    table.game.scene.terrain.flags .fire = [false, false] ∧
    ∀ moment ∈ (puzzle.table Pace.standard).moments calls, ∃ id, moment.Douses id none := by
  intro puzzle calls table
  obtain ⟨he, hm⟩ := puzzle.fires_put_out_uncounted Pace.standard calls rfl
  have hd : ∀ moment ∈ (puzzle.table Pace.standard).moments calls, moment.isDousing = true :=
    List.all_eq_true.mp (by decide +kernel)
  refine ⟨rfl, he, by decide +kernel, fun moment hmem => ?_⟩
  have hp := Moment.happening_of_isDousing (hd moment hmem)
  exact (hm moment hmem hp).2.1 (hd moment hmem)

theorem fire_put_out_without_extinguishers :
    let puzzle : Puzzle := { id := "hearth", title := "Hearth", start := ⟨0, 0⟩, fires := [⟨1, 0⟩] }
    puzzle.extinguishers = none ∧
    ¬ ∀ calls : List (Call Rat), ∀ moment ∈ (puzzle.table Pace.standard).moments calls,
      moment.isDousing = false := by
  intro puzzle
  refine ⟨rfl, fun h => ?_⟩
  let moment : Moment Rat := ⟨puzzle.scene, .act .putOutFire⟩
  have hm : moment ∈ (puzzle.table Pace.standard).moments [.act .putOutFire] :=
    List.mem_singleton_self moment
  exact absurd (h [.act .putOutFire] moment hm) (by decide +kernel)

end Puzzle

end RobotPuzzle
