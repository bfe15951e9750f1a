import RobotPuzzle.Proofs.Game.History
import RobotPuzzle.Proofs.Game.Running
import RobotPuzzle.Proofs.Run.Accounting

namespace RobotPuzzle

def Event.isFinale {α : Type} : Event α → Bool
  | console line => line = .info "Todos os cristais coletados com sucesso!"
  | _ => false

lemma Event.isFinale_say {α : Type} (text : String) : (say text : Event α).isFinale =
    decide (text = "Todos os cristais coletados com sucesso!") := by
  simp [say, isFinale, ConsoleLine.info]

namespace Scene

variable {α : Type}

def hasAll (scene : Scene α) : Bool := scene.collected.all id

structure Keeps (scene later : Scene α) : Prop where
  length_eq : later.collected.length = scene.collected.length
  collected {index : Nat} :
    scene.collected[index]? = some true → later.collected[index]? = some true

lemma Keeps.of_eq {scene later : Scene α} (h : later.collected = scene.collected) :
    scene.Keeps later :=
  ⟨congrArg List.length h, fun hi => h ▸ hi⟩

lemma Keeps.trans {scene next last : Scene α} (h : scene.Keeps next) (hn : next.Keeps last) :
    scene.Keeps last :=
  ⟨hn.length_eq.trans h.length_eq, fun hi => hn.collected (h.collected hi)⟩

lemma Keeps.hasAll {scene later : Scene α} (h : scene.Keeps later) (ha : scene.hasAll = true) :
    later.hasAll = true := by
  refine List.all_eq_true.mpr fun flag hm => ?_
  obtain ⟨i, hi⟩ := List.getElem?_of_mem hm
  have hl : i < scene.collected.length := h.length_eq ▸ (List.getElem?_eq_some_iff.mp hi).1
  have ht : scene.collected[i] = true := List.all_eq_true.mp ha _ (List.getElem_mem hl)
  have hk := h.collected ((List.getElem?_eq_getElem hl).trans (congrArg some ht))
  exact Option.some.inj (hi.symm.trans hk)

lemma countP_praise {collected : List Bool} (h : 2 ≤ collected.length) :
    ((praise collected).map (Event.say (α := α))).countP Event.isFinale =
      (collected.all id).toNat := by
  rw [praise, if_neg (by omega)]
  cases collected.all id <;> rfl

variable [Scalar α] {scene : Scene α}

lemma HasCrystal.hasAll {index : Nat} (h : scene.HasCrystal index) : scene.hasAll = false :=
  List.all_eq_false.mpr ⟨false, List.mem_of_getElem? h.2, Bool.false_ne_true⟩

lemma isWon_eq (h : scene.puzzle.winRule = .allCollected) : scene.isWon = scene.hasAll := by
  rw [isWon, h]
  exact Bool.and_true _

end Scene

variable {α : Type} [Scalar α]

lemma Motion.not_isFinale (motion : Motion α) (pace : Pace α) (scene : Scene α) :
    ∀ event ∈ (motion.step pace scene).2.2, event.isFinale = false := by
  obtain ⟨peril, h⟩ | ⟨progress, actor, warns, h, -⟩ := motion.step_cases pace scene
  · rw [h]
    refine List.forall_mem_singleton.mpr ((Event.isFinale_say _).trans ?_)
    cases peril with
    | trap => decide
    | hazard kind => cases kind <;> decide
  · rw [h]
    cases warns with
    | true => exact List.forall_mem_cons.mpr ⟨rfl, List.forall_mem_singleton.mpr rfl⟩
    | false => exact List.forall_mem_singleton.mpr rfl

namespace Moment

variable {moment : Moment α}

structure Takes (moment : Moment α) (index : Nat) : Prop where
  isLeast : IsLeast {i | moment.scene.HasCrystal i} index
  after_eq :
    moment.after = { moment.scene with collected := moment.scene.collected.set index true }
  events_eq : moment.events =
    .visibility (.crystal index) false :: (Scene.praise moment.after.collected).map .say

lemma collect_cases (h : moment.happening = .act .collect) : (∃ index, moment.Takes index) ∨
    (∀ i, ¬ moment.scene.HasCrystal i) ∧ moment.after = moment.scene ∧
      moment.events = [.say "Robô não está sobre o cristal."] := by
  have hc : moment.scene.Collects (moment.after, moment.events) := by
    rw [after, events, h]
    exact moment.scene.collects
  generalize hr : (moment.after, moment.events) = result at hc
  cases hc with
  | @hit index hl =>
    obtain ⟨ha, he⟩ := Prod.mk.inj hr
    exact Or.inl ⟨index, hl, ha, by rw [he, ha]⟩
  | miss hn =>
    obtain ⟨ha, he⟩ := Prod.mk.inj hr
    exact Or.inr ⟨hn, ha, he⟩

lemma collected_after (hr : moment.happening.isReset = false)
    (hc : moment.happening ≠ .act .collect) :
    moment.after.collected = moment.scene.collected := by
  by_cases hp : moment.happening = .act .putOutFire
  · have ha : moment.after = moment.scene.putOutFire.1 := by rw [after, hp]; rfl
    have hm := moment.scene.putsOut
    rw [ha]
    generalize moment.scene.putOutFire = result at hm
    cases hm <;> rfl
  · obtain ⟨terrain, actor, ha⟩ := exists_after_eq hr hc hp
    rw [ha]

lemma keeps (hr : moment.happening.isReset = false) : moment.scene.Keeps moment.after := by
  by_cases hc : moment.happening = .act .collect
  · obtain ⟨index, ht⟩ | ⟨-, ha, -⟩ := collect_cases hc
    · rw [ht.after_eq]
      refine ⟨List.length_set, fun {i} hi => ?_⟩
      by_cases he : index = i
      · subst he
        exact List.getElem?_set_self (List.getElem?_eq_some_iff.mp hi).1
      · exact (List.getElem?_set_ne he).trans hi
    · exact .of_eq (congrArg Scene.collected ha)
  · exact .of_eq (collected_after hr hc)

lemma not_isFinale (hr : moment.happening.isReset = false)
    (hc : moment.happening ≠ .act .collect) : ∀ event ∈ moment.events, event.isFinale = false := by
  obtain ⟨scene, happening⟩ := moment
  cases happening with
  | act action =>
    cases action with
    | collect => exact absurd rfl hc
    | putOutFire =>
      show ∀ event ∈ scene.putOutFire.2, event.isFinale = false
      have hp := scene.putsOut
      generalize scene.putOutFire = result at hp
      cases hp with
      | fails _ =>
        refine List.forall_mem_singleton.mpr ((Event.isFinale_say _).trans ?_)
        split <;> decide
      | succeeds left _ _ =>
        exact List.forall_mem_cons.mpr ⟨rfl, List.forall_mem_map.mpr fun _ _ => rfl⟩
    | coverHole =>
      show ∀ event ∈ scene.coverHole.2, event.isFinale = false
      have hp := scene.covers
      generalize scene.coverHole = result at hp
      cases hp with
      | nothing _ =>
        exact List.forall_mem_singleton.mpr ((Event.isFinale_say _).trans (by decide))
      | covered _ => exact List.forall_mem_singleton.mpr rfl
    | alternate =>
      show ∀ event ∈ scene.alternate.2, event.isFinale = false
      rw [Scene.alternate]
      cases scene.puzzle.flicker with
      | none => exact List.forall_mem_nil _
      | some flicker =>
        intro event hm
        obtain ⟨id, -, he⟩ := List.mem_filterMap.mp hm
        obtain ⟨hazard, -, rfl⟩ := Option.map_eq_some_iff.mp he
        rfl
    | reset => exact absurd hr.symm Bool.false_ne_true
    | place actor => exact List.forall_mem_nil _
  | motion motion pace => exact motion.not_isFinale pace scene
  | rejected rejection =>
    refine List.forall_mem_singleton.mpr (decide_eq_false fun h => ?_)
    have hs : Severity.error = .info := by
      cases rejection <;> exact congrArg ConsoleLine.severity h
    exact absurd hs (by decide)
  | closed won => exact List.forall_mem_singleton.mpr rfl

lemma finales_add_up (hr : moment.happening.isReset = false)
    (hl : 2 ≤ moment.scene.collected.length) :
    moment.events.countP Event.isFinale + moment.scene.hasAll.toNat =
      moment.after.hasAll.toNat := by
  by_cases hc : moment.happening = .act .collect
  · obtain ⟨index, ht⟩ | ⟨-, ha, he⟩ := collect_cases hc
    · have hn : 2 ≤ moment.after.collected.length := (keeps hr).length_eq ▸ hl
      rw [ht.isLeast.1.hasAll, ht.events_eq, List.countP_cons_of_neg Bool.false_ne_true,
        Scene.countP_praise hn]
      rfl
    · rw [ha, he]
      exact Nat.zero_add _
  · rw [List.countP_eq_zero.mpr fun event hm => Bool.eq_false_iff.mp (not_isFinale hr hc event hm),
      Scene.hasAll, Scene.hasAll, collected_after hr hc, Nat.zero_add]

lemma exists_isFinale_iff (hr : moment.happening.isReset = false)
    (hl : 2 ≤ moment.scene.collected.length) :
    (∃ event ∈ moment.events, event.isFinale = true) ↔
      moment.happening = .act .collect ∧ moment.scene.hasAll = false ∧
        moment.after.hasAll = true := by
  have hs := finales_add_up hr hl
  rw [← List.countP_pos_iff]
  constructor
  · intro hp
    have hc : moment.happening = .act .collect := by
      by_contra hc
      obtain ⟨event, hm, he⟩ := List.countP_pos_iff.mp hp
      exact Bool.false_ne_true ((not_isFinale hr hc event hm).symm.trans he)
    refine ⟨hc, ?_⟩
    cases hb : moment.scene.hasAll with
    | true =>
      have ha := Bool.toNat_le moment.after.hasAll
      rw [hb, Bool.toNat_true] at hs
      omega
    | false =>
      cases ha : moment.after.hasAll with
      | true => exact ⟨rfl, rfl⟩
      | false =>
        rw [hb, ha, Bool.toNat_false] at hs
        omega
  · rintro ⟨-, hb, ha⟩
    rw [hb, ha, Bool.toNat_false, Bool.toNat_true] at hs
    omega

end Moment

namespace Scene

variable {scene : Scene α} {happenings : List (Happening α)}

lemma keeps_through (hn : ∀ happening ∈ happenings, happening.isReset = false) :
    scene.Keeps (scene.through happenings) := by
  refine kept_through (fun next happening hm hk => hk.trans ?_) (.of_eq rfl)
  let moment : Moment α := ⟨next, happening⟩
  show moment.scene.Keeps moment.after
  exact Moment.keeps (hn happening hm)

lemma finales_through (hn : ∀ happening ∈ happenings, happening.isReset = false)
    (hl : 2 ≤ scene.collected.length) :
    ((scene.moments happenings).flatMap Moment.events).countP Event.isFinale +
      scene.hasAll.toNat = (scene.through happenings).hasAll.toNat := by
  induction happenings generalizing scene with
  | nil => exact Nat.zero_add _
  | cons happening happenings ih =>
    obtain ⟨hr, hn⟩ := List.forall_mem_cons.mp hn
    let first : Moment α := ⟨scene, happening⟩
    have hk : first.scene.Keeps first.after := Moment.keeps hr
    have hf : first.events.countP Event.isFinale + scene.hasAll.toNat = first.after.hasAll.toNat :=
      Moment.finales_add_up hr hl
    have hm : scene.moments (happening :: happenings) = first :: first.after.moments happenings :=
      rfl
    rw [hm, List.flatMap_cons, List.countP_append, Nat.add_right_comm, hf, Nat.add_comm]
    exact ih hn (hk.length_eq ▸ hl)

lemma keeps_of_mem_moments (hn : ∀ happening ∈ happenings, happening.isReset = false)
    {moment : Moment α} (hm : moment ∈ scene.moments happenings) :
    moment.happening.isReset = false ∧ moment.after.Keeps (scene.through happenings) := by
  obtain ⟨earlier, later, rfl, hs⟩ := exists_split hm
  obtain ⟨hr, hl⟩ := List.forall_mem_cons.mp (List.forall_mem_append.mp hn).2
  rw [through_append, hs]
  exact ⟨hr, keeps_through hl⟩

end Scene

lemma Run.not_isReset (run : Run α) (cancelled : Bool) (scene : Scene α) :
    ∀ happening ∈ run.happenings cancelled scene, happening.isReset = false := by
  refine List.forall_mem_append.mpr ⟨List.forall_mem_map.mpr fun motion _ => rfl, ?_⟩
  refine List.forall_mem_map.mpr fun action ha => ?_
  obtain ⟨entry, -, he⟩ := List.mem_filterMap.mp ha
  cases entry with
  | performed c => cases c <;> cases he <;> rfl
  | _ => exact absurd he (by simp [Entry.action?])

namespace Table

variable {table : Table α} {index : Nat}

lemma not_isReset {call : Call α} (hr : call ≠ .reset) (ha : call ≠ .act .reset)
    (hs : ∀ code index, call = .start code → (table.start code).2.2 ≠ .ok index) :
    ∀ happening ∈ table.happenings call, happening.isReset = false := by
  cases call with
  | start code =>
    rw [happenings]
    split
    · rename_i found ho
      exact absurd ho (hs code found rfl)
    · exact List.forall_mem_nil _
    · exact List.forall_mem_singleton.mpr rfl
  | reset => exact absurd rfl hr
  | alternate =>
    rw [happenings]
    split
    · exact List.forall_mem_nil _
    · exact List.forall_mem_singleton.mpr rfl
  | tick other =>
    rw [happenings]
    cases table.plays[other]? with
    | none => exact List.forall_mem_nil _
    | some play => exact play.run.not_isReset (table.isCancelled play) table.game.scene
  | cancel other => exact List.forall_mem_nil _
  | finish other ending =>
    rw [happenings]
    cases table.plays[other]? with
    | none => exact List.forall_mem_nil _
    | some play =>
      rw [Option.elim_some]
      split
      · exact List.forall_mem_singleton.mpr rfl
      · exact List.forall_mem_nil _
  | act action =>
    refine List.forall_mem_singleton.mpr ?_
    cases action with
    | reset => exact absurd rfl ha
    | _ => rfl
  | frame run cancelled => exact run.not_isReset cancelled table.game.scene

lemma keeps_or_hasPassed (hs : table.HasIssued) (hi : index < table.plays.length) {call : Call α}
    (hc : call ≠ .act .reset) : table.game.scene.Keeps (table.call call).1.game.scene ∨
      (table.call call).1.HasPassed index := by
  by_cases hr : call = .reset
  · rw [hr]
    exact Or.inr (hasPassed_reset hs hi)
  by_cases ho : ∃ code found, call = .start code ∧ (table.start code).2.2 = .ok found
  · obtain ⟨code, found, rfl, ho⟩ := ho
    exact Or.inr (hasPassed_start hs ho hi)
  · left
    rw [← (table.unfolds_call call).through_eq]
    apply Scene.keeps_through
    apply not_isReset hr hc
    exact fun code found he hf => ho ⟨code, found, he, hf⟩

lemma keeps_after (hs : table.HasIssued) (hi : index < table.plays.length) {calls : List (Call α)}
    (hc : .act .reset ∉ calls) (hp : ¬ (table.after calls).HasPassed index) :
    table.game.scene.Keeps (table.after calls).game.scene := by
  induction calls generalizing table with
  | nil => exact .of_eq rfl
  | cons call calls ih =>
    obtain ⟨hne, hc⟩ := List.ne_and_not_mem_of_not_mem_cons hc
    have hissued := (table.controls_call call).hasIssued hs
    rcases keeps_or_hasPassed hs hi hne.symm with hk | hpassed
    · exact hk.trans (ih hissued (lt_length_after hi [call]) hc hp)
    · exact absurd (hasPassed_after hissued hpassed calls) hp

end Table

/-- Since the last reset, a robot that collects has taken the first crystal that was still there
where it stood, and no other crystal has gone or come back. The whole set is announced at most once,
by whoever completes it. Where that is all it takes to win, a level that is won stays won, and so
does a run that had all crystals and was not superseded, unless it is cancelled. -/
theorem Puzzle.crystals_stay_collected (puzzle : Puzzle) (pace : Pace α) (calls : List (Call α)) :
    let table := (puzzle.table pace).after calls
    let moments := Moment.sinceReset ((puzzle.table pace).moments calls)
    (∀ moment ∈ moments,
      (moment.happening = .act .collect → (∃ index, moment.Takes index) ∨
        (∀ i, ¬ moment.scene.HasCrystal i) ∧ moment.after = moment.scene ∧
          moment.events = [.say "Robô não está sobre o cristal."]) ∧
      (moment.happening ≠ .act .collect → moment.after.collected = moment.scene.collected) ∧
      moment.scene.Keeps moment.after ∧ moment.after.Keeps table.game.scene) ∧
    (2 ≤ puzzle.crystals.length →
      (moments.flatMap Moment.events).countP Event.isFinale ≤ 1 ∧
      ∀ moment ∈ moments, (∃ event ∈ moment.events, event.isFinale = true) ↔
        moment.happening = .act .collect ∧ moment.scene.hasAll = false ∧
          moment.after.hasAll = true) ∧
    (puzzle.winRule = .allCollected →
      (∀ moment ∈ moments, (moment.scene.isWon = true → moment.after.isWon = true) ∧
        (moment.after.isWon = true → table.game.scene.isWon = true)) ∧
      ∀ earlier later index, calls = earlier ++ later →
        index < ((puzzle.table pace).after earlier).plays.length →
        ((puzzle.table pace).after earlier).game.scene.hasAll = true →
        .act .reset ∉ later → ¬ table.HasPassed index →
        ∀ ending, ending = .completed ∨ ending = .trapped →
          (table.finish index ending).1 = ⟨ending, true⟩ ∧
          (table.finish index ending).2.2 = [.finished true]) := by
  intro table moments
  obtain ⟨recent, hm, hn, ht⟩ := puzzle.exists_sinceReset pace calls
  have hof : (puzzle.scene : Scene α).IsOf puzzle := Scene.isOf_scene puzzle
  have hmem : ∀ moment ∈ moments, moment.scene.IsOf puzzle ∧ moment.happening.isReset = false ∧
      moment.after.Keeps table.game.scene := by
    intro moment h
    rw [show moments = _ from hm] at h
    rw [show table.game.scene = _ from ht]
    exact ⟨hof.of_mem_moments h, Scene.keeps_of_mem_moments hn h⟩
  have hlast : table.game.scene.IsOf puzzle := by
    rw [show table.game.scene = _ from ht]
    exact hof.through recent
  refine ⟨fun moment h => ?_, fun hl => ⟨?_, fun moment h => ?_⟩, fun hw =>
    ⟨fun moment h => ?_, ?_⟩⟩
  · obtain ⟨-, hr, hk⟩ := hmem moment h
    exact ⟨Moment.collect_cases, Moment.collected_after hr, Moment.keeps hr, hk⟩
  · have hs := Scene.finales_through hn (hof.length_collected ▸ hl)
    have hle := Bool.toNat_le ((puzzle.scene : Scene α).through recent).hasAll
    rw [show moments = _ from hm]
    omega
  · obtain ⟨ho, hr, -⟩ := hmem moment h
    exact Moment.exists_isFinale_iff hr (ho.length_collected ▸ hl)
  · obtain ⟨ho, hr, hk⟩ := hmem moment h
    have ha : moment.after.IsOf puzzle := ho.undergo moment.happening
    rw [Scene.isWon_eq (ho.puzzle_eq ▸ hw), Scene.isWon_eq (ha.puzzle_eq ▸ hw),
      Scene.isWon_eq (hlast.puzzle_eq ▸ hw)]
    exact ⟨(Moment.keeps hr).hasAll, hk.hasAll⟩
  · intro earlier later index hcalls hi hall hr hp ending he
    have hissued : ((puzzle.table pace).after earlier).HasIssued :=
      Table.hasIssued_after (Table.isSound_table puzzle pace).issued earlier
    have hafter : table = ((puzzle.table pace).after earlier).after later := by
      rw [← Table.after_append, ← hcalls]
    have hk : ((puzzle.table pace).after earlier).game.scene.Keeps table.game.scene :=
      hafter ▸ Table.keeps_after hissued hi hr (hafter ▸ hp)
    have hwon : table.game.scene.isWon = true := by
      rw [Scene.isWon_eq (hlast.puzzle_eq ▸ hw)]
      exact hk.hasAll hall
    have hplay := List.getElem?_eq_getElem (hafter ▸ Table.lt_length_after hi later)
    have hs := not_not.mp fun hs => hp ⟨_, hplay, hs⟩
    rw [Table.finish_of_current hplay hs, hwon]
    rcases he with rfl | rfl <;> exact ⟨rfl, rfl⟩

theorem Puzzle.crystals_stay_collected_pair :
    let puzzle : Puzzle :=
      { id := "pair", title := "Pair", start := ⟨0, 0⟩, crystals := [⟨0, 0⟩, ⟨0, 0⟩] }
    let earlier : List (Call Rat) := [.start "", .act .collect, .act .collect]
    let table := (puzzle.table Pace.standard).after (earlier ++ [.act .collect])
    let moments := Moment.sinceReset
      ((puzzle.table Pace.standard).moments (earlier ++ [.act .collect]))
    2 ≤ puzzle.crystals.length ∧ puzzle.winRule = .allCollected ∧
    moments.length = 3 ∧ (moments.flatMap Moment.events).countP Event.isFinale ≤ 1 ∧
    (∃ moment ∈ moments, ∃ event ∈ moment.events, event.isFinale = true) ∧
    (table.finish 0 .trapped).1 = ⟨.trapped, true⟩ := by
  intro puzzle earlier table moments
  have hl : 2 ≤ puzzle.crystals.length := by decide
  obtain ⟨-, hfinale, hwin⟩ :=
    crystals_stay_collected puzzle (Pace.standard : Pace Rat) (earlier ++ [.act .collect])
  obtain ⟨hcount, hiff⟩ := hfinale hl
  refine ⟨hl, rfl, by decide +kernel, hcount, ?_, ?_⟩
  · let last : Moment Rat :=
      ⟨((puzzle.table Pace.standard).after [.start "", .act .collect]).game.scene, .act .collect⟩
    have hm : last ∈ moments := List.mem_of_getElem? (i := 1) rfl
    exact ⟨last, hm, (hiff last hm).mpr ⟨rfl, by decide +kernel, by decide +kernel⟩⟩
  · have hp : ¬ table.HasPassed 0 := by
      rintro ⟨play, hp, hs⟩
      have hc : table.plays[0]?.map (·.signal) = some table.game.current := by decide +kernel
      rw [hp] at hc
      exact hs (Option.some.inj hc)
    exact ((hwin rfl).2 earlier [.act .collect] 0 rfl (by decide +kernel) (by decide +kernel)
      (by simp) hp .trapped (Or.inr rfl)).1

end RobotPuzzle
