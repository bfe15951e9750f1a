import RobotPuzzle.Proofs.Script.Nesting
import RobotPuzzle.Proofs.Script.Scan

namespace RobotPuzzle

def Command.IsMetBy (command : Command) (governor : Option Condition) : Prop :=
  ∀ sensor, command.requiredSensor = some sensor → governor = some (.sensor sensor)

def Program.IsGuarded (program : Program) : Prop :=
  ∀ item ∈ program.governed, item.1.IsMetBy item.2

namespace Script

def noGuard : Guard := fun _ _ => true

lemma sensorGuard_iff {above : List Placed} {c : Command} :
    sensorGuard above c = true ↔ c.IsMetBy (governing? above) := by
  cases hr : c.requiredSensor <;> simp [sensorGuard, Command.IsMetBy, hr]

def commandLines (lines : List Line) : List Line :=
  lines.filter fun line => (command? line.text).isSome

/-- The commands of the program stand on `lines`, one on each, and `line` is the first whose command
lacks its condition. -/
def IsFirstUnmet (lines : List Line) (program : Program) (line : Line) : Prop :=
  ∃ before c governor after,
    lines.zip program.governed = before ++ (line, c, governor) :: after ∧
      (∀ item ∈ before, item.2.1.IsMetBy item.2.2) ∧ ¬ c.IsMetBy governor

lemma shape_command_iff {text : List Char} {c : Command} :
    shape? text = some (.command c) ↔ command? text = some c := by
  rw [shape?]
  cases command? text with
  | some d => simp
  | none =>
    cases header? text with
    | some h => simp
    | none => simp; split <;> simp

lemma Reads.command {text : List Char} {token : Token} (h : Reads text token) :
    command? text = token.command? := by
  have hn : ∀ s, shape? text = some s → (∀ c, s ≠ .command c) → command? text = none := by
    intro s hs hc
    by_contra ho
    obtain ⟨c, hl⟩ := Option.ne_none_iff_exists'.mp ho
    rw [shape_command_iff.mpr hl] at hs
    exact hc c (Option.some.inj hs).symm
  cases token with
  | command c => exact shape_command_iff.mp h
  | bareIf condition source =>
    obtain ⟨inner, hs, -⟩ := h
    exact hn _ hs (by simp)
  | blockIf condition source =>
    obtain ⟨inner, hs, -⟩ := h
    exact hn _ hs (by simp)
  | opening => exact hn _ h (by simp)
  | closing => exact hn _ h (by simp)

lemma Fits.of_guard {guard other : Guard} {above : List Placed} {below : List Line}
    {token : Token} (h : Fits guard above below token)
    (hg : ∀ c ∈ token.command?, other above c) : Fits other above below token := by
  cases token with
  | command c => exact hg c rfl
  | _ => exact h

lemma check_met {above : List Placed} {line : Line} {below : List Line} {token : Token}
    (h : check noGuard above line below = .ok token)
    (hm : ∀ c ∈ token.command?, c.IsMetBy (governing? above)) :
    check sensorGuard above line below = .ok token := by
  obtain ⟨hr, hf⟩ := check_ok_iff.mp h
  exact check_ok_iff.mpr ⟨hr, hf.of_guard fun c hc => sensorGuard_iff.mpr (hm c hc)⟩

lemma check_unmet {above : List Placed} {line : Line} {below : List Line} {c : Command}
    (h : check noGuard above line below = .ok (.command c))
    (hc : ¬ c.IsMetBy (governing? above)) :
    check sensorGuard above line below = .error .missingSensorCheck := by
  have hs : shape? line.text = some (.command c) := (check_ok_iff.mp h).1
  have hg : ¬ sensorGuard above c = true := fun hg => hc (sensorGuard_iff.mp hg)
  simp [check, hs, hg]

variable {guard : Guard} {limit : Option Nat} {above tokens : List Placed} {lines : List Line}

lemma Passes.scanned_lines (h : Passes guard limit above lines tokens) :
    (scanned above tokens).map Prod.fst = commandLines lines := by
  induction h with
  | nil => rfl
  | @cons above line token below tokens hc _ _ ih =>
    have hl := (check_ok_iff.mp hc).1.command
    cases ht : token.command? <;> simp_all [scanned, commandLines]

lemma Passes.scanned_commands (h : Passes guard limit above lines tokens) :
    (scanned above tokens).map (fun item => some item.2.1) =
      (commandLines lines).map (fun line => command? line.text) := by
  induction h with
  | nil => rfl
  | @cons above line token below tokens hc _ _ ih =>
    have hl := (check_ok_iff.mp hc).1.command
    cases ht : token.command? <;> simp_all [scanned, commandLines]

lemma Passes.weaken {other : Guard} (hg : ∀ above c, guard above c → other above c)
    (h : Passes guard limit above lines tokens) : Passes other none above lines tokens := by
  induction h with
  | nil above => exact .nil above
  | @cons above line token below tokens hc _ _ ih =>
    obtain ⟨hr, hf⟩ := check_ok_iff.mp hc
    refine .cons (check_ok_iff.mpr ⟨hr, hf.of_guard ?_⟩) rfl ih
    intro c ht
    obtain rfl := Token.command_eq_some.mp ht
    exact hg _ _ hf

lemma Passes.met (h : Passes noGuard none above lines tokens)
    (hm : ∀ item ∈ scanned above tokens, item.2.1.IsMetBy item.2.2) :
    Passes sensorGuard none above lines tokens := by
  induction h with
  | nil above => exact .nil above
  | @cons above line token below tokens hc he _ ih =>
    simp only [scanned, List.mem_append] at hm
    refine .cons (check_met hc ?_) he (ih fun item hi => hm item (Or.inr hi))
    intro c ht
    exact hm (line, c, governing? above) (Or.inl (by simp_all))

lemma Passes.unmet (h : Passes noGuard none above lines tokens)
    {before after : List (Line × Command × Option Condition)} {line : Line} {c : Command}
    {governor : Option Condition}
    (hs : scanned above tokens = before ++ (line, c, governor) :: after)
    (hm : ∀ item ∈ before, item.2.1.IsMetBy item.2.2) (hc : ¬ c.IsMetBy governor) :
    checkAll sensorGuard none above lines = .error (.faulty .missingSensorCheck line) := by
  induction h generalizing before with
  | nil => simp [scanned] at hs
  | @cons above first token below tokens hf he _ ih =>
    cases token with
    | command d =>
      simp only [scanned, Token.command?, Option.toList_some, List.map_cons, List.map_nil,
        List.singleton_append] at hs
      cases before with
      | nil =>
        simp only [List.nil_append, List.cons.injEq, Prod.mk.injEq] at hs
        obtain ⟨⟨rfl, rfl, rfl⟩, -⟩ := hs
        exact checkAll_cons_error (check_unmet hf hc)
      | cons item before =>
        obtain ⟨rfl, hr⟩ := List.cons.inj hs
        simp only [List.forall_mem_cons] at hm
        rw [checkAll_cons (check_met hf (by simpa [Token.command?] using hm.1)) he]
        exact ih hr hm.2
    | _ =>
      rw [checkAll_cons (check_met hf (by simp [Token.command?])) he]
      exact ih (by simpa [scanned, Token.command?] using hs) hm

lemma governed_eq_scanned {tokens : List Placed} {program : Program}
    (h : assemble tokens = .ok program) : (scanned [] tokens).map (·.2) = program.governed := by
  have hs := scanned_eq_governed (assemble_ok_iff.mp h) []
  simpa [Assembly.governed, Program.governed, Assembly.outerGoverned, governors,
    bareAbove?] using hs

lemma exists_first_unmet {items : List (Line × Command × Option Condition)}
    (h : ¬ ∀ item ∈ items, item.2.1.IsMetBy item.2.2) :
    ∃ before item after, items = before ++ item :: after ∧
      (∀ item ∈ before, item.2.1.IsMetBy item.2.2) ∧ ¬ item.2.1.IsMetBy item.2.2 := by
  induction items with
  | nil => simp at h
  | cons item items ih =>
    by_cases hi : item.2.1.IsMetBy item.2.2
    · obtain ⟨before, other, after, rfl, hb, ho⟩ :=
        ih fun hr => h (List.forall_mem_cons.mpr ⟨hi, hr⟩)
      exact ⟨item :: before, other, after, rfl, List.forall_mem_cons.mpr ⟨hi, hb⟩, ho⟩
    · exact ⟨[], item, items, rfl, by simp, hi⟩

lemma isGuarded_iff {tokens : List Placed} {program : Program}
    (h : assemble tokens = .ok program) :
    program.IsGuarded ↔ ∀ item ∈ scanned [] tokens, item.2.1.IsMetBy item.2.2 := by
  rw [Program.IsGuarded, ← governed_eq_scanned h, List.forall_mem_map]

lemma ofLines_sensorGuard {program : Program}
    (h : Program.ofLines noGuard none lines = .ok program) :
    (program.IsGuarded → Program.ofLines sensorGuard none lines = .ok program) ∧
      (¬ program.IsGuarded → ∃ line, IsFirstUnmet (commandLines lines) program line ∧
        Program.ofLines sensorGuard none lines = .error (.faulty .missingSensorCheck line)) := by
  obtain ⟨tokens, hp, ha⟩ := ofLines_ok_iff.mp h
  refine ⟨fun hg => ?_, fun hg => ?_⟩
  · exact ofLines_ok_iff.mpr ⟨tokens, hp.met ((isGuarded_iff ha).mp hg), ha⟩
  · rw [isGuarded_iff ha] at hg
    obtain ⟨before, ⟨line, c, governor⟩, after, hs, hb, hc⟩ := exists_first_unmet hg
    have hz : (commandLines lines).zip program.governed = scanned [] tokens :=
      (List.zip_of_prod hp.scanned_lines (governed_eq_scanned ha)).symm
    refine ⟨line, ⟨before, c, governor, after, hz.trans hs, hb, hc⟩, ?_⟩
    rw [Program.ofLines]
    rw [hp.unmet hs hb hc]
    rfl

lemma ofLines_weaken {other : Guard} (hg : ∀ above c, guard above c → other above c)
    {program : Program} (h : Program.ofLines guard limit lines = .ok program) :
    Program.ofLines other none lines = .ok program := by
  obtain ⟨tokens, hp, ha⟩ := ofLines_ok_iff.mp h
  exact ofLines_ok_iff.mpr ⟨tokens, hp.weaken hg, ha⟩

lemma ofLines_noGuard {program : Program}
    (h : Program.ofLines guard limit lines = .ok program) :
    Program.ofLines noGuard none lines = .ok program :=
  ofLines_weaken (fun _ _ _ => rfl) h

lemma ofLines_sensorGuard_iff {program : Program}
    (h : Program.ofLines noGuard none lines = .ok program) :
    Program.ofLines sensorGuard none lines = .ok program ↔ program.IsGuarded := by
  obtain ⟨hm, hu⟩ := ofLines_sensorGuard h
  refine ⟨fun hs => ?_, hm⟩
  by_contra hg
  obtain ⟨line, -, he⟩ := hu hg
  rw [he] at hs
  exact nomatch hs

end Script

open Script

theorem Program.sensor_check_exact :
    (∀ limit source, ofLines textGuard limit (lines source) = ofSource limit source) ∧
    (∀ limit source program, ofSource limit source = .ok program → program.IsGuarded) ∧
    ∀ source program, ofLines noGuard none (lines source) = .ok program →
      (ofSource none source = .ok program ↔ program.IsGuarded) ∧
      (¬ program.IsGuarded → ∃ line, IsFirstUnmet (commandLines (lines source)) program line ∧
        ofSource none source = .error (.faulty .missingSensorCheck line)) ∧
      (commandLines (lines source)).map (fun line => command? line.text) =
        program.governed.map (fun item => some item.1) := by
  refine ⟨fun limit source => ofLines_textGuard limit (lines source), ?_, ?_⟩
  · intro limit source program h
    exact (ofLines_sensorGuard_iff (ofLines_noGuard h)).mp (ofLines_weaken (fun _ _ => id) h)
  · intro source program h
    refine ⟨ofLines_sensorGuard_iff h, (ofLines_sensorGuard h).2, ?_⟩
    obtain ⟨tokens, hp, ha⟩ := ofLines_ok_iff.mp h
    rw [← hp.scanned_commands, ← governed_eq_scanned ha, List.map_map]
    rfl

theorem Program.sensor_check_exact_fire_then_hole :
    (∃ line, ofSource none
        "se(pegandoFogo())\n\n\x7b\napagarFogoECobrirBuraco()\n\x7d\ncobrirBuraco()" =
      .error (.faulty .missingSensorCheck line)) ∧
    ∃ program, ofSource (some 2) "se(pegandoFogo())\napagarFogoECobrirBuraco()" = .ok program ∧
      program.IsGuarded := by
  have hn : ofLines noGuard none
      (lines "se(pegandoFogo())\n\n\x7b\napagarFogoECobrirBuraco()\n\x7d\ncobrirBuraco()") =
    .ok ⟨[.when (.sensor .fire) "pegandoFogo()" (.block [.command .putOutFire]),
      .command .coverHole]⟩ := rfl
  have hg : ¬ Program.IsGuarded
      ⟨[.when (.sensor .fire) "pegandoFogo()" (.block [.command .putOutFire]),
        .command .coverHole]⟩ := by
    intro hg
    exact nomatch hg (.coverHole, none) (by simp [Program.governed, Statement.governedAll,
      Statement.governed]) .hole rfl
  obtain ⟨line, -, he⟩ := (sensor_check_exact.2.2 _ _ hn).2.1 hg
  have ha : ofSource (some 2) "se(pegandoFogo())\napagarFogoECobrirBuraco()" =
    .ok ⟨[.when (.sensor .fire) "pegandoFogo()" (.command .putOutFire)]⟩ := rfl
  exact ⟨⟨line, he⟩, _, ha, sensor_check_exact.2.1 _ _ _ ha⟩

end RobotPuzzle
