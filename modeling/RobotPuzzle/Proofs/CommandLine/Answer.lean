import Mathlib.Data.List.Nodup
import RobotPuzzle.CommandLine.Basic
import RobotPuzzle.Proofs.Game.Performance

namespace RobotPuzzle

namespace Puzzle

lemma nodup_ids : (catalog.map (·.id)).Nodup := by decide

lemma find?_eq_none_iff {id : String} :
    find? id = none ↔ ∀ puzzle ∈ catalog, puzzle.id ≠ id := by
  simp [find?, List.find?_eq_none]

lemma find?_eq_some_iff {id : String} {puzzle : Puzzle} :
    find? id = some puzzle ↔ puzzle ∈ catalog ∧ puzzle.id = id := by
  constructor
  · intro h
    exact ⟨List.mem_of_find?_eq_some h, by simpa using List.find?_some h⟩
  · rintro ⟨hm, rfl⟩
    cases hf : find? puzzle.id with
    | none => exact absurd rfl (find?_eq_none_iff.mp hf puzzle hm)
    | some found =>
      have hid : found.id = puzzle.id := by simpa using List.find?_some hf
      rw [List.inj_on_of_nodup_map nodup_ids (List.mem_of_find?_eq_some hf) hm hid]

lemma id_ne_list {puzzle : Puzzle} (h : puzzle ∈ catalog) : puzzle.id ≠ "--list" :=
  find?_eq_none_iff.mp (by decide) puzzle h

end Puzzle

namespace CommandLine

open Text (unlines)

def Asks (read : String → Except String String) (args : List String) (puzzle : Puzzle)
    (code : String) : Prop :=
  ∃ file rest, args = puzzle.id :: file :: rest ∧ puzzle ∈ Puzzle.catalog ∧ read file = .ok code

def newGame (puzzle : Puzzle) : Game Float := puzzle.game Pace.standard

def PlaysToEnd (read : String → Except String String) (args : List String) (won : Bool) : Prop :=
  ∃ puzzle code program frames report events, Asks read args puzzle code ∧
    Program.ofSource puzzle.limit code = .ok program ∧
    (newGame puzzle).PlaysOut code frames report events ∧ report.won = won

inductive Complains (read : String → Except String String) : List String → List String → Prop
  | usage {args} : args.length < 2 → args.head? ≠ some "--list" →
      Complains read args ["Error: " ++ usage]
  | unknown {id file rest} : id ≠ "--list" → (∀ puzzle ∈ Puzzle.catalog, puzzle.id ≠ id) →
      Complains read (id :: file :: rest) ["Error: unknown level '" ++ id ++ "' (try --list)"]
  | unreadable {puzzle file rest cause} : puzzle ∈ Puzzle.catalog → read file = .error cause →
      Complains read (puzzle.id :: file :: rest)
        ["Error: reading " ++ file, "", "Caused by:", "    " ++ cause]
  | rejected {args puzzle code rejection} : Asks read args puzzle code →
      Program.ofSource puzzle.limit code = .error rejection →
      Complains read args [rejection.console.text,
        "Error: program rejected at line " ++ toString rejection.line.number]

def textsOf {α : Type} (severities : List Severity) (events : List (Event α)) : List String :=
  ((Event.consoleLines events).filter (·.severity ∈ severities)).map (·.text)

variable {patience : Nat} {read : String → Except String String} {args : List String}
  {puzzle : Puzzle} {code : String}

def closingLines (frames : List (Frame Float)) (result : Report) : List String :=
  let count := frames.countP (·.step = .running)
  [endingWord result.ending ++ " after " ++ toString count ++ " frames", verdict result.won]

lemma consoleTexts_eq {α : Type} (events : List (Event α)) :
    consoleTexts true (Event.consoleLines events) = textsOf [.info] events ∧
      consoleTexts false (Event.consoleLines events) = textsOf [.warning, .error] events := by
  constructor <;>
  · apply congrArg (List.map _)
    apply List.filter_congr
    intro line _
    cases line.severity <;> rfl

lemma answer_list (h : args.head? = some "--list") : answer patience read args = some list := by
  cases args with
  | nil => exact absurd h (by simp)
  | cons id rest =>
    obtain rfl : id = "--list" := Option.some.inj h
    rfl

lemma answer_of_two {id file : String} {rest : List String} (h : id ≠ "--list") :
    answer patience read (id :: file :: rest) =
      match Puzzle.find? id with
      | none => some (failure ("unknown level '" ++ id ++ "' (try --list)") none)
      | some puzzle =>
        match read file with
        | .error cause => some (failure ("reading " ++ file) (some cause))
        | .ok code => report ((newGame puzzle).perform code patience) := by
  rw [answer]
  · rfl
  · exact h

lemma Asks.answer (h : Asks read args puzzle code) :
    answer patience read args = report ((newGame puzzle).perform code patience) := by
  obtain ⟨file, rest, rfl, hm, hr⟩ := h
  rw [answer_of_two (Puzzle.id_ne_list hm), Puzzle.find?_eq_some_iff.mpr ⟨hm, rfl⟩]
  simp only [hr]

def EndsWithin (patience : Nat) (read : String → Except String String) (args : List String) :
    Prop :=
  ∀ puzzle code program, Asks read args puzzle code →
    Program.ofSource puzzle.limit code = .ok program →
    ∃ frames result events, (newGame puzzle).PlaysOut code frames result events ∧
      frames.length ≤ patience

lemma Asks.answer_of_playsOut {frames : List (Frame Float)} {result : Report}
    {events : List (Event Float)} (h : Asks read args puzzle code)
    (hp : (newGame puzzle).PlaysOut code frames result events) (hl : frames.length ≤ patience) :
    CommandLine.answer patience read args = some ⟨status result.won,
      unlines (textsOf [.info] events ++ closingLines frames result),
      unlines (textsOf [.warning, .error] events)⟩ := by
  obtain ⟨ho, hf, he⟩ := hp.perform hl
  obtain ⟨hi, hw⟩ := consoleTexts_eq events
  rw [h.answer, report, ho]
  simp only [hf, he, hi, hw, closingLines]

lemma Complains.answer {lines : List String} (h : Complains read args lines) :
    CommandLine.answer patience read args = some ⟨1, "", unlines lines⟩ := by
  cases h with
  | usage hl hh =>
    match args, hl with
    | [], _ => rfl
    | [id], _ =>
      rw [CommandLine.answer]
      · rfl
      · exact fun h => hh (congrArg some h)
  | unknown hl hn =>
    rw [answer_of_two hl, Puzzle.find?_eq_none_iff.mpr hn]
    rfl
  | unreadable hm hr =>
    rw [answer_of_two (Puzzle.id_ne_list hm), Puzzle.find?_eq_some_iff.mpr ⟨hm, rfl⟩]
    simp only [hr]
    rfl
  | @rejected args puzzle code rejection ha hp =>
    have hs : (newGame puzzle).start code =
        (newGame puzzle, [.console rejection.console], .error (.rejected rejection)) :=
      Game.start_of_rejected rfl hp
    rw [ha.answer, report, Game.perform, hs]
    cases rejection <;> rfl

lemma exists_asks_or_complains (read : String → Except String String) (args : List String) :
    args.head? = some "--list" ∨ (∃ lines, Complains read args lines) ∨
      ∃ puzzle code program, Asks read args puzzle code ∧
        Program.ofSource puzzle.limit code = .ok program := by
  by_cases hl : args.head? = some "--list"
  · exact .inl hl
  · refine .inr ?_
    match args with
    | [] => exact .inl ⟨_, .usage (by simp) hl⟩
    | [_] => exact .inl ⟨_, .usage (by simp) hl⟩
    | id :: file :: rest =>
      cases hf : Puzzle.find? id with
      | none =>
        exact .inl ⟨_, .unknown (fun h => hl (congrArg some h)) (Puzzle.find?_eq_none_iff.mp hf)⟩
      | some puzzle =>
        obtain ⟨hm, rfl⟩ := Puzzle.find?_eq_some_iff.mp hf
        cases hr : read file with
        | error cause => exact .inl ⟨_, .unreadable hm hr⟩
        | ok code =>
          have ha : Asks read (puzzle.id :: file :: rest) puzzle code := ⟨file, rest, rfl, hm, hr⟩
          cases hp : Program.ofSource puzzle.limit code with
          | error rejection => exact .inl ⟨_, .rejected ha hp⟩
          | ok program => exact .inr ⟨puzzle, code, program, ha, hp⟩

lemma exists_program_of_playsOut {frames : List (Frame Float)} {result : Report}
    {events : List (Event Float)} (h : (newGame puzzle).PlaysOut code frames result events) :
    ∃ program, Program.ofSource puzzle.limit code = .ok program := by
  obtain ⟨begun, opening, play, ending, final, last, closed, closing, hs, -⟩ := h
  cases hp : Program.ofSource puzzle.limit code with
  | ok program => exact ⟨program, rfl⟩
  | error rejection =>
    rw [Game.start_of_rejected rfl hp] at hs
    obtain ⟨-, hrest⟩ := Prod.mk.inj hs
    obtain ⟨-, hok⟩ := Prod.mk.inj hrest
    cases hok

lemma EndsWithin.length_le {frames : List (Frame Float)} {result : Report}
    {events : List (Event Float)} (h : EndsWithin patience read args)
    (ha : Asks read args puzzle code) (ho : (newGame puzzle).PlaysOut code frames result events) :
    frames.length ≤ patience := by
  obtain ⟨program, hp⟩ := exists_program_of_playsOut ho
  obtain ⟨frames', result', events', ho', hl⟩ := h puzzle code program ha hp
  obtain ⟨rfl, -, -⟩ := ho.unique ho'
  exact hl

lemma PlaysToEnd.answer {won : Bool} (h : PlaysToEnd read args won)
    (hends : EndsWithin patience read args) :
    ∃ stdout stderr, CommandLine.answer patience read args = some ⟨status won, stdout, stderr⟩ := by
  obtain ⟨puzzle, code, program, frames, result, events, ha, hp, ho, rfl⟩ := h
  exact ⟨_, _, ha.answer_of_playsOut ho (hends.length_le ha ho)⟩

lemma exists_answer (hends : EndsWithin patience read args) :
    ∃ output, answer patience read args = some output ∧
      (args.head? = some "--list" ∧ output.code = 0 ∨
        (∃ lines, Complains read args lines ∧ output = ⟨1, "", unlines lines⟩) ∨
        ∃ won, PlaysToEnd read args won ∧ output.code = status won) := by
  obtain hl | ⟨lines, hc⟩ | ⟨puzzle, code, program, ha, hp⟩ := exists_asks_or_complains read args
  · exact ⟨list, answer_list hl, .inl ⟨hl, rfl⟩⟩
  · exact ⟨_, hc.answer, .inr (.inl ⟨lines, hc, rfl⟩)⟩
  · obtain ⟨frames, result, events, ho, hlen⟩ := hends puzzle code program ha hp
    refine ⟨_, ha.answer_of_playsOut ho hlen, .inr (.inr ⟨result.won, ?_, rfl⟩)⟩
    exact ⟨puzzle, code, program, frames, result, events, ha, hp, ho, rfl⟩

lemma status_inj {won won' : Bool} (h : status won = status won') : won = won' := by
  cases won <;> cases won' <;> first | rfl | exact absurd h (by decide)

/-- The status tells whether the list was asked for or the run has won, has not won, or did not
take place. Of a run, what is said to the player goes to the output and the warnings to the error
output. -/
theorem answer_reports_play (patience : Nat) (read : String → Except String String)
    (args : List String) (hends : EndsWithin patience read args) :
    ∃ output, answer patience read args = some output ∧
      (output.code = 0 ↔ args.head? = some "--list" ∨ PlaysToEnd read args true) ∧
      (output.code = 2 ↔ PlaysToEnd read args false) ∧
      (output.code ≠ 0 → output.code ≠ 2 → output.code = 1 ∧ output.stdout = "" ∧
        ∃ lines, Complains read args lines ∧ output.stderr = unlines lines) ∧
      ∀ puzzle code frames result events, Asks read args puzzle code →
        (newGame puzzle).PlaysOut code frames result events →
        output.stdout = unlines (textsOf [.info] events ++ closingLines frames result) ∧
        output.stderr = unlines (textsOf [.warning, .error] events) ∧
        ((newGame puzzle).perform code patience).events = events := by
  obtain ⟨output, ho, hcase⟩ := exists_answer hends
  have hplayed : ∀ won, PlaysToEnd read args won → output.code = status won := fun won hc => by
    obtain ⟨stdout, stderr, ha⟩ := hc.answer hends
    rw [Option.some.inj (ho.symm.trans ha)]
  have hlist : args.head? = some "--list" → output.code = 0 := fun hl => by
    rw [Option.some.inj (ho.symm.trans (answer_list hl))]
    rfl
  refine ⟨output, ho, ⟨fun hz => ?_, ?_⟩, ⟨fun ht => ?_, hplayed false⟩, fun hz ht => ?_, ?_⟩
  · obtain ⟨hl, -⟩ | ⟨lines, -, rfl⟩ | ⟨won, hc, hw⟩ := hcase
    · exact .inl hl
    · exact absurd hz (by decide : (1 : UInt32) ≠ 0)
    · obtain rfl : won = true := status_inj (hw.symm.trans hz)
      exact .inr hc
  · rintro (hl | hc)
    · exact hlist hl
    · exact hplayed true hc
  · obtain ⟨-, hw⟩ | ⟨lines, -, rfl⟩ | ⟨won, hc, hw⟩ := hcase
    · exact absurd (hw.symm.trans ht) (by decide)
    · exact absurd ht (by decide : (1 : UInt32) ≠ 2)
    · obtain rfl : won = false := status_inj (hw.symm.trans ht)
      exact hc
  · obtain ⟨-, hw⟩ | ⟨lines, hc, rfl⟩ | ⟨won, -, hw⟩ := hcase
    · exact absurd hw hz
    · exact ⟨rfl, rfl, lines, hc, rfl⟩
    · cases won with
      | true => exact absurd hw hz
      | false => exact absurd hw ht
  · intro puzzle code frames result events ha hp
    have hl := hends.length_le ha hp
    obtain rfl := Option.some.inj (ho.symm.trans (ha.answer_of_playsOut hp hl))
    exact ⟨rfl, rfl, (hp.perform hl).2.2⟩

theorem answer_reports_play_turn :
    let read := fun file =>
      if file = "turn.txt" then .ok "girarDireita()" else .error "there is no such file"
    let args := ["level1/phase5", "turn.txt"]
    EndsWithin 100 read args ∧ ∃ output, answer 100 read args = some output ∧ output.code = 2 ∧
      output.stdout = "Completed after 90 frames\nFase não concluída.\n" ∧ output.stderr = "" := by
  intro read args
  obtain ⟨hout, hframes, hlines⟩ :
      ((newGame Puzzle.level1Phase5).perform "girarDireita()" 100).outcome =
          .ok (some ⟨.completed, false⟩) ∧
        ((newGame Puzzle.level1Phase5).perform "girarDireita()" 100).frames = 90 ∧
        Event.consoleLines ((newGame Puzzle.level1Phase5).perform "girarDireita()" 100).events =
          [] := by
    decide +kernel
  obtain ⟨frames, events, hplays, hl⟩ := Game.exists_playsOut hout
  obtain ⟨-, hcount, hevents⟩ := hplays.perform hl
  have hasks : Asks read args Puzzle.level1Phase5 "girarDireita()" :=
    ⟨"turn.txt", [], rfl, List.mem_cons_self, rfl⟩
  have hends : EndsWithin 100 read args := by
    rintro puzzle code program ⟨file, rest, hargs, hm, hr⟩ -
    obtain ⟨hid, hrest⟩ := List.cons.inj hargs
    obtain ⟨rfl, -⟩ := List.cons.inj hrest
    have hfind : Puzzle.find? "level1/phase5" = some Puzzle.level1Phase5 := by decide
    have hpuzzle := hfind.symm.trans (Puzzle.find?_eq_some_iff.mpr ⟨hm, hid.symm⟩)
    obtain rfl := Option.some.inj hpuzzle
    obtain rfl : "girarDireita()" = code := Except.ok.inj hr
    exact ⟨frames, _, events, hplays, hl⟩
  obtain ⟨output, ho, -, hcode, -, htold⟩ := answer_reports_play 100 read args hends
  obtain ⟨hstdout, hstderr, -⟩ := htold _ _ _ _ _ hasks hplays
  refine ⟨hends, output, ho, hcode.mpr ?_, ?_, ?_⟩
  · exact ⟨_, _, ⟨[.command .turnRight]⟩, frames, _, events, hasks, rfl, hplays, rfl⟩
  · rw [hstdout, textsOf, ← hevents, hlines, closingLines, ← hcount, hframes]
    rfl
  · rw [hstderr, textsOf, ← hevents, hlines]
    rfl

end CommandLine

end RobotPuzzle
