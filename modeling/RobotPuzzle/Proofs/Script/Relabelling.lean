import RobotPuzzle.Proofs.Script.BlankLines
import RobotPuzzle.Proofs.Script.Layout

namespace RobotPuzzle

namespace Script

def rows (source : String) : List (List Char) := (dropMark source.toList).splitOn '\n'

def texts (source : String) : List (List Char) :=
  ((rows source).map Text.trim).filter fun text => !text.isEmpty

def Rejection.moveTo (other : Line) : Rejection → Rejection
  | .faulty fault _ => .faulty fault other
  | .tooManyCommands _ limit => .tooManyCommands other limit

def AreReadAlike (lines others : List Line) :
    Except Rejection Program → Except Rejection Program → Prop
  | .ok program, .ok other => program = other
  | .error rejection, .error other =>
    other = rejection.moveTo other.line ∧
      ∃ i : Nat, lines[i]? = some rejection.line ∧ others[i]? = some other.line
  | _, _ => False

def Line.relabel (label : Nat → Nat × String) (line : Line) : Line :=
  ⟨(label line.number).1, (label line.number).2, line.text⟩

def Placed.relabel (label : Nat → Nat × String) (placed : Placed) : Placed :=
  ⟨placed.line.relabel label, placed.token⟩

def Rejection.relabel (label : Nat → Nat × String) (rejection : Rejection) : Rejection :=
  rejection.moveTo (rejection.line.relabel label)

def Assembly.relabel (label : Nat → Nat × String) (assembly : Assembly) : Assembly :=
  ⟨assembly.body, assembly.outer.map fun (line, rest) => (line.relabel label, rest)⟩

variable (label : Nat → Nat × String)

lemma scan_map {stops nests : Line → Bool} {f : Line → Line}
    (h : ∀ line, stops (f line) = stops line ∧ nests (f line) = nests line) (depth : Nat)
    (lines : List Line) : scan stops nests depth (lines.map f) = scan stops nests depth lines := by
  induction lines generalizing depth with
  | nil => rfl
  | cons line lines ih => simp only [List.map_cons, scan_cons, h line, ih]

lemma hasCloser_relabel (depth : Nat) (below : List Line) :
    hasCloser depth (below.map (Line.relabel label)) = hasCloser depth below :=
  scan_map (f := Line.relabel label) (fun _ => ⟨rfl, rfl⟩) depth below

lemma hasOpener_relabel (depth : Nat) (above : List Line) :
    hasOpener depth (above.map (Line.relabel label)) = hasOpener depth above :=
  scan_map (f := Line.relabel label) (fun _ => ⟨rfl, rfl⟩) depth above

lemma bareAbove_relabel (above : List Placed) :
    bareAbove? (above.map (Placed.relabel label)) = bareAbove? above := by
  cases above with
  | nil => rfl
  | cons placed above => exact (bareAbove_cons ..).trans (bareAbove_cons ..).symm

lemma governors_relabel (above : List Placed) :
    governors (above.map (Placed.relabel label)) = governors above := by
  induction above with
  | nil => rfl
  | cons placed above ih =>
    obtain ⟨line, token⟩ := placed
    rw [List.map_cons, Placed.relabel]
    cases token <;> simp only [governors, ih, bareAbove_relabel]

lemma sensorGuard_relabel (above : List Placed) :
    sensorGuard (above.map (Placed.relabel label)) = sensorGuard above := by
  funext c
  simp only [sensorGuard, governing_eq, bareAbove_relabel, governors_relabel]

lemma check_relabel (above : List Placed) (line : Line) (below : List Line) :
    check sensorGuard (above.map (Placed.relabel label)) (line.relabel label)
      (below.map (Line.relabel label)) = check sensorGuard above line below := by
  have hl : (above.map (Placed.relabel label)).map (·.line) =
      (above.map (·.line)).map (Line.relabel label) := by
    rw [List.map_map, List.map_map]
    rfl
  simp only [check, Line.relabel, sensorGuard_relabel, hasCloser_relabel, hl, hasOpener_relabel]

lemma checkAll_relabel (limit : Option Nat) (above : List Placed) (lines : List Line) :
    checkAll sensorGuard limit (above.map (Placed.relabel label))
        (lines.map (Line.relabel label)) =
      ((checkAll sensorGuard limit above lines).map (List.map (Placed.relabel label))).mapError
        (Rejection.relabel label) := by
  induction lines generalizing above with
  | nil => simp [checkAll, Except.map, Except.mapError]
  | cons line below ih =>
    have he : exceeded? limit (above.map (Placed.relabel label)) = exceeded? limit above := by
      rw [exceeded?, List.length_map, exceeded?]
    rw [List.map_cons, checkAll, checkAll, check_relabel, he]
    cases check sensorGuard above line below with
    | error fault => rfl
    | ok token =>
      cases exceeded? limit above with
      | some limit => rfl
      | none => exact ih (⟨line, token⟩ :: above)

lemma openBlock_relabel (assembly : Assembly) (line : Line)
    (wrap : List Statement → Statement) :
    (assembly.relabel label).openBlock (line.relabel label) wrap =
      ((assembly.openBlock line wrap).map (Assembly.relabel label)).mapError
        (Rejection.relabel label) := by
  obtain ⟨body, _ | ⟨⟨close, rest⟩, outer⟩⟩ := assembly <;> rfl

lemma push_relabel (assembly : Assembly) (placed : Placed) :
    (assembly.relabel label).push (placed.relabel label) =
      ((assembly.push placed).map (Assembly.relabel label)).mapError (Rejection.relabel label) := by
  obtain ⟨line, token⟩ := placed
  cases token with
  | command c => rfl
  | closing => rfl
  | opening => exact openBlock_relabel label assembly line .block
  | blockIf condition source =>
    exact openBlock_relabel label assembly line fun body => .when condition source (.block body)
  | bareIf condition source =>
    obtain ⟨_ | ⟨statement, rest⟩, outer⟩ := assembly <;> rfl

lemma isEmptyConditional_relabel (placed : Placed) (below : List Placed) :
    isEmptyConditional (placed.relabel label) (below.map (Placed.relabel label)) =
      isEmptyConditional placed below := by
  obtain ⟨line, token⟩ := placed
  cases below with
  | nil => cases token <;> rfl
  | cons next below =>
    obtain ⟨other, second⟩ := next
    cases token <;> cases second <;> rfl

lemma assembleFrom_relabel (placed : List Placed) :
    assembleFrom (placed.map (Placed.relabel label)) =
      ((assembleFrom placed).map (Assembly.relabel label)).mapError (Rejection.relabel label) := by
  induction placed with
  | nil => rfl
  | cons placed below ih =>
    rw [List.map_cons, assembleFrom, assembleFrom, isEmptyConditional_relabel, ih]
    split
    · rfl
    · cases assembleFrom below with
      | error rejection => rfl
      | ok assembly => exact push_relabel label assembly placed

lemma finish_relabel (assembly : Assembly) :
    (assembly.relabel label).finish = assembly.finish.mapError (Rejection.relabel label) := by
  rw [Assembly.finish, Assembly.finish, Assembly.relabel, List.getLast?_map]
  cases assembly.outer.getLast? <;> rfl

lemma ofLines_relabel (limit : Option Nat) (lines : List Line) :
    Program.ofLines sensorGuard limit (lines.map (Line.relabel label)) =
      (Program.ofLines sensorGuard limit lines).mapError (Rejection.relabel label) := by
  have hc := checkAll_relabel label limit [] lines
  rw [List.map_nil] at hc
  rw [Program.ofLines, Program.ofLines, hc]
  cases checkAll sensorGuard limit [] lines with
  | error rejection => rfl
  | ok placed =>
    change assemble (placed.map (Placed.relabel label)) = (assemble placed).mapError _
    rw [assemble, assemble, assembleFrom_relabel]
    cases assembleFrom placed with
    | error rejection => rfl
    | ok assembly => exact finish_relabel label assembly

def bareLines (texts : List (List Char)) : List Line :=
  texts.zipIdx.map fun (text, i) => ⟨i, "", text⟩

def labels (lines : List Line) (i : Nat) : Nat × String :=
  (lines[i]?.map fun line => (line.number, line.raw)).getD (0, "")

lemma bareLines_relabel (lines : List Line) :
    (bareLines (lines.map (·.text))).map (Line.relabel (labels lines)) = lines := by
  apply List.ext_getElem (by simp [bareLines])
  intro i hb hl
  simp [bareLines, Line.relabel, labels, hl]

lemma ofLines_bareLines (limit : Option Nat) (lines : List Line) :
    Program.ofLines sensorGuard limit lines =
      (Program.ofLines sensorGuard limit (bareLines (lines.map (·.text)))).mapError
        (Rejection.relabel (labels lines)) := by
  rw [← ofLines_relabel, bareLines_relabel]

lemma relabel_getElem {lines : List Line} {i : Nat} {line : Line}
    (h : (bareLines (lines.map (·.text)))[i]? = some line) :
    lines[i]? = some (line.relabel (labels lines)) := by
  have hr := congrArg (·[i]?) (bareLines_relabel lines)
  simp only [List.getElem?_map, h, Option.map_some] at hr
  exact hr.symm

@[simp] lemma Rejection.moveTo_line (rejection : Rejection) (other : Line) :
    (rejection.moveTo other).line = other := by
  cases rejection <;> rfl

lemma Rejection.moveTo_moveTo (rejection : Rejection) (line other : Line) :
    (rejection.moveTo line).moveTo other = rejection.moveTo other := by
  cases rejection <;> rfl

lemma areReadAlike_of_texts {lines others : List Line}
    (h : lines.map (·.text) = others.map (·.text)) (limit : Option Nat) :
    AreReadAlike lines others (Program.ofLines sensorGuard limit lines)
      (Program.ofLines sensorGuard limit others) := by
  have hl := ofLines_bareLines limit lines
  have ho := ofLines_bareLines limit others
  rw [← h] at ho
  rw [hl, ho]
  cases hr : Program.ofLines sensorGuard limit (bareLines (lines.map (·.text))) with
  | ok program => exact (rfl : program = program)
  | error rejection =>
    obtain ⟨i, hi, -, -⟩ := exists_isAbout hr
    refine ⟨?_, i, ?_, ?_⟩
    · rw [Rejection.relabel, Rejection.relabel, Rejection.moveTo_moveTo, Rejection.moveTo_line]
    · rw [relabel_getElem hi, Rejection.relabel, Rejection.moveTo_line]
    · rw [relabel_getElem (h ▸ hi), Rejection.relabel, Rejection.moveTo_line]

lemma AreReadAlike.eq_ok {lines others : List Line} {program : Program}
    {result : Except Rejection Program} (h : AreReadAlike lines others (.ok program) result) :
    result = .ok program := by
  cases result with
  | ok other => exact congrArg Except.ok (Eq.symm h)
  | error rejection => exact h.elim

lemma AreReadAlike.eq_error {lines others : List Line} {rejection : Rejection}
    {result : Except Rejection Program} (h : AreReadAlike lines others (.error rejection) result) :
    ∃ (i : Nat) (other : Line), result = .error (rejection.moveTo other) ∧
      lines[i]? = some rejection.line ∧ others[i]? = some other := by
  cases result with
  | ok other => exact h.elim
  | error other =>
    obtain ⟨ho, i, hi, hl⟩ := h
    exact ⟨i, other.line, congrArg Except.error ho, hi, hl⟩

lemma dropReturn_cases (line : List Char) :
    dropReturn line = line ∨ line = dropReturn line ++ ['\r'] := by
  rw [dropReturn]
  split
  · rename_i h
    exact Or.inr (List.dropLast_append_getLast? _ h).symm
  · exact Or.inl rfl

lemma trim_append_return (line : List Char) : Text.trim (line ++ ['\r']) = Text.trim line := by
  have hr : Text.isBlank '\r' := by decide
  rw [Text.trim, Text.trim, List.dropWhile_append]
  split
  · rename_i h
    rw [List.isEmpty_iff.mp h]
    decide
  · rw [List.reverse_append, List.reverse_singleton, List.singleton_append,
      List.dropWhile_cons_of_pos hr]

lemma trim_dropReturn (line : List Char) : Text.trim (dropReturn line) = Text.trim line := by
  obtain h | h := dropReturn_cases line
  · rw [h]
  · rw [h, trim_append_return, ← h]

lemma lines_texts (source : String) : (lines source).map (·.text) = texts source := by
  rw [lines, filter_text, allLines, numberLines_texts, texts, rows]
  simp only [trim_dropReturn]

end Script

open Script

namespace Program

/-- Blank lines, indentation, line ends and a byte order mark make no difference. Reading with the
blank lines in place gives the same result, and two sources with the same trimmed lines that are not
blank are read alike. -/
theorem layout_irrelevant :
    (∀ limit source, ofText limit source = ofSource limit source) ∧
    ∀ source other, texts source = texts other → ∀ limit,
      AreReadAlike (lines source) (lines other) (ofSource limit source) (ofSource limit other) := by
  refine ⟨ofText_eq, fun source other h limit => ?_⟩
  rw [← lines_texts, ← lines_texts] at h
  exact areReadAlike_of_texts h limit

theorem layout_irrelevant_blanks :
    ofSource (some 2) "\ufeff se(pegandoFogo())\r\n\u00a0\n\tapagarFogoECobrirBuraco()\r\n" =
      .ok ⟨[.when (.sensor .fire) "pegandoFogo()" (.command .putOutFire)]⟩ ∧
    ∃ line, ofSource none "\n\tcoletarCristal()\r\n\n  andar() " =
      .error (.faulty .unknownCommand line) ∧ line.number = 4 := by
  have ha : ofSource (some 2) "se(pegandoFogo())\napagarFogoECobrirBuraco()" =
    .ok ⟨[.when (.sensor .fire) "pegandoFogo()" (.command .putOutFire)]⟩ := rfl
  have hr : ofSource none "coletarCristal()\nandar()" = .error (.faulty .unknownCommand
    ⟨2, String.ofList "andar()".toList, "andar()".toList⟩) := rfl
  have hn : lines "coletarCristal()\nandar()" =
    [⟨1, String.ofList "coletarCristal()".toList, "coletarCristal()".toList⟩,
      ⟨2, String.ofList "andar()".toList, "andar()".toList⟩] := rfl
  have hs : lines "\n\tcoletarCristal()\r\n\n  andar() " =
    [⟨2, String.ofList "\tcoletarCristal()".toList, "coletarCristal()".toList⟩,
      ⟨4, String.ofList "  andar() ".toList, "andar()".toList⟩] := rfl
  have hp := layout_irrelevant.2 "se(pegandoFogo())\napagarFogoECobrirBuraco()"
    "\ufeff se(pegandoFogo())\r\n\u00a0\n\tapagarFogoECobrirBuraco()\r\n" (by decide) (some 2)
  have hq := layout_irrelevant.2 "coletarCristal()\nandar()"
    "\n\tcoletarCristal()\r\n\n  andar() " (by decide) none
  rw [ha] at hp
  rw [hr] at hq
  obtain ⟨i, other, ho, hi, hl⟩ := hq.eq_error
  rw [hn] at hi
  rw [hs] at hl
  refine ⟨hp.eq_ok, other, ho, ?_⟩
  match i, hi, hl with
  | 0, hi, _ => exact absurd (Option.some.inj hi) (by decide)
  | 1, _, rfl => exact rfl
  | i + 2, hi, _ => exact nomatch hi

end Program

end RobotPuzzle
