import RobotPuzzle.Proofs.Script.Limit

namespace RobotPuzzle

namespace Script

def Line.isInked (line : Line) : Bool := !line.isBlank

def bareHeaderIndex? : List Line → Option Nat
  | [] => none
  | line :: above =>
    if line.isBlank then (bareHeaderIndex? above).map (· + 1)
    else if line.isBareHeader then some 0 else none

def blockHeaderIndex? (depth : Nat) : List Line → Option Nat
  | [] => none
  | line :: above =>
    if line.closesBlock then (blockHeaderIndex? (depth + 1) above).map (· + 1)
    else if !line.opensBlock then (blockHeaderIndex? depth above).map (· + 1)
    else
      match depth with
      | depth + 1 => (blockHeaderIndex? depth above).map (· + 1)
      | 0 =>
        match shape? line.text with
        | some (.header (.block _)) => some 0
        | some .opening => ((bareHeaderIndex? above).or (blockHeaderIndex? 0 above)).map (· + 1)
        | _ => (blockHeaderIndex? 0 above).map (· + 1)

def gluedText (above : List Line) (i : Nat) : List Char :=
  (above.take (i + 1)).reverse.flatMap (·.text)

def inPlaceGuard : Guard := fun above command =>
  match command.requiredSensor with
  | none => true
  | some sensor =>
    let above := above.map (·.line)
    (((bareHeaderIndex? above).or (blockHeaderIndex? 0 above)).map (gluedText above)).bind
      askedSensor? = some sensor

def checkInPlace (limit : Option Nat) (placed : List Placed) (above : List Line) :
    List Line → Except Rejection (List Placed)
  | [] => .ok placed.reverse
  | line :: below =>
    if line.isBlank then checkInPlace limit placed (line :: above) below
    else
      match check inPlaceGuard (above.map (⟨·, .closing⟩)) line below with
      | .error fault => .error (.faulty fault line)
      | .ok token =>
        match exceeded? limit placed with
        | some limit => .error (.tooManyCommands line limit)
        | none => checkInPlace limit (⟨line, token⟩ :: placed) (line :: above) below

end Script

open Script in
def Program.ofText (limit : Option Nat) (source : String) : Except Rejection Program := do
  descend (← checkInPlace limit [] [] (allLines source))

namespace Script

lemma Line.text_of_isBlank {line : Line} (h : line.isBlank) : line.text = [] :=
  List.isEmpty_iff.mp h

lemma Line.braces_of_isBlank {line : Line} (h : line.isBlank) :
    line.closesBlock = false ∧ line.opensBlock = false := by
  rw [closesBlock, opensBlock, text_of_isBlank h]
  exact ⟨rfl, rfl⟩

lemma inked_of_isBlank {line : Line} (h : line.isBlank) (lines : List Line) :
    (line :: lines).filter Line.isInked = lines.filter Line.isInked :=
  List.filter_cons_of_neg (by simp [Line.isInked, h])

lemma inked_of_not_isBlank {line : Line} (h : line.isBlank = false) (lines : List Line) :
    (line :: lines).filter Line.isInked = line :: lines.filter Line.isInked :=
  List.filter_cons_of_pos (by simp [Line.isInked, h])

lemma gluedText_zero (line : Line) (above : List Line) :
    gluedText (line :: above) 0 = line.text := by
  simp [gluedText]

lemma gluedText_succ (line : Line) (above : List Line) (i : Nat) :
    gluedText (line :: above) (i + 1) = gluedText above i ++ line.text := by
  simp [gluedText]

lemma map_gluedText_succ (index : Option Nat) (line : Line) (above : List Line)
    (below : List Char) :
    (index.map (· + 1)).map (fun i => gluedText (line :: above) i ++ below) =
      index.map fun i => gluedText above i ++ (line.text ++ below) := by
  rw [Option.map_map]
  congr 1
  funext i
  rw [Function.comp_apply, gluedText_succ, List.append_assoc]

lemma bareHeaderIndex_text (above : List Line) (below : List Char) :
    (bareHeaderIndex? above).map (fun i => gluedText above i ++ below) =
      (bareHeaderAbove? (above.filter Line.isInked)).map fun header => header.text ++ below := by
  induction above with
  | nil => rfl
  | cons line above ih =>
    rw [bareHeaderIndex?]
    cases hb : line.isBlank with
    | true =>
      rw [if_pos rfl, inked_of_isBlank hb, map_gluedText_succ, Line.text_of_isBlank hb, ← ih]
      rfl
    | false =>
      rw [if_neg (by decide), inked_of_not_isBlank hb, bareHeaderAbove?]
      cases hh : line.isBareHeader <;> simp [hh, gluedText_zero]

lemma headerIndex_text {above : List Line} {below : List Char} {block : Option Nat}
    {text : Option (List Char)} (h : block.map (fun i => gluedText above i ++ below) = text) :
    ((bareHeaderIndex? above).or block).map (fun i => gluedText above i ++ below) =
      match bareHeaderAbove? (above.filter Line.isInked) with
      | some header => some (header.text ++ below)
      | none => text := by
  have hb := bareHeaderIndex_text above below
  rw [Option.map_or, hb, h]
  cases bareHeaderAbove? (above.filter Line.isInked) <;> rfl

lemma blockHeaderIndex_text (depth : Nat) (above : List Line) (below : List Char) :
    (blockHeaderIndex? depth above).map (fun i => gluedText above i ++ below) =
      headerText? depth below (above.filter Line.isInked) := by
  induction above generalizing depth below with
  | nil => rfl
  | cons line above ih =>
    have hn := fun index => map_gluedText_succ index line above below
    cases hb : line.isBlank with
    | true =>
      obtain ⟨hc, ho⟩ := Line.braces_of_isBlank hb
      rw [inked_of_isBlank hb, blockHeaderIndex?.eq_def]
      simp only [hc, ho, Bool.false_eq_true, if_false, Bool.not_false, if_true]
      rw [hn, Line.text_of_isBlank hb, List.nil_append, ih]
    | false =>
      rw [inked_of_not_isBlank hb, blockHeaderIndex?.eq_def, headerText?.eq_def]
      dsimp only
      split
      · rw [hn, ih]
      · split
        · rw [hn, ih]
        · cases depth with
          | succ depth => exact (hn _).trans (ih depth _)
          | zero =>
            dsimp only
            rcases shape? line.text with _ | _ | (_ | _) | _ | _
            case some.header.block =>
              exact congrArg some (congrArg (· ++ below) (gluedText_zero ..))
            case some.opening => exact (hn _).trans (headerIndex_text (ih 0 _))
            all_goals exact (hn _).trans (ih 0 _)

lemma scan_inked {stops nests : Line → Bool}
    (h : ∀ line : Line, line.isBlank = true → stops line = false ∧ nests line = false)
    (depth : Nat) (lines : List Line) :
    scan stops nests depth (lines.filter Line.isInked) = scan stops nests depth lines := by
  induction lines generalizing depth with
  | nil => rfl
  | cons line lines ih =>
    cases hb : line.isBlank with
    | true =>
      obtain ⟨hs, hn⟩ := h line hb
      rw [inked_of_isBlank hb, scan_cons, hs, hn]
      exact ih depth
    | false => simp only [inked_of_not_isBlank hb, scan_cons, ih]

lemma hasCloser_inked (depth : Nat) (below : List Line) :
    hasCloser depth (below.filter Line.isInked) = hasCloser depth below :=
  scan_inked (fun _ => Line.braces_of_isBlank) depth below

lemma hasOpener_inked (depth : Nat) (above : List Line) :
    hasOpener depth (above.filter Line.isInked) = hasOpener depth above :=
  scan_inked (fun _ hb => (Line.braces_of_isBlank hb).symm) depth above

variable {limit : Option Nat} {placed : List Placed} {above lines : List Line}

lemma governingIndex_text (above : List Line) :
    ((bareHeaderIndex? above).or (blockHeaderIndex? 0 above)).map (gluedText above) =
      governingText? (above.filter Line.isInked) := by
  have ht := headerIndex_text (blockHeaderIndex_text 0 above [])
  simp only [List.append_nil] at ht
  exact ht

lemma inPlaceGuard_eq (hp : placed.map (·.line) = above.filter Line.isInked) (c : Command) :
    inPlaceGuard (above.map (⟨·, .closing⟩)) c = textGuard placed c := by
  rw [inPlaceGuard, textGuard]
  cases c.requiredSensor with
  | none => rfl
  | some sensor =>
    have hl : (above.map fun line => (⟨line, .closing⟩ : Placed)).map (·.line) = above := by
      simp [Function.comp_def]
    simp only [hl, hp, governingIndex_text]

lemma check_inPlaceGuard (hp : placed.map (·.line) = above.filter Line.isInked) (line : Line)
    (below : List Line) : check inPlaceGuard (above.map (⟨·, .closing⟩)) line below =
      check textGuard placed line (below.filter Line.isInked) := by
  have hl : (above.map fun line => (⟨line, .closing⟩ : Placed)).map (·.line) = above := by
    simp [Function.comp_def]
  simp only [check, inPlaceGuard_eq hp, hl, hp, hasCloser_inked, hasOpener_inked]

lemma checkInPlace_eq (limit : Option Nat) (hp : placed.map (·.line) = above.filter Line.isInked)
    (hr : AllRead placed) (lines : List Line) : checkInPlace limit placed above lines =
      checkAll sensorGuard limit placed (lines.filter Line.isInked) := by
  induction lines generalizing placed above with
  | nil => rfl
  | cons line below ih =>
    cases hb : line.isBlank with
    | true =>
      rw [checkInPlace, if_pos hb, inked_of_isBlank hb]
      exact ih ((inked_of_isBlank hb above).symm ▸ hp) hr
    | false =>
      rw [checkInPlace, if_neg (by simp [hb]), inked_of_not_isBlank hb, checkAll,
        check_inPlaceGuard hp, check_textGuard hr]
      cases hc : check sensorGuard placed line (below.filter Line.isInked) with
      | error fault => rfl
      | ok token =>
        have hl : (⟨line, token⟩ :: placed : List Placed).map (·.line) =
            (line :: above).filter Line.isInked := by
          rw [inked_of_not_isBlank hb, ← hp, List.map_cons]
        have hs : AllRead (⟨line, token⟩ :: placed) :=
          List.forall_mem_cons.mpr ⟨(check_ok_iff.mp hc).1, hr⟩
        cases exceeded? limit placed with
        | some limit => rfl
        | none => exact ih hl hs

lemma ofText_eq (limit : Option Nat) (source : String) :
    Program.ofText limit source = Program.ofSource limit source := by
  have hc : checkInPlace limit [] [] (allLines source) =
      checkAll sensorGuard limit [] (Script.lines source) :=
    checkInPlace_eq limit rfl (List.forall_mem_nil _) (allLines source)
  rw [Program.ofText, hc, Program.ofSource, Program.ofLines]
  cases ht : checkAll sensorGuard limit [] (Script.lines source) with
  | error rejection => rfl
  | ok tokens =>
    obtain ⟨passed, rfl, hp⟩ := passes_of_checkAll ht
    exact hp.descend_eq

end Script

end RobotPuzzle
