import RobotPuzzle.Proofs.Script.Braces
import RobotPuzzle.Proofs.Script.Guard

/-! The checked lines that spell a list of statements. They pass the brace checks and are assembled
into these statements. -/

namespace RobotPuzzle.Script

def Token.wrap? : Token → Option (List Statement → Statement)
  | .opening => some .block
  | .blockIf condition source => some fun body => .when condition source (.block body)
  | _ => none

inductive Spells : List Placed → List Statement → Prop
  | nil : Spells [] []
  | command (line c) {placed statements} : Spells placed statements →
      Spells (⟨line, .command c⟩ :: placed) (.command c :: statements)
  | bareIf (line condition source) {placed statement statements} :
      Spells placed (statement :: statements) →
      Spells (⟨line, .bareIf condition source⟩ :: placed)
        (.when condition source statement :: statements)
  | block (line) {token wrap} (close) {inner body placed statements} :
      token.wrap? = some wrap → Spells inner body → Spells placed statements →
      Spells (⟨line, token⟩ :: (inner ++ ⟨close, .closing⟩ :: placed)) (wrap body :: statements)

lemma opens_of_wrap {token : Token} {wrap : List Statement → Statement}
    (h : token.wrap? = some wrap) : token.opens = true ∧ token.closes = false := by
  cases token <;> first | exact ⟨rfl, rfl⟩ | exact nomatch h

lemma push_of_wrap {token : Token} {wrap : List Statement → Statement}
    (h : token.wrap? = some wrap) (assembly : Assembly) (line : Line) :
    assembly.push ⟨line, token⟩ = assembly.openBlock line wrap := by
  cases token with
  | opening =>
    obtain rfl := Option.some.inj h
    rfl
  | blockIf condition source =>
    obtain rfl := Option.some.inj h
    rfl
  | _ => exact nomatch h

lemma not_emptyConditional_of_wrap {token : Token} {wrap : List Statement → Statement}
    (h : token.wrap? = some wrap) (line : Line) (below : List Placed) :
    isEmptyConditional ⟨line, token⟩ below = false := by
  cases token <;> first | rfl | exact nomatch h

lemma fits_of_wrap {token : Token} {wrap : List Statement → Statement} {guard : Guard}
    {above : List Placed} {below : List Line} (h : token.wrap? = some wrap)
    (hc : hasCloser 0 below) : Fits guard above below token := by
  cases token <;> first | exact hc | exact nomatch h

lemma Spells.not_emptyConditional {placed rest : List Placed} {statement : Statement}
    {statements : List Statement} (h : Spells placed (statement :: statements)) (above : Placed) :
    isEmptyConditional above (placed ++ rest) = false := by
  obtain ⟨line, token⟩ := above
  cases h with
  | command => cases token <;> rfl
  | bareIf => cases token <;> rfl
  | @block _ opener _ _ _ _ _ _ hw =>
    cases opener <;> first | (cases token <;> rfl) | exact nomatch hw

lemma assembleFrom_cons (placed : Placed) {below : List Placed} {assembly : Assembly}
    (he : isEmptyConditional placed below = false) (ha : assembleFrom below = .ok assembly) :
    assembleFrom (placed :: below) = assembly.push placed := by
  rw [assembleFrom, he, ha]
  rfl

theorem Spells.assembleFrom_eq {placed rest : List Placed} {statements : List Statement}
    {assembly : Assembly} (h : Spells placed statements)
    (ha : assembleFrom rest = .ok assembly) :
    assembleFrom (placed ++ rest) = .ok ⟨statements ++ assembly.body, assembly.outer⟩ := by
  induction h generalizing rest assembly with
  | nil => exact ha
  | command line c _ ih => exact assembleFrom_cons _ rfl (ih ha)
  | bareIf line condition source hs ih =>
    exact assembleFrom_cons _ (hs.not_emptyConditional _) (ih ha)
  | block line close hw _ _ ihb ih =>
    have hc := assembleFrom_cons ⟨close, .closing⟩ rfl (ih ha)
    rw [List.cons_append, List.append_assoc, List.cons_append,
      assembleFrom_cons _ (not_emptyConditional_of_wrap hw line _) (ihb hc), push_of_wrap hw]
    simp [Assembly.openBlock]

theorem Spells.assemble_eq {placed : List Placed} {statements : List Statement}
    (h : Spells placed statements) : assemble placed = .ok ⟨statements⟩ := by
  apply assemble_ok_iff.mpr
  have hn : assembleFrom [] = .ok ⟨[], []⟩ := rfl
  simpa using h.assembleFrom_eq hn

lemma hasCloser_cons {line : Line} {token : Token} (h : Reads line.text token) (depth : Nat)
    (below : List Line) : hasCloser depth (line :: below) =
      if token.closes then depth == 0 || hasCloser (depth - 1) below
      else hasCloser (if token.opens then depth + 1 else depth) below := by
  obtain ⟨ho, hc⟩ := h.braces
  rw [hasCloser, scan_cons, hc, ho]
  cases token <;> rfl

lemma hasOpener_cons {line : Line} {token : Token} (h : Reads line.text token) (depth : Nat)
    (above : List Line) : hasOpener depth (line :: above) =
      if token.opens then depth == 0 || hasOpener (depth - 1) above
      else hasOpener (if token.closes then depth + 1 else depth) above := by
  obtain ⟨ho, hc⟩ := h.braces
  rw [hasOpener, scan_cons, ho, hc]
  cases token <;> rfl

lemma allRead_block {line close : Line} {token : Token} {inner placed : List Placed}
    (h : AllRead (⟨line, token⟩ :: (inner ++ ⟨close, .closing⟩ :: placed))) :
    Reads line.text token ∧ AllRead inner ∧ Reads close.text .closing ∧ AllRead placed := by
  obtain ⟨hl, hr⟩ := List.forall_mem_cons.mp h
  obtain ⟨hi, hr⟩ := List.forall_mem_append.mp hr
  obtain ⟨hc, hp⟩ := List.forall_mem_cons.mp hr
  exact ⟨hl, hi, hc, hp⟩

lemma Spells.hasCloser_eq {placed : List Placed} {statements : List Statement}
    (h : Spells placed statements) (hr : AllRead placed) (depth : Nat) (below : List Line) :
    hasCloser depth (placed.map (·.line) ++ below) = hasCloser depth below := by
  induction h generalizing depth below with
  | nil => rfl
  | command line c _ ih =>
    obtain ⟨hl, hp⟩ := List.forall_mem_cons.mp hr
    exact (hasCloser_cons hl ..).trans (ih hp depth below)
  | bareIf line condition source _ ih =>
    obtain ⟨hl, hp⟩ := List.forall_mem_cons.mp hr
    exact (hasCloser_cons hl ..).trans (ih hp depth below)
  | block line close hw _ _ ihb ih =>
    obtain ⟨hl, hi, hc, hp⟩ := allRead_block hr
    obtain ⟨ho, hn⟩ := opens_of_wrap hw
    rw [List.map_cons, List.map_append, List.map_cons, List.cons_append, List.append_assoc,
      List.cons_append, hasCloser_cons hl, ho, hn]
    simp [ihb hi, hasCloser_cons hc, Token.closes, ih hp]

lemma Spells.hasOpener_eq {placed : List Placed} {statements : List Statement}
    (h : Spells placed statements) (hr : AllRead placed) (depth : Nat) (above : List Line) :
    hasOpener depth ((placed.map (·.line)).reverse ++ above) = hasOpener depth above := by
  induction h generalizing depth above with
  | nil => rfl
  | command line c _ ih =>
    obtain ⟨hl, hp⟩ := List.forall_mem_cons.mp hr
    simp [ih hp, hasOpener_cons hl, Token.closes, Token.opens]
  | bareIf line condition source _ ih =>
    obtain ⟨hl, hp⟩ := List.forall_mem_cons.mp hr
    simp [ih hp, hasOpener_cons hl, Token.closes, Token.opens]
  | block line close hw _ _ ihb ih =>
    obtain ⟨hl, hi, hc, hp⟩ := allRead_block hr
    obtain ⟨ho, -⟩ := opens_of_wrap hw
    have hopen := hasOpener_cons hl (depth + 1) above
    rw [ho] at hopen
    simp [ih hp, ihb hi, hopen, hasOpener_cons hc, Token.closes, Token.opens]

lemma passes_cons {above rest : List Placed} {line : Line} {token : Token} {below : List Line}
    (hr : Reads line.text token) (hf : Fits noGuard above below token)
    (h : Passes noGuard none (⟨line, token⟩ :: above) below rest) :
    Passes noGuard none above (line :: below) (⟨line, token⟩ :: rest) :=
  .cons (check_ok_iff.mpr ⟨hr, hf⟩) rfl h

theorem Spells.passes {placed : List Placed} {statements : List Statement}
    (h : Spells placed statements) (hr : AllRead placed) {above rest : List Placed}
    {below : List Line} (hp : Passes noGuard none (placed.reverse ++ above) below rest) :
    Passes noGuard none above (placed.map (·.line) ++ below) (placed ++ rest) := by
  induction h generalizing above rest below with
  | nil => exact hp
  | command line c _ ih =>
    obtain ⟨hl, hs⟩ := List.forall_mem_cons.mp hr
    exact passes_cons hl rfl (ih hs (by simpa using hp))
  | bareIf line condition source _ ih =>
    obtain ⟨hl, hs⟩ := List.forall_mem_cons.mp hr
    exact passes_cons hl trivial (ih hs (by simpa using hp))
  | @block line token wrap close inner body placed statements hw hb _ ihb ih =>
    obtain ⟨hl, hi, hc, hs⟩ := allRead_block hr
    -- The lines inside are balanced, so each brace of the block finds the other one past them.
    have hopener : hasOpener 0 ((inner.reverse ++ ⟨line, token⟩ :: above).map (·.line)) := by
      rw [List.map_append, List.map_reverse, hb.hasOpener_eq hi, List.map_cons, hasOpener_cons hl]
      simp [opens_of_wrap hw]
    have hcloser : hasCloser 0 (inner.map (·.line) ++ close :: (placed.map (·.line) ++ below)) := by
      rw [hb.hasCloser_eq hi, hasCloser_cons hc]
      rfl
    have hrest : Passes noGuard none
        (⟨close, .closing⟩ :: (inner.reverse ++ ⟨line, token⟩ :: above))
        (placed.map (·.line) ++ below) (placed ++ rest) := ih hs (by simpa using hp)
    have hinner := ihb hi (passes_cons hc hopener hrest)
    simpa using passes_cons hl (fits_of_wrap hw hcloser) hinner

theorem Spells.ofLines_eq {placed : List Placed} {statements : List Statement}
    (h : Spells placed statements) (hr : AllRead placed) :
    Program.ofLines noGuard none (placed.map (·.line)) = .ok ⟨statements⟩ := by
  have hp : Passes noGuard none [] (placed.map (·.line) ++ []) (placed ++ []) :=
    h.passes hr (.nil _)
  exact ofLines_ok_iff.mpr ⟨placed, by simpa using hp, h.assemble_eq⟩

end RobotPuzzle.Script
