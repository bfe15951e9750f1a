import RobotPuzzle.Proofs.Script.Nesting
import RobotPuzzle.Proofs.Script.Passing

/-! The statement tree, read in preorder, gives the lines back from which it was assembled, and no
other tree does. -/

namespace RobotPuzzle

open Script

mutual

def Statement.reading : Statement → List Token
  | .command c => [.command c]
  | .when condition source body => .bareIf condition source :: body.reading
  | .block body => .opening :: (Statement.readings body ++ [.closing])

def Statement.readings : List Statement → List Token
  | [] => []
  | statement :: rest => statement.reading ++ Statement.readings rest

end

def Program.reading (program : Program) : List Token := Statement.readings program.body

namespace Statement

lemma reading_ne_closing (statement : Statement) (rest more : List Token) :
    statement.reading ++ rest ≠ .closing :: more := by
  cases statement <;> simp [reading]

mutual

lemma reading_prefix : (statement other : Statement) → {rest more : List Token} →
    statement.reading ++ rest = other.reading ++ more → statement = other ∧ rest = more
  | .command c, other, rest, more, h => by
    cases other with
    | command d =>
      simp only [reading, List.cons_append, List.nil_append, List.cons.injEq,
        Token.command.injEq] at h
      obtain ⟨rfl, rfl⟩ := h
      exact ⟨rfl, rfl⟩
    | _ => simp [reading] at h
  | .when condition source body, other, rest, more, h => by
    cases other with
    | when condition' source' body' =>
      simp only [reading, List.cons_append, List.cons.injEq, Token.bareIf.injEq] at h
      obtain ⟨⟨rfl, rfl⟩, hb⟩ := h
      obtain ⟨rfl, rfl⟩ := reading_prefix body body' hb
      exact ⟨rfl, rfl⟩
    | _ => simp [reading] at h
  | .block body, other, rest, more, h => by
    cases other with
    | block body' =>
      simp only [reading, List.cons_append, List.append_assoc, List.nil_append, List.cons.injEq,
        true_and] at h
      obtain ⟨rfl, rfl⟩ := readings_prefix body body' h
      exact ⟨rfl, rfl⟩
    | _ => simp [reading] at h

lemma readings_prefix : (body other : List Statement) → {rest more : List Token} →
    readings body ++ .closing :: rest = readings other ++ .closing :: more →
    body = other ∧ rest = more
  | [], [], rest, more, h => ⟨rfl, (List.cons.inj h).2⟩
  | [], statement :: other, rest, more, h => by
    rw [readings, readings, List.append_assoc] at h
    exact absurd h.symm (reading_ne_closing statement _ _)
  | statement :: body, [], rest, more, h => by
    rw [readings, readings, List.append_assoc] at h
    exact absurd h (reading_ne_closing statement _ _)
  | statement :: body, statement' :: other, rest, more, h => by
    rw [readings, readings, List.append_assoc, List.append_assoc] at h
    obtain ⟨rfl, hb⟩ := reading_prefix statement statement' h
    obtain ⟨rfl, rfl⟩ := readings_prefix body other hb
    exact ⟨rfl, rfl⟩

end

lemma reading_ne_nil (statement : Statement) (rest : List Token) :
    statement.reading ++ rest ≠ [] := by
  cases statement <;> simp [reading]

variable {condition : Condition} {source : String} {more : List Token}

mutual

lemma header_behind_reading (hm : more = [] ∨ ∃ last, more = .closing :: last) :
    (statement : Statement) → {before rest : List Token} →
    statement.reading ++ rest = before ++ .bareIf condition source :: more →
    ∃ between, rest = between ++ .bareIf condition source :: more
  | .command c, before, rest, h => by
    cases before with
    | nil => simp [reading] at h
    | cons token before => exact ⟨before, (List.cons.inj h).2⟩
  | .when condition' source' body, before, rest, h => by
    cases before with
    | nil =>
      obtain ⟨-, hb⟩ := List.cons.inj h
      rcases hm with rfl | ⟨last, rfl⟩
      · exact absurd hb (reading_ne_nil body rest)
      · exact absurd hb (reading_ne_closing body rest last)
    | cons token before => exact header_behind_reading hm body (List.cons.inj h).2
  | .block body, before, rest, h => by
    cases before with
    | nil => simp [reading] at h
    | cons token before =>
      have hb : readings body ++ [.closing] ++ rest =
        before ++ .bareIf condition source :: more := (List.cons.inj h).2
      rw [List.append_assoc] at hb
      obtain ⟨between, hr⟩ := header_behind_readings hm body hb
      cases between with
      | nil => simp at hr
      | cons token between => exact ⟨between, (List.cons.inj hr).2⟩

lemma header_behind_readings (hm : more = [] ∨ ∃ last, more = .closing :: last) :
    (body : List Statement) → {before rest : List Token} →
    readings body ++ rest = before ++ .bareIf condition source :: more →
    ∃ between, rest = between ++ .bareIf condition source :: more
  | [], before, rest, h => ⟨before, h⟩
  | statement :: body, before, rest, h => by
    rw [readings, List.append_assoc] at h
    obtain ⟨between, hb⟩ := header_behind_reading hm statement h
    exact header_behind_readings hm body hb

end

end Statement

lemma Program.reading_injective : Function.Injective Program.reading := by
  rintro ⟨body⟩ ⟨other⟩ h
  have hb : Statement.readings body = Statement.readings other := h
  rw [(Statement.readings_prefix body other (congrArg (· ++ [Token.closing]) hb)).1]

namespace Script

def token? (text : List Char) : Option Token :=
  match shape? text with
  | none => none
  | some (.command c) => some (.command c)
  | some (.header (.bare inner)) =>
    (readCondition inner).toOption.map fun (c, source) => .bareIf c source
  | some (.header (.block inner)) =>
    (readCondition inner).toOption.map fun (c, source) => .blockIf c source
  | some .opening => some .opening
  | some .closing => some .closing

def Token.pieces : Token → List Token
  | .blockIf condition source => [.bareIf condition source, .opening]
  | token => [token]

lemma Reads.token_eq {text : List Char} {token : Token} (h : Reads text token) :
    token? text = some token := by
  rw [token?]
  cases token with
  | command c => rw [show shape? text = _ from h]
  | bareIf condition source =>
    obtain ⟨inner, hs, hr⟩ := h
    simp [hs, hr, Except.toOption]
  | blockIf condition source =>
    obtain ⟨inner, hs, hr⟩ := h
    simp [hs, hr, Except.toOption]
  | opening => rw [show shape? text = _ from h]
  | closing => rw [show shape? text = _ from h]

def Assembly.reading (assembly : Assembly) : List Token :=
  Statement.readings assembly.body ++
    assembly.outer.flatMap fun (_, statements) => .closing :: Statement.readings statements

lemma Assembly.reading_push {rest assembly : Assembly} {placed : Placed}
    (h : rest.push placed = .ok assembly) :
    assembly.reading = placed.token.pieces ++ rest.reading := by
  obtain ⟨line, token⟩ := placed
  cases token with
  | command c =>
    obtain rfl := Except.ok.inj h
    simp [reading, Statement.readings, Statement.reading, Token.pieces]
  | bareIf condition source =>
    obtain ⟨statement, statements, hb, rfl⟩ := push_bareIf_ok h
    simp [reading, Statement.readings, Statement.reading, Token.pieces, hb]
  | blockIf condition source =>
    have hw : rest.openBlock line (fun body => .when condition source (.block body)) =
      .ok assembly := h
    obtain ⟨close, statements, outer, ho, rfl⟩ := openBlock_ok hw
    simp [reading, Statement.readings, Statement.reading, Token.pieces, ho]
  | opening =>
    obtain ⟨close, statements, outer, ho, rfl⟩ := openBlock_ok h
    simp [reading, Statement.readings, Statement.reading, Token.pieces, ho]
  | closing =>
    obtain rfl := Except.ok.inj h
    simp [reading, Statement.readings, Token.pieces]

lemma reading_assembleFrom {tokens : List Placed} {assembly : Assembly}
    (h : assembleFrom tokens = .ok assembly) :
    assembly.reading = tokens.flatMap (·.token.pieces) := by
  induction tokens generalizing assembly with
  | nil =>
    obtain rfl := Except.ok.inj h
    rfl
  | cons placed below ih =>
    obtain ⟨-, rest, hr, hp⟩ := assembleFrom_cons_ok h
    rw [Assembly.reading_push hp, ih hr, List.flatMap_cons]

lemma reading_assemble {tokens : List Placed} {program : Program}
    (h : assemble tokens = .ok program) :
    program.reading = tokens.flatMap (·.token.pieces) := by
  have hr := reading_assembleFrom (assemble_ok_iff.mp h)
  simpa [Assembly.reading, Program.reading] using hr

end Script

end RobotPuzzle
