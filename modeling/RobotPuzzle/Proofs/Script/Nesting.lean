import Mathlib.Tactic
import RobotPuzzle.Script.Assembly

/-! The condition found by scanning the lines above a command is the innermost one around it in the
statement tree. -/

namespace RobotPuzzle

mutual

def Statement.governed (governor : Option Condition) :
    Statement → List (Command × Option Condition)
  | .command c => [(c, governor)]
  | .when condition _ body => body.governed (some condition)
  | .block body => Statement.governedAll governor body

def Statement.governedAll (governor : Option Condition) :
    List Statement → List (Command × Option Condition)
  | [] => []
  | statement :: rest => statement.governed governor ++ Statement.governedAll governor rest

end

def Program.governed (program : Program) : List (Command × Option Condition) :=
  Statement.governedAll none program.body

namespace Script

def governors : List Placed → List (Option Condition)
  | [] => []
  | ⟨_, .closing⟩ :: above => (governors above).tail
  | ⟨_, .opening⟩ :: above =>
    (bareAbove? above).or (governors above).head?.join :: governors above
  | ⟨_, .blockIf condition _⟩ :: above => some condition :: governors above
  | _ :: above => governors above

lemma enclosing_eq (depth : Nat) (above : List Placed) :
    enclosing? depth above = (governors above)[depth]?.join := by
  induction above generalizing depth with
  | nil => rfl
  | cons placed above ih =>
    obtain ⟨line, token⟩ := placed
    cases token with
    | command c => exact ih depth
    | bareIf condition source => exact ih depth
    | closing => simpa [enclosing?, governors] using ih (depth + 1)
    | opening =>
      cases depth with
      | zero => simp [enclosing?, governors, ih, List.head?_eq_getElem?]
      | succ depth => simpa [enclosing?, governors] using ih depth
    | blockIf condition source =>
      cases depth with
      | zero => rfl
      | succ depth => simpa [enclosing?, governors] using ih depth

def Token.bareCondition? : Token → Option Condition
  | .bareIf condition _ => some condition
  | _ => none

@[simp] lemma bareAbove_cons (line : Line) (token : Token) (above : List Placed) :
    bareAbove? (⟨line, token⟩ :: above) = token.bareCondition? := by
  cases token <;> rfl

lemma governing_eq (above : List Placed) :
    governing? above = (bareAbove? above).or (governors above).head?.join := by
  rw [governing?, enclosing_eq, List.head?_eq_getElem?]

def Token.command? : Token → Option Command
  | .command c => some c
  | _ => none

lemma Token.command_eq_some {token : Token} {c : Command} :
    token.command? = some c ↔ token = .command c := by
  cases token <;> simp [command?]

def scanned (above : List Placed) : List Placed → List (Line × Command × Option Condition)
  | [] => []
  | ⟨line, token⟩ :: below =>
    (token.command?.toList.map fun c => (line, c, governing? above)) ++
      scanned (⟨line, token⟩ :: above) below

namespace Assembly

def outerGoverned (stack : List (Option Condition)) :
    List (Line × List Statement) → List (Command × Option Condition)
  | [] => []
  | (_, statements) :: outer =>
    Statement.governedAll stack.head?.join statements ++ outerGoverned stack.tail outer

def bodyGoverned (bare governor : Option Condition) :
    List Statement → List (Command × Option Condition)
  | [] => []
  | statement :: rest =>
    statement.governed (bare.or governor) ++ Statement.governedAll governor rest

def governed (assembly : Assembly) (bare : Option Condition) (stack : List (Option Condition)) :
    List (Command × Option Condition) :=
  bodyGoverned bare stack.head?.join assembly.body ++ outerGoverned stack.tail assembly.outer

@[simp] lemma bodyGoverned_nil (bare governor : Option Condition) :
    bodyGoverned bare governor [] = [] := rfl

@[simp] lemma bodyGoverned_none (governor : Option Condition) (body : List Statement) :
    bodyGoverned none governor body = Statement.governedAll governor body := by
  cases body <;> rfl

@[simp] lemma bodyGoverned_cons (bare governor : Option Condition) (statement : Statement)
    (rest : List Statement) : bodyGoverned bare governor (statement :: rest) =
      statement.governed (bare.or governor) ++ Statement.governedAll governor rest := rfl

lemma openBlock_ok {assembly result : Assembly} {line : Line}
    {wrap : List Statement → Statement} (h : assembly.openBlock line wrap = .ok result) :
    ∃ close rest outer, assembly.outer = (close, rest) :: outer ∧
      result = ⟨wrap assembly.body :: rest, outer⟩ := by
  rw [openBlock] at h
  split at h
  · exact nomatch h
  · rename_i close rest outer ho
    exact ⟨close, rest, outer, ho, (Except.ok.inj h).symm⟩

lemma push_bareIf_ok {assembly result : Assembly} {line : Line} {condition : Condition}
    {source : String} (h : assembly.push ⟨line, .bareIf condition source⟩ = .ok result) :
    ∃ statement rest, assembly.body = statement :: rest ∧
      result = ⟨.when condition source statement :: rest, assembly.outer⟩ := by
  rw [push] at h
  split at h
  all_goals simp_all
  split at h
  · cases h
  · rename_i statement rest hb
    exact ⟨statement, rest, hb, (Except.ok.inj h).symm⟩

end Assembly

lemma assembleFrom_cons_ok {placed : Placed} {below : List Placed} {assembly : Assembly}
    (h : assembleFrom (placed :: below) = .ok assembly) :
    isEmptyConditional placed below = false ∧
      ∃ rest, assembleFrom below = .ok rest ∧ rest.push placed = .ok assembly := by
  rw [assembleFrom] at h
  split at h
  · exact nomatch h
  · rename_i he
    refine ⟨by simpa using he, ?_⟩
    cases hr : assembleFrom below with
    | error rejection =>
      rw [hr] at h
      exact nomatch h
    | ok rest =>
      rw [hr] at h
      exact ⟨rest, rfl, h⟩

lemma Assembly.finish_ok_iff {assembly : Assembly} {program : Program} :
    assembly.finish = .ok program ↔ assembly = ⟨program.body, []⟩ := by
  obtain ⟨body, outer⟩ := assembly
  rw [Assembly.finish]
  cases ho : outer.getLast? with
  | none =>
    obtain rfl := List.getLast?_eq_none_iff.mp ho
    constructor
    · intro h
      obtain rfl := Except.ok.inj h
      rfl
    · intro h
      obtain ⟨rfl, -⟩ := Assembly.mk.inj h
      rfl
  | some item =>
    constructor
    · exact fun h => nomatch h
    · intro h
      obtain ⟨-, rfl⟩ := Assembly.mk.inj h
      exact nomatch ho

lemma assemble_ok_iff {tokens : List Placed} {program : Program} :
    assemble tokens = .ok program ↔ assembleFrom tokens = .ok ⟨program.body, []⟩ := by
  rw [assemble]
  cases assembleFrom tokens with
  | error rejection => exact ⟨fun h => (nomatch h), fun h => (nomatch h)⟩
  | ok assembly =>
    constructor
    · exact fun h => congrArg Except.ok (Assembly.finish_ok_iff.mp h)
    · exact fun h => Assembly.finish_ok_iff.mpr (Except.ok.inj h)

theorem scanned_eq_governed {tokens : List Placed} {assembly : Assembly}
    (h : assembleFrom tokens = .ok assembly) (above : List Placed) :
    (scanned above tokens).map (·.2) = assembly.governed (bareAbove? above) (governors above) := by
  -- The scan looks up and the assembly looks down, so the lines above stay arbitrary.
  induction tokens generalizing above assembly with
  | nil =>
    obtain rfl := Except.ok.inj h
    rfl
  | cons placed below ih =>
    obtain ⟨-, rest, hr, hp⟩ := assembleFrom_cons_ok h
    obtain ⟨line, token⟩ := placed
    have hb := ih hr (⟨line, token⟩ :: above)
    rw [bareAbove_cons] at hb
    cases token with
    | command c =>
      obtain rfl := Except.ok.inj hp
      simpa [Assembly.governed, Statement.governed, scanned, governors, Token.command?,
        Token.bareCondition?, governing_eq] using hb
    | bareIf condition source =>
      obtain ⟨statement, statements, hs, rfl⟩ := Assembly.push_bareIf_ok hp
      simpa [Assembly.governed, Statement.governed, scanned, governors, Token.command?,
        Token.bareCondition?, hs] using hb
    | blockIf condition source =>
      have hw : rest.openBlock line (fun body => .when condition source (.block body)) =
        .ok assembly := hp
      obtain ⟨close, statements, outer, ho, rfl⟩ := Assembly.openBlock_ok hw
      simpa [Assembly.governed, Assembly.outerGoverned, Statement.governed, scanned, governors,
        Token.command?, Token.bareCondition?, ho] using hb
    | opening =>
      obtain ⟨close, statements, outer, ho, rfl⟩ := Assembly.openBlock_ok hp
      simpa [Assembly.governed, Assembly.outerGoverned, Statement.governed, scanned, governors,
        Token.command?, Token.bareCondition?, ho] using hb
    | closing =>
      obtain rfl := Except.ok.inj hp
      simpa [Assembly.governed, Assembly.outerGoverned, scanned, governors,
        Token.command?, Token.bareCondition?, Statement.governedAll] using hb

end Script

end RobotPuzzle
