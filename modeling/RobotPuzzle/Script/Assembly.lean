import RobotPuzzle.Script.Check

/-! From checked lines to a statement tree. The lines are taken from the last to the first: a
closing brace starts a new list of statements and its opening brace turns the list into a block.
There is a program only when every line passes. -/

namespace RobotPuzzle.Script

/-- What the lines below amount to: the statements of the present block, and for each closing brace
whose opening one is still to come, its line and the statements after it. -/
structure Assembly where
  body : List Statement
  outer : List (Line × List Statement)

namespace Assembly

def openBlock (assembly : Assembly) (line : Line) (wrap : List Statement → Statement) :
    Except Rejection Assembly :=
  match assembly.outer with
  | [] => .error (.faulty .unclosedBlock line)
  | (_, rest) :: outer => .ok ⟨wrap assembly.body :: rest, outer⟩

def push (assembly : Assembly) (placed : Placed) : Except Rejection Assembly :=
  match placed.token with
  | .command c => .ok { assembly with body := .command c :: assembly.body }
  | .closing => .ok ⟨[], (placed.line, assembly.body) :: assembly.outer⟩
  | .opening => assembly.openBlock placed.line .block
  | .blockIf condition source =>
    assembly.openBlock placed.line fun body => .when condition source (.block body)
  | .bareIf condition source =>
    match assembly.body with
    | [] => .error (.faulty .emptyConditional placed.line)
    | statement :: rest =>
      .ok { assembly with body := .when condition source statement :: rest }

def finish (assembly : Assembly) : Except Rejection Program :=
  match assembly.outer.getLast? with
  | none => .ok ⟨assembly.body⟩
  | some (line, _) => .error (.faulty .unopenedBlock line)

end Assembly

def isEmptyConditional (placed : Placed) (below : List Placed) : Bool :=
  match placed.token, below with
  | .bareIf .., [] => true
  | .bareIf .., ⟨_, .closing⟩ :: _ => true
  | _, _ => false

def assembleFrom : List Placed → Except Rejection Assembly
  | [] => .ok ⟨[], []⟩
  | placed :: below =>
    if isEmptyConditional placed below then .error (.faulty .emptyConditional placed.line)
    else do (← assembleFrom below).push placed

def assemble (placed : List Placed) : Except Rejection Program := do
  (← assembleFrom placed).finish

end RobotPuzzle.Script

namespace RobotPuzzle.Program

open Script

def ofLines (guard : Guard) (limit : Option Nat) (lines : List Line) :
    Except Rejection Program := do
  assemble (← checkAll guard limit [] lines)

def ofSource (limit : Option Nat) (source : String) : Except Rejection Program :=
  ofLines sensorGuard limit (lines source)

end RobotPuzzle.Program
