import RobotPuzzle.Script.Rejection
import RobotPuzzle.Script.Shape

/-! The checks that one line has to pass, given the lines around it. Braces are matched by scanning
the text up or down from a line; a command that needs a sensor is held against the condition that
governs it. -/

namespace RobotPuzzle.Script

inductive Token where
  | command (command : Command)
  | bareIf (condition : Condition) (source : String)
  | blockIf (condition : Condition) (source : String)
  | opening
  | closing
deriving DecidableEq, Repr

structure Placed where
  line : Line
  token : Token
deriving DecidableEq, Repr

/-- Whether a line stops the scan when `depth` of those that would are passed over, and one more
for each line that nests. -/
def scan (stops nests : Line → Bool) (depth : Nat) : List Line → Bool
  | [] => false
  | line :: rest =>
    if stops line then
      match depth with
      | 0 => true
      | depth + 1 => scan stops nests (if nests line then depth + 1 else depth) rest
    else scan stops nests (if nests line then depth + 1 else depth) rest

theorem scan_cons (stops nests : Line → Bool) (depth : Nat) (line : Line) (rest : List Line) :
    scan stops nests depth (line :: rest) =
      if stops line then
        depth == 0 || scan stops nests (if nests line then depth else depth - 1) rest
      else scan stops nests (if nests line then depth + 1 else depth) rest := by
  cases depth with
  | zero => simp [scan]
  | succ depth => simp [scan]

def hasCloser (depth : Nat) (below : List Line) : Bool :=
  scan Line.closesBlock Line.opensBlock depth below

def hasOpener (depth : Nat) (above : List Line) : Bool :=
  scan Line.opensBlock Line.closesBlock depth above

def bareAbove? : List Placed → Option Condition
  | ⟨_, .bareIf condition _⟩ :: _ => some condition
  | _ => none

def enclosing? (depth : Nat) : List Placed → Option Condition
  | [] => none
  | ⟨_, .closing⟩ :: above => enclosing? (depth + 1) above
  | ⟨_, .opening⟩ :: above =>
    match depth with
    | depth + 1 => enclosing? depth above
    | 0 => (bareAbove? above).or (enclosing? 0 above)
  | ⟨_, .blockIf condition _⟩ :: above =>
    match depth with
    | depth + 1 => enclosing? depth above
    | 0 => some condition
  | _ :: above => enclosing? depth above

def governing? (above : List Placed) : Option Condition :=
  (bareAbove? above).or (enclosing? 0 above)

/-- A test of a command against the lines above it, nearest first. -/
abbrev Guard := List Placed → Command → Bool

def sensorGuard : Guard := fun above command =>
  match command.requiredSensor with
  | none => true
  | some sensor => governing? above = some (.sensor sensor)

def readCondition (text : List Char) : Except Fault (Condition × String) :=
  match condition? text with
  | some c => .ok (c, String.ofList (Text.trim text))
  | none => .error .invalidCondition

def check (guard : Guard) (above : List Placed) (line : Line) (below : List Line) :
    Except Fault Token :=
  match shape? line.text with
  | none => .error .unknownCommand
  | some (.command c) =>
    if guard above c then .ok (.command c) else .error .missingSensorCheck
  | some (.header (.bare text)) => (readCondition text).map fun (c, source) => .bareIf c source
  | some (.header (.block text)) =>
    if hasCloser 0 below then (readCondition text).map fun (c, source) => .blockIf c source
    else .error .unclosedBlock
  | some .opening => if hasCloser 0 below then .ok .opening else .error .unclosedBlock
  | some .closing =>
    if hasOpener 0 (above.map (·.line)) then .ok .closing else .error .unopenedBlock

def exceeded? (limit : Option Nat) (above : List Placed) : Option Nat :=
  limit.filter (· < above.length + 1)

def checkAll (guard : Guard) (limit : Option Nat) (above : List Placed) :
    List Line → Except Rejection (List Placed)
  | [] => .ok above.reverse
  | line :: below =>
    match check guard above line below with
    | .error fault => .error (.faulty fault line)
    | .ok token =>
      match exceeded? limit above with
      | some limit => .error (.tooManyCommands line limit)
      | none => checkAll guard limit (⟨line, token⟩ :: above) below

end RobotPuzzle.Script
