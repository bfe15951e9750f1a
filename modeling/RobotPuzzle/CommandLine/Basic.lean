import RobotPuzzle.Game.Performance
import RobotPuzzle.Puzzle.Catalog
import RobotPuzzle.Scalar.Binary
import RobotPuzzle.Text.Markup

namespace RobotPuzzle.CommandLine

open Text (unlines)

structure Output where
  code : UInt32
  stdout : String
  stderr : String
deriving DecidableEq, Repr

def usage : String := "Usage: gridbot <level-id> <program-file>\n       gridbot --list"

def errorLines (message : String) (cause : Option String) : List String :=
  match cause with
  | none => ["Error: " ++ message]
  | some cause => ["Error: " ++ message, "", "Caused by:", "    " ++ cause]

def failure (message : String) (cause : Option String) : Output :=
  ⟨1, "", unlines (errorLines message cause)⟩

def padRight (width : Nat) (text : String) : String :=
  text ++ String.ofList (List.replicate (width - text.length) ' ')

def list : Output :=
  ⟨0, unlines (Puzzle.catalog.map fun puzzle => padRight 16 puzzle.id ++ " " ++ puzzle.title), ""⟩

def endingWord : Ending → String
  | .completed => "Completed"
  | .trapped => "Trapped"
  | .cancelled => "Cancelled"

def verdict (won : Bool) : String := if won then "Fase concluída!" else "Fase não concluída."

def status (won : Bool) : UInt32 := if won then 0 else 2

def consoleTexts (plain : Bool) (lines : List ConsoleLine) : List String :=
  (lines.filter fun line => (line.severity == .info) == plain).map (·.text)

def report {α : Type} (performance : Performance α) : Option Output :=
  let lines := Event.consoleLines performance.events
  let out := consoleTexts true lines
  let err := consoleTexts false lines
  match performance.outcome with
  | .error (.rejected rejection) =>
    let message := "program rejected at line " ++ toString rejection.line.number
    some ⟨1, unlines out, unlines (err ++ errorLines message none)⟩
  | .error .busy => some ⟨1, unlines out, unlines (err ++ errorLines Refusal.busy.message none)⟩
  | .ok none => none
  | .ok (some result) =>
    let summary :=
      endingWord result.ending ++ " after " ++ toString performance.frames ++ " frames"
    some ⟨status result.won, unlines (out ++ [summary, verdict result.won]), unlines err⟩

/-- Answers a command. `read` gives the text of a file or says why it cannot be read. There is no
answer when a run is not over after `patience` frames. -/
def answer (patience : Nat) (read : String → Except String String) :
    List String → Option Output
  | [] => some (failure usage none)
  | "--list" :: _ => some list
  | [_] => some (failure usage none)
  | id :: file :: _ =>
    match Puzzle.find? id with
    | none => some (failure ("unknown level '" ++ id ++ "' (try --list)") none)
    | some puzzle =>
      match read file with
      | .error cause => some (failure ("reading " ++ file) (some cause))
      | .ok code => report ((puzzle.game (Pace.standard : Pace Float)).perform code patience)

end RobotPuzzle.CommandLine
