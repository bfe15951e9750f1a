import RobotPuzzle.CommandLine.Basic
import RobotPuzzle.CommandLine.Folder

namespace RobotPuzzle

def failureText : IO.Error → String
  | .noFileOrDirectory .. => CommandLine.notFound
  | .inappropriateType _ _ "not a directory" => CommandLine.notFolder
  | .inappropriateType .. => CommandLine.isFolder
  | .invalidArgument _ _ "name too long" => CommandLine.nameTooLong
  | .permissionDenied .. => "Permission denied (os error 13)"
  | other => toString other

def readText (file : String) : IO (Except String String) := do
  match ← (IO.FS.readBinFile file).toBaseIO with
  | .ok bytes => return CommandLine.decodeText bytes
  | .error failure => return .error (failureText failure)

def patience : Nat := 1 <<< 62

end RobotPuzzle

open RobotPuzzle in
def main (args : List String) : IO UInt32 := do
  let content ← readText (args.getD 1 "")
  match CommandLine.answer patience (fun _ => content) args with
  | none => return 1
  | some output =>
    IO.print output.stdout
    IO.eprint output.stderr
    return output.code
