import RobotPuzzle.Text.Markup

namespace RobotPuzzle.Script

structure Line where
  number : Nat
  raw : String
  text : List Char
deriving DecidableEq, Repr

namespace Line

def isBlank (line : Line) : Bool := line.text.isEmpty

def opensBlock (line : Line) : Bool := line.text.contains '\x7b'

def closesBlock (line : Line) : Bool := line.text.contains '\x7d'

end Line

def dropMark : List Char → List Char
  | '\ufeff' :: text => text
  | text => text

def dropReturn (line : List Char) : List Char :=
  if line.getLast? = some '\r' then line.dropLast else line

def numberLines (start : Nat) : List (List Char) → List Line
  | [] => []
  | line :: rest =>
    ⟨start, String.ofList (dropReturn line), Text.trim (dropReturn line)⟩ ::
      numberLines (start + 1) rest

def allLines (source : String) : List Line :=
  numberLines 1 ((dropMark source.toList).splitOn '\n')

def lines (source : String) : List Line := (allLines source).filter fun line => !line.isBlank

end RobotPuzzle.Script
