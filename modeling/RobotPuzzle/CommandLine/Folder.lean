/-! Reading files from a folder that is held in memory, with the answers of a real one when a path
leads nowhere. -/

namespace RobotPuzzle.CommandLine

structure Folder where
  files : List (String × ByteArray)

def notFound : String := "No such file or directory (os error 2)"

def notFolder : String := "Not a directory (os error 20)"

def isFolder : String := "Is a directory (os error 21)"

def nameTooLong : String := "File name too long (os error 36)"

def notText : String := "stream did not contain valid UTF-8"

def decodeText (bytes : ByteArray) : Except String String :=
  match String.fromUTF8? bytes with
  | some text => .ok text
  | none => .error notText

namespace Folder

def file? (folder : Folder) (name : String) : Option ByteArray :=
  (folder.files.find? fun file => file.1 == name).map (·.2)

def outside : Folder := ⟨[]⟩

def nameLimit : Nat := 255

def pathLimit : Nat := 4096

inductive Place where
  | folder (here : Folder)
  | file (bytes : ByteArray)

def Place.step : Place → String → Except String Place
  | .file _, _ => .error notFolder
  | .folder here, name =>
    if name = "" ∨ name = "." then .ok (.folder here)
    else if name = ".." then .ok (.folder outside)
    else if nameLimit < name.utf8ByteSize then .error nameTooLong
    else
      match here.file? name with
      | some bytes => .ok (.file bytes)
      | none => .error notFound

def splitPath (path : String) : List String := (path.toList.splitOn '/').map String.ofList

def locate (folder : Folder) (path : String) : Except String Place :=
  if path = "" then .error notFound
  else if pathLimit ≤ path.utf8ByteSize then .error nameTooLong
  else
    (splitPath path).foldlM Place.step
      (.folder (if path.startsWith "/" then outside else folder))

def read (folder : Folder) (path : String) : Except String String :=
  match folder.locate path with
  | .ok (.file bytes) => decodeText bytes
  | .ok (.folder _) => .error isFolder
  | .error failure => .error failure

end Folder

end RobotPuzzle.CommandLine
