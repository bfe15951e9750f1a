import RobotPuzzle.Program.Basic
import RobotPuzzle.Text.Markup

/-! The forms that a trimmed line can have. Spaces and tabs may stand around parentheses, a command
may end in a semicolon, and the condition of a header reaches to its last closing parenthesis. -/

namespace RobotPuzzle.Script

def isGap (c : Char) : Bool := c == ' ' || c == '\t'

def skipGap (text : List Char) : List Char := text.dropWhile isGap

def after? : List Char → List Char → Option (List Char)
  | [], text => some text
  | w :: word, c :: text => if w = c then after? word text else none
  | _ :: _, [] => none

theorem after?_append (word text : List Char) : after? word (word ++ text) = some text := by
  induction word with
  | nil => rfl
  | cons w word ih => simpa [after?] using ih

theorem after?_eq_some_iff {word text rest : List Char} :
    after? word text = some rest ↔ text = word ++ rest := by
  refine ⟨fun h => ?_, fun h => h ▸ after?_append word rest⟩
  induction word generalizing text with
  | nil => exact Option.some.inj h
  | cons w word ih =>
    cases text with
    | nil => exact nomatch h
    | cons c text =>
      by_cases hc : w = c
      · subst hc
        rw [after?, if_pos rfl] at h
        rw [ih h, List.cons_append]
      · rw [after?, if_neg hc] at h
        exact nomatch h

def afterMark? (c : Char) (text : List Char) : Option (List Char) := after? [c] (skipGap text)

def afterNoArguments? (text : List Char) : Option (List Char) :=
  (afterMark? '(' text).bind (afterMark? ')')

def endsCommand (text : List Char) : Bool :=
  let rest := skipGap text
  rest == [] || rest == [';']

def count? (digits : List Char) : Option UInt32 :=
  match digits with
  | [] => none
  | c :: _ =>
    let n := Nat.ofDigitChars 10 digits 0
    if c ≠ '0' ∧ n < UInt32.size then some (UInt32.ofNat n) else none

def moveCount? (text : List Char) : Option UInt32 :=
  (afterMark? '(' text).bind fun rest =>
    let numeral := skipGap rest
    (afterMark? ')' (numeral.dropWhile Char.isDigit)).bind fun rest =>
      if endsCommand rest then count? (numeral.takeWhile Char.isDigit) else none

def isPlainCall (text : List Char) : Bool :=
  match afterNoArguments? text with
  | some rest => endsCommand rest
  | none => false

def plainCommands : List Command :=
  [.turnLeft, .turnRight, .turnAround, .collect, .putOutFire, .coverHole]

def plainCommand? (text : List Char) : Option Command :=
  plainCommands.find? fun command => (after? command.keyword.toList text).any isPlainCall

def command? (text : List Char) : Option Command :=
  match after? (Command.forward 0).keyword.toList text with
  | some rest => (moveCount? rest).map .forward
  | none =>
    match after? (Command.backward 0).keyword.toList text with
    | some rest => (moveCount? rest).map .backward
    | none => plainCommand? text

inductive Header where
  | bare (condition : List Char)
  | block (condition : List Char)
deriving DecidableEq, Repr

def closeHeader? (rest : List Char) : Option Header :=
  match rest.reverse with
  | ')' :: c :: condition => some (.bare (c :: condition).reverse)
  | '\x7b' :: before =>
    match skipGap before with
    | ')' :: c :: condition => some (.block (c :: condition).reverse)
    | _ => none
  | _ => none

def header? (text : List Char) : Option Header :=
  ((after? "se".toList text).bind (afterMark? '(')).bind closeHeader?

def isGapOnly (text : List Char) : Bool := skipGap text == []

def isSensorCall (sensor : Sensor) (text : List Char) : Bool :=
  ((after? sensor.keyword.toList text).bind afterNoArguments?).any isGapOnly

def condition? (text : List Char) : Option Condition :=
  let text := skipGap text
  if (after? "true".toList text).any isGapOnly then some (.literal true)
  else if (after? "false".toList text).any isGapOnly then some (.literal false)
  else ([Sensor.fire, Sensor.hole].find? fun sensor => isSensorCall sensor text).map .sensor

inductive Shape where
  | command (command : Command)
  | header (header : Header)
  | closing
  | opening
deriving DecidableEq, Repr

def shape? (text : List Char) : Option Shape :=
  match command? text with
  | some c => some (.command c)
  | none =>
    match header? text with
    | some h => some (.header h)
    | none =>
      if text = ['\x7d'] then some .closing else if text = ['\x7b'] then some .opening else none

end RobotPuzzle.Script
