import RobotPuzzle.Program.Basic
import RobotPuzzle.Text.Markup

namespace RobotPuzzle

def Condition.listing : Condition → String
  | .literal value => if value then "true" else "false"
  | .sensor s => s.keyword ++ "()"

def Command.listing (command : Command) : String :=
  match command with
  | .forward count | .backward count => command.keyword ++ "(" ++ toString count.toNat ++ ")"
  | _ => command.keyword ++ "()"

def indent (depth : Nat) (text : String) : String :=
  String.ofList (List.replicate (4 * depth) ' ') ++ text

def Statement.isBlock : Statement → Bool
  | .block _ => true
  | _ => false

mutual

def Statement.listingLines (depth : Nat) : Statement → List String
  | .command c => [indent depth c.listing]
  | .when condition _ body =>
    indent depth ("se(" ++ condition.listing ++ ")") ::
      body.listingLines (if body.isBlock then depth else depth + 1)
  | .block body =>
    indent depth "\x7b" :: Statement.listingLinesOf (depth + 1) body ++ [indent depth "\x7d"]

def Statement.listingLinesOf (depth : Nat) : List Statement → List String
  | [] => []
  | statement :: rest => statement.listingLines depth ++ Statement.listingLinesOf depth rest

end

def Statement.listing (statement : Statement) : String := Text.unlines (statement.listingLines 0)

def Program.listing (program : Program) : String :=
  Text.unlines (Statement.listingLinesOf 0 program.body)

end RobotPuzzle
