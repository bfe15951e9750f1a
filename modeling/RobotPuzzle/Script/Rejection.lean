import RobotPuzzle.Event
import RobotPuzzle.Script.Line

namespace RobotPuzzle.Script

inductive Fault where
  | unknownCommand
  | invalidCondition
  | unclosedBlock
  | unopenedBlock
  | missingSensorCheck
  | emptyConditional
deriving DecidableEq, Repr

def Fault.remark : Fault → String
  | unknownCommand => ""
  | invalidCondition => " (Condição inválida)"
  | unclosedBlock => " (Bloco é aberto mas nunca é fechado)"
  | unopenedBlock => " (Bloco é fechado mas nunca é aberto)"
  | missingSensorCheck => " (Não é possível usar comando sem saber o que está em minha frente)"
  | emptyConditional => " (Condição sem comando para executar)"

inductive Rejection where
  | faulty (fault : Fault) (line : Line)
  | tooManyCommands (line : Line) (limit : Nat)
deriving DecidableEq, Repr

namespace Rejection

def line : Rejection → Line
  | faulty _ line => line
  | tooManyCommands line _ => line

def message : Rejection → String
  | faulty fault line => line.raw ++ fault.remark
  | tooManyCommands _ limit =>
    "O código tem mais linhas do que o robô pode processar. Tente rescrever seu código em " ++
      toString limit ++ " linhas ou menos."

def console (rejection : Rejection) : ConsoleLine :=
  match rejection with
  | .faulty _ line =>
    ⟨"Código Inválido: " ++ rejection.message ++ " linha: " ++ toString line.number,
      some line.number, .error⟩
  | .tooManyCommands .. => ⟨rejection.message, none, .error⟩

end Rejection

end RobotPuzzle.Script
