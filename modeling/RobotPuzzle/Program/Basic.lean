namespace RobotPuzzle

inductive Sensor where
  | fire
  | hole
deriving DecidableEq, Repr

def Sensor.keyword : Sensor → String
  | fire => "pegandoFogo"
  | hole => "buracoAFrente"

inductive Condition where
  | literal (value : Bool)
  | sensor (sensor : Sensor)
deriving DecidableEq, Repr

inductive Command where
  | forward (count : UInt32)
  | backward (count : UInt32)
  | turnLeft
  | turnRight
  | turnAround
  | collect
  | putOutFire
  | coverHole
deriving DecidableEq, Repr

namespace Command

def keyword : Command → String
  | forward _ => "andarFrente"
  | backward _ => "andarTras"
  | turnLeft => "girarEsquerda"
  | turnRight => "girarDireita"
  | turnAround => "darMeiaVolta"
  | collect => "coletarCristal"
  | putOutFire => "apagarFogoECobrirBuraco"
  | coverHole => "cobrirBuraco"

def requiredSensor : Command → Option Sensor
  | putOutFire => some .fire
  | coverHole => some .hole
  | _ => none

end Command

inductive Statement where
  | command (command : Command)
  | when (condition : Condition) (source : String) (body : Statement)
  | block (body : List Statement)
deriving Repr

structure Program where
  body : List Statement
deriving Repr

mutual

def Statement.commandCount : Statement → Nat
  | .command _ => 1
  | .when _ _ body => body.commandCount
  | .block body => Statement.commandCounts body

def Statement.commandCounts : List Statement → Nat
  | [] => 0
  | statement :: rest => statement.commandCount + Statement.commandCounts rest

end

def Program.commandCount (program : Program) : Nat := Statement.commandCounts program.body

mutual

def Statement.size : Statement → Nat
  | .command _ => 1
  | .when _ _ body => body.size + 1
  | .block body => Statement.sizes body + 1

def Statement.sizes : List Statement → Nat
  | [] => 0
  | statement :: rest => statement.size + Statement.sizes rest

end

namespace Statement

theorem sizes_append (body rest : List Statement) :
    sizes (body ++ rest) = sizes body + sizes rest := by
  induction body with
  | nil => simp [sizes]
  | cons statement body ih => simp only [List.cons_append, sizes, ih]; omega

end Statement

end RobotPuzzle
