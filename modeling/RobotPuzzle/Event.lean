import RobotPuzzle.Actor

namespace RobotPuzzle

inductive Severity where
  | info
  | warning
  | error
deriving DecidableEq, Repr

structure ConsoleLine where
  text : String
  line : Option Nat
  severity : Severity
deriving DecidableEq, Repr

def ConsoleLine.info (text : String) : ConsoleLine := ⟨text, none, .info⟩

def ConsoleLine.warning (text : String) : ConsoleLine := ⟨text, none, .warning⟩

inductive Fixture where
  | crystal (index : Nat)
  | hazard (kind : HazardKind) (id : Nat)
deriving DecidableEq, Repr

inductive Event (α : Type) where
  | console (line : ConsoleLine)
  | pose (position : Position α) (yaw : α)
  | visibility (fixture : Fixture) (visible : Bool)
  | extinguishers (left : Nat)
  | finished (won : Bool)

namespace Event

variable {α : Type}

def say (text : String) : Event α := console (.info text)

def warn (text : String) : Event α := console (.warning text)

def consoleLine? : Event α → Option ConsoleLine
  | console line => some line
  | _ => none

def consoleLines (events : List (Event α)) : List ConsoleLine := events.filterMap consoleLine?

end Event

def Actor.pose {α : Type} (actor : Actor α) : Event α := .pose actor.position actor.yaw

end RobotPuzzle
