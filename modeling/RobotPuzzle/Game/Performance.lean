import RobotPuzzle.Game.Basic

namespace RobotPuzzle

structure Performance (α : Type) where
  game : Game α
  outcome : Except Refusal (Option Report)
  frames : Nat
  renders : List (Nat × List (Event α))

namespace Performance

variable {α : Type}

def events (performance : Performance α) : List (Event α) :=
  performance.renders.flatMap (·.2)

end Performance

variable {α : Type} [Scalar α]

def Game.perform (game : Game α) (code : String) (patience : Nat) : Performance α :=
  match game.start code with
  | (game, events, .error refusal) => ⟨game, .error refusal, 0, [(0, events)]⟩
  | (game, events, .ok play) =>
    let showing := (game.trial play).showAll patience
    let (game, play) := game.adopt play showing.trial
    match showing.ending with
    | none => ⟨game, .ok none, showing.frames, (0, events) :: showing.renders⟩
    | some ending =>
      let (report, game, closing) := game.finish play.signal ending
      ⟨game, .ok (some report), showing.frames,
        (0, events) :: showing.renders ++ [(showing.frames, closing)]⟩

end RobotPuzzle
