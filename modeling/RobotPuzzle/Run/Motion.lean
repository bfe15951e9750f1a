import RobotPuzzle.Run.Basic
import RobotPuzzle.Terrain.Move

/-! Moves and turns, frame by frame. A move asks the map again on every frame where it may go and
covers a growing share of the way that is left. -/

namespace RobotPuzzle

open Scalar

variable {α : Type} [Scalar α]

inductive Deed (α : Type) where
  | motion (motion : Motion α)
  | action (action : Action α)

namespace Actor

def travel (actor : Actor α) (pace : Pace α) (sign : Int) (count : UInt32) : Motion α :=
  let distance : α := ofInt sign * ofInt 2 * ofInt count.toNat
  let (dx, dz) := actor.heading.step
  .travel
    ⟨actor.position.x + ofInt dx * distance, actor.position.z + ofInt dz * distance⟩
    pace.share false

def deed (actor : Actor α) (pace : Pace α) : Command → Deed α
  | .forward count => .motion (actor.travel pace 1 count)
  | .backward count => .motion (actor.travel pace (-1) count)
  | .turnLeft => .motion (.turn (actor.yaw + ofInt 90) actor.heading.left)
  | .turnRight => .motion (.turn (actor.yaw - ofInt 90) actor.heading.right)
  | .turnAround => .motion (.turn (actor.yaw + ofInt 180) actor.heading.reverse)
  | .collect => .action .collect
  | .putOutFire => .action .putOutFire
  | .coverHole => .action .coverHole

end Actor

inductive Progress (α : Type) where
  | moving (motion : Motion α)
  | settled
  | trapped

def blockedWarning : String :=
  "Aviso: Não é possível avançar mais por este caminho, seguindo para o próximo comando."

namespace Scene

def advance (scene : Scene α) (pace : Pace α) (requested : Position α) (share : α)
    (warned : Bool) : Progress α × Scene α × List (Event α) :=
  let current := scene.actor.position
  let resolved := scene.terrain.resolve current requested
  let warnings := if resolved.isClamped && !warned then [.warn blockedWarning] else []
  if current.isNear resolved.position pace.precision then
    let actor := { scene.actor with position := resolved.position }
    (.settled, { scene with actor }, warnings ++ [actor.pose])
  else
    let actor := { scene.actor with position := current.lerp resolved.position share }
    (.moving (.travel requested (capOne (share + pace.gain)) (warned || resolved.isClamped)),
      { scene with actor }, warnings ++ [actor.pose])

def travel (scene : Scene α) (pace : Pace α) (requested : Position α) (share : α)
    (warned : Bool) : Progress α × Scene α × List (Event α) :=
  if scene.isTrapped then (.trapped, scene, [.say "Você caiu na armadilha."])
  else if scene.isOn .fire then (.settled, scene, [.say "Robô foi queimado!"])
  else if scene.isOn .hole then (.settled, scene, [.say "Você caiu no buraco!"])
  else scene.advance pace requested share warned

def turn (scene : Scene α) (pace : Pace α) (target : α) (heading : Heading) :
    Progress α × Scene α × List (Event α) :=
  let difference := target - scene.actor.yaw
  if abs difference ≤ pace.turn then
    let actor := { scene.actor with yaw := wrap target (ofInt 360), heading }
    (.settled, { scene with actor }, [actor.pose])
  else
    let actor := { scene.actor with yaw := scene.actor.yaw + pace.turn * signum difference }
    (.moving (.turn target heading), { scene with actor }, [actor.pose])

end Scene

def Motion.step (motion : Motion α) (pace : Pace α) (scene : Scene α) :
    Progress α × Scene α × List (Event α) :=
  match motion with
  | .travel requested share warned => scene.travel pace requested share warned
  | .turn target heading => scene.turn pace target heading

end RobotPuzzle
