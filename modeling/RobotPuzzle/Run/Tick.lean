import RobotPuzzle.Run.Motion

namespace RobotPuzzle

variable {α : Type} [Scalar α]

def proceed (pace : Pace α) : List Statement → Scene α → Frame α
  | [], scene => .stopped pace .completed scene []
  | .block body :: rest, scene => (proceed pace (body ++ rest) scene).after [] [.entered]
  | .when condition _ body :: rest, scene =>
    let holds := scene.evaluate condition
    (proceed pace (if holds then body :: rest else rest) scene).after [] [.tested condition holds]
  | .command c :: rest, scene =>
    match scene.actor.deed pace c with
    | .motion motion => (Frame.paused pace rest motion scene []).after [] [.performed c]
    | .action action =>
      let (scene, events) := scene.act action
      (proceed pace rest scene).after events [.performed c]
termination_by statements => Statement.sizes statements
decreasing_by
  · simp only [Statement.sizes, Statement.sizes_append, Statement.size]; omega
  · split <;> simp only [Statement.sizes, Statement.size] <;> omega
  · simp only [Statement.sizes, Statement.size]; omega

def Run.tick (run : Run α) (cancelled : Bool) (scene : Scene α) : Frame α :=
  match run.ended with
  | some ending => ⟨run, scene, [], [], .done ending⟩
  | none =>
    if cancelled then .stopped run.pace .cancelled scene []
    else
      match run.motion with
      | none => proceed run.pace run.pending scene
      | some motion =>
        match motion.step run.pace scene with
        | (.moving motion, scene, events) => .paused run.pace run.pending motion scene events
        | (.trapped, scene, events) => .stopped run.pace .trapped scene events
        | (.settled, scene, events) => (proceed run.pace run.pending scene).after events []

end RobotPuzzle
