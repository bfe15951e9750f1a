import RobotPuzzle.CommandLine.Folder
import RobotPuzzle.Game.Table
import RobotPuzzle.Main
import RobotPuzzle.Program.Listing
import RobotPuzzle.Text.Markup
import RobotPuzzle.Proofs.Script.Nesting
import RobotPuzzle.Proofs.Script.Passing
import RobotPuzzle.Proofs.Script.Guard
import RobotPuzzle.Proofs.Script.Braces
import RobotPuzzle.Proofs.Script.Layout
import RobotPuzzle.Proofs.Script.Spelling
import RobotPuzzle.Proofs.Program.RoundTrip
import RobotPuzzle.Proofs.Scene.Telling
import RobotPuzzle.Proofs.Run.Change
import RobotPuzzle.Proofs.Game.Calls
import RobotPuzzle.Proofs.Game.Mirror
import RobotPuzzle.Proofs.Game.Liveness
import RobotPuzzle.Proofs.Script.Scan
import RobotPuzzle.Proofs.Run.Execution
import RobotPuzzle.Proofs.Run.Simulation
import RobotPuzzle.Proofs.Script.Balance
import RobotPuzzle.Proofs.Script.Descent
import RobotPuzzle.Proofs.Game.Running
import RobotPuzzle.Proofs.Game.Renewal
import RobotPuzzle.Proofs.Terrain.Walk
import RobotPuzzle.Proofs.Terrain.Rounding
import RobotPuzzle.Proofs.Terrain.Course
import RobotPuzzle.Proofs.Run.Footing
import RobotPuzzle.Proofs.Run.Safety
import RobotPuzzle.Proofs.Run.Duration
import RobotPuzzle.Proofs.Game.Performance
import RobotPuzzle.Proofs.Terrain.Destination
import RobotPuzzle.Proofs.Run.Peril
import RobotPuzzle.Proofs.Terrain.Milestones
import RobotPuzzle.Proofs.Run.Arrival
import RobotPuzzle.Proofs.Run.Passage
import RobotPuzzle.Proofs.Run.Accounting
import RobotPuzzle.Proofs.Run.Transparency
import RobotPuzzle.Proofs.Script.Limit
import RobotPuzzle.Proofs.Script.Relabelling
import RobotPuzzle.Proofs.Script.Acceptance
import RobotPuzzle.Proofs.Script.Recognition
import RobotPuzzle.Proofs.Run.Visits
import RobotPuzzle.Proofs.Game.Charges
import RobotPuzzle.Proofs.Scene.Alternation
import RobotPuzzle.Proofs.Game.Collection
import RobotPuzzle.Proofs.Run.Turning
import RobotPuzzle.Proofs.Scene.Clearing
import RobotPuzzle.Proofs.Terrain.Conversion
import RobotPuzzle.Proofs.Game.Blinking
import RobotPuzzle.Proofs.Text.Entities
import RobotPuzzle.Proofs.Terrain.Words
import RobotPuzzle.Proofs.Script.Matching
import RobotPuzzle.Proofs.CommandLine.Answer
import RobotPuzzle.Proofs.Game.Permanence
