import CarrierSense.Experiment.Load
import CarrierSense.Experiment.Run
import Std.Time.Format

/-!
# Command line

The program takes the path of a scene, runs the sweep that belongs to it, and says on the error
stream how it went.
-/

namespace CarrierSense

/-- Whether an action succeeds. -/
private def succeeds (action : IO Unit) : IO Bool := do
  match ← action.toBaseIO with
  | .ok () => return true
  | .error _ => return false

/-- The files of the machine as storage. -/
instance : Storage IO where
  read? path := do
    match ← (IO.FS.readFile path).toBaseIO with
    | .ok text => return some text
    | .error _ => return none
  holds path := do
    match ← (IO.FS.Handle.mk path .read).toBaseIO with
    | .ok _ | .error (.permissionDenied ..) => return true
    | .error _ => return false
  makeDirectory path := succeeds (IO.FS.createDirAll path)
  create path := succeeds (IO.FS.writeFile path "")
  append path text := do
    let file ← IO.FS.Handle.mk path .append
    file.putStr text
  timestamp := return (← Std.Time.DateTime.now).toISO8601String

/-- The scene that is run unless another is named. -/
def defaultScene : String := "scene.json"

/-- Loads and runs the experiment of a scene: a summary, or what went wrong. -/
def runScene (path : String) : IO (Except String String) := do
  match ← Experiment.load path with
  | .error error => return .error error.message
  | .ok experiment =>
    match ← experiment.runSweep Network.ampleFuel with
    | .error _ => return .error "The simulation left the limits of the machine"
    | .ok (.error error) => return .error error.message
    | .ok (.ok records) =>
      let delivered := records.foldr (fun r total => r.report.totalConsumed + total) 0
      return .ok ("Experiment finished: " ++ toString records.length ++ " runs, " ++
        toString delivered ++ " frames delivered")

end CarrierSense

/-- Runs the scene that the first argument names. -/
def main (args : List String) : IO UInt32 := do
  match ← CarrierSense.runScene (args.headD CarrierSense.defaultScene) with
  | .ok summary =>
    IO.eprintln summary
    return 0
  | .error message =>
    IO.eprintln ("Error: " ++ message)
    return 1
