import CarrierSense.Experiment.Basic
import CarrierSense.Scene.Reader
import CarrierSense.Storage.Basic
import CarrierSense.Sweep.Reader

/-!
# Loading experiments

An experiment is loaded from the file of its scene. The parameters of the sweep are in a file beside
it; if that is missing, all have their defaults.
-/

namespace CarrierSense

/-- Why an experiment was not loaded. -/
inductive LoadError where
  | scene (error : SceneError)
  | sweep (error : SweepError)
  | setup (error : SetupError)

/-- The wording of an error. -/
def LoadError.message : LoadError → String
  | scene error => error.message
  | sweep error => error.message
  | setup error => error.message

/-- The path of a sweep's parameters beside the file of a scene. -/
def Sweep.pathBeside (scenePath : String) : String :=
  Path.join ((Path.parent? scenePath).getD ".") "config.toml"

variable {m : Type → Type} [Monad m] [Storage m]

/-- Reads and checks the scene in a file. -/
def Scene.load (path : String) : m (Except SceneError Scene) := do
  match ← Storage.read? path with
  | none => return .error (.unreadable path)
  | some text => return Scene.parse text

/-- Reads and checks the parameters of a sweep in a file; without the file all have their defaults. -/
def Sweep.load (path : String) : m (Except SweepError Sweep) := do
  if !(← Storage.holds path) then return .ok {}
  match ← Storage.read? path with
  | none => return .error .unreadable
  | some text => return Sweep.parse text

def Experiment.load (scenePath : String) : m (Except LoadError Experiment) := do
  match ← Scene.load scenePath with
  | .error error => return .error (.scene error)
  | .ok scene =>
    match ← Sweep.load (Sweep.pathBeside scenePath) with
    | .error error => return .error (.sweep error)
    | .ok sweep =>
      match Experiment.ofScene scene sweep with
      | .error error => return .error (.setup error)
      | .ok experiment => return .ok experiment

end CarrierSense
