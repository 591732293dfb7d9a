import CarrierSense.Experiment.Basic
import CarrierSense.Experiment.Record
import CarrierSense.Storage.Basic

/-!
# Running experiments

A single run is a function of the experiment and the plan of the run. The whole sweep makes the runs
of its plan in order, and writes a line for each run that came to its end, and the trace of each run
if traces are wanted. A run that fails, or whose trace cannot be started, is left out; the sweep
goes on.
-/

namespace CarrierSense

/-- Why a sweep cannot begin. -/
inductive OutputError where
  | notCreated (path : String)
  deriving DecidableEq, Repr

/-- The wording of an error. -/
def OutputError.message : OutputError → String
  | notCreated path => "Failed to create " ++ path

namespace Experiment

/-- Gets the network ready for a run. The sources share one variate for the delay between frames, so that its new law is
the period of each of them. -/
def prepare (e : Experiment) (plan : PlannedRun) (tracing : Bool) : Experiment :=
  let net := (e.network.setVariate periodId (.delta plan.period)).reseed plan.seed.toUInt64
  { e with network := if tracing then net.startTrace else net.stopTrace }

/-- Makes one run: all sources produce with the period of the plan, and random draws come from its
seed. The trace, if one is wanted, stays readable in the network. The fuel bounds the events of one
tick, and the ticks. -/
def run (fuel : Nat) (e : Experiment) (plan : PlannedRun) (tracing : Bool) :
    Except Halt (Except RunError RunRecord × Experiment) := do
  let e := e.prepare plan tracing
  let (outcome, net) ←
    andThen e.network.initRun fun _ net => net.runTo fuel e.sweep.runLength
  let report := net.report
  let e := { e with network := net.stopTrace }
  match outcome with
  | .error error => return (.error { time := report.endTime, error }, e)
  | .ok _ => return (.ok { plan, report }, e)

/-- The name of the file for the trace of a run. -/
def traceName (e : Experiment) (plan : PlannedRun) : String :=
  "trace_n" ++ toString e.network.endpoints.size ++ "_p" ++ plainText plan.period ++ "_r" ++
    toString plan.run ++ ".txt"

/-- The directories and the file that a sweep writes to. -/
structure Output where
  stats : String
  traces : String
  records : String

/-- Where the sweep of an experiment writes to. -/
def output (e : Experiment) : Output :=
  let stats := Path.join e.sweep.outputDir "stats"
  { stats, traces := Path.join e.sweep.outputDir "traces", records := Path.join stats "runs.jsonl" }

variable {m : Type → Type} [Monad m] [Storage m]

/-- Makes the directories and starts the file that a sweep writes to. -/
def openOutput (e : Experiment) : m (Except OutputError Unit) := do
  if !(← Storage.makeDirectory e.output.stats) then return .error (.notCreated e.output.stats)
  if e.sweep.trace then
    if !(← Storage.makeDirectory e.output.traces) then return .error (.notCreated e.output.traces)
  if !(← Storage.create e.output.records) then return .error (.notCreated e.output.records)
  return .ok ()

/-- Makes one run of a sweep and writes what is to be kept of it: the record, if there is one, and
the experiment afterwards. -/
def runAndWrite (fuel : Nat) (e : Experiment) (plan : PlannedRun) :
    m (Except Halt (Option RunRecord × Experiment)) := do
  let trace := Path.join e.output.traces (e.traceName plan)
  if e.sweep.trace then
    if !(← Storage.create trace) then return .ok (none, e)
  let started ← Storage.timestamp
  match e.run fuel plan e.sweep.trace with
  | .error halt => return .error halt
  | .ok (outcome, e) =>
    if e.sweep.trace then
      Storage.append trace (Trace.fileText e.network.recorder.records.toList)
    match outcome with
    | .error _ => return .ok (none, e)
    | .ok record =>
      Storage.append e.output.records (record.line started ++ "\n")
      return .ok (some record, e)

/-- Makes runs in order, behind the records so far, which come last one first. -/
def runAll (fuel : Nat) (records : List RunRecord) (e : Experiment) :
    List PlannedRun → m (Except Halt (List RunRecord))
  | [] => return .ok records.reverse
  | plan :: rest => do
    match ← e.runAndWrite fuel plan with
    | .error halt => return .error halt
    | .ok (record, e) => runAll fuel (record.toList ++ records) e rest

/-- Makes the whole sweep: the records of all runs that came to their end, in order. -/
def runSweep (fuel : Nat) (e : Experiment) :
    m (Except Halt (Except OutputError (List RunRecord))) := do
  match ← e.openOutput with
  | .error error => return .ok (.error error)
  | .ok () =>
    match e.sweep.plan with
    | .error halt => return .error halt
    | .ok plan => return (← e.runAll fuel [] plan).map .ok

end Experiment

end CarrierSense
