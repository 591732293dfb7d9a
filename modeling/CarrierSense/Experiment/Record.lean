import CarrierSense.Json.Writer
import CarrierSense.Network.Report
import CarrierSense.Sweep.Basic

/-!
# Records of runs

A run of an experiment that comes to its end leaves a record, which is written as one line of JSON.
A run that does not leaves the error that ended it.
-/

namespace CarrierSense

/-- What is kept of a run that came to its end. -/
structure RunRecord where
  plan : PlannedRun
  report : RunReport

/-- Why and when a run ended early. -/
structure RunError where
  time : Nat
  error : NetworkError
  deriving DecidableEq, Repr

/-- The wording of an error: what happened, and then what caused it, step by step. -/
def RunError.message (e : RunError) : String :=
  let cause := e.error.cause?.map SchedulerError.message
  ": ".intercalate
    (("Simulation failed at t=" ++ toString e.time) :: e.error.message :: cause.toList)

namespace NodeReport

def json (r : NodeReport) : String :=
  Json.writeObject [
    ("name", Json.writeString r.name),
    ("produced", toString r.produced),
    ("consumed", toString r.consumed)]

end NodeReport

namespace InterfaceReport

def json (r : InterfaceReport) : String :=
  Json.writeObject [
    ("name", Json.writeString r.name),
    ("corrupted", toString r.corrupted),
    ("final_status", Json.writeString r.finalStatus.name)]

end InterfaceReport

/-- The counters in JSON, in the order of their names. -/
def Counters.json (c : Counters) : String :=
  Json.writeObject (c.entries.map fun (name, n) => (name, toString n))

/-- The line of a record; the run began at the time of day `started`. -/
def RunRecord.line (r : RunRecord) (started : String) : String :=
  Json.writeObject [
    ("period", Json.writeFloat r.plan.period),
    ("run", toString r.plan.run),
    ("seed", toString r.plan.seed),
    ("started_at", Json.writeString started),
    ("end_time", toString r.report.endTime),
    ("nodes", Json.writeArray (r.report.nodes.map NodeReport.json)),
    ("interfaces", Json.writeArray (r.report.interfaces.map InterfaceReport.json)),
    ("counters", r.report.counters.json)]

end CarrierSense
