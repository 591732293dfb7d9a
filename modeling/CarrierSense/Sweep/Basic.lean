import CarrierSense.Decimal.Layout
import CarrierSense.Sweep.Periods
import CarrierSense.Timing.Basic

/-!
# Sweeps

A sweep repeats an experiment for a range of traffic periods, several runs for each. Every run has a
seed of its own, one more than that of the run before.
-/

namespace CarrierSense

/-- The parameters of a sweep. -/
structure Sweep where
  /-- The seed of the first run. -/
  seed : Nat := 1
  /-- How many ticks each run takes. -/
  runLength : Nat := 100000
  periods : Periods Float := { min := 1000, max := 5000, step := 1000 }
  runsPerPeriod : Nat := 1
  /-- Whether each run writes a trace. -/
  trace : Bool := false
  outputDir : String := "output"
  /-- The length of frames of a source that does not set its own. -/
  messageLength : Nat := 512
  /-- How many frames a source produces that does not set its own number. -/
  maxMessages : Nat := 100
  timing : Timing := {}
  deriving Inhabited

/-- What is wrong with a sweep. -/
inductive SweepFault where
  | periods (fault : PeriodsFault Float)
  | noRuns
  | timing (fault : TimingFault)

/-- The wording of a fault. -/
def SweepFault.message : SweepFault → String
  | periods (.min min) => "period-min must be non-negative, got " ++ plainText min
  | periods (.step step) => "period-step must be positive, got " ++ plainText step
  | periods (.inverted max min) =>
    "period-max (" ++ plainText max ++ ") must not be below period-min (" ++ plainText min ++ ")"
  | noRuns => "runs-per-period must be at least 1"
  | timing fault => fault.message

/-- One run of a sweep. -/
structure PlannedRun where
  period : Float
  /-- The number of the run within its period. -/
  run : Nat
  seed : Nat

namespace Sweep

/-- The first fault of a sweep, if it has one. -/
def check (s : Sweep) : Except SweepFault Unit :=
  match s.periods.check with
  | .error fault => .error (.periods fault)
  | .ok () =>
    if s.runsPerPeriod = 0 then .error .noRuns
    else
      match s.timing.check with
      | .error fault => .error (.timing fault)
      | .ok () => .ok ()

/-- How many seeds there are; after the last one comes zero. -/
def seedCount : Nat := 18446744073709551616

/-- The runs of a sweep: for each period in turn all its runs, with one seed after the other. -/
def plan (s : Sweep) : Except Halt (List PlannedRun) := do
  let periods ← s.periods.visited
  let pairs := periods.flatMap fun period =>
    (List.range s.runsPerPeriod).map fun run => (period, run)
  return pairs.mapIdx fun k (period, run) => { period, run, seed := (s.seed + k) % seedCount }

end Sweep

end CarrierSense
