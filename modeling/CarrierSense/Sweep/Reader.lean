import CarrierSense.Sweep.Basic
import CarrierSense.Toml.Reader

/-!
# Sweeps in TOML

The parameters of a sweep are the entries of a TOML document. Each has a default, and unknown entries
are passed over. Reading checks the sweep as well.
-/

namespace CarrierSense

/-- Why the parameters of a sweep were not read. -/
inductive SweepError where
  /-- The file is there, but is not text. -/
  | unreadable
  /-- The text does not give the parameters of a sweep. -/
  | malformed
  | invalid (fault : SweepFault)

/-- The wording of an error. -/
def SweepError.message : SweepError → String
  | unreadable => "Failed to read config file"
  | malformed => "Failed to parse config file"
  | invalid fault => fault.message

namespace Toml

/-- The value of a key, or a default. -/
private def entry {α : Type} (entries : Entries) (key : String) (default : α)
    (read : Toml → Option α) : Option α :=
  match entries.lookup key with
  | some value => read value
  | none => some default

/-- A natural number up to a bound. -/
private def toNat? (bound : Nat) : Toml → Option Nat
  | .integer n => if 0 ≤ n && n ≤ bound then some n.toNat else none
  | _ => none

/-- A double, which may be written as an integer. -/
private def toFloat? : Toml → Option Float
  | .float x => some x
  | .integer n =>
    let size := Float.ofScientific n.natAbs false 0
    some (if n < 0 then -size else size)
  | _ => none

/-- A truth value. -/
private def toBool? : Toml → Option Bool
  | .boolean b => some b
  | _ => none

private def toText? : Toml → Option String
  | .string text => some text
  | _ => none

/-- A timing whose fields are given by name, or taken from a list. -/
private def timingOf? (field : String → Nat → Option (Option Toml)) : Option Timing := do
  let standard : Timing := {}
  let value (name : String) (place bound default : Nat) : Option Nat := do
    match ← field name place with
    | some value => toNat? bound value
    | none => some default
  return {
    slot := ← value "slot" 0 18446744073709551615 standard.slot
    sifs := ← value "sifs" 1 18446744073709551615 standard.sifs
    ackDuration := ← value "ack-duration" 2 18446744073709551615 standard.ackDuration
    windowMin := ← value "cw-min" 3 4294967295 standard.windowMin
    windowMax := ← value "cw-max" 4 4294967295 standard.windowMax }

/-- A timing: a table of its fields, or the array of the first of them. A date counts as a table
without any of them. -/
private def toTiming? : Toml → Option Timing
  | .table _ entries => timingOf? fun name _ => some (entries.lookup name)
  | .array items => timingOf? fun _ place => some items[place]?
  | .datetime => some {}
  | _ => none

end Toml

namespace Sweep

open Toml in
/-- The sweep that the entries of a document describe. -/
def ofToml? (entries : Toml.Entries) : Option Sweep := do
  let standard : Sweep := {}
  return {
    seed := ← entry entries "seed" standard.seed (toNat? 18446744073709551615)
    runLength := ←
      entry entries "simulation-length" standard.runLength (toNat? 18446744073709551615)
    periods := {
      min := ← entry entries "period-min" standard.periods.min toFloat?
      max := ← entry entries "period-max" standard.periods.max toFloat?
      step := ← entry entries "period-step" standard.periods.step toFloat? }
    runsPerPeriod := ←
      entry entries "runs-per-period" standard.runsPerPeriod (toNat? 4294967295)
    trace := ← entry entries "trace" standard.trace toBool?
    outputDir := ← entry entries "output-dir" standard.outputDir toText?
    messageLength := ← entry entries "message-length" standard.messageLength (toNat? 4294967295)
    maxMessages := ←
      entry entries "max-messages" standard.maxMessages (toNat? 18446744073709551615)
    timing := ← entry entries "mac" standard.timing toTiming? }

/-- Reads and checks the parameters of a sweep. -/
def parse (text : String) : Except SweepError Sweep :=
  match Toml.read? text >>= ofToml? with
  | none => .error .malformed
  | some sweep =>
    match sweep.check with
    | .error fault => .error (.invalid fault)
    | .ok () => .ok sweep

end Sweep

end CarrierSense
