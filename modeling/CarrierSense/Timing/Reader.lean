import CarrierSense.Json.Reader
import CarrierSense.Json.Record
import CarrierSense.Timing.Basic

/-!
# Timing in JSON

A timing is a record whose fields all have defaults.
-/

namespace CarrierSense.Timing

open Json

/-- The names of the fields, in their order. -/
def fieldNames : List String := ["slot", "sifs", "ack-duration", "cw-min", "cw-max"]

/-- The timing that a JSON value stands for. -/
def ofJson? (json : Json) : Option Timing := do
  let [slot, sifs, ackDuration, windowMin, windowMax] ← Json.fields? fieldNames json | none
  let standard : Timing := {}
  return {
    slot := ← withDefault standard.slot (toNat? bound64) slot
    sifs := ← withDefault standard.sifs (toNat? bound64) sifs
    ackDuration := ← withDefault standard.ackDuration (toNat? bound64) ackDuration
    windowMin := ← withDefault standard.windowMin (toNat? bound32) windowMin
    windowMax := ← withDefault standard.windowMax (toNat? bound32) windowMax }

def parse? (text : String) : Option Timing := do
  ofJson? (← Json.read? text)

end CarrierSense.Timing
