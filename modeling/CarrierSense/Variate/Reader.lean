import CarrierSense.Json.Reader
import CarrierSense.Json.Record
import CarrierSense.Variate.Basic

/-!
# Variates in JSON

A law is an object with its kind under the name `type`, or an array that starts with the kind. Unlike
other records it is read in full, unknown members included.
-/

namespace CarrierSense.Law

open Json

/-- The fields of a law that follow its kind. -/
private def ofFields? (kind : String) (fields : List String → Option (List (Option Json))) :
    Option Law := do
  match kind with
  | "uniform" =>
    let [min, max] ← fields ["min", "max"] | none
    return .uniform (← required toFloat? min) (← required toFloat? max)
  | "exponential" =>
    let [mean] ← fields ["mean"] | none
    return .exponential (← required toFloat? mean)
  | "sequence" =>
    let [values] ← fields ["values"] | none
    return .sequence (← required (toList? toFloat?) values).toArray
  | "delta" =>
    let [value] ← fields ["value"] | none
    return .delta (← required toFloat? value)
  | _ => none

/-- The law that a value at a nesting level stands for. -/
def ofJson? (level : Nat) (json : Json) : Option Law :=
  if json.isReadable level then
    match json with
    | .object members => do
      let kind ← field? "type" members
      ofFields? (← required toText? kind) fun names => Json.fields? names json
    | .array (kind :: rest) => do
      ofFields? (← toText? kind) fun names => Json.fields? names (.array rest)
    | _ => none
  else none

def parse? (text : String) : Option Law := do
  ofJson? 1 (← Json.read? text)

end CarrierSense.Law
