import CarrierSense.Scene.Basic
import CarrierSense.Variate.Reader

/-!
# Scenes in JSON

A scene and its parts are records. Reading checks the scene as well: what is read can be simulated.
-/

namespace CarrierSense

/-- Why a scene was not read. -/
inductive SceneError where
  /-- The file is not there, or is not text. -/
  | unreadable (path : String)
  /-- The text is not that of a scene. -/
  | malformed
  | invalid (fault : SceneFault)

/-- The wording of an error. -/
def SceneError.message : SceneError → String
  | unreadable path => "Failed to read file: Failed to read file: " ++ path
  | malformed => "Failed to parse JSON: Invalid JSON format"
  | invalid fault => "Validation error: " ++ fault.message

namespace Scene

open Json

private def point? (json : Json) : Option (Point Float) := do
  let [x, y] ← Json.fields? ["x", "y"] json | none
  return { x := ← required toFloat? x, y := ← required toFloat? y }

/-- The traffic of a node. Its law stands five levels deep. -/
private def traffic? (json : Json) : Option SceneTraffic := do
  let [destinations, arrival, maxMessages, messageLength] ←
    Json.fields? ["destinations", "arrival", "max_messages", "message_length"] json | none
  return {
    destinations := ← required (toList? (toNat? bound32)) destinations
    arrival := ← optional (Law.ofJson? 5) arrival
    maxMessages := ← optional (toNat? bound64) maxMessages
    messageLength := ← optional (toNat? bound32) messageLength }

private def node? (json : Json) : Option SceneNode := do
  let [id, name, position, radius, traffic] ←
    Json.fields? ["node_id", "name", "position", "radius", "traffic"] json | none
  return {
    id := ← required (toNat? bound32) id
    name := ← optional toText? name
    position := ← required point? position
    radius := ← required toFloat? radius
    traffic := ← optional traffic? traffic }

/-- The scene that a JSON value stands for. Its own law stands two levels deep. -/
def ofJson? (json : Json) : Option Scene := do
  let [defaultArrival, nodes] ← Json.fields? ["default_arrival", "nodes"] json | none
  return {
    defaultArrival := ← optional (Law.ofJson? 2) defaultArrival
    nodes := ← required (toList? node?) nodes }

/-- Reads and checks a scene. -/
def parse (text : String) : Except SceneError Scene :=
  match Json.read? text >>= ofJson? with
  | none => .error .malformed
  | some scene =>
    match scene.check with
    | .error fault => .error (.invalid fault)
    | .ok () => .ok scene

end Scene

end CarrierSense
