import CarrierSense.Point
import CarrierSense.Variate.Basic
import Std.Data.TreeSet

/-!
# Scenes

A scene describes the topology of an experiment: the nodes with their places and ranges, and the
traffic that they produce. Nodes name each other by numbers of their own.
-/

namespace CarrierSense

/-- The traffic of a node of a scene. What is left out comes from the scene or the experiment. -/
structure SceneTraffic where
  destinations : List Nat
  arrival : Option Law
  maxMessages : Option Nat
  messageLength : Option Nat

/-- A node of a scene. -/
structure SceneNode where
  id : Nat
  name : Option String
  position : Point Float
  radius : Float
  traffic : Option SceneTraffic

/-- The name of a node: its own, or one made from its number and its place. -/
def SceneNode.displayName (n : SceneNode) : String :=
  match n.name with
  | some name => name
  | none =>
    "Node_" ++ toString n.id ++ "_[" ++ plainText n.position.x ++ "," ++ plainText n.position.y ++ "]"

/-- What a network is set up after. -/
structure Scene where
  /-- The law of the first delay of every source without its own. -/
  defaultArrival : Option Law
  nodes : List SceneNode

/-- What is wrong with a scene. -/
inductive SceneFault where
  | noNodes
  | tooManyNodes (count : Nat)
  | duplicateId (id : Nat)
  | defaultArrival (fault : LawFault)
  | badPosition (node : Nat)
  | badRadius (node : Nat) (radius : Float)
  | noDestinations (node : Nat)
  | ownDestination (node : Nat)
  | unknownDestination (node destination : Nat)
  | arrival (node : Nat) (fault : LawFault)
  | noArrival (node : Nat)

namespace Scene

/-- How many nodes a scene may have. -/
def maxNodes : Nat := 10000

end Scene

/-- The wording of a fault. -/
def SceneFault.message : SceneFault → String
  | noNodes => "Scene must contain at least one node"
  | tooManyNodes count =>
    "Node count " ++ toString count ++ " exceeds maximum of " ++ toString Scene.maxNodes
  | duplicateId id => "Duplicate node_id found: " ++ toString id
  | defaultArrival fault => "default_arrival: " ++ fault.message
  | badPosition node => "Node " ++ toString node ++ " has a non-finite position"
  | badRadius node radius =>
    "Node " ++ toString node ++ " radius " ++ plainText radius ++ " must be positive"
  | noDestinations node => "Node " ++ toString node ++ " traffic has no destinations"
  | ownDestination node => "Node " ++ toString node ++ " cannot send traffic to itself"
  | unknownDestination node destination =>
    "Node " ++ toString node ++ " traffic destination " ++ toString destination ++ " does not exist"
  | arrival node fault => "Node " ++ toString node ++ " arrival: " ++ fault.message
  | noArrival node =>
    "Node " ++ toString node ++ " traffic has no arrival and the scene has no default_arrival"

namespace Scene

/-- The first number that stands twice in a list, given the numbers before it. -/
def firstRepeated? (seen : Std.TreeSet Nat) : List Nat → Option Nat
  | [] => none
  | id :: rest => if seen.contains id then some id else firstRepeated? (seen.insert id) rest

/-- The first fault among the destinations of a node. -/
def checkDestinations (ids : Std.TreeSet Nat) (node : Nat) :
    List Nat → Except SceneFault Unit
  | [] => .ok ()
  | destination :: rest =>
    if destination = node then .error (.ownDestination node)
    else if !ids.contains destination then .error (.unknownDestination node destination)
    else checkDestinations ids node rest

/-- The fault of a node's traffic, if it has one. -/
def checkTraffic (ids : Std.TreeSet Nat) (default : Option Law) (node : Nat)
    (traffic : SceneTraffic) : Except SceneFault Unit := do
  if traffic.destinations.isEmpty then throw (.noDestinations node)
  checkDestinations ids node traffic.destinations
  match traffic.arrival, default with
  | some law, _ =>
    match law.check with
    | .ok () => return
    | .error fault => throw (.arrival node fault)
  | none, some _ => return
  | none, none => throw (.noArrival node)

/-- The fault of a node, if it has one. -/
def checkNode (ids : Std.TreeSet Nat) (default : Option Law) (node : SceneNode) :
    Except SceneFault Unit := do
  if !node.position.x.isFinite || !node.position.y.isFinite then throw (.badPosition node.id)
  if !(node.radius.isFinite && 0 < node.radius) then throw (.badRadius node.id node.radius)
  match node.traffic with
  | some traffic => checkTraffic ids default node.id traffic
  | none => return

/-- The first fault of a scene, if it has one. -/
def check (scene : Scene) : Except SceneFault Unit := do
  if scene.nodes.isEmpty then throw .noNodes
  if maxNodes < scene.nodes.length then throw (.tooManyNodes scene.nodes.length)
  let ids := scene.nodes.map (·.id)
  match firstRepeated? ∅ ids with
  | some id => throw (.duplicateId id)
  | none => pure ()
  match scene.defaultArrival.map Law.check with
  | some (.error fault) => throw (.defaultArrival fault)
  | _ => pure ()
  scene.nodes.forM (checkNode (Std.TreeSet.ofList ids) scene.defaultArrival)

end Scene

end CarrierSense
