import CarrierSense.Network.Run
import CarrierSense.Scene.Basic
import CarrierSense.Sweep.Basic
import Std.Data.TreeMap

/-!
# Experiments

An experiment is a network set up after a scene, and a sweep to run on it. Every node of the scene
becomes a node with one interface, and every interface hears the others that it lies in range of.
Sources without an arrival of their own share that of the scene, and all sources share one variate
for the delay between frames, whose law is chosen anew for every run.
-/

namespace CarrierSense

/-- A network, and a sweep to run on it. -/
structure Experiment where
  network : Network
  sweep : Sweep

/-- Why an experiment cannot be set up. None of this happens with a scene that was checked. -/
inductive SetupError where
  /-- The source has no arrival, and neither has the scene. -/
  | noArrival (node : String)
  /-- No node of the scene has this number. -/
  | unknownDestination (id : Nat)
  | network (error : NetworkError)
  | halt (reason : Halt)
  deriving DecidableEq, Repr

/-- The wording of an error. -/
def SetupError.message : SetupError → String
  | noArrival node => "Node " ++ node ++ " has traffic but no arrival variate"
  | unknownDestination id => "Unknown destination node_id " ++ toString id
  | network error => error.message
  | halt _ => "The network cannot be set up"

namespace Experiment

/-- The variate for the delay between frames. -/
def periodId : VariateId := ⟨0⟩

/-- The variate for the first delay of sources that have none of their own. -/
def sharedArrivalId : VariateId := ⟨1⟩

/-- The network that an operation leaves behind, unless it failed. -/
def settled {α : Type} : Except Halt (Reply α) → Except SetupError Network
  | .error reason => .error (.halt reason)
  | .ok (.error error, _) => .error (.network error)
  | .ok (.ok _, net) => .ok net

/-- The variate for the first delay of a source. -/
def arrivalOf (scene : Scene) (net : Network) (node : SceneNode) (traffic : SceneTraffic) :
    Except SetupError (VariateId × Network) :=
  match traffic.arrival, scene.defaultArrival with
  | some law, _ => .ok (net.addVariate law)
  | none, some _ => .ok (sharedArrivalId, net)
  | none, none => .error (.noArrival node.displayName)

/-- Adds a node that is a source. It shares the variate for the delay between frames with all other sources. -/
def addSource (scene : Scene) (sweep : Sweep) (net : Network) (node : SceneNode)
    (traffic : SceneTraffic) : Except SetupError (NodeId × Network) := do
  let (arrival, net) ← arrivalOf scene net node traffic
  let (n, net) := net.addSource node.displayName node.position arrival
    (traffic.maxMessages.getD sweep.maxMessages)
  let net ← settled (net.setMessageLength n (traffic.messageLength.getD sweep.messageLength))
  return (n, ← settled (net.setPeriod n periodId))

/-- Adds a node of a scene with its interface. -/
def addNode (scene : Scene) (sweep : Sweep) (net : Network) (node : SceneNode) :
    Except SetupError (NodeId × Network) := do
  let (n, net) ←
    match node.traffic with
    | some traffic => addSource scene sweep net node traffic
    | none => pure (net.addNode node.displayName node.position)
  match net.addInterface n ("Interface_" ++ node.displayName) node.radius with
  | .error reason => throw (.halt reason)
  | .ok (_, net) => return (n, net)

/-- Handles of nodes by the numbers that the nodes have in a scene. -/
abbrev Handles := Std.TreeMap Nat NodeId

/-- Adds nodes of a scene in order, and keeps their handles. -/
def addNodes (scene : Scene) (sweep : Sweep) (net : Network) (handles : Handles) :
    List SceneNode → Except SetupError (Network × Handles)
  | [] => .ok (net, handles)
  | node :: rest => do
    let (n, net) ← addNode scene sweep net node
    addNodes scene sweep net (handles.insert node.id n) rest

/-- Adds destinations to a source. -/
def addDestinations (handles : Handles) (n : NodeId) (net : Network) :
    List Nat → Except SetupError Network
  | [] => .ok net
  | id :: rest =>
    match handles[id]? with
    | none => .error (.unknownDestination id)
    | some destination => do
      let net ← settled (net.addDestination n destination)
      addDestinations handles n net rest

/-- Adds the destinations of all sources, which are nodes in the order of the scene. -/
def addTraffic (handles : Handles) (net : Network) :
    Nat → List SceneNode → Except SetupError Network
  | _, [] => .ok net
  | place, node :: rest => do
    let net ←
      match node.traffic with
      | some traffic => addDestinations handles ⟨place⟩ net traffic.destinations
      | none => pure net
    addTraffic handles net (place + 1) rest

/-- Sets up the network of a scene. Its sources are the endpoints with traffic, in the order of the scene; each run sets
the period of all of them at once, by the law of the variate that they share. -/
def ofScene (scene : Scene) (sweep : Sweep) : Except SetupError Experiment := do
  let laws := .delta 0 :: scene.defaultArrival.toList
  let net := Network.new sweep.timing sweep.seed.toUInt64 laws
  let (net, handles) ← addNodes scene sweep net ∅ scene.nodes
  let net ← addTraffic handles net 0 scene.nodes
  return { network := net.connectInRange, sweep }

end Experiment

end CarrierSense
