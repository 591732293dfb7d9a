import CarrierSense.Radio.Machine
import CarrierSense.Topology
import CarrierSense.Trace
import CarrierSense.Variate.Basic

/-!
# Networks

A network joins a topology with the state of its nodes and radios, a scheduler, a random stream and
the books that are kept: counters and a trace. This module holds the state and its construction.

Operations on a network either halt, and then nothing of it is left, or yield a network together with
an answer or an error. A network that met an error keeps all that was done before the error.
-/

namespace CarrierSense

/-- The handle of a variate. -/
structure VariateId where
  index : Nat
  deriving DecidableEq, Repr, Inhabited

/-- What waits in the scheduler of a network. -/
inductive Event where
  /-- A source produces its next frame. -/
  | produce (node : NodeId)
  /-- A timer of a radio runs out. -/
  | timer (iface : InterfaceId) (timer : Timer)
  /-- A frame taken on for another node is sent on. -/
  | forward (iface : InterfaceId) (frame : Frame)
  deriving DecidableEq, Repr, Inhabited

/-- The traffic that a node produces. -/
structure Traffic where
  destinations : List NodeId := []
  /-- The delay before the first frame. -/
  arrival : VariateId
  /-- The delay between frames; that of the first frame if there is none. -/
  period : Option VariateId := none
  produced : Nat := 0
  maxMessages : Nat
  messageLength : Nat
  deriving DecidableEq, Repr, Inhabited

namespace Traffic

/-- The length of frames unless it is set. -/
def defaultLength : Nat := 512

/-- Whether all frames have been produced. -/
def isExhausted (t : Traffic) : Bool := t.maxMessages ≤ t.produced

/-- The delay before the next frame. -/
def nextDelay (t : Traffic) : VariateId := t.period.getD t.arrival

end Traffic

/-- What changes at a node while the network runs. -/
structure Endpoint where
  /-- How many frames have reached the node. -/
  consumed : Nat := 0
  traffic : Option Traffic := none
  deriving DecidableEq, Repr, Inhabited

namespace Endpoint

/-- How many frames the node has produced. -/
def produced (e : Endpoint) : Nat :=
  match e.traffic with
  | some traffic => traffic.produced
  | none => 0

/-- The node before a run. -/
def reset (e : Endpoint) : Endpoint :=
  { consumed := 0, traffic := e.traffic.map fun t => { t with produced := 0 } }

end Endpoint

/-- A simulated network. The endpoints belong to the nodes of the topology, and the radios to its
interfaces, in the same order. -/
structure Network where
  timing : Timing
  topology : Topology Float := {}
  endpoints : Array Endpoint := #[]
  radios : Array Radio := #[]
  scheduler : Scheduler Event := {}
  stream : Stream
  variates : Array Variate := #[]
  counters : Counters := {}
  recorder : Recorder := {}

/-- The answer to an operation on a network, or an error, and the network it leaves behind. -/
abbrev Reply (α : Type) := Except NetworkError α × Network

/-- Goes on with `next` from the answer so far; an error or a halt stays what it is. -/
@[inline] def andThen {α β : Type} (reply : Except Halt (Reply α))
    (next : α → Network → Except Halt (Reply β)) : Except Halt (Reply β) :=
  match reply with
  | .error halt => .error halt
  | .ok (.error e, net) => .ok (.error e, net)
  | .ok (.ok a, net) => next a net

namespace Network

/-- A network without nodes. -/
def new (timing : Timing) (seed : UInt64) (laws : List Law) : Network :=
  { timing, stream := Stream.ofSeed seed,
    variates := (laws.map fun law => ({ law } : Variate)).toArray }

/-- The clock of the network. -/
def now (net : Network) : Nat := net.scheduler.now

/-- The endpoint of a node. -/
def endpoint (net : Network) (n : NodeId) : Except Halt Endpoint :=
  match net.endpoints[n.index]? with
  | some endpoint => .ok endpoint
  | none => .error .badHandle

/-- The radio of an interface. -/
def radio (net : Network) (i : InterfaceId) : Except Halt Radio :=
  match net.radios[i.index]? with
  | some radio => .ok radio
  | none => .error .badHandle

/-- Changes the state of a node. -/
def setEndpoint (net : Network) (n : NodeId) (e : Endpoint) : Network :=
  { net with endpoints := net.endpoints.setIfInBounds n.index e }

/-- Changes the state of a radio. -/
def setRadio (net : Network) (i : InterfaceId) (r : Radio) : Network :=
  { net with radios := net.radios.setIfInBounds i.index r }

/-- Adds a variate with a law. -/
def addVariate (net : Network) (law : Law) : VariateId × Network :=
  (⟨net.variates.size⟩, { net with variates := net.variates.push { law } })

/-- Replaces a variate for all its owners. -/
def setVariate (net : Network) (v : VariateId) (law : Law) : Network :=
  { net with variates := net.variates.setIfInBounds v.index { law } }

/-- Adds a node that produces no traffic. -/
def addNode (net : Network) (name : String) (position : Point Float) : NodeId × Network :=
  let (n, topology) := net.topology.addNode name position
  (n, { net with topology, endpoints := net.endpoints.push {} })

/-- Adds a node that produces up to `maxMessages` frames, the first one after a delay drawn from
`arrival`. -/
def addSource (net : Network) (name : String) (position : Point Float) (arrival : VariateId)
    (maxMessages : Nat) : NodeId × Network :=
  let (n, topology) := net.topology.addNode name position
  let traffic := { arrival, maxMessages, messageLength := Traffic.defaultLength : Traffic }
  (n, { net with topology, endpoints := net.endpoints.push { traffic := some traffic } })

/-- Changes the traffic of a source. -/
def editTraffic (net : Network) (n : NodeId) (f : Traffic → Traffic) : Except Halt (Reply Unit) := do
  let endpoint ← net.endpoint n
  let site ← net.topology.node n
  match endpoint.traffic with
  | none => return (.error (.notASource site.name), net)
  | some traffic => return (.ok (), net.setEndpoint n { endpoint with traffic := some (f traffic) })

/-- Sets the delay between the frames of a source. -/
def setPeriod (net : Network) (n : NodeId) (period : VariateId) : Except Halt (Reply Unit) :=
  net.editTraffic n fun t => { t with period := some period }

/-- Sets the length of the frames of a source. -/
def setMessageLength (net : Network) (n : NodeId) (length : Nat) : Except Halt (Reply Unit) :=
  net.editTraffic n fun t => { t with messageLength := length }

/-- Adds a destination to a source, unless it is one already. -/
def addDestination (net : Network) (n destination : NodeId) : Except Halt (Reply Unit) :=
  net.editTraffic n fun t =>
    if t.destinations.contains destination then t
    else { t with destinations := t.destinations ++ [destination] }

/-- Adds an interface to a node, with a medium of its own. -/
def addInterface (net : Network) (n : NodeId) (name : String) (radius : Float) :
    Except Halt (InterfaceId × Network) := do
  let (i, topology) ← net.topology.addInterface n name radius
  return (i, { net with topology, radios := net.radios.push (Radio.powerOn net.timing) })

/-- Lets an interface hear a medium, and says whether it did not before. -/
def addMember (net : Network) (m : MediumId) (i : InterfaceId) : Except Halt (Bool × Network) := do
  let (added, topology) ← net.topology.addMember m i
  return (added, { net with topology })

/-- Lets every interface hear all others that it lies in range of. -/
def connectInRange (net : Network) : Network :=
  { net with topology := net.topology.connectInRange }

/-- Starts the random stream of a seed. -/
def reseed (net : Network) (seed : UInt64) : Network := { net with stream := Stream.ofSeed seed }

/-- Starts a new trace. -/
def startTrace (net : Network) : Network := { net with recorder := .start }

/-- Ends the trace; what it recorded stays readable. -/
def stopTrace (net : Network) : Network := { net with recorder := net.recorder.stop }

end Network

end CarrierSense
