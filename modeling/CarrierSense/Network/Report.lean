import CarrierSense.Network.Run

/-!
# Reports

What is reported of a run: when it ended, what each node produced and consumed, what each interface
lost and how it was left, and the counters.
-/

namespace CarrierSense

/-- What is reported of a node. -/
structure NodeReport where
  name : String
  produced : Nat
  consumed : Nat
  deriving DecidableEq, Repr

/-- What is reported of an interface. -/
structure InterfaceReport where
  name : String
  /-- Frames lost because they overlapped. -/
  corrupted : Nat
  finalStatus : Status
  deriving DecidableEq, Repr

/-- What a run leaves behind. -/
structure RunReport where
  endTime : Nat
  nodes : List NodeReport
  interfaces : List InterfaceReport
  counters : Counters
  deriving DecidableEq, Repr

namespace RunReport

/-- How many frames all nodes produced. -/
def totalProduced (r : RunReport) : Nat := r.nodes.foldr (fun n total => n.produced + total) 0

/-- How many frames reached all nodes. -/
def totalConsumed (r : RunReport) : Nat := r.nodes.foldr (fun n total => n.consumed + total) 0

end RunReport

/-- The report of the current run. -/
def Network.report (net : Network) : RunReport :=
  { endTime := net.now
    nodes := List.zipWith
      (fun site e => { name := site.name, produced := e.produced, consumed := e.consumed })
      net.topology.nodes.toList net.endpoints.toList
    interfaces := List.zipWith
      (fun iface r => { name := iface.name, corrupted := r.corrupted, finalStatus := r.status })
      net.topology.interfaces.toList net.radios.toList
    counters := net.counters }

end CarrierSense
