import CarrierSense.Network.Access

/-!
# Runs of a network

A run begins with `initRun`, which puts everything back to its first state and posts the first
production of every source. Events then fire tick by tick: `step` fires all events of the next tick,
those included that are posted for it meanwhile; `runTo` and `runUntilIdle` repeat this. The loops
take fuel, one unit for each event or step, and halt when it runs out.
-/

namespace CarrierSense.Network

/-- Fuel for more events than any machine can fire. -/
def ampleFuel : Nat := 4611686018427387904

/-- Draws a delay in ticks, rounded and no longer than the clock. -/
def drawDelay (net : Network) (v : VariateId) : Except Halt (Nat × Network) := do
  match net.variates[v.index]? with
  | none => throw .badHandle
  | some variate =>
    let (delay, variate, stream) ← variate.draw net.stream
    let variates := net.variates.setIfInBounds v.index variate
    return (Variate.ticks delay, { net with variates, stream })

/-- Produces one frame at a source and hands it to the node's interface; then posts the next
production, if there is one. -/
def produce (net : Network) (n : NodeId) : Except Halt (Reply Unit) := do
  let site ← net.topology.node n
  let endpoint ← net.endpoint n
  match endpoint.traffic with
  | none => return (.error (.notASource site.name), net)
  | some traffic =>
    if traffic.isExhausted then return (.ok (), net)
    if traffic.destinations.isEmpty then return (.error (.noDestination site.name), net)
    match site.iface with
    | none => return (.error (.noInterface site.name), net)
    | some iface =>
      let (place, stream) := net.stream.between64 0 (traffic.destinations.length - 1)
      let (id, stream) := stream.between32 0 32767
      let destination := traffic.destinations.getD place n
      let frame := Frame.data id traffic.messageLength n destination
      andThen ({ net with stream }.send iface frame) fun _ net => do
        -- a frame that is refused is not counted, and ends the traffic of the source
        let traffic := { traffic with produced := traffic.produced + 1 }
        let net := net.setEndpoint n { endpoint with traffic := some traffic }
        if traffic.isExhausted then return (.ok (), net)
        let (delay, net) ← net.drawDelay traffic.nextDelay
        net.withPost (net.scheduler.postAfter delay (.produce n))

/-- Puts a variate back to the beginning of its sequence. -/
def rewind (net : Network) (v : VariateId) : Network :=
  { net with variates := net.variates.modify v.index Variate.rewind }

/-- Turns the variates of a source back to their start. -/
def rewindTraffic (net : Network) (t : Traffic) : Network :=
  let net := net.rewind t.arrival
  match t.period with
  | some period => net.rewind period
  | none => net

/-- The network before a run: nothing pending, clock and counters at zero, radios switched off and on,
variates at their start. Topology, trace and random stream stay as they are. -/
def reset (net : Network) : Network :=
  let net := net.endpoints.toList.foldl (fun net e => (e.traffic.map net.rewindTraffic).getD net) net
  { net with
    scheduler := net.scheduler.reset
    counters := {}
    radios := net.radios.map fun _ => Radio.powerOn net.timing
    endpoints := net.endpoints.map Endpoint.reset }

/-- Posts the first production of a node, if it has any. -/
def start (net : Network) (n : NodeId) : Except Halt (Reply Unit) := do
  let endpoint ← net.endpoint n
  match endpoint.traffic with
  | none => return (.ok (), net)
  | some traffic =>
    if traffic.isExhausted then return (.ok (), net)
    let (delay, net) ← net.drawDelay traffic.arrival
    net.withPost (net.scheduler.post delay (.produce n))

/-- Posts the first productions of nodes, in order. -/
def startAll (net : Network) : List NodeId → Except Halt (Reply Unit)
  | [] => .ok (.ok (), net)
  | n :: rest => andThen (net.start n) fun _ net => net.startAll rest

/-- Starts a run: everything goes back to its first state, and each source's first production is
posted, in the order of the nodes. -/
def initRun (net : Network) : Except Halt (Reply Unit) :=
  net.reset.startAll ((List.range net.endpoints.size).map NodeId.mk)

/-- What an event does. -/
def fire (net : Network) : Event → Except Halt (Reply Unit)
  | .produce n => net.produce n
  | .timer i timer => net.expire i timer
  | .forward i frame => net.send i frame

/-- Forgets the pending event of a timer that has run out. -/
def clearTimer (net : Network) (id : EventId) : Event → Except Halt Network
  | .timer i timer => do
    let radio ← net.radio i
    if radio.timers.get timer = some id then
      return net.setRadio i { radio with timers := radio.timers.set timer none }
    else return net
  | _ => return net

/-- Fires the events whose time has come until none is left. -/
def drain : Nat → Network → Except Halt (Reply Unit)
  | 0, _ => .error .outOfFuel
  | fuel + 1, net =>
    match net.scheduler.popDue with
    | none => .ok (.ok (), net)
    | some ((id, event), scheduler) => do
      -- the radio must not drop the event of its timer later on, when it is no longer pending
      let net ← { net with scheduler }.clearTimer id event
      andThen (net.fire event) fun _ net => drain fuel net

/-- Fires all events of the next tick and says which tick it was. -/
def step (fuel : Nat) (net : Network) : Except Halt (Reply Nat) :=
  match net.scheduler.nextTime with
  | .error e => .ok (.error (.scheduler e), net)
  | .ok time =>
    andThen (drain fuel { net with scheduler := net.scheduler.advanceTo time }) fun _ net =>
      .ok (.ok time, net)

/-- Steps while the next event satisfies a condition on its time. The first fuel is for each step, the
second for the steps. -/
def stepWhile (goesOn : Nat → Bool) (fuel : Nat) : Nat → Network → Except Halt (Reply Unit)
  | 0, _ => .error .outOfFuel
  | steps + 1, net =>
    match net.scheduler.nextTime? with
    | none => .ok (.ok (), net)
    | some time =>
      if goesOn time then andThen (step fuel net) fun _ net => stepWhile goesOn fuel steps net
      else .ok (.ok (), net)

/-- Fires all events up to and including the tick `limit`, and moves the clock there. -/
def runTo (fuel : Nat) (net : Network) (limit : Nat) : Except Halt (Reply Nat) :=
  andThen (stepWhile (· ≤ limit) fuel fuel net) fun _ net =>
    let net := { net with scheduler := net.scheduler.advanceTo limit }
    .ok (.ok net.now, net)

/-- Fires all events until none is pending. -/
def runUntilIdle (fuel : Nat) (net : Network) : Except Halt (Reply Nat) :=
  andThen (stepWhile (fun _ => true) fuel fuel net) fun _ net => .ok (.ok net.now, net)

end CarrierSense.Network
