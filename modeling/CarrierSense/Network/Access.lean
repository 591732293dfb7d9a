import CarrierSense.Network.Basic

/-!
# Medium access in a network

Radios act on the network: their effects are carried out, countdowns are drawn, and frames that go on
the air are heard by the members of the sender's medium. Frames enter the queue of a radio by `send`,
which chooses the next hop.
-/

namespace CarrierSense.Network

/-- What the radio of an interface knows at this moment. -/
def setting (net : Network) (i : InterfaceId) : Except Halt Setting := do
  let iface ← net.topology.interface i
  return { self := i, home := iface.node, timing := net.timing, now := net.now }

/-- Cancels a timer. -/
def disarm (net : Network) (i : InterfaceId) (timer : Timer) : Except Halt Network := do
  let radio ← net.radio i
  match radio.timers.get timer with
  | none => return net
  | some id =>
    let net := net.setRadio i { radio with timers := radio.timers.set timer none }
    return { net with scheduler := (net.scheduler.drop id).2 }

/-- Sets a timer, and cancels what it was set to before. -/
def arm (net : Network) (i : InterfaceId) (timer : Timer) (time : Nat) : Except Halt (Reply Unit) := do
  let time ← Clock.check time
  let net ← net.disarm i timer
  match net.scheduler.post time (.timer i timer) with
  | .error e => return (.error (.scheduler e), net)
  | .ok (id, scheduler) =>
    let radio ← net.radio i
    let net := { net with scheduler }
    return (.ok (), net.setRadio i { radio with timers := radio.timers.set timer (some id) })

/-- Hands a frame to a node that it was meant for. -/
def put (net : Network) (n : NodeId) : Except Halt Network := do
  let endpoint ← net.endpoint n
  let net := net.setEndpoint n { endpoint with consumed := endpoint.consumed + 1 }
  return { net with counters := net.counters.increment .delivered }

/-- The network after a post to its scheduler. -/
def withPost (net : Network) (post : Except SchedulerError (EventId × Scheduler Event)) :
    Except Halt (Reply Unit) :=
  match post with
  | .error e => .ok (.error (.scheduler e), net)
  | .ok (_, scheduler) => .ok (.ok (), { net with scheduler })

/-- Takes a frame on for another node: it is sent on within the current tick. -/
def relay (net : Network) (i : InterfaceId) (frame : Frame) : Except Halt (Reply Unit) :=
  let net := { net with counters := net.counters.increment .forwarded }
  net.withPost (net.scheduler.postAfter 0 (.forward i frame))

/-- Carries out an effect that an interface asks for. -/
def perform (net : Network) (w : Setting) : Effect → Except Halt (Reply Unit)
  | .report status => do
    let iface ← net.topology.interface w.self
    let record := { time := w.now, name := iface.name, status : TraceRecord }
    return (.ok (), { net with recorder := net.recorder.note record })
  | .count counter => .ok (.ok (), { net with counters := net.counters.increment counter })
  | .arm timer time => net.arm w.self timer time
  | .disarm timer => do return (.ok (), ← net.disarm w.self timer)
  | .deliver _ => do return (.ok (), ← net.put w.home)
  | .relay frame => net.relay w.self frame

/-- Carries out effects in order, up to the first error. -/
def performAll (net : Network) (w : Setting) : List Effect → Except Halt (Reply Unit)
  | [] => .ok (.ok (), net)
  | effect :: rest => andThen (net.perform w effect) fun _ net => net.performAll w rest

/-- Carries out a turn: the radio is put back, and its effects follow in order. -/
def settle (net : Network) (w : Setting) (t : Turn) : Except Halt (Reply Unit) :=
  (net.setRadio w.self t.radio).performAll w t.effects

/-- Lets the radio of an interface take a turn. -/
def act (net : Network) (i : InterfaceId) (move : Setting → Turn → Turn) : Except Halt (Reply Unit) := do
  let radio ← net.radio i
  let w ← net.setting i
  net.settle w (move w { radio })

/-- Lets the interface hear a frame that starts on the medium. -/
def receive (net : Network) (i : InterfaceId) (frame : Frame) : Except Halt (Reply Unit) :=
  net.act i fun w => Radio.receive w frame

/-- Lets interfaces hear a frame, one after the other. -/
def receiveAll (net : Network) (frame : Frame) : List InterfaceId → Except Halt (Reply Unit)
  | [] => .ok (.ok (), net)
  | i :: rest => andThen (net.receive i frame) fun _ net => net.receiveAll frame rest

/-- Puts a frame on the air: all members of the interface's medium hear it, in their order. -/
def broadcast (net : Network) (i : InterfaceId) (frame : Frame) : Except Halt (Reply Unit) := do
  let medium ← net.topology.mediumOf i
  net.receiveAll frame medium.members

/-- Starts a countdown of random length at an interface. -/
def contend (net : Network) (i : InterfaceId) : Except Halt (Reply Unit) := do
  let radio ← net.radio i
  let (length, stream) := net.stream.between32 1 (max radio.window 1)
  { net with stream }.act i fun w => Radio.beginCountdown w length

/-- Carries out what follows a turn. -/
def follow (net : Network) (i : InterfaceId) : Sequel → Except Halt (Reply Unit)
  | .none => .ok (.ok (), net)
  | .contend => net.contend i
  | .transmit frame => net.broadcast i frame

/-- Lets a timer of an interface run out. The end of a frame needs the idle time on the clock's
scale, whether it is used or not. -/
def expire (net : Network) (i : InterfaceId) (timer : Timer) : Except Halt (Reply Unit) := do
  if timer = .reception then
    let _ ← Clock.check net.timing.difs
  let radio ← net.radio i
  let w ← net.setting i
  let (turn, sequel) := Radio.expire w { radio } timer
  andThen (net.settle w turn) fun _ net => net.follow i sequel

/-- Queues a frame at an interface, on its way to the next hop, and starts an attempt to send if the
radio is idle. -/
def send (net : Network) (i : InterfaceId) (frame : Frame) : Except Halt (Reply Unit) := do
  match ← net.topology.route i frame.destination with
  | .error e => return (.error e, net)
  | .ok none =>
    let iface ← net.topology.interface i
    let target ← net.topology.node frame.destination
    return (.error (.noRoute iface.name target.name), net)
  | .ok (some next) =>
    let radio ← net.radio i
    let net := net.setRadio i { radio with outgoing := radio.outgoing ++ [frame.onHop i next] }
    if radio.status = .idle then net.act i Radio.trySend else return (.ok (), net)

end CarrierSense.Network
