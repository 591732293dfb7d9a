import CarrierSense.Counters
import CarrierSense.Frame
import CarrierSense.Scheduler
import CarrierSense.Status
import CarrierSense.Timing.Basic

/-!
# State of a radio

The state of the medium access machine of one interface: its status, the frames and acknowledgements
it has to send, the frame it is listening to, its countdown, and the timers it has set.
-/

namespace CarrierSense

/-- The timers of a radio. At most one of each kind is set. -/
inductive Timer where
  /-- The idle time before a first attempt is over. -/
  | difs
  /-- The countdown has reached zero. -/
  | backoff
  /-- The data frame has been sent. -/
  | transmission
  /-- No acknowledgement has come. -/
  | ackTimeout
  /-- The frame that was listened to has ended. -/
  | reception
  /-- The pause before an acknowledgement is over. -/
  | sifs
  /-- The acknowledgement has been sent. -/
  | ackTransmission
  deriving DecidableEq, Repr, Inhabited

namespace Timer

/-- The name of a timer. -/
def name : Timer → String
  | difs => "difs"
  | backoff => "backoff"
  | transmission => "transmission"
  | ackTimeout => "ack_timeout"
  | reception => "reception"
  | sifs => "sifs"
  | ackTransmission => "ack_transmission"

/-- All timers of a radio. -/
def all : List Timer :=
  [difs, backoff, transmission, ackTimeout, reception, sifs, ackTransmission]

end Timer

/-- The pending event of each timer that is set. -/
structure Timers where
  difs : Option EventId := none
  backoff : Option EventId := none
  transmission : Option EventId := none
  ackTimeout : Option EventId := none
  reception : Option EventId := none
  sifs : Option EventId := none
  ackTransmission : Option EventId := none
  deriving DecidableEq, Repr, Inhabited

namespace Timers

/-- The pending event of a timer. -/
def get (t : Timers) : Timer → Option EventId
  | .difs => t.difs
  | .backoff => t.backoff
  | .transmission => t.transmission
  | .ackTimeout => t.ackTimeout
  | .reception => t.reception
  | .sifs => t.sifs
  | .ackTransmission => t.ackTransmission

/-- Changes the pending event of a timer. -/
def set (t : Timers) (k : Timer) (id : Option EventId) : Timers :=
  match k with
  | .difs => { t with difs := id }
  | .backoff => { t with backoff := id }
  | .transmission => { t with transmission := id }
  | .ackTimeout => { t with ackTimeout := id }
  | .reception => { t with reception := id }
  | .sifs => { t with sifs := id }
  | .ackTransmission => { t with ackTransmission := id }

/-- A handle that is kept of one timer leaves those of the others. -/
theorem get_set (t : Timers) (k l : Timer) (id : Option EventId) :
    (t.set k id).get l = if k = l then id else t.get l := by
  cases k <;> cases l <;> rfl

/-- At first no handle is kept. -/
theorem get_default (k : Timer) : ({} : Timers).get k = none := by
  cases k <;> rfl

end Timers

/-- The frame that a radio is listening to. -/
structure Incoming where
  frame : Frame
  endsAt : Nat
  deriving DecidableEq, Repr, Inhabited

/-- The state of the medium access machine of an interface. -/
structure Radio where
  status : Status := .idle
  /-- Data frames to send, the next one first. -/
  outgoing : List Frame := []
  /-- Acknowledgements to send, the next one first. -/
  acks : List Frame := []
  /-- Whether what is being heard, or the attempt to send, is spoiled. -/
  collision : Bool := false
  /-- The contention window: countdowns are drawn from one up to it. -/
  window : Nat
  incoming : Option Incoming := none
  /-- What is left of the countdown. -/
  backoffRemaining : Nat := 0
  /-- When the countdown started, or will start. -/
  backoffStarted : Nat := 0
  /-- Whether an acknowledgement has to go out before the countdown may go on. -/
  backoffPaused : Bool := false
  waitingForAck : Bool := false
  /-- Whether the head of the queue has to be sent again once the radio is free. -/
  retransmitPending : Bool := false
  /-- How many frames were lost here because they overlapped. -/
  corrupted : Nat := 0
  timers : Timers := {}
  deriving DecidableEq, Repr, Inhabited

namespace Radio

/-- A radio that has just been switched on. -/
def powerOn (timing : Timing) : Radio := { window := timing.windowMin }

/-- Whether the radio is listening to a frame. -/
def isReceiving (r : Radio) : Bool := r.incoming.isSome

/-- The number of the frame at the head of the queue. -/
def headId (r : Radio) : Option Nat := r.outgoing.head?.map (·.id)

/-- The largest value of a contention window. -/
def windowLimit : Nat := 4294967295

/-- The contention window after a lost acknowledgement: twice as large, within its limits. -/
def widened (timing : Timing) (window : Nat) : Nat :=
  min (min (2 * window) windowLimit) timing.windowMax

end Radio

end CarrierSense
