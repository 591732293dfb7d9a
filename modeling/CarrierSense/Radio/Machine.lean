import CarrierSense.Radio.Basic

/-!
# The medium access machine

What a radio does when it is given a frame to send, when it hears a frame, and when a timer runs out.
A radio acts on its own state alone. What it wants done outside, it says by a list of effects, to be
carried out in order; and it says what has to follow: a countdown of random length, or a frame to be
put on the air. Hearing a frame has no such sequel, so that what one transmission sets off ends with
the radios that hear it.

A first attempt to send waits for an idle medium. If the medium was busy, or an acknowledgement
failed to come, the radio counts down a random number of ticks. The countdown pauses while the medium
is busy and goes on after another idle time, so that an acknowledgement, which waits for less, always
gets the medium first.
-/

namespace CarrierSense

/-- What a radio knows besides its state. -/
structure Setting where
  /-- The interface that the radio belongs to. -/
  self : InterfaceId
  /-- The node of that interface. -/
  home : NodeId
  timing : Timing
  now : Nat

/-- What a radio wants done. -/
inductive Effect where
  /-- Reports a change of status. -/
  | report (status : Status)
  | count (counter : Counter)
  /-- Sets a timer to the given time; it is no longer set to any other. -/
  | arm (timer : Timer) (time : Nat)
  | disarm (timer : Timer)
  /-- Hands a frame to the node of the interface. -/
  | deliver (frame : Frame)
  /-- Takes a frame on for another node. -/
  | relay (frame : Frame)
  deriving DecidableEq, Repr

/-- What has to follow when a radio has acted. -/
inductive Sequel where
  | none
  /-- A countdown of random length. -/
  | contend
  /-- A frame goes on the air. -/
  | transmit (frame : Frame)
  deriving DecidableEq, Repr

/-- A radio while it acts, and the effects it has asked for so far. -/
structure Turn where
  radio : Radio
  effects : List Effect := []

namespace Turn

/-- Asks for an effect. -/
def ask (t : Turn) (e : Effect) : Turn := { t with effects := t.effects ++ [e] }

/-- Changes the radio. -/
def edit (t : Turn) (f : Radio → Radio) : Turn := { t with radio := f t.radio }

/-- Goes over to a status, and reports it if it is a new one. -/
def enter (t : Turn) (s : Status) : Turn :=
  if t.radio.status = s then t
  else (t.edit fun r => { r with status := s }).ask (.report s)

end Turn

/-- A finished turn and its sequel. -/
abbrev Move := Turn × Sequel

namespace Radio

/-- Starts the idle time before an attempt to send, if there is anything to send. -/
def trySend (w : Setting) (t : Turn) : Turn :=
  match t.radio.outgoing with
  | [] => t.enter .idle
  | _ :: _ =>
    ((t.enter .waitingForDifs).edit fun r => { r with collision := false }).ask
      (.arm .difs (w.now + w.timing.difs))

/-- Puts the head of the queue on the air. If there is none, the radio rests. -/
def transmitHead (w : Setting) (t : Turn) : Move :=
  match t.radio.outgoing with
  | [] => (trySend w t, .none)
  | frame :: _ =>
    let t := (t.enter .sendingMessage).edit fun r => { r with collision := false }
    ((t.ask (.arm .transmission (w.now + frame.airtime))).ask (.count .framesSent),
      .transmit frame)

/-- Takes up a countdown of the given length. While a frame is being heard it does not run. -/
def beginCountdown (w : Setting) (length : Nat) (t : Turn) : Turn :=
  let t := (t.enter .waitingForBackoff).edit fun r => { r with backoffRemaining := length }
  if t.radio.isReceiving then t
  else
    (t.edit fun r => { r with backoffStarted := w.now }).ask (.arm .backoff (w.now + length))

/-- Stops a running countdown and keeps what is left of it. -/
def pauseCountdown (w : Setting) (t : Turn) : Turn :=
  if t.radio.timers.backoff.isSome then
    (t.ask (.disarm .backoff)).edit fun r =>
      { r with backoffRemaining := r.backoffRemaining - (w.now - r.backoffStarted) }
  else t

/-- Lets a countdown go on after another idle time. -/
def resumeCountdown (w : Setting) (t : Turn) : Turn :=
  let start := w.now + w.timing.difs
  (t.edit fun r => { r with backoffStarted := start }).ask
    (.arm .backoff (start + t.radio.backoffRemaining))

/-- Turns to the next duty once the medium is free. An acknowledgement that is due goes first; then
come one that is awaited, a countdown that was put off, and a frame that has to be sent again. -/
def resume (w : Setting) (t : Turn) : Move :=
  if !t.radio.acks.isEmpty then
    ((t.enter .waitingForSifs).ask (.arm .sifs (w.now + w.timing.sifs)), .none)
  else if t.radio.waitingForAck then (t.enter .waitingForAck, .none)
  else if t.radio.backoffPaused then
    let t := t.edit fun r => { r with backoffPaused := false }
    (resumeCountdown w (t.enter .waitingForBackoff), .none)
  else if t.radio.retransmitPending then
    (t.edit fun r => { r with retransmitPending := false }, .contend)
  else (trySend w t, .none)

/-- The frame that is listened to from now on, and the end of listening. -/
def track (frame : Frame) (endsAt : Nat) (t : Turn) : Turn :=
  (t.edit fun r => { r with incoming := some { frame, endsAt } }).ask (.arm .reception endsAt)

/-- Listens to a frame. Frames that overlap spoil each other, and the radio goes on listening until
the longest of them ends. -/
def listen (w : Setting) (frame : Frame) (t : Turn) : Turn :=
  let endsAt := w.now + frame.airtime
  match t.radio.incoming with
  | none => track frame endsAt t
  | some current =>
    let t := (t.edit fun r => { r with collision := true, corrupted := r.corrupted + 1 }).ask
      (.count .collisions)
    if current.endsAt < endsAt then track frame endsAt t else t

/-- What a radio does with a frame that starts on the medium. -/
def receive (w : Setting) (frame : Frame) (t : Turn) : Turn :=
  if t.radio.status.isDeaf then t.ask (.count .missed)
  else
    match t.radio.status with
    | .idle | .waitingForAck => listen w frame (t.enter .receivingMessage)
    | .receivingMessage => listen w frame t
    | .waitingForDifs =>
      listen w frame ((t.ask (.count .deferrals)).edit fun r => { r with collision := true })
    | .waitingForBackoff => listen w frame (pauseCountdown w t)
    -- deaf, as above
    | .sendingMessage | .sendingAck | .waitingForSifs => t

/-- What is done with a frame depends on the status alone. -/
theorem receive_eq (w : Setting) (frame : Frame) (t : Turn) :
    receive w frame t =
      match t.radio.status with
      | .sendingMessage | .sendingAck | .waitingForSifs => t.ask (.count .missed)
      | .idle | .waitingForAck => listen w frame (t.enter .receivingMessage)
      | .receivingMessage => listen w frame t
      | .waitingForDifs =>
        listen w frame ((t.ask (.count .deferrals)).edit fun r => { r with collision := true })
      | .waitingForBackoff => listen w frame (pauseCountdown w t) := by
  unfold receive
  cases t.radio.status <;> rfl

/-- Takes a frame that was heard without a collision. An acknowledgement settles the head of the
queue if it carries its number. A data frame is acknowledged, and handed to the node or taken on for
another one. -/
def accept (w : Setting) (frame : Frame) (t : Turn) : Turn :=
  if !frame.isFor w.self then t
  else if frame.isAck then
    -- the number is all that is compared, and other frames may bear the same
    if t.radio.waitingForAck && t.radio.headId == some frame.id then
      (t.edit fun r =>
        { r with
          outgoing := r.outgoing.tail
          waitingForAck := false
          window := w.timing.windowMin }).ask (.disarm .ackTimeout)
    else t
  else
    let t := t.edit fun r =>
      { r with acks := r.acks ++ [frame.ackFrom w.self w.timing.ackDuration] }
    t.ask (if frame.destination = w.home then .deliver frame else .relay frame)

/-- Takes the frame that was listened to, unless it was spoiled. -/
def finishListening (w : Setting) (heard : Option Incoming) (t : Turn) : Turn :=
  if t.radio.collision then t.edit fun r => { r with collision := false }
  else
    match heard with
    | some heard => accept w heard.frame t
    | none => t

/-- The end of what was listened to. During the idle time before an attempt nothing follows: the
attempt stays spoiled. A countdown goes on, but an acknowledgement goes first. -/
def receptionEnded (w : Setting) (t : Turn) : Move :=
  let heard := t.radio.incoming
  let t := t.edit fun r => { r with incoming := none }
  match t.radio.status with
  | .receivingMessage => resume w (finishListening w heard t)
  | .waitingForBackoff =>
    -- no countdown runs by now, and it is put off further if an acknowledgement is due
    let spoiled := t.radio.collision
    let t := finishListening w heard t
    if !spoiled && heard.isSome && !t.radio.acks.isEmpty then
      resume w (t.edit fun r => { r with backoffPaused := true })
    else (resumeCountdown w t, .none)
  | _ => (t, .none)

/-- The end of the idle time before an attempt: the radio sends, unless it has heard anything. -/
def difsElapsed (w : Setting) (t : Turn) : Move :=
  if t.radio.collision || t.radio.isReceiving then (t, .contend) else transmitHead w t

/-- The end of a data frame: its acknowledgement is awaited. -/
def transmissionEnded (w : Setting) (t : Turn) : Move :=
  let t := (t.enter .waitingForAck).edit fun r => { r with waitingForAck := true }
  (t.ask (.arm .ackTimeout (w.now + w.timing.ackTimeout)), .none)

/-- No acknowledgement has come: the frame is sent again after a countdown from a wider window. -/
def ackTimedOut (w : Setting) (t : Turn) : Move :=
  let t := (t.edit fun r =>
    { r with waitingForAck := false, window := widened w.timing r.window }).ask
      (.count .ackTimeouts)
  -- in the middle of a reception, or of an acknowledgement, the countdown has to wait
  if t.radio.status = .waitingForAck then (t, .contend)
  else (t.edit fun r => { r with retransmitPending := true }, .none)

/-- The end of the pause before an acknowledgement. -/
def sifsElapsed (w : Setting) (t : Turn) : Move :=
  match t.radio.acks with
  | [] => resume w t
  | ack :: rest =>
    let t := (t.edit fun r => { r with acks := rest }).enter .sendingAck
    ((t.ask (.arm .ackTransmission (w.now + ack.airtime))).ask (.count .acksSent), .transmit ack)

/-- What a radio does when a timer runs out. -/
def expire (w : Setting) (t : Turn) : Timer → Move
  | .difs => difsElapsed w t
  | .backoff => transmitHead w t
  | .transmission => transmissionEnded w t
  | .ackTimeout => ackTimedOut w t
  | .reception => receptionEnded w t
  | .sifs => sifsElapsed w t
  | .ackTransmission => resume w t

end Radio

end CarrierSense
