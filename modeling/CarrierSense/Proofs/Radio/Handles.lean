import CarrierSense.Radio.Machine
import Mathlib.Tactic.Common

/-!
# Handles of timers

A radio keeps the handles of its timers, but what it does depends on them no further than on whether the
timer of the countdown is set. So two radios that differ in handles only do the same.
-/

namespace CarrierSense

/-- A turn of a radio that keeps other handles. -/
def Turn.withTimers (t : Turn) (timers : Timers) : Turn := { t with radio := { t.radio with timers } }

namespace Turn

variable {t : Turn} {timers : Timers}

/-- Other handles leave the status as it is. -/
@[simp] lemma status_withTimers : (t.withTimers timers).radio.status = t.radio.status := rfl

/-- Other handles leave the queue as it is. -/
@[simp] lemma outgoing_withTimers : (t.withTimers timers).radio.outgoing = t.radio.outgoing := rfl

/-- Other handles leave the tracked frame as it is. -/
@[simp] lemma incoming_withTimers : (t.withTimers timers).radio.incoming = t.radio.incoming := rfl

/-- Other handles leave the acknowledgements as they are. -/
@[simp] lemma acks_withTimers : (t.withTimers timers).radio.acks = t.radio.acks := rfl

/-- Other handles leave the collision flag as it is. -/
@[simp] lemma collision_withTimers : (t.withTimers timers).radio.collision = t.radio.collision := rfl

/-- An effect is asked for alike, whatever the handles. -/
@[simp] lemma ask_withTimers (t : Turn) (e : Effect) :
    (t.withTimers timers).ask e = (t.ask e).withTimers timers := rfl

/-- A radio is edited alike, whatever the handles, if the edit does not look at them. -/
@[simp] lemma edit_withTimers {f : Radio → Radio} (hf : ∀ r, f { r with timers } = { f r with timers }) :
    (t.withTimers timers).edit f = (t.edit f).withTimers timers := by
  simp only [edit, withTimers, hf]

/-- A status is entered alike, whatever the handles. -/
@[simp] lemma enter_withTimers (t : Turn) (s : Status) :
    (t.withTimers timers).enter s = (t.enter s).withTimers timers := by
  unfold enter
  rw [status_withTimers]
  split <;> rfl

end Turn

/-- What a radio does does not depend on the handles of its timers, but for whether that of its countdown
is set. -/
def Radio.Blind (move : Turn → Turn) : Prop :=
  ∀ t timers, timers.backoff.isSome = t.radio.timers.backoff.isSome →
    move (t.withTimers timers) = (move t).withTimers timers

namespace Radio

variable {w : Setting} {t : Turn} {timers : Timers}

/-- A radio that does not read its handles does not change them either. -/
lemma Blind.timers_eq {move : Turn → Turn} (h : Blind move) : (move t).radio.timers = t.radio.timers :=
  congrArg (·.radio.timers) (h t t.radio.timers rfl)

/-- A radio tries to send alike, whatever its handles. -/
@[simp] lemma trySend_withTimers :
    trySend w (t.withTimers timers) = (trySend w t).withTimers timers := by
  unfold trySend
  rw [Turn.outgoing_withTimers]
  split <;> simp

/-- The head of the queue is sent alike, whatever the handles. -/
@[simp] lemma transmitHead_withTimers :
    transmitHead w (t.withTimers timers) = (transmitHead w t).map (·.withTimers timers) id := by
  unfold transmitHead
  rw [Turn.outgoing_withTimers]
  split <;> simp

/-- A countdown begins alike, whatever the handles. -/
lemma beginCountdown_withTimers (length : Nat) :
    beginCountdown w length (t.withTimers timers) = (beginCountdown w length t).withTimers timers := by
  unfold beginCountdown isReceiving
  simp only [Turn.enter_withTimers, Turn.edit_withTimers, implies_true, Turn.ask_withTimers,
    Turn.incoming_withTimers]
  split <;> rfl

/-- A countdown is stopped if its timer is set, whatever its handle is. -/
lemma pauseCountdown_withTimers (h : timers.backoff.isSome = t.radio.timers.backoff.isSome) :
    pauseCountdown w (t.withTimers timers) = (pauseCountdown w t).withTimers timers := by
  unfold pauseCountdown
  rw [show (t.withTimers timers).radio.timers.backoff.isSome = t.radio.timers.backoff.isSome from h]
  split <;> simp

/-- A countdown is resumed alike, whatever the handles. -/
@[simp] lemma resumeCountdown_withTimers :
    resumeCountdown w (t.withTimers timers) = (resumeCountdown w t).withTimers timers := rfl

/-- The next duty is taken up alike, whatever the handles. -/
@[simp] lemma resume_withTimers :
    resume w (t.withTimers timers) = (resume w t).map (·.withTimers timers) id := by
  unfold resume
  rw [Turn.acks_withTimers]
  split
  · simp
  rw [show (t.withTimers timers).radio.waitingForAck = t.radio.waitingForAck from rfl]
  split
  · simp
  rw [show (t.withTimers timers).radio.backoffPaused = t.radio.backoffPaused from rfl]
  split
  · simp
  rw [show (t.withTimers timers).radio.retransmitPending = t.radio.retransmitPending from rfl]
  split <;> simp

/-- A frame is listened to alike, whatever the handles. -/
@[simp] lemma listen_withTimers (frame : Frame) :
    listen w frame (t.withTimers timers) = (listen w frame t).withTimers timers := by
  unfold listen track
  rw [Turn.incoming_withTimers]
  split
  · simp
  · dsimp only
    split <;> simp

/-- A frame is heard alike by radios whose countdowns are both running, or both not. -/
lemma receive_withTimers (frame : Frame) (h : timers.backoff.isSome = t.radio.timers.backoff.isSome) :
    receive w frame (t.withTimers timers) = (receive w frame t).withTimers timers := by
  rw [receive_eq, receive_eq, Turn.status_withTimers]
  split <;> simp [pauseCountdown_withTimers h]

/-- A frame is accepted alike, whatever the handles. -/
@[simp] lemma accept_withTimers (frame : Frame) :
    accept w frame (t.withTimers timers) = (accept w frame t).withTimers timers := by
  unfold accept headId
  rw [Turn.outgoing_withTimers, show (t.withTimers timers).radio.waitingForAck = t.radio.waitingForAck from rfl]
  split
  · rfl
  split
  · split <;> rfl
  · rfl

/-- A frame that has been heard to its end is dealt with alike, whatever the handles. -/
@[simp] lemma finishListening_withTimers (heard : Option Incoming) :
    finishListening w heard (t.withTimers timers) = (finishListening w heard t).withTimers timers := by
  unfold finishListening
  rw [Turn.collision_withTimers]
  split
  · simp
  · split <;> simp

/-- The end of a reception does not look at the handles. -/
lemma receptionEnded_withTimers :
    receptionEnded w (t.withTimers timers) = (receptionEnded w t).map (·.withTimers timers) id := by
  unfold receptionEnded
  simp only [Turn.incoming_withTimers, Turn.edit_withTimers, implies_true, Turn.status_withTimers,
    Turn.collision_withTimers, finishListening_withTimers, Turn.acks_withTimers]
  split
  · exact resume_withTimers
  · split
    · exact resume_withTimers
    · rfl
  · rfl

/-- The end of the long pause does not look at the handles. -/
lemma difsElapsed_withTimers :
    difsElapsed w (t.withTimers timers) = (difsElapsed w t).map (·.withTimers timers) id := by
  unfold difsElapsed isReceiving
  rw [Turn.collision_withTimers, Turn.incoming_withTimers]
  split <;> simp

/-- The end of a transmission does not look at the handles. -/
lemma transmissionEnded_withTimers :
    transmissionEnded w (t.withTimers timers) = (transmissionEnded w t).map (·.withTimers timers) id := by
  simp [transmissionEnded]

/-- A missed acknowledgement does not look at the handles. -/
lemma ackTimedOut_withTimers :
    ackTimedOut w (t.withTimers timers) = (ackTimedOut w t).map (·.withTimers timers) id := by
  unfold ackTimedOut
  simp only [Turn.edit_withTimers, implies_true, Turn.ask_withTimers, Turn.status_withTimers]
  split <;> rfl

/-- The end of the short pause does not look at the handles. -/
lemma sifsElapsed_withTimers :
    sifsElapsed w (t.withTimers timers) = (sifsElapsed w t).map (·.withTimers timers) id := by
  unfold sifsElapsed
  rw [Turn.acks_withTimers]
  split <;> simp

/-- What follows when a timer runs out does not depend on handles at all. -/
lemma expire_withTimers (k : Timer) :
    expire w (t.withTimers timers) k = (expire w t k).map (·.withTimers timers) id := by
  cases k with
  | difs => exact difsElapsed_withTimers
  | backoff => exact transmitHead_withTimers
  | transmission => exact transmissionEnded_withTimers
  | ackTimeout => exact ackTimedOut_withTimers
  | reception => exact receptionEnded_withTimers
  | sifs => exact sifsElapsed_withTimers
  | ackTransmission => exact resume_withTimers

end Radio

end CarrierSense
