import CarrierSense.Radio.Machine
import Mathlib.Tactic.Common

/-!
# Alarms of a radio

The times at which the timers of a radio run out, as a function that effects act on. A turn asks for its
effects one by one; `Turn.alarms` says which alarms are set once they are carried out. The lemmas below
read the state and the alarms of a turn off the steps it was put together from.
-/

namespace CarrierSense

/-- Something holds of every timer if it holds of each of the seven. -/
lemma Timer.forall_iff {p : Timer → Prop} :
    (∀ k, p k) ↔ p .difs ∧ p .backoff ∧ p .transmission ∧ p .ackTimeout ∧ p .reception ∧ p .sifs ∧
      p .ackTransmission := by
  refine ⟨fun h => ⟨h _, h _, h _, h _, h _, h _, h _⟩, ?_⟩
  rintro ⟨h₁, h₂, h₃, h₄, h₅, h₆, h₇⟩ (_ | _ | _ | _ | _ | _ | _) <;> assumption

/-- When each timer of a radio runs out, if it is set. -/
abbrev Alarms := Timer → Option Nat

namespace Alarms

/-- Changes the alarm of one timer. -/
def set (d : Alarms) (k : Timer) (time : Option Nat) : Alarms := fun l => if k = l then time else d l

/-- The alarms after an effect. -/
def after (d : Alarms) : Effect → Alarms
  | .arm k time => d.set k (some time)
  | .disarm k => d.set k none
  | _ => d

/-- To report a status sets no timer. -/
@[simp] lemma after_report (d : Alarms) (s : Status) : d.after (.report s) = d := rfl

/-- To count sets no timer. -/
@[simp] lemma after_count (d : Alarms) (c : Counter) : d.after (.count c) = d := rfl

/-- A timer that is armed is set to its time. -/
@[simp] lemma after_arm (d : Alarms) (k : Timer) (time : Nat) :
    d.after (.arm k time) = d.set k (some time) := rfl

/-- A timer that is disarmed is set to no time. -/
@[simp] lemma after_disarm (d : Alarms) (k : Timer) : d.after (.disarm k) = d.set k none := rfl

/-- To deliver a frame sets no timer. -/
@[simp] lemma after_deliver (d : Alarms) (f : Frame) : d.after (.deliver f) = d := rfl

/-- To take a frame on for another node sets no timer. -/
@[simp] lemma after_relay (d : Alarms) (f : Frame) : d.after (.relay f) = d := rfl

/-- A timer that has just been set has its new time. -/
@[simp] lemma set_self (d : Alarms) (k : Timer) (time : Option Nat) : d.set k time k = time :=
  if_pos rfl

/-- To set one timer leaves the others alone. -/
@[simp] lemma set_ne {d : Alarms} {k l : Timer} {time : Option Nat} (h : k ≠ l) :
    d.set k time l = d l :=
  if_neg h

/-- Of two times that one timer is set to, the last one stays. -/
@[simp] lemma set_set (d : Alarms) (k : Timer) (t t' : Option Nat) :
    (d.set k t).set k t' = d.set k t' := by
  funext l
  by_cases h : k = l <;> simp [set, h]

end Alarms

namespace Turn

/-- The alarms of a radio once all that the turn asks for is done. -/
def alarms (t : Turn) (d : Alarms) : Alarms := t.effects.foldl Alarms.after d

variable (t : Turn) (d : Alarms)

/-- Before a turn asks for anything, the alarms are what they were. -/
@[simp] lemma alarms_start (r : Radio) : (Turn.mk r []).alarms d = d := rfl

/-- To ask for an effect leaves the radio as it is. -/
@[simp] lemma radio_ask (e : Effect) : (t.ask e).radio = t.radio := rfl

/-- The effect asked for last is the last to change the alarms. -/
@[simp] lemma alarms_ask (e : Effect) : (t.ask e).alarms d = (t.alarms d).after e := by
  simp [alarms, ask]

/-- To edit the radio of a turn does to it just that. -/
@[simp] lemma radio_edit (f : Radio → Radio) : (t.edit f).radio = f t.radio := rfl

/-- To edit the radio changes no alarm. -/
@[simp] lemma alarms_edit (f : Radio → Radio) : (t.edit f).alarms d = t.alarms d := rfl

/-- To enter a status changes nothing of the radio but its status. -/
@[simp] lemma radio_enter (s : Status) : (t.enter s).radio = { t.radio with status := s } := by
  unfold enter
  split
  · rename_i h
    rw [← h]
  · rfl

/-- To enter a status changes no alarm. -/
@[simp] lemma alarms_enter (s : Status) : (t.enter s).alarms d = t.alarms d := by
  unfold enter
  split
  · rfl
  · simp

/-- A turn that leaves the handles of the timers alone, and sets no timer to a time that is over. -/
structure Proper (w : Setting) (timers : Timers) (t : Turn) : Prop where
  timers : t.radio.timers = timers
  punctual : ∀ {k time}, .arm k time ∈ t.effects → w.now ≤ time

variable {w : Setting} {timers : Timers} {t}

/-- A turn that has done nothing so far is proper. -/
lemma proper_start (w : Setting) (r : Radio) : (Turn.mk r []).Proper w r.timers :=
  ⟨rfl, fun h => by cases h⟩

/-- A turn stays proper while it edits anything of its radio but the handles of the timers. -/
lemma Proper.edit {f : Radio → Radio} (h : t.Proper w timers) (hf : ∀ r, (f r).timers = r.timers) :
    (t.edit f).Proper w timers :=
  ⟨(hf _).trans h.timers, h.punctual⟩

/-- A turn stays proper with one more effect, as long as this sets no timer to a time that is over. -/
lemma Proper.ask {e : Effect} (h : t.Proper w timers) (he : ∀ {k time}, e = .arm k time → w.now ≤ time) :
    (t.ask e).Proper w timers := by
  refine ⟨h.timers, fun hm => ?_⟩
  rcases List.mem_append.1 hm with hm | hm
  · exact h.punctual hm
  · exact he (List.mem_singleton.1 hm).symm

/-- A turn that counts stays proper. -/
lemma Proper.count (h : t.Proper w timers) (c : Counter) : (t.ask (.count c)).Proper w timers :=
  h.ask fun he => by cases he

/-- A turn that enters a status stays proper. -/
lemma Proper.enter (h : t.Proper w timers) (s : Status) : (t.enter s).Proper w timers := by
  unfold Turn.enter
  split
  · exact h
  · refine .ask (.edit h fun _ => by rfl) fun he => ?_
    cases he

/-- A turn that sets a timer stays proper if the time is not over. -/
lemma Proper.arm {k : Timer} {time : Nat} (h : t.Proper w timers) (ht : w.now ≤ time) :
    (t.ask (.arm k time)).Proper w timers :=
  h.ask fun he => by
    cases he
    exact ht

/-- A turn that stops a timer stays proper. -/
lemma Proper.disarm (h : t.Proper w timers) (k : Timer) : (t.ask (.disarm k)).Proper w timers :=
  h.ask fun he => by cases he

end Turn

namespace Radio

open Turn

variable {w : Setting} {timers : Timers} {t : Turn}

/-- A radio that tries to send waits for times to come. -/
lemma trySend_proper (h : t.Proper w timers) : (trySend w t).Proper w timers := by
  unfold trySend
  split
  · exact h.enter _
  · exact .arm (.edit (h.enter _) fun _ => by rfl) (Nat.le_add_right _ _)

/-- A radio that begins to send waits for times to come. -/
lemma transmitHead_proper (h : t.Proper w timers) : (transmitHead w t).1.Proper w timers := by
  unfold transmitHead
  split
  · exact trySend_proper h
  · exact .count (.arm (.edit (h.enter _) fun _ => by rfl) (Nat.le_add_right _ _)) _

/-- A countdown ends at a time to come. -/
lemma beginCountdown_proper (n : Nat) (h : t.Proper w timers) :
    (beginCountdown w n t).Proper w timers := by
  unfold beginCountdown
  dsimp only
  split
  · exact .edit (h.enter _) fun _ => by rfl
  · exact .arm (.edit (.edit (h.enter _) fun _ => by rfl) fun _ => by rfl) (Nat.le_add_right _ _)

/-- To pause a countdown sets no timer at all. -/
lemma pauseCountdown_proper (h : t.Proper w timers) : (pauseCountdown w t).Proper w timers := by
  unfold pauseCountdown
  split
  · exact .edit (h.disarm _) fun _ => by rfl
  · exact h

/-- A countdown that is resumed ends at a time to come. -/
lemma resumeCountdown_proper (h : t.Proper w timers) : (resumeCountdown w t).Proper w timers := by
  unfold resumeCountdown
  refine .arm (.edit h fun _ => by rfl) ?_
  omega

/-- A radio that takes up what it has to do waits for times to come. -/
lemma resume_proper (h : t.Proper w timers) : (resume w t).1.Proper w timers := by
  unfold resume
  split
  · exact .arm (h.enter _) (Nat.le_add_right _ _)
  · split
    · exact h.enter _
    · split
      · exact resumeCountdown_proper (.enter (.edit h fun _ => by rfl) _)
      · split
        · dsimp only
          exact .edit h fun _ => by rfl
        · exact trySend_proper h

/-- A frame that is listened to ends at a time to come. -/
lemma listen_proper (frame : Frame) (h : t.Proper w timers) : (listen w frame t).Proper w timers := by
  unfold listen track
  dsimp only
  split
  · exact .arm (.edit h fun _ => by rfl) (Nat.le_add_right _ _)
  · split
    · exact .arm (.edit (.count (.edit h fun _ => by rfl) _) fun _ => by rfl) (Nat.le_add_right _ _)
    · exact .count (.edit h fun _ => by rfl) _

/-- A frame that reaches a radio sets no timer to a time that is over. -/
lemma receive_proper (frame : Frame) (h : t.Proper w timers) :
    (receive w frame t).Proper w timers := by
  rw [receive_eq]
  split
  · exact h.count _
  · exact h.count _
  · exact h.count _
  · exact listen_proper frame (h.enter _)
  · exact listen_proper frame (h.enter _)
  · exact listen_proper frame h
  · exact listen_proper frame (.edit (h.count _) fun _ => by rfl)
  · exact listen_proper frame (pauseCountdown_proper h)

/-- A frame that is accepted is answered at a time to come. -/
lemma accept_proper (frame : Frame) (h : t.Proper w timers) : (accept w frame t).Proper w timers := by
  unfold accept
  split
  · exact h
  · split
    · split
      · exact .disarm (.edit h fun _ => by rfl) _
      · exact h
    · refine .ask (.edit h fun _ => by rfl) fun he => ?_
      split at he <;> cases he

/-- When a frame has been heard to its end, no timer is set to a time that is over. -/
lemma finishListening_proper (heard : Option Incoming) (h : t.Proper w timers) :
    (finishListening w heard t).Proper w timers := by
  unfold finishListening
  split
  · exact .edit h fun _ => by rfl
  · split
    · exact accept_proper _ h
    · exact h

/-- The end of a reception sets no timer to a time that is over. -/
lemma receptionEnded_proper (h : t.Proper w timers) : (receptionEnded w t).1.Proper w timers := by
  unfold receptionEnded
  dsimp only
  split
  · exact resume_proper (finishListening_proper _ (.edit h fun _ => by rfl))
  · split
    · exact resume_proper (.edit (finishListening_proper _ (.edit h fun _ => by rfl)) fun _ => by rfl)
    · exact resumeCountdown_proper (finishListening_proper _ (.edit h fun _ => by rfl))
  · dsimp only
    exact .edit h fun _ => by rfl

/-- An acknowledgement that does not come sets no timer to a time that is over. -/
lemma ackTimedOut_proper (h : t.Proper w timers) : (ackTimedOut w t).1.Proper w timers := by
  unfold ackTimedOut
  dsimp only
  split
  · exact .count (.edit h fun _ => by rfl) _
  · dsimp only
    exact .edit (.count (.edit h fun _ => by rfl) _) fun _ => by rfl

/-- The acknowledgement sent after the short pause ends at a time to come. -/
lemma sifsElapsed_proper (h : t.Proper w timers) : (sifsElapsed w t).1.Proper w timers := by
  unfold sifsElapsed
  split
  · exact resume_proper h
  · exact .count (.arm (.enter (.edit h fun _ => by rfl) _) (Nat.le_add_right _ _)) _

/-- What follows the long pause sets no timer to a time that is over. -/
lemma difsElapsed_proper (h : t.Proper w timers) : (difsElapsed w t).1.Proper w timers := by
  unfold difsElapsed
  split
  · exact h
  · exact transmitHead_proper h

/-- Whatever timer runs out, the radio's turn is a proper one. -/
lemma expire_proper (k : Timer) (h : t.Proper w timers) : (expire w t k).1.Proper w timers := by
  cases k with
  | difs => exact difsElapsed_proper h
  | backoff => exact transmitHead_proper h
  | transmission => exact .arm (.edit (h.enter _) fun _ => by rfl) (Nat.le_add_right _ _)
  | ackTimeout => exact ackTimedOut_proper h
  | reception => exact receptionEnded_proper h
  | sifs => exact sifsElapsed_proper h
  | ackTransmission => exact resume_proper h

end Radio

end CarrierSense
