import CarrierSense.Proofs.Radio.Alarms
import Mathlib.Algebra.GroupWithZero.Nat

/-!
# The horizon of a radio

How far ahead of the clock a radio looks. What it sets a timer by is the timing, a countdown and the airtimes of
frames. A radio is `Confined` if its countdowns stay within the largest contention window, and its frames within the
horizon; every turn keeps it so, and sets no timer beyond the horizon.
-/

namespace CarrierSense

namespace Timing

variable (timing : Timing)

/-- The longest countdown that is drawn. -/
def longestCountdown : Nat := max (max timing.windowMin timing.windowMax) 1

/-- How far ahead of the clock a timer is set: a countdown goes on after another idle time, an acknowledgement is
awaited, or a frame is on the air, whose length is a number of 32 bits. -/
def horizon : Nat :=
  max (timing.sifs + 2 * timing.slot + timing.longestCountdown)
    (max (timing.sifs + timing.ackDuration + timing.slot) (2 ^ 32))

/-- The smallest window is at most the longest countdown. -/
lemma windowMin_le : timing.windowMin ≤ timing.longestCountdown :=
  Nat.le_trans (Nat.le_max_left _ _) (Nat.le_max_left _ _)

/-- A countdown, and the pause before it, end within the horizon. -/
lemma countdown_le_horizon : timing.difs + timing.longestCountdown ≤ timing.horizon := Nat.le_max_left _ _

/-- An acknowledgement is missed within the horizon. -/
lemma ackTimeout_le_horizon : timing.ackTimeout ≤ timing.horizon :=
  Nat.le_trans (Nat.le_max_left _ _) (Nat.le_max_right _ _)

/-- Whatever is drawn with 32 bits is within the horizon. -/
lemma word_le_horizon : 2 ^ 32 ≤ timing.horizon := Nat.le_trans (Nat.le_max_right _ _) (Nat.le_max_right _ _)

/-- The pause before an acknowledgement ends within the horizon. -/
lemma sifs_le_horizon : timing.sifs ≤ timing.horizon := by
  have h := timing.ackTimeout_le_horizon
  unfold ackTimeout at h
  omega

/-- An acknowledgement ends within the horizon. -/
lemma ackDuration_le_horizon : timing.ackDuration ≤ timing.horizon := by
  have h := timing.ackTimeout_le_horizon
  unfold ackTimeout at h
  omega

end Timing

/-- The frame ends within the horizon, and if it carries data, then for a node that is there. -/
structure Frame.Confined (timing : Timing) (known : NodeId → Prop) (f : Frame) : Prop where
  airtime : f.airtime ≤ timing.horizon
  target : f.isAck = false → known f.destination

namespace Radio

/-- The frames that a radio has to send, and the one that it listens to. -/
def frames (r : Radio) : List Frame := r.outgoing ++ r.acks ++ r.incoming.toList.map Incoming.frame

/-- The frames of a radio are confined, and its countdowns are among those that are drawn. -/
structure Confined (timing : Timing) (known : NodeId → Prop) (r : Radio) : Prop where
  frames : ∀ f ∈ r.frames, f.Confined timing known
  window : r.window ≤ timing.longestCountdown
  remaining : r.backoffRemaining ≤ timing.longestCountdown

variable {timing : Timing} {known : NodeId → Prop} {r : Radio} {f : Frame}

/-- A radio that was just switched on is confined. -/
lemma powerOn_confined : (powerOn timing).Confined timing known := by
  refine ⟨fun f hf => ?_, timing.windowMin_le, Nat.zero_le _⟩
  cases hf

namespace Confined

/-- A frame in the queue of a confined radio is confined. -/
lemma outgoing (h : r.Confined timing known) (hf : f ∈ r.outgoing) : f.Confined timing known :=
  h.frames f (by simp [Radio.frames, hf])

/-- An acknowledgement that a confined radio owes is confined. -/
lemma acks (h : r.Confined timing known) (hf : f ∈ r.acks) : f.Confined timing known :=
  h.frames f (by simp [Radio.frames, hf])

/-- The frame that a confined radio listens to is confined. -/
lemma incoming {x : Incoming} (h : r.Confined timing known) (hx : r.incoming = some x) :
    x.frame.Confined timing known :=
  h.frames x.frame (by simp [Radio.frames, hx])

/-- The handles of its timers do not matter to a confined radio. -/
lemma withTimers (h : r.Confined timing known) (timers : Timers) : Confined timing known { r with timers } :=
  ⟨h.frames, h.window, h.remaining⟩

/-- The frames of a radio may be exchanged for other confined ones. -/
lemma holding {outgoing acks : List Frame} {incoming : Option Incoming} (h : r.Confined timing known)
    (ho : ∀ f ∈ outgoing, f.Confined timing known) (ha : ∀ f ∈ acks, f.Confined timing known)
    (hi : ∀ x, incoming = some x → x.frame.Confined timing known) :
    Confined timing known { r with outgoing, acks, incoming } := by
  refine ⟨fun f hf => ?_, h.window, h.remaining⟩
  simp only [Radio.frames, List.mem_append, List.mem_map, Option.mem_toList] at hf
  obtain (hf | hf) | ⟨x, hx, rfl⟩ := hf
  · exact ho f hf
  · exact ha f hf
  · exact hi x hx

end Confined

end Radio

namespace Turn

/-- The radio is confined. No timer is set beyond the horizon, and what is taken on for another node is a confined
data frame. -/
structure Confined (w : Setting) (known : NodeId → Prop) (t : Turn) : Prop where
  radio : t.radio.Confined w.timing known
  timely : ∀ {k time}, .arm k time ∈ t.effects → time ≤ w.now + w.timing.horizon
  relayed : ∀ {f}, .relay f ∈ t.effects → f.airtime ≤ w.timing.horizon ∧ known f.destination

variable {w : Setting} {known : NodeId → Prop} {t : Turn} {r : Radio}

/-- A turn that has done nothing so far is confined. -/
lemma confined_start (h : r.Confined w.timing known) : (Turn.mk r []).Confined w known :=
  ⟨h, nofun, nofun⟩

namespace Confined

/-- A turn stays confined with an edit that keeps its radio so. -/
lemma edit {f : Radio → Radio} (h : t.Confined w known) (hf : (f t.radio).Confined w.timing known) :
    (t.edit f).Confined w known :=
  ⟨hf, h.timely, h.relayed⟩

/-- A turn stays confined with an effect that sets no timer too far ahead and takes no frame on that is too long. -/
lemma ask {e : Effect} (h : t.Confined w known)
    (ha : ∀ {k time}, e = .arm k time → time ≤ w.now + w.timing.horizon)
    (hr : ∀ {f}, e = .relay f → f.airtime ≤ w.timing.horizon ∧ known f.destination) :
    (t.ask e).Confined w known := by
  refine ⟨h.radio, fun hm => ?_, fun hm => ?_⟩
  · rcases List.mem_append.1 hm with hm | hm
    · exact h.timely hm
    · exact ha (List.mem_singleton.1 hm).symm
  · rcases List.mem_append.1 hm with hm | hm
    · exact h.relayed hm
    · exact hr (List.mem_singleton.1 hm).symm

/-- A turn that sets a timer within the horizon stays confined. -/
lemma arm {k : Timer} {time : Nat} (h : t.Confined w known) (ht : time ≤ w.now + w.timing.horizon) :
    (t.ask (.arm k time)).Confined w known := by
  refine h.ask (fun he => ?_) nofun
  cases he
  exact ht

/-- A turn that counts stays confined. -/
lemma count (h : t.Confined w known) (c : Counter) : (t.ask (.count c)).Confined w known :=
  h.ask nofun nofun

/-- A turn that stops a timer stays confined. -/
lemma disarm (h : t.Confined w known) (k : Timer) : (t.ask (.disarm k)).Confined w known :=
  h.ask nofun nofun

/-- A turn that enters a status stays confined. -/
lemma enter (h : t.Confined w known) (s : Status) : (t.enter s).Confined w known := by
  unfold Turn.enter
  split
  · exact h
  · exact .ask (.edit h ⟨h.radio.frames, h.radio.window, h.radio.remaining⟩) nofun nofun

end Confined

end Turn

/-- What follows a confined move is a confined frame on the air, if it is one. -/
structure Move.Confined (w : Setting) (known : NodeId → Prop) (m : Move) : Prop where
  turn : m.1.Confined w known
  sequel : ∀ {f}, m.2 = .transmit f → f.Confined w.timing known

namespace Radio

open Turn

variable {w : Setting} {known : NodeId → Prop} {t : Turn} {f : Frame}

/-- A confined radio that tries to send stays confined. -/
lemma trySend_confined (h : t.Confined w known) : (trySend w t).Confined w known := by
  have hdifs := w.timing.countdown_le_horizon
  unfold trySend
  split
  · exact h.enter _
  · have hentered := h.enter .waitingForDifs
    refine .arm (.edit hentered ⟨hentered.radio.frames, hentered.radio.window, hentered.radio.remaining⟩) ?_
    omega

/-- A confined radio that begins to send puts a confined frame on the air. -/
lemma transmitHead_confined (h : t.Confined w known) : Move.Confined w known (transmitHead w t) := by
  unfold transmitHead
  split
  · exact ⟨trySend_confined h, nofun⟩
  · rename_i frame rest hq
    have hframe : frame.Confined w.timing known := h.radio.outgoing (hq ▸ List.mem_cons_self)
    have hentered := h.enter .sendingMessage
    refine ⟨.count (.arm (.edit hentered ?_) ?_) _, fun hs => ?_⟩
    · exact ⟨hentered.radio.frames, hentered.radio.window, hentered.radio.remaining⟩
    · exact Nat.add_le_add_left hframe.airtime _
    · cases hs
      exact hframe

/-- A countdown up to the longest one keeps a radio confined. -/
lemma beginCountdown_confined {n : Nat} (h : t.Confined w known) (hn : n ≤ w.timing.longestCountdown) :
    (beginCountdown w n t).Confined w known := by
  have hdifs := w.timing.countdown_le_horizon
  have hentered := h.enter .waitingForBackoff
  have hset := hentered.edit (f := fun r => { r with backoffRemaining := n })
    ⟨hentered.radio.frames, hentered.radio.window, hn⟩
  unfold beginCountdown
  dsimp only
  split
  · exact hset
  · refine .arm (hset.edit ⟨hset.radio.frames, hset.radio.window, hset.radio.remaining⟩) ?_
    omega

/-- A countdown that is paused has less to go, and keeps its radio confined. -/
lemma pauseCountdown_confined (h : t.Confined w known) : (pauseCountdown w t).Confined w known := by
  unfold pauseCountdown
  split
  · refine (h.disarm .backoff).edit ⟨h.radio.frames, h.radio.window, ?_⟩
    exact Nat.le_trans (Nat.sub_le _ _) h.radio.remaining
  · exact h

/-- What is left of a countdown is no longer than the countdown was. -/
lemma resumeCountdown_confined (h : t.Confined w known) : (resumeCountdown w t).Confined w known := by
  have hdifs := w.timing.countdown_le_horizon
  have hleft := h.radio.remaining
  unfold resumeCountdown
  refine .arm (h.edit ⟨h.radio.frames, h.radio.window, h.radio.remaining⟩) ?_
  omega

/-- A confined radio that takes up what it has to do stays confined. -/
lemma resume_confined (h : t.Confined w known) : Move.Confined w known (resume w t) := by
  unfold resume
  split
  · exact ⟨.arm (h.enter _) (Nat.add_le_add_left w.timing.sifs_le_horizon _), nofun⟩
  split
  · exact ⟨h.enter _, nofun⟩
  split
  · have hedited := h.edit (f := fun r => { r with backoffPaused := false })
      ⟨h.radio.frames, h.radio.window, h.radio.remaining⟩
    exact ⟨resumeCountdown_confined (hedited.enter _), nofun⟩
  split
  · refine ⟨?_, nofun⟩
    dsimp only
    exact h.edit ⟨h.radio.frames, h.radio.window, h.radio.remaining⟩
  · exact ⟨trySend_confined h, nofun⟩

/-- A radio that listens to a confined frame stays confined. -/
lemma listen_confined (h : t.Confined w known) (hf : f.Confined w.timing known) :
    (listen w f t).Confined w known := by
  have htrack : ∀ {t : Turn}, t.Confined w known → (track f (w.now + f.airtime) t).Confined w known := by
    intro t h
    refine .arm (h.edit ?_) (Nat.add_le_add_left hf.airtime _)
    refine h.radio.holding (fun _ hf => h.radio.outgoing hf) (fun _ ha => h.radio.acks ha) fun x hx => ?_
    cases hx
    exact hf
  unfold listen
  dsimp only
  split
  · exact htrack h
  · have hspoiled := (h.edit (f := fun r => { r with collision := true, corrupted := r.corrupted + 1 })
      ⟨h.radio.frames, h.radio.window, h.radio.remaining⟩).count .collisions
    split
    · exact htrack hspoiled
    · exact hspoiled

/-- Whatever a radio does with a frame that starts, it stays confined. -/
theorem receive_confined (h : t.Confined w known) (hf : f.Confined w.timing known) :
    (receive w f t).Confined w known := by
  rw [receive_eq]
  split
  · exact h.count _
  · exact h.count _
  · exact h.count _
  · exact listen_confined (h.enter _) hf
  · exact listen_confined (h.enter _) hf
  · exact listen_confined h hf
  · exact listen_confined ((h.count _).edit ⟨h.radio.frames, h.radio.window, h.radio.remaining⟩) hf
  · exact listen_confined (pauseCountdown_confined h) hf

/-- An acknowledgement takes the time that the timing gives it, and is meant for no node in particular. -/
lemma ackFrom_confined (timing : Timing) (me : InterfaceId) :
    (f.ackFrom me timing.ackDuration).Confined timing known :=
  ⟨timing.ackDuration_le_horizon, nofun⟩

/-- A radio that accepts a confined frame stays confined: its answer is as short as any acknowledgement. -/
lemma accept_confined (h : t.Confined w known) (hf : f.Confined w.timing known) :
    (accept w f t).Confined w known := by
  unfold accept
  split
  · exact h
  split
  · split
    · refine .disarm (h.edit ?_) _
      have hrest : ∀ f ∈ t.radio.outgoing.tail, f.Confined w.timing known := fun _ hf =>
        h.radio.outgoing (List.mem_of_mem_tail hf)
      have hheld := h.radio.holding hrest (fun _ ha => h.radio.acks ha) fun _ hx => h.radio.incoming hx
      exact ⟨hheld.frames, w.timing.windowMin_le, hheld.remaining⟩
    · exact h
  · rename_i hdata
    have htarget : known f.destination := hf.target (by simpa using hdata)
    refine .ask (h.edit ?_) (fun he => ?_) fun he => ?_
    · refine h.radio.holding (fun _ hf => h.radio.outgoing hf) (fun a ha => ?_) fun _ hx => h.radio.incoming hx
      rcases List.mem_append.1 ha with ha | ha
      · exact h.radio.acks ha
      · rw [List.mem_singleton.1 ha]
        exact ackFrom_confined w.timing w.self
    · split at he <;> cases he
    · split at he
      · cases he
      · cases he
        exact ⟨hf.airtime, htarget⟩

/-- A radio that has heard a confined frame to its end stays confined. -/
lemma finishListening_confined {heard : Option Incoming} (h : t.Confined w known)
    (hx : ∀ x, heard = some x → x.frame.Confined w.timing known) : (finishListening w heard t).Confined w known := by
  unfold finishListening
  split
  · exact h.edit ⟨h.radio.frames, h.radio.window, h.radio.remaining⟩
  · split
    · exact accept_confined h (hx _ rfl)
    · exact h

/-- The end of a reception keeps a radio confined. -/
lemma receptionEnded_confined (h : t.Confined w known) : Move.Confined w known (receptionEnded w t) := by
  have hdeaf := h.edit (f := fun r => { r with incoming := none })
    (h.radio.holding (fun _ hf => h.radio.outgoing hf) (fun _ ha => h.radio.acks ha) nofun)
  have hfinished := finishListening_confined hdeaf fun _ hx => h.radio.incoming hx
  unfold receptionEnded
  dsimp only
  split
  · exact resume_confined hfinished
  · split
    · exact resume_confined (hfinished.edit ⟨hfinished.radio.frames, hfinished.radio.window,
        hfinished.radio.remaining⟩)
    · exact ⟨resumeCountdown_confined hfinished, nofun⟩
  · exact ⟨hdeaf, nofun⟩

/-- What follows the long pause keeps a radio confined. -/
lemma difsElapsed_confined (h : t.Confined w known) : Move.Confined w known (difsElapsed w t) := by
  unfold difsElapsed
  split
  · exact ⟨h, nofun⟩
  · exact transmitHead_confined h

/-- The end of a transmission keeps a radio confined. -/
lemma transmissionEnded_confined (h : t.Confined w known) : Move.Confined w known (transmissionEnded w t) := by
  have hentered := h.enter .waitingForAck
  refine ⟨.arm (hentered.edit ?_) ?_, nofun⟩
  · exact ⟨hentered.radio.frames, hentered.radio.window, hentered.radio.remaining⟩
  · exact Nat.add_le_add_left w.timing.ackTimeout_le_horizon _

/-- The window is widened up to the largest one. -/
lemma ackTimedOut_confined (h : t.Confined w known) : Move.Confined w known (ackTimedOut w t) := by
  have hwide : widened w.timing t.radio.window ≤ w.timing.longestCountdown := by
    unfold widened Timing.longestCountdown
    omega
  have hlost := (h.edit (f := fun r => { r with waitingForAck := false, window := widened w.timing r.window })
    ⟨h.radio.frames, hwide, h.radio.remaining⟩).count .ackTimeouts
  unfold ackTimedOut
  dsimp only
  split
  · exact ⟨hlost, nofun⟩
  · refine ⟨?_, nofun⟩
    dsimp only
    exact hlost.edit ⟨hlost.radio.frames, hlost.radio.window, hlost.radio.remaining⟩

/-- The acknowledgement sent after the short pause is confined. -/
lemma sifsElapsed_confined (h : t.Confined w known) : Move.Confined w known (sifsElapsed w t) := by
  unfold sifsElapsed
  split
  · exact resume_confined h
  · rename_i ack rest hq
    have hack : ack.Confined w.timing known := h.radio.acks (hq ▸ List.mem_cons_self)
    have hrest := h.edit (f := fun r => { r with acks := rest })
      (h.radio.holding (fun _ hf => h.radio.outgoing hf) (fun _ ha => h.radio.acks (hq ▸ List.mem_cons_of_mem _ ha))
        fun _ hx => h.radio.incoming hx)
    refine ⟨.count (.arm (hrest.enter _) (Nat.add_le_add_left hack.airtime _)) _, fun hs => ?_⟩
    cases hs
    exact hack

/-- Whatever timer runs out, the radio stays confined. -/
theorem expire_confined (k : Timer) (h : t.Confined w known) : Move.Confined w known (expire w t k) := by
  cases k with
  | difs => exact difsElapsed_confined h
  | backoff => exact transmitHead_confined h
  | transmission => exact transmissionEnded_confined h
  | ackTimeout => exact ackTimedOut_confined h
  | reception => exact receptionEnded_confined h
  | sifs => exact sifsElapsed_confined h
  | ackTransmission => exact resume_confined h

end Radio

end CarrierSense
