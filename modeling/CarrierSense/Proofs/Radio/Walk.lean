import CarrierSense.Proofs.Radio.Sound
import Mathlib.Data.List.Chain

/-!
# Walks of a radio through its statuses

Which status may follow which, and what a turn reports of it. A turn of a sound radio reports each status
that it enters, so that the reports of a turn, put behind the status from which it started, walk along the
edges to the status in which it ends.
-/

namespace CarrierSense

namespace Status

/-- The statuses that may come right after a status. -/
def successors : Status → List Status
  | idle => [waitingForDifs, receivingMessage]
  | waitingForDifs => [sendingMessage, waitingForBackoff]
  | waitingForBackoff => [sendingMessage, waitingForSifs]
  | sendingMessage => [waitingForAck]
  | waitingForAck => [receivingMessage, waitingForBackoff]
  | receivingMessage => [waitingForSifs, waitingForAck, waitingForBackoff, waitingForDifs, idle]
  | waitingForSifs => [sendingAck]
  | sendingAck => [waitingForAck, waitingForBackoff, waitingForDifs, idle]

/-- The statuses of `path` are entered one after the other, starting from `s` and ending in `u`. No status
is entered that is there already. -/
structure Walk (s : Status) (path : List Status) (u : Status) : Prop where
  edges : (s :: path).IsChain fun a b => a ≠ b ∧ b ∈ a.successors
  last : (s :: path).getLast? = some u

variable {s u v : Status} {path path' : List Status}

/-- No status comes right after itself. -/
lemma ne_of_mem_successors (h : u ∈ s.successors) : s ≠ u := by
  cases s <;> cases u <;> simp_all [successors]

/-- No step at all is a walk. -/
lemma Walk.nil (s : Status) : s.Walk [] s :=
  ⟨List.isChain_singleton s, rfl⟩

/-- A walk goes on along one more edge. -/
lemma Walk.concat (h : s.Walk path u) (hv : v ∈ u.successors) : s.Walk (path ++ [v]) v := by
  refine ⟨?_, ?_⟩
  · rw [← List.cons_append]
    apply List.isChain_append.2
    refine ⟨h.edges, List.isChain_singleton v, ?_⟩
    intro a ha b hb
    rw [h.last] at ha
    cases ha
    cases hb
    exact ⟨ne_of_mem_successors hv, hv⟩
  · rw [← List.cons_append, List.getLast?_append]
    rfl

/-- A walk goes on along another one that starts where it ends. -/
lemma Walk.append (h : s.Walk path u) (h' : u.Walk path' v) : s.Walk (path ++ path') v := by
  obtain ⟨hedges, hlast⟩ := h'
  induction path' generalizing u path with
  | nil =>
    cases hlast
    rw [List.append_nil]
    exact h
  | cons x rest ih =>
    obtain ⟨⟨-, hx⟩, hrest⟩ := List.isChain_cons_cons.1 hedges
    have hstep := ih (h.concat hx) hrest (by simpa using hlast)
    simpa using hstep

end Status

/-- The status that an effect reports. -/
def Effect.reported? : Effect → Option Status
  | .report s => some s
  | _ => none

namespace Turn

/-- The statuses that a turn reports, in order. -/
def reported (t : Turn) : List Status := t.effects.filterMap Effect.reported?

/-- What a turn reports leads from the status `s` to the status in which the turn leaves its radio. -/
def Walks (s : Status) (t : Turn) : Prop := s.Walk t.reported t.radio.status

variable {s u : Status} {t : Turn} {e : Effect} {f : Radio → Radio}

/-- A turn that has done nothing so far has walked nowhere. -/
lemma walks_start (r : Radio) : (Turn.mk r []).Walks r.status := .nil _

/-- To edit anything of a radio but its status is no step. -/
lemma Walks.edit (h : t.Walks s) (hf : (f t.radio).status = t.radio.status) : (t.edit f).Walks s := by
  show s.Walk t.reported (f t.radio).status
  rw [hf]
  exact h

/-- Whatever else is asked for, is not reported. -/
lemma Walks.ask (h : t.Walks s) (he : e.reported? = none) : (t.ask e).Walks s := by
  have hsame : (t.ask e).reported = t.reported := by
    simp [reported, Turn.ask, List.filterMap_append, he]
  show s.Walk (t.ask e).reported t.radio.status
  rw [hsame]
  exact h

/-- A status that is entered is reported, unless the radio is in it. -/
lemma Walks.enter (h : t.Walks s) (hu : t.radio.status = u ∨ u ∈ t.radio.status.successors) :
    (t.enter u).Walks s := by
  unfold Turn.enter
  split
  · exact h
  · rename_i hne
    have hreports : ((t.edit fun r => { r with status := u }).ask (.report u)).reported = t.reported ++ [u] := by
      simp [reported, Turn.ask, Turn.edit, List.filterMap_append, Effect.reported?]
    show s.Walk _ u
    rw [hreports]
    exact Status.Walk.concat h (hu.resolve_left hne)

end Turn

namespace Radio

open Turn

/-- The reports of a move lead from the status `s` to the status in which it leaves its radio; if a countdown
has to follow, that may be entered from there. -/
structure Move.Walks (s : Status) (m : Move) : Prop where
  walks : m.1.Walks s
  contends : m.2 = .contend → .waitingForBackoff ∈ m.1.radio.status.successors

variable {w : Setting} {s : Status} {t : Turn} {d : Alarms} {r : Radio}

/-- A radio that tries to send either rests or waits for the medium to be idle. -/
lemma trySend_walks (h : t.Walks s) (hidle : t.radio.status = .idle ∨ .idle ∈ t.radio.status.successors)
    (hdifs : .waitingForDifs ∈ t.radio.status.successors) : (trySend w t).Walks s := by
  unfold trySend
  split
  · exact h.enter hidle
  · apply Walks.ask _ rfl
    apply Walks.edit _ rfl
    exact h.enter (.inr hdifs)

/-- A radio that sends the head of its queue goes there in one step. -/
lemma transmitHead_walks (h : t.Walks s) (hq : t.radio.outgoing ≠ [])
    (hs : .sendingMessage ∈ t.radio.status.successors) : Move.Walks s (transmitHead w t) := by
  unfold transmitHead
  split
  · rename_i hnil
    exact absurd hnil hq
  · refine ⟨?_, fun hc => by cases hc⟩
    apply Walks.ask _ rfl
    apply Walks.ask _ rfl
    apply Walks.edit _ rfl
    exact h.enter (.inr hs)

/-- A countdown is entered in one step. -/
lemma beginCountdown_walks (n : Nat) (h : t.Walks s)
    (hs : .waitingForBackoff ∈ t.radio.status.successors) : (beginCountdown w n t).Walks s := by
  have hentered : ((t.enter .waitingForBackoff).edit fun r => { r with backoffRemaining := n }).Walks s :=
    (h.enter (.inr hs)).edit rfl
  unfold beginCountdown
  dsimp only
  split
  · exact hentered
  · exact (hentered.edit rfl).ask rfl

/-- A radio that is free after it has received or acknowledged turns to a duty that may follow. An
acknowledgement cannot be due again when one has just been sent. -/
lemma resume_walks (h : t.Walks s)
    (hs : t.radio.status = .receivingMessage ∨ t.radio.status = .sendingAck ∧ t.radio.acks = []) :
    Move.Walks s (resume w t) := by
  have hnext : ∀ u ∈ [Status.waitingForAck, .waitingForBackoff, .waitingForDifs, .idle],
      u ∈ t.radio.status.successors := by
    rcases hs with hs | ⟨hs, -⟩ <;> rw [hs] <;> decide
  unfold resume
  split
  · rename_i hacks
    have hs : t.radio.status = .receivingMessage := by
      rcases hs with hs | ⟨-, hnone⟩
      · exact hs
      · rw [hnone] at hacks
        cases hacks
    refine ⟨?_, fun hc => by cases hc⟩
    apply Walks.ask _ rfl
    apply h.enter
    rw [hs]
    decide
  split
  · exact ⟨h.enter (.inr (hnext _ (by simp))), fun hc => by cases hc⟩
  split
  · refine ⟨?_, fun hc => by cases hc⟩
    apply Walks.ask _ rfl
    apply Walks.edit _ rfl
    exact (h.edit rfl).enter (.inr (hnext _ (by simp)))
  split
  · exact ⟨h.edit rfl, fun _ => hnext _ (by simp)⟩
  · exact ⟨trySend_walks h (.inr (hnext _ (by simp))) (hnext _ (by simp)), fun hc => by cases hc⟩

/-- To listen to a frame is one step, or none if that is the status already. -/
lemma listen_walks (frame : Frame) (h : t.Walks s) : (listen w frame t).Walks s := by
  have htrack : ∀ {t : Turn} {endsAt : Nat}, t.Walks s → (track frame endsAt t).Walks s := fun h =>
    (h.edit rfl).ask rfl
  unfold listen
  dsimp only
  split
  · exact htrack h
  · split
    · exact htrack ((h.edit rfl).ask rfl)
    · exact (h.edit rfl).ask rfl

/-- A countdown that is paused is no step. -/
lemma pauseCountdown_walks (h : t.Walks s) : (pauseCountdown w t).Walks s := by
  unfold pauseCountdown
  split
  · exact (h.ask rfl).edit rfl
  · exact h

/-- Only an idle radio, or one that awaits an acknowledgement, changes its status when it hears a frame. -/
lemma receive_walks (frame : Frame) (h : t.Walks s) : (receive w frame t).Walks s := by
  rw [receive_eq]
  split
  · exact h.ask rfl
  · exact h.ask rfl
  · exact h.ask rfl
  · rename_i hs
    apply listen_walks
    apply h.enter
    rw [hs]
    decide
  · rename_i hs
    apply listen_walks
    apply h.enter
    rw [hs]
    decide
  · exact listen_walks frame h
  · apply listen_walks
    exact (h.ask rfl).edit rfl
  · apply listen_walks
    exact pauseCountdown_walks h

/-- To accept a frame is no step. -/
lemma accept_walks (frame : Frame) (h : t.Walks s) :
    (accept w frame t).Walks s ∧ (accept w frame t).radio.status = t.radio.status := by
  rcases accept_cases w frame t with he | ⟨-, -, -, -, he⟩ | ⟨-, -, he⟩ <;> rw [he]
  · exact ⟨h, rfl⟩
  · exact ⟨(h.edit rfl).ask rfl, rfl⟩
  · refine ⟨(h.edit rfl).ask ?_, rfl⟩
    split <;> rfl

/-- To deal with a frame that has been heard is no step. -/
lemma finishListening_walks (heard : Option Incoming) (h : t.Walks s) :
    (finishListening w heard t).Walks s ∧ (finishListening w heard t).radio.status = t.radio.status := by
  unfold finishListening
  split
  · exact ⟨h.edit rfl, rfl⟩
  · split
    · exact accept_walks _ h
    · exact ⟨h, rfl⟩

/-- The steps that may follow a reception. -/
lemma receptionEnded_walks (r : Radio) : Move.Walks r.status (receptionEnded w { radio := r }) := by
  have hstart : ({ radio := { r with incoming := none } } : Turn).Walks r.status := walks_start _
  obtain ⟨hfinish, hstatus⟩ := finishListening_walks (w := w) r.incoming hstart
  unfold receptionEnded
  dsimp only [Turn.edit] at hfinish hstatus ⊢
  generalize finishListening w r.incoming _ = t at hfinish hstatus ⊢
  split
  · rename_i hs
    apply resume_walks hfinish
    exact .inl (hstatus.trans hs)
  · rename_i hs
    split
    · -- an acknowledgement is due, which is the first duty of all
      rename_i hdue
      simp only [Bool.and_eq_true] at hdue
      unfold resume
      rw [if_pos hdue.2]
      refine ⟨?_, fun hc => by cases hc⟩
      apply Walks.ask _ rfl
      have hpaused : Walks r.status (t.edit fun r => { r with backoffPaused := true }) := hfinish.edit rfl
      apply hpaused.enter
      rw [radio_edit, hstatus, hs]
      decide
    · exact ⟨(hfinish.edit rfl).ask rfl, fun hc => by cases hc⟩
  · exact ⟨hstart, fun hc => by cases hc⟩

/-- The steps that may follow the long pause. -/
lemma difsElapsed_walks (h : r.Sound d) (hs : r.status = .waitingForDifs) :
    Move.Walks r.status (difsElapsed w { radio := r }) := by
  unfold difsElapsed
  split
  · refine ⟨walks_start r, fun _ => ?_⟩
    show _ ∈ r.status.successors
    rw [hs]
    decide
  · apply transmitHead_walks (walks_start r) (h.of_waitingForDifs hs).2.2.2.1
    show _ ∈ r.status.successors
    rw [hs]
    decide

/-- A countdown is followed by sending. -/
lemma backoffElapsed_walks (h : r.Sound d) (hs : r.status = .waitingForBackoff) :
    Move.Walks r.status (transmitHead w { radio := r }) := by
  apply transmitHead_walks (walks_start r) (h.of_waitingForBackoff hs).2.2.2
  show _ ∈ r.status.successors
  rw [hs]
  decide

/-- A transmission is followed by waiting for the acknowledgement. -/
lemma transmissionEnded_walks (hs : r.status = .sendingMessage) :
    Move.Walks r.status (transmissionEnded w { radio := r }) := by
  refine ⟨?_, fun hc => by cases hc⟩
  apply Walks.ask _ rfl
  apply Walks.edit _ rfl
  apply (walks_start r).enter
  show _ ∨ _ ∈ r.status.successors
  rw [hs]
  decide

/-- The steps that may follow a missed acknowledgement. -/
lemma ackTimedOut_walks (r : Radio) : Move.Walks r.status (ackTimedOut w { radio := r }) := by
  unfold ackTimedOut
  dsimp only
  split
  · rename_i hs
    have hs : r.status = .waitingForAck := hs
    refine ⟨((walks_start r).edit rfl).ask rfl, fun _ => ?_⟩
    show _ ∈ r.status.successors
    rw [hs]
    decide
  · exact ⟨(((walks_start r).edit rfl).ask rfl).edit rfl, fun hc => by cases hc⟩

/-- The short pause is followed by the acknowledgement. -/
lemma sifsElapsed_walks (h : r.Sound d) (hs : r.status = .waitingForSifs) :
    Move.Walks r.status (sifsElapsed w { radio := r }) := by
  have ho := h.orderly
  simp only [Orderly, hs] at ho
  obtain ⟨ack, hacks⟩ := List.length_eq_one_iff.1 ho.2.1
  simp only [sifsElapsed, hacks]
  refine ⟨?_, fun hc => by cases hc⟩
  apply Walks.ask _ rfl
  apply Walks.ask _ rfl
  apply Walks.enter ((walks_start r).edit rfl)
  show r.status = _ ∨ _ ∈ r.status.successors
  rw [hs]
  decide

/-- The steps that may follow an acknowledgement. -/
lemma ackTransmissionEnded_walks (h : r.Sound d) (hs : r.status = .sendingAck) :
    Move.Walks r.status (resume w { radio := r }) := by
  have ho := h.orderly
  simp only [Orderly, hs] at ho
  exact resume_walks (walks_start r) (.inr ⟨hs, ho.2.1⟩)

/-- Whatever timer of a sound radio runs out, its reports walk along the edges. -/
theorem expire_walks {k : Timer} (h : r.Sound d) (hk : (d k).isSome) :
    Move.Walks r.status (expire w { radio := r } k) := by
  have hexpects := h.expects hk
  cases k with
  | difs => exact difsElapsed_walks h hexpects
  | backoff => exact backoffElapsed_walks h hexpects.1
  | transmission => exact transmissionEnded_walks hexpects
  | ackTimeout => exact ackTimedOut_walks r
  | reception => exact receptionEnded_walks r
  | sifs => exact sifsElapsed_walks h hexpects
  | ackTransmission => exact ackTransmissionEnded_walks h hexpects

end Radio

end CarrierSense
