import CarrierSense.Proofs.Radio.Alarms

/-!
# Overhearing

A frame that begins asks little of a radio that hears it. The radio may go over to receiving, count the frame as
missed, as spoiled or as a reason to defer, set the timer for the end of what it hears, and stop a countdown. What
it has to send, and all that it is waiting for, stays as it was (`Radio.Hushed`).
-/

namespace CarrierSense

/-- Whether a radio may ask for the effect since it hears a frame begin that ends at the given time. -/
def Effect.isHearing (endsAt : Nat) : Effect → Bool
  | .report status => status = .receivingMessage
  | .count counter => counter = .missed ∨ counter = .collisions ∨ counter = .deferrals
  | .arm timer time => timer = .reception ∧ time = endsAt
  | .disarm timer => timer = .backoff
  | .deliver _ | .relay _ => false

namespace Radio

variable {w : Setting} {f : Frame} {r r' r'' : Radio} {t : Turn} {e : Effect} {endsAt : Nat}

/-- The radio `r` has become `r'`. It has begun to receive at most: it sends nothing that it did not send before,
has taken no frame, and its queues and duties are the same. -/
structure Hushed (r r' : Radio) : Prop where
  status : r'.status = r.status ∨ r'.status = .receivingMessage
  outgoing : r'.outgoing = r.outgoing
  acks : r'.acks = r.acks
  window : r'.window = r.window
  waitingForAck : r'.waitingForAck = r.waitingForAck
  backoffPaused : r'.backoffPaused = r.backoffPaused
  retransmitPending : r'.retransmitPending = r.retransmitPending

/-- A radio that has not changed has done nothing of its own. -/
lemma Hushed.refl (r : Radio) : r.Hushed r := ⟨.inl rfl, rfl, rfl, rfl, rfl, rfl, rfl⟩

/-- A radio that does nothing of its own twice has done nothing of its own. -/
lemma Hushed.trans (h : r.Hushed r') (h' : r'.Hushed r'') : r.Hushed r'' where
  status := by
    rcases h'.status with hs | hs
    · rw [hs]
      exact h.status
    · exact .inr hs
  outgoing := h'.outgoing.trans h.outgoing
  acks := h'.acks.trans h.acks
  window := h'.window.trans h.window
  waitingForAck := h'.waitingForAck.trans h.waitingForAck
  backoffPaused := h'.backoffPaused.trans h.backoffPaused
  retransmitPending := h'.retransmitPending.trans h.retransmitPending

/-- The handles of its timers do not matter to what a radio has done. -/
lemma Hushed.withTimers (h : r.Hushed r') (timers : Timers) : r.Hushed { r' with timers } :=
  ⟨h.status, h.outgoing, h.acks, h.window, h.waitingForAck, h.backoffPaused, h.retransmitPending⟩

/-- The radio `r` does no more in its turn than to hear a frame begin that ends at the given time. -/
structure Overhears (r : Radio) (endsAt : Nat) (t : Turn) : Prop extends r.Hushed t.radio where
  effects : ∀ e ∈ t.effects, e.isHearing endsAt = true

namespace Overhears

/-- A turn that has done nothing so far has only heard. -/
lemma start (r : Radio) (endsAt : Nat) : r.Overhears endsAt { radio := r } := ⟨.refl r, fun e he => by cases he⟩

/-- One more effect that belongs to hearing is heard. -/
lemma ask (h : r.Overhears endsAt t) (he : e.isHearing endsAt = true) : r.Overhears endsAt (t.ask e) := by
  refine ⟨h.toHushed, fun e' hmem => ?_⟩
  rcases List.mem_append.1 hmem with hmem | hmem
  · exact h.effects e' hmem
  · rw [List.mem_singleton.1 hmem]
    exact he

/-- An edit that does nothing of its own is heard. -/
lemma edit {g : Radio → Radio} (h : r.Overhears endsAt t) (hg : t.radio.Hushed (g t.radio)) :
    r.Overhears endsAt (t.edit g) :=
  ⟨h.toHushed.trans hg, h.effects⟩

/-- To enter the status of receiving is heard. -/
lemma enter (h : r.Overhears endsAt t) : r.Overhears endsAt (t.enter .receivingMessage) := by
  rw [Turn.enter]
  split
  · exact h
  · apply ask _ rfl
    exact h.edit ⟨.inr rfl, rfl, rfl, rfl, rfl, rfl, rfl⟩

/-- To track a frame is heard. -/
lemma track (h : r.Overhears endsAt t) (f : Frame) : r.Overhears endsAt (Radio.track f endsAt t) := by
  refine ask (h.edit ⟨.inl rfl, rfl, rfl, rfl, rfl, rfl, rfl⟩) ?_
  exact decide_eq_true ⟨rfl, rfl⟩

/-- To listen to a frame is heard. -/
lemma listen (h : r.Overhears (w.now + f.airtime) t) :
    r.Overhears (w.now + f.airtime) (Radio.listen w f t) := by
  rw [Radio.listen]
  split
  · exact h.track _
  · have hspoiled := (h.edit (g := fun r => { r with collision := true, corrupted := r.corrupted + 1 })
      ⟨.inl rfl, rfl, rfl, rfl, rfl, rfl, rfl⟩).ask (e := .count .collisions) rfl
    dsimp only
    split
    · exact hspoiled.track _
    · exact hspoiled

/-- A countdown that is paused is heard. -/
lemma pauseCountdown (h : r.Overhears endsAt t) (w : Setting) :
    r.Overhears endsAt (Radio.pauseCountdown w t) := by
  rw [Radio.pauseCountdown]
  split
  · exact (h.ask (e := .disarm .backoff) rfl).edit ⟨.inl rfl, rfl, rfl, rfl, rfl, rfl, rfl⟩
  · exact h

end Overhears

/-- Whatever a radio is about, it only hears a frame that begins. -/
lemma receive_overhears (w : Setting) (f : Frame) (r : Radio) :
    r.Overhears (w.now + f.airtime) (receive w f { radio := r }) := by
  have hstart := Overhears.start r (w.now + f.airtime)
  rw [receive_eq]
  cases hs : r.status with
  | sendingMessage | sendingAck | waitingForSifs => exact hstart.ask rfl
  | idle | waitingForAck => exact hstart.enter.listen
  | receivingMessage => exact hstart.listen
  | waitingForDifs =>
    have hdeferred := hstart.ask (e := .count .deferrals) rfl
    exact (hdeferred.edit ⟨.inl rfl, rfl, rfl, rfl, rfl, rfl, rfl⟩).listen
  | waitingForBackoff => exact (hstart.pauseCountdown w).listen

end Radio

end CarrierSense
