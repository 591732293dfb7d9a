import CarrierSense.Proofs.Radio.Listening

/-!
# Bookings of a radio

What a ledger has to know of a radio: the frames and acknowledgements that it holds, whether a frame of it is
outstanding, how many frames it has lost (`Radio.stock`), and those of its effects that count for any of this
(`Turn.booked`). A timer that runs out makes one entry at most (`Entry`): a frame goes on the air, times out,
or is acknowledged, and a frame is taken, or answered.
-/

namespace CarrierSense

/-- Whether an effect is entered into the books. Frames that are only deferred or missed are not. -/
@[simp] def Effect.isBooked : Effect → Bool
  | .count .deferrals | .count .missed => false
  | .count _ | .deliver _ | .relay _ => true
  | _ => false

namespace Turn

/-- The effects of a turn that are entered into the books. -/
def booked (t : Turn) : List Effect := t.effects.filter Effect.isBooked

/-- A turn that has done nothing so far has nothing to book. -/
@[simp] lemma booked_start (r : Radio) : (Turn.mk r []).booked = [] := rfl

/-- An effect is booked if it is one of those that are. -/
@[simp] lemma booked_ask (t : Turn) (e : Effect) :
    (t.ask e).booked = t.booked ++ if e.isBooked then [e] else [] := by
  simp [booked, ask, List.filter_append, List.filter_cons]

/-- To edit the radio books nothing. -/
@[simp] lemma booked_edit (t : Turn) (f : Radio → Radio) : (t.edit f).booked = t.booked := rfl

/-- To enter a status books nothing. -/
@[simp] lemma booked_enter (t : Turn) (s : Status) : (t.enter s).booked = t.booked := by
  unfold enter
  split <;> simp

end Turn

namespace Status

/-- Whether a data frame is on the air. -/
def isSending : Status → Bool
  | sendingMessage => true
  | _ => false

/-- A radio is sending in one status only. -/
@[simp] lemma isSending_eq (s : Status) : s.isSending = decide (s = sendingMessage) := by cases s <;> rfl

end Status

/-- What the books know of a radio. -/
structure Stock where
  /-- Frames to send. -/
  queued : Nat
  /-- Acknowledgements to send. -/
  owed : Nat
  /-- Frames that have been sent, and were neither acknowledged nor given up. -/
  outstanding : Nat
  /-- Frames lost because they overlapped. -/
  corrupted : Nat
  deriving DecidableEq

namespace Radio

/-- A frame is outstanding while it is on the air, and while its acknowledgement is awaited. -/
def stock (r : Radio) : Stock where
  queued := r.outgoing.length
  owed := r.acks.length
  outstanding := (r.status.isSending || r.waitingForAck).toNat
  corrupted := r.corrupted

/-- What is entered when the timer `k` of a radio runs out, and its turn ends with `t`. -/
inductive Entry (w : Setting) (r : Radio) (k : Timer) (t : Turn) : Prop where
  /-- The head of the queue goes on the air. -/
  | launch (found : r.stock.outstanding = 0) (booked : t.booked = [.count .framesSent])
      (stock : t.radio.stock = { r.stock with outstanding := 1 })
  /-- No acknowledgement has come. -/
  | timeout (found : r.stock.outstanding = 1) (booked : t.booked = [.count .ackTimeouts])
      (stock : t.radio.stock = { r.stock with outstanding := 0 })
  /-- The acknowledgement that was awaited has come, and the frame leaves the queue. -/
  | settle {x : Incoming} (timer : k = .reception) (heard : r.incoming = some x)
      (receiver : x.frame.receiver = some w.self) (ack : x.frame.isAck = true)
      (found : r.stock.outstanding = 1) (booked : t.booked = [])
      (stock : r.stock = { t.radio.stock with queued := t.radio.stock.queued + 1, outstanding := 1 })
      (settled : t.radio.stock.outstanding = 0)
  /-- A data frame has been taken, and is to be acknowledged. -/
  | accept {x : Incoming} (timer : k = .reception) (heard : r.incoming = some x)
      (receiver : x.frame.receiver = some w.self) (data : x.frame.isAck = false)
      (booked : t.booked = [.deliver x.frame] ∨ t.booked = [.relay x.frame])
      (stock : t.radio.stock = { r.stock with owed := r.stock.owed + 1 })
  /-- An acknowledgement goes on the air. -/
  | answer (booked : t.booked = [.count .acksSent])
      (stock : r.stock = { t.radio.stock with owed := t.radio.stock.owed + 1 })
  | quiet (booked : t.booked = []) (stock : t.radio.stock = r.stock)

variable {w : Setting} {t t' : Turn} {d : Alarms} {r : Radio} {k : Timer}

/-- The handles of its timers are not in the stock of a radio. -/
lemma stock_withTimers (r : Radio) (timers : Timers) : { r with timers }.stock = r.stock := rfl

/-- A countdown books nothing; what was sent is outstanding only while its acknowledgement is awaited. -/
lemma beginCountdown_stock (w : Setting) (n : Nat) (t : Turn) :
    (beginCountdown w n t).booked = t.booked ∧ (beginCountdown w n t).radio.stock =
      { t.radio.stock with outstanding := t.radio.waitingForAck.toNat } := by
  unfold beginCountdown
  dsimp only
  split <;> simp [stock]

/-- A countdown leaves the stock alone unless a frame is on the air. -/
lemma beginCountdown_same (n : Nat) (hs : t.radio.status ≠ .sendingMessage) :
    (beginCountdown w n t).booked = t.booked ∧ (beginCountdown w n t).radio.stock = t.radio.stock := by
  obtain ⟨hb, hst⟩ := beginCountdown_stock w n t
  exact ⟨hb, by rw [hst]; simp [stock, hs]⟩

/-- To try to send books nothing. -/
lemma trySend_same (hs : t.radio.status ≠ .sendingMessage) :
    (trySend w t).booked = t.booked ∧ (trySend w t).radio.stock = t.radio.stock := by
  unfold trySend
  split <;> simp [stock, hs]

/-- To resume a countdown books nothing. -/
lemma resumeCountdown_same :
    (resumeCountdown w t).booked = t.booked ∧ (resumeCountdown w t).radio.stock = t.radio.stock := by
  simp [resumeCountdown, stock]

/-- Turning to the next duty leaves the stock alone unless a frame is on the air. -/
lemma resume_same (hs : t.radio.status ≠ .sendingMessage) (he : Ends w (resume w t) t') :
    t'.booked = t.booked ∧ t'.radio.stock = t.radio.stock := by
  revert he
  unfold resume
  split
  · intro he
    rw [he.of_rest (by simp)]
    simp [stock, hs]
  split
  · intro he
    rw [he.of_rest (by simp)]
    simp [stock, hs]
  split
  · intro he
    rw [he.of_rest (by simp)]
    obtain ⟨hb, hst⟩ := resumeCountdown_same (w := w)
      (t := (t.edit fun r => { r with backoffPaused := false }).enter .waitingForBackoff)
    exact ⟨by rw [hb]; simp, by rw [hst]; simp [stock, hs]⟩
  split
  · intro he
    obtain ⟨n, -, rfl⟩ := he.of_contend
    exact beginCountdown_same n hs
  · intro he
    rw [he.of_rest (by simp)]
    exact trySend_same hs

/-- What is entered when a radio hears a frame begin: a frame that overlaps the one it listens to is lost. -/
lemma listen_stock (w : Setting) (f : Frame) (t : Turn) :
    ((listen w f t).booked = t.booked ∧ (listen w f t).radio.stock = t.radio.stock) ∨
      ((listen w f t).booked = t.booked ++ [.count .collisions] ∧ (listen w f t).radio.stock =
        { t.radio.stock with corrupted := t.radio.stock.corrupted + 1 }) := by
  unfold listen track
  dsimp only
  split
  · left
    simp [stock]
  · right
    split <;> simp [stock]

/-- A frame that begins to be heard books nothing, or a collision. -/
lemma receive_stock (w : Setting) (f : Frame) (r : Radio) :
    ((receive w f { radio := r }).booked = [] ∧ (receive w f { radio := r }).radio.stock = r.stock) ∨
      ((receive w f { radio := r }).booked = [.count .collisions] ∧
        (receive w f { radio := r }).radio.stock =
          { r.stock with corrupted := r.stock.corrupted + 1 }) := by
  -- what goes before the frame is listened to is not entered
  have hlisten : ∀ t : Turn, t.booked = [] → t.radio.stock = r.stock →
      ((listen w f t).booked = [] ∧ (listen w f t).radio.stock = r.stock) ∨
        ((listen w f t).booked = [.count .collisions] ∧ (listen w f t).radio.stock =
          { r.stock with corrupted := r.stock.corrupted + 1 }) := by
    intro t hb hst
    have h := listen_stock w f t
    rwa [hb, hst] at h
  rw [receive_eq]
  cases hs : r.status with
  | sendingMessage | sendingAck | waitingForSifs =>
    left
    simp
  | idle | waitingForAck => exact hlisten _ (by simp) (by simp [stock, hs])
  | receivingMessage => exact hlisten _ rfl rfl
  | waitingForDifs => exact hlisten _ (by simp) (by simp [stock])
  | waitingForBackoff =>
    refine hlisten _ ?_ ?_ <;> unfold pauseCountdown <;> split <;> simp [stock]

/-- A radio that puts nothing off has nothing outstanding. -/
lemma Unburdened.outstanding (hu : r.Unburdened) (hs : r.status ≠ .sendingMessage) :
    r.stock.outstanding = 0 := by
  simp [stock, hs, hu.waitingForAck]

/-- What is booked when the head of the queue is sent. -/
lemma transmitHead_entry (k : Timer) (hf : r.outgoing ≠ []) (hfree : r.stock.outstanding = 0)
    (he : Ends w (transmitHead w { radio := r }) t') : r.Entry w k t' := by
  obtain ⟨f, rest, hq⟩ := List.exists_cons_of_ne_nil hf
  revert he
  simp only [transmitHead, hq]
  intro he
  rw [he.of_rest (by simp)]
  exact .launch hfree (by simp) (by simp [stock, hq])

/-- What is booked once the medium has been idle for long enough. -/
lemma difsElapsed_entry (h : r.Sound d) (hk : (d .difs).isSome)
    (he : Ends w (difsElapsed w { radio := r }) t') : r.Entry w .difs t' := by
  have hs : r.status = .waitingForDifs := h.expects hk
  obtain ⟨-, -, hu, hf, -⟩ := h.of_waitingForDifs hs
  revert he
  unfold difsElapsed
  split
  · intro he
    obtain ⟨n, -, rfl⟩ := he.of_contend
    obtain ⟨hb, hst⟩ := beginCountdown_same (w := w) (t := { radio := r }) n (by simp [hs])
    exact .quiet hb hst
  · exact transmitHead_entry _ hf (hu.outstanding (by simp [hs]))

/-- What is booked at the end of a countdown. -/
lemma backoffElapsed_entry (h : r.Sound d) (hk : (d .backoff).isSome)
    (he : Ends w (transmitHead w { radio := r }) t') : r.Entry w .backoff t' := by
  obtain ⟨hs, -⟩ := h.expects hk
  obtain ⟨-, -, hu, hf⟩ := h.of_waitingForBackoff hs
  exact transmitHead_entry _ hf (hu.outstanding (by simp [hs])) he

/-- What is booked at the end of a transmission. -/
lemma transmissionEnded_entry (h : r.Sound d) (hk : (d .transmission).isSome)
    (he : Ends w (transmissionEnded w { radio := r }) t') : r.Entry w .transmission t' := by
  have hs : r.status = .sendingMessage := h.expects hk
  rw [he.eq_of_rest (by simp [transmissionEnded])]
  refine .quiet ?_ ?_ <;> simp [transmissionEnded, stock, hs]

/-- What is booked when an acknowledgement is missed. -/
lemma ackTimedOut_entry (h : r.Sound d) (hk : (d .ackTimeout).isSome)
    (he : Ends w (ackTimedOut w { radio := r }) t') : r.Entry w .ackTimeout t' := by
  have hw : r.waitingForAck := h.expects hk
  obtain ⟨-, hst⟩ := h.of_waitingForAck hw
  have hs : r.status ≠ .sendingMessage := by rcases hst with hst | hst | hst | hst <;> simp [hst]
  have hone : r.stock.outstanding = 1 := by simp [stock, hw]
  revert he
  simp only [ackTimedOut]
  split
  · intro he
    obtain ⟨n, -, rfl⟩ := he.of_contend
    obtain ⟨hb, hst⟩ := beginCountdown_same (w := w) (t := (({ radio := r } : Turn).edit fun r =>
      { r with waitingForAck := false, window := widened w.timing r.window }).ask (.count .ackTimeouts)) n hs
    refine .timeout hone ?_ ?_
    · rw [hb]
      simp
    · rw [hst]
      simp [stock, hs]
  · intro he
    rw [he.of_rest (by simp)]
    refine .timeout hone ?_ ?_ <;> simp [stock, hs]

/-- What is booked when an acknowledgement is sent. -/
lemma sifsElapsed_entry (h : r.Sound d) (hk : (d .sifs).isSome)
    (he : Ends w (sifsElapsed w { radio := r }) t') : r.Entry w .sifs t' := by
  have hs : r.status = .waitingForSifs := h.expects hk
  have ho := h.orderly
  simp only [Orderly, hs] at ho
  obtain ⟨a, hacks⟩ := List.length_eq_one_iff.1 ho.2.1
  revert he
  simp only [sifsElapsed, hacks]
  intro he
  rw [he.of_rest (by simp)]
  refine .answer ?_ ?_ <;> simp [stock, hs, hacks]

/-- What the radio does with the frame that has ended is entered, whatever duty it turns to afterwards. -/
lemma finishListening_entry {t u : Turn} {x : Incoming} (hx : r.incoming = some x)
    (hs : t.radio.status ≠ .sendingMessage) (hb : t.booked = []) (hst : t.radio.stock = r.stock)
    (hu : u.booked = (finishListening w (some x) t).booked ∧
      u.radio.stock = (finishListening w (some x) t).radio.stock) : r.Entry w .reception u := by
  obtain ⟨hub, hust⟩ := hu
  rcases finishListening_cases w x t with ⟨c, he⟩ | ⟨-, hrecv, hack, hw, hid, he⟩ |
    ⟨-, hrecv, hdata, he⟩ <;>
    rw [he] at hub hust
  · exact .quiet (hub.trans hb) (hust.trans hst)
  · have hone : t.radio.stock.outstanding = 1 := by simp [stock, hw]
    cases hq : t.radio.outgoing with
    | nil => simp [headId, hq] at hid
    | cons f rest =>
      refine .settle rfl hx hrecv hack (hst ▸ hone) ?_ ?_ ?_
      · rw [hub]
        simp [hb]
      · rw [hust, ← hst]
        simp [stock, hw, hq]
      · rw [hust]
        simp [stock, hs]
  · refine .accept rfl hx hrecv hdata ?_ ?_
    · rw [hub]
      split <;> simp [hb]
    · rw [hust, ← hst]
      simp [stock]

/-- What is booked at the end of a reception. -/
lemma receptionEnded_entry (h : r.Sound d) (hk : (d .reception).isSome)
    (he : Ends w (receptionEnded w { radio := r }) t') : r.Entry w .reception t' := by
  obtain ⟨x, hx⟩ := Option.ne_none_iff_exists'.1 (h.expects hk)
  revert he
  unfold receptionEnded
  dsimp only
  rw [hx]
  -- the radio as it is when it has stopped to listen
  generalize hu : Turn.edit { radio := r } (fun r => { r with incoming := none }) = u
  have hst : u.radio.stock = r.stock := by rw [← hu]; rfl
  have hb : u.booked = [] := by rw [← hu]; rfl
  split
  · rename_i hs
    intro he
    have hne : u.radio.status ≠ .sendingMessage := by simp [hs]
    exact finishListening_entry hx hne hb hst
      (resume_same (by rwa [(finishListening_clear _).2.2.2]) he)
  · rename_i hs
    have hne : u.radio.status ≠ .sendingMessage := by simp [hs]
    split
    · intro he
      obtain ⟨hrb, hrs⟩ := resume_same (by simpa [finishListening_clear] using hne) he
      exact finishListening_entry hx hne hb hst ⟨by simpa using hrb, by rw [hrs]; simp [stock]⟩
    · intro he
      rw [he.of_rest (by simp)]
      exact finishListening_entry hx hne hb hst resumeCountdown_same
  · intro he
    rw [he.of_rest (by simp)]
    exact .quiet hb hst

/-- Whatever timer of a sound radio runs out, there is one entry at most. -/
theorem expire_entry (h : r.Sound d) (hk : (d k).isSome)
    (he : Ends w (expire w { radio := r } k) t') : r.Entry w k t' := by
  cases k with
  | difs => exact difsElapsed_entry h hk he
  | backoff => exact backoffElapsed_entry h hk he
  | transmission => exact transmissionEnded_entry h hk he
  | ackTimeout => exact ackTimedOut_entry h hk he
  | reception => exact receptionEnded_entry h hk he
  | sifs => exact sifsElapsed_entry h hk he
  | ackTransmission =>
    have hs : r.status = .sendingAck := h.expects hk
    obtain ⟨hb, hst⟩ := resume_same (by simp [hs]) he
    exact .quiet hb hst

end Radio

end CarrierSense
