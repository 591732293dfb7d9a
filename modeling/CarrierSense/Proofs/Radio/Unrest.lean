import CarrierSense.Proofs.Network.Firing
import CarrierSense.Proofs.Radio.Listening

/-!
# Unrest of a radio

How much a radio can still do before its tick is over. Its `outlook` counts what others may notice: the frames
that it can put on the air, and those that it can take. Its `bustle` counts the timers that can run out one after
the other meanwhile. A timer that runs out takes from the outlook, or leaves that alone and takes from the bustle
(`Wanes`); to hear a frame adds nothing to the outlook. What makes this so is that some things last beyond the
tick: an acknowledgement takes at least one tick, and with it the time for which one is awaited.
-/

namespace CarrierSense

/-- How many timers can run out one after the other, from this one on, until the radio puts a frame on the air. The
end of a frame may be followed by an idle time, and this by a countdown. -/
def Timer.rank : Timer → Nat
  | backoff | sifs => 1
  | difs | ackTimeout => 2
  | transmission | reception | ackTransmission => 3

namespace Radio

/-- The timers that are set, by their ranks. -/
def bustle (r : Radio) : Nat := (r.dictated.map Timer.rank).sum

/-- Whether a radio cannot launch a frame before the tick is over: it is sending one, or awaits an acknowledgement
beyond the tick. -/
def isTied (r : Radio) (d : Alarms) (now : Nat) : Bool :=
  r.status = .sendingMessage || (d .ackTimeout).any (now < ·)

/-- How much a radio can still do about what it hears before the tick is over: take a frame, and answer it. While
an acknowledgement is on the air that ends after the tick, it can do neither. -/
def readiness (r : Radio) (d : Alarms) (now : Nat) : Nat :=
  match r.status with
  | .waitingForSifs => 1
  | .sendingAck => if (d .ackTransmission).any (now < ·) then 0 else 2
  | _ => 2

/-- What a radio can still set off before the tick is over. It launches one frame more for each one that is
acknowledged, and a frame that it takes on for another node will be two events more. -/
def outlook (r : Radio) (d : Alarms) (now : Nat) : Nat :=
  r.outgoing.length + (!r.isTied d now).toNat + 3 * r.readiness d now

variable {w : Setting} {t t' : Turn} {d d' : Alarms} {r r' : Radio} {k : Timer} {now : Nat} {s : Sequel}

/-- The timers of a radio have at most five ranks together. -/
lemma bustle_le (r : Radio) : r.bustle ≤ 5 := by
  unfold bustle dictated listening awaiting
  cases r.status <;> cases r.waitingForAck <;> cases r.isReceiving <;> decide

/-- The outlook of a radio that may take a frame, and is not sending one. -/
lemma outlook_of_ready (hs : r.status ≠ .sendingMessage) (hr : r.readiness d now = 2) :
    r.outlook d now = r.outgoing.length + (!(d .ackTimeout).any (now < ·)).toNat + 6 := by
  simp [outlook, isTied, hs, hr]

/-- A radio that can hear a frame can take it and answer it, and is not sending. -/
lemma ready_of_hearing (hd : r.isDeaf = false) (d : Alarms) (now : Nat) :
    r.status ≠ .sendingMessage ∧ r.readiness d now = 2 := by
  unfold isDeaf at hd
  unfold readiness
  cases hs : r.status <;> simp_all

/-- When the timer `k` of the radio `r` runs out, and its turn ends with `t`, it can do less than before. -/
inductive Wanes (w : Setting) (r : Radio) (d : Alarms) (k : Timer) (s : Sequel) (t : Turn) : Prop where
  /-- A frame goes on the air, or has been taken. -/
  | spends (h : t.radio.outlook (t.alarms (d.set k none)) w.now + 2 * t.handedOn.length < r.outlook d w.now)
  /-- Nobody else notices anything. -/
  | calms (silent : ∀ f, s ≠ .transmit f) (handedOn : t.handedOn = [])
      (outlook : t.radio.outlook (t.alarms (d.set k none)) w.now ≤ r.outlook d w.now)
      (bustle : t.radio.bustle < r.bustle)

/-- A radio that is ready to hear before and after, with the same queue, and awaits an acknowledgement as before. -/
lemma Wanes.of_ready (hs : r.status ≠ .sendingMessage) (hr : r.readiness d w.now = 2)
    (hd : t.radio.isDeaf = false) (silent : ∀ f, s ≠ .transmit f) (handedOn : t.handedOn = [])
    (outgoing : t.radio.outgoing = r.outgoing)
    (alarm : (t.alarms (d.set k none) .ackTimeout).any (w.now < ·) = (d .ackTimeout).any (w.now < ·))
    (bustle : t.radio.bustle < r.bustle) : Wanes w r d k s t := by
  obtain ⟨hs', hr'⟩ := ready_of_hearing hd (t.alarms (d.set k none)) w.now
  have hsame : t.radio.outlook (t.alarms (d.set k none)) w.now = r.outlook d w.now := by
    rw [outlook_of_ready hs hr, outlook_of_ready hs' hr', outgoing, alarm]
  exact .calms silent handedOn (Nat.le_of_eq hsame) bustle

/-- A radio that has entered its countdown waits for its end, or for the end of a reception before. -/
lemma bustle_of_waitingForBackoff (hs : r.status = .waitingForBackoff) :
    r.bustle = if r.isReceiving then 3 else 1 := by
  unfold bustle dictated
  simp only [hs]
  split <;> rfl

/-- A radio that begins a countdown can hear, and waits for its end or for the end of a reception before. -/
lemma beginCountdown_bustle (n : Nat) :
    (beginCountdown w n t).radio.isDeaf = false ∧
      (beginCountdown w n t).radio.bustle = if t.radio.isReceiving then 3 else 1 := by
  obtain ⟨-, -, hin, -, hs, -⟩ := beginCountdown_fields (w := w) (t := t) n
  have hin : (beginCountdown w n t).radio.isReceiving = t.radio.isReceiving := by simp only [isReceiving, hin]
  exact ⟨by simp [isDeaf, hs], by rw [bustle_of_waitingForBackoff hs, hin]⟩

/-- A radio that launches a frame is tied. -/
lemma transmitHead_wanes (hd : r.isDeaf = false) (hal : d .ackTimeout = none) (hf : r.outgoing ≠ [])
    (he : Ends w (transmitHead w { radio := r }) t') : Wanes w r d k (transmitHead w { radio := r }).2 t' := by
  obtain ⟨f, rest, hq⟩ := List.exists_cons_of_ne_nil hf
  obtain ⟨hs, hr⟩ := ready_of_hearing hd d w.now
  revert he
  simp only [transmitHead, hq]
  intro he
  rw [he.of_rest (by simp)]
  apply Wanes.spends
  rw [outlook_of_ready hs hr]
  simp [outlook, isTied, readiness, hal, hq, Effect.handsOn]

/-- The end of the long pause leaves less to set off. -/
lemma difsElapsed_wanes (h : r.Sound d) (hk : (d .difs).isSome)
    (he : Ends w (difsElapsed w { radio := r }) t') :
    Wanes w r d .difs (difsElapsed w { radio := r }).2 t' := by
  have hs : r.status = .waitingForDifs := h.expects hk
  obtain ⟨-, hnone, -, hf, -⟩ := h.of_waitingForDifs hs
  have hd : r.isDeaf = false := by simp [isDeaf, hs]
  have hal : d .ackTimeout = none := hnone _ (by simp) (by simp)
  revert he
  unfold difsElapsed
  split
  · intro he
    obtain ⟨n, -, rfl⟩ := he.of_contend
    obtain ⟨hq, -, -, -, -, hh, halarms⟩ := beginCountdown_fields (w := w) (t := { radio := r }) n
    obtain ⟨hd', hb⟩ := beginCountdown_bustle (w := w) (t := { radio := r }) n
    obtain ⟨hs', hr⟩ := ready_of_hearing hd d w.now
    refine .of_ready hs' hr hd' (by simp) hh hq ?_ ?_
    · rw [halarms _ _ (by simp)]
      simp
    · rw [hb]
      simp only [bustle, dictated, hs, listening]
      split <;> simp [Timer.rank]
  · exact transmitHead_wanes hd hal hf

/-- The end of a countdown leaves less to set off. -/
lemma backoffElapsed_wanes (h : r.Sound d) (hk : (d .backoff).isSome)
    (he : Ends w (transmitHead w { radio := r }) t') :
    Wanes w r d .backoff (transmitHead w { radio := r }).2 t' := by
  obtain ⟨hs, -⟩ := h.expects hk
  obtain ⟨-, hnone, -, hf⟩ := h.of_waitingForBackoff hs
  exact transmitHead_wanes (by simp [isDeaf, hs]) (hnone _ (by simp) (by simp)) hf he

/-- The acknowledgement of a frame that has been sent is awaited beyond the tick. -/
lemma transmissionEnded_wanes (hack : 1 ≤ w.timing.ackDuration) (h : r.Sound d) (hk : (d .transmission).isSome)
    (he : Ends w (transmissionEnded w { radio := r }) t') :
    Wanes w r d .transmission (transmissionEnded w { radio := r }).2 t' := by
  have hs : r.status = .sendingMessage := h.expects hk
  have hlater : w.now < w.now + w.timing.ackTimeout := by
    unfold Timing.ackTimeout
    omega
  revert he
  simp only [transmissionEnded]
  intro he
  rw [he.of_rest (by simp)]
  refine .calms (by simp) (by simp [Effect.handsOn]) ?_ ?_
  · simp [outlook, isTied, readiness, hs, hlater]
  · simp [bustle, dictated, hs, Timer.rank]

/-- What the radio awaits no longer does not tie it, nor did it before: the time was up. -/
lemma ackTimedOut_wanes (h : r.Sound d) (hk : d .ackTimeout = some w.now)
    (he : Ends w (ackTimedOut w { radio := r }) t') :
    Wanes w r d .ackTimeout (ackTimedOut w { radio := r }).2 t' := by
  have hw : r.waitingForAck := h.expects (k := .ackTimeout) (by simp [hk])
  obtain ⟨-, hst⟩ := h.of_waitingForAck hw
  revert he
  simp only [ackTimedOut]
  split
  · rename_i hs
    have hs : r.status = .waitingForAck := hs
    have hin : r.incoming = none := by
      have ho := h.orderly
      simp only [Orderly, hs] at ho
      exact ho.2.2.2
    intro he
    obtain ⟨n, -, rfl⟩ := he.of_contend
    generalize hu : (({ radio := r } : Turn).edit _).ask (.count .ackTimeouts) = u
    have hkeep : u.radio.outgoing = r.outgoing ∧ u.radio.incoming = none ∧ u.handedOn = [] ∧
        ∀ d, u.alarms d = d := by
      rw [← hu]
      simp [hin, Effect.handsOn]
    obtain ⟨hout, hin', hhand, halarms⟩ := hkeep
    obtain ⟨hq, -, -, -, -, hh, hal⟩ := beginCountdown_fields (w := w) (t := u) n
    obtain ⟨hd', hb⟩ := beginCountdown_bustle (w := w) (t := u) n
    refine .of_ready (by simp [hs]) (by simp [readiness, hs]) hd' (by simp) (hh.trans hhand) (hq.trans hout) ?_ ?_
    · rw [hal _ _ (by simp), halarms]
      simp [hk]
    · rw [hb]
      simp [isReceiving, hin', bustle, dictated, hs, Timer.rank]
  · rename_i hs
    have hs : r.status ≠ .waitingForAck := hs
    intro he
    rw [he.of_rest (by simp)]
    refine .calms (by simp) (by simp [Effect.handsOn]) ?_ ?_
    · rcases hst with hst | hst | hst | hst <;> simp [outlook, isTied, readiness, hst, hk]
    · rcases hst with hst | hst | hst | hst
      · exact absurd hst hs
      all_goals simp [bustle, dictated, awaiting, hst, hw, Timer.rank]

/-- A radio that has answered is deaf until after the tick. -/
lemma sifsElapsed_wanes (hacks : ∀ a ∈ r.acks, 1 ≤ a.airtime) (h : r.Sound d) (hk : (d .sifs).isSome)
    (he : Ends w (sifsElapsed w { radio := r }) t') :
    Wanes w r d .sifs (sifsElapsed w { radio := r }).2 t' := by
  have hs : r.status = .waitingForSifs := h.expects hk
  have ho := h.orderly
  simp only [Orderly, hs] at ho
  obtain ⟨a, ha⟩ := List.length_eq_one_iff.1 ho.2.1
  have hlong := hacks a (by simp [ha])
  revert he
  simp only [sifsElapsed, ha]
  intro he
  rw [he.of_rest (by simp)]
  apply Wanes.spends
  have hlater : w.now < w.now + a.airtime := by omega
  simp [outlook, isTied, readiness, hs, hlater, Effect.handsOn]

/-- A radio that has no acknowledgement to send turns to a duty with which it can hear. -/
lemma resume_hears (hin : t.radio.incoming = none) (ha : t.radio.acks = []) (he : Ends w (resume w t) t') :
    t'.radio.isDeaf = false ∧ t'.radio.bustle ≤ 2 := by
  revert he
  unfold resume
  split
  · rename_i hne
    simp [ha] at hne
  split
  · intro he
    rw [he.of_rest (by simp)]
    simp [isDeaf, bustle, dictated, Timer.rank]
  split
  · intro he
    rw [he.of_rest (by simp)]
    simp [resumeCountdown, isDeaf, bustle, dictated, isReceiving, hin, Timer.rank]
  split
  · intro he
    obtain ⟨n, -, rfl⟩ := he.of_contend
    obtain ⟨hd, hb⟩ := beginCountdown_bustle (w := w)
      (t := t.edit fun r => { r with retransmitPending := false }) n
    refine ⟨hd, ?_⟩
    rw [hb]
    simp [isReceiving, hin]
  · intro he
    rw [he.of_rest (by simp)]
    unfold trySend
    split <;> simp [isDeaf, bustle, dictated, listening, isReceiving, hin, Timer.rank]

/-- A radio that has no acknowledgement to send, and turns from something that others did not notice. -/
lemma resume_wanes (hs : r.status ≠ .sendingMessage) (hr : r.readiness d w.now = 2) (hb : 3 ≤ r.bustle)
    (hin : t.radio.incoming = none) (ha : t.radio.acks = [])
    (hp : t.radio.status = .waitingForBackoff → t.radio.backoffPaused) (hh : t.handedOn = [])
    (hq : t.radio.outgoing = r.outgoing) (hal : t.alarms (d.set k none) .ackTimeout = d .ackTimeout)
    (he : Ends w (resume w t) t') : Wanes w r d k (resume w t).2 t' := by
  have hres := resume_resumed (d := d.set k none) hin hp he
  obtain ⟨hd, hle⟩ := resume_hears hin ha he
  refine .of_ready hs hr hd hres.quiet (hres.handedOn.trans hh) (hres.outgoing.trans hq) ?_ (by omega)
  rw [hres.ackTimeout, hal]

/-- The end of an acknowledgement leaves less to set off. -/
lemma ackTransmissionEnded_wanes (h : r.Sound d) (hk : d .ackTransmission = some w.now)
    (he : Ends w (resume w { radio := r }) t') :
    Wanes w r d .ackTransmission (resume w { radio := r }).2 t' := by
  have hs : r.status = .sendingAck := h.expects (k := .ackTransmission) (by simp [hk])
  have ho := h.orderly
  simp only [Orderly, hs] at ho
  obtain ⟨-, hacks, hin⟩ := ho
  refine resume_wanes (by simp [hs]) ?_ ?_ hin hacks (by simp [hs]) rfl rfl (by simp) he
  · simp [readiness, hs, hk]
  · simp [bustle, dictated, hs, Timer.rank]

/-- A radio that has taken a data frame turns to the acknowledgement, and cannot take another one before. -/
lemma accepts_wanes {a : Frame} {e : Effect} (hd : r.isDeaf = false) (hin : t.radio.incoming = none)
    (ha : t.radio.acks = [a]) (hp : t.radio.status = .waitingForBackoff → t.radio.backoffPaused)
    (hh : t.handedOn = [e]) (hq : t.radio.outgoing = r.outgoing)
    (hal : t.alarms (d.set k none) .ackTimeout = d .ackTimeout) (he : Ends w (resume w t) t') :
    Wanes w r d k (resume w t).2 t' := by
  obtain ⟨hs, hr⟩ := ready_of_hearing hd d w.now
  have hres := resume_resumed (d := d.set k none) hin hp he
  have hsifs : t'.radio.status = .waitingForSifs := by
    revert he
    unfold resume
    simp only [ha, List.isEmpty_cons, Bool.not_false, if_true]
    intro he
    rw [he.of_rest (by simp)]
    simp
  apply Wanes.spends
  rw [outlook_of_ready hs hr, hres.handedOn, hh]
  simp [outlook, isTied, readiness, hsifs, hres.outgoing, hq, hres.ackTimeout, hal]

/-- The end of what was heard: a frame is taken, or the radio turns to its next duty. -/
lemma receivingEnded_wanes {x : Incoming} (h : r.Sound d) (hs : r.status = .receivingMessage)
    (he : Ends w (resume w (finishListening w (some x) { radio := { r with incoming := none } })) t') :
    Wanes w r d .reception
      (resume w (finishListening w (some x) { radio := { r with incoming := none } })).2 t' := by
  have hacks : r.acks = [] := (h.free_of_receiving hs).2
  have hd : r.isDeaf = false := by simp [isDeaf, hs]
  obtain ⟨hns, hr⟩ := ready_of_hearing hd d w.now
  have hb : 3 ≤ r.bustle := by simp [bustle, dictated, hs, Timer.rank]
  rcases finishListening_cases w x { radio := { r with incoming := none } } with
    ⟨c, hu⟩ | ⟨-, -, -, -, hid, hu⟩ | ⟨-, -, -, hu⟩
  · rw [hu] at he ⊢
    exact resume_wanes hns hr hb rfl hacks (by simp [hs]) rfl rfl (by simp) he
  · -- the radio may launch a frame again, but has one less
    rw [hu] at he ⊢
    have hres := resume_resumed (d := d.set .reception none) (by simp) (by simp [hs]) he
    obtain ⟨hd', hle⟩ := resume_hears (by simp) (by simp [hacks]) he
    obtain ⟨hns', hr'⟩ := ready_of_hearing hd' (t'.alarms (d.set .reception none)) w.now
    obtain ⟨f, rest, hq⟩ : ∃ f rest, r.outgoing = f :: rest := by
      refine List.exists_cons_of_ne_nil fun hq => ?_
      simp [headId, hq] at hid
    have hout : t'.radio.outgoing = rest := by
      rw [hres.outgoing]
      simp [hq]
    refine .calms hres.quiet (hres.handedOn.trans (by simp [Effect.handsOn])) ?_ (by omega)
    rw [outlook_of_ready hns hr, outlook_of_ready hns' hr', hout, hq, hres.ackTimeout]
    simp
  · rw [hu] at he ⊢
    refine accepts_wanes (a := x.frame.ackFrom w.self w.timing.ackDuration)
      (e := if x.frame.destination = w.home then .deliver x.frame else .relay x.frame)
      hd (by simp) (by simp [hacks]) (by simp [hs]) ?_ (by simp) ?_ he
    · by_cases hx : x.frame.destination = w.home <;> simp [hx, Effect.handsOn]
    · simp [after_handOn]

/-- The end of what was heard while the countdown was paused: it goes on, or a frame is taken. -/
lemma pausedEnded_wanes {x : Incoming} {u : Turn} {m : Move} (h : r.Sound d) (hx : r.incoming = some x)
    (hs : r.status = .waitingForBackoff)
    (hu : u = finishListening w (some x) { radio := { r with incoming := none } })
    (hm : m = if (!r.collision && !u.radio.acks.isEmpty) = true then
      resume w (u.edit fun r => { r with backoffPaused := true }) else (resumeCountdown w u, .none))
    (he : Ends w m t') : Wanes w r d .reception m.2 t' := by
  obtain ⟨-, -, hun, -⟩ := h.of_waitingForBackoff hs
  have hd : r.isDeaf = false := by simp [isDeaf, hs]
  obtain ⟨hns, hr⟩ := ready_of_hearing hd d w.now
  rcases finishListening_cases w x { radio := { r with incoming := none } } with
    ⟨c, hv⟩ | ⟨-, -, -, hw, -⟩ | ⟨hc, -, -, hv⟩
  · rw [hv] at hu
    have hacks : u.radio.acks = [] := by rw [hu]; exact hun.acks
    simp only [hacks, List.isEmpty_nil, Bool.not_true, Bool.and_false, Bool.false_eq_true, if_false] at hm
    rw [hm] at he ⊢
    rw [he.of_rest (by simp), hu]
    refine .of_ready hns hr ?_ (by simp) ?_ rfl ?_ ?_
    · simp [isDeaf, resumeCountdown, hs]
    · simp [resumeCountdown, Effect.handsOn]
    · simp [resumeCountdown]
    · simp [resumeCountdown, bustle, dictated, hs, hx, isReceiving, Timer.rank]
  · have hw : r.waitingForAck = true := hw
    rw [hun.waitingForAck] at hw
    cases hw
  · rw [hv] at hu
    have hc : r.collision = false := hc
    have hacks : u.radio.acks = [x.frame.ackFrom w.self w.timing.ackDuration] := by
      rw [hu]
      simp [hun.acks]
    simp only [hacks, hc, List.isEmpty_cons, Bool.not_false, Bool.and_self, if_true] at hm
    rw [hm] at he ⊢
    refine accepts_wanes (e := if x.frame.destination = w.home then .deliver x.frame else .relay x.frame)
      hd (by simp [hu]) hacks (by simp) ?_ (by simp [hu]) ?_ he
    · by_cases hx : x.frame.destination = w.home <;> simp [hu, hx, Effect.handsOn]
    · simp [hu, after_handOn]

/-- The end of a reception leaves less to set off. -/
lemma receptionEnded_wanes (h : r.Sound d) (hk : (d .reception).isSome)
    (he : Ends w (receptionEnded w { radio := r }) t') :
    Wanes w r d .reception (receptionEnded w { radio := r }).2 t' := by
  obtain ⟨x, hx⟩ := Option.ne_none_iff_exists'.1 (h.expects hk)
  have ho := h.orderly
  revert he
  unfold receptionEnded
  dsimp only [Turn.edit]
  rw [hx]
  split
  · rename_i hs
    exact receivingEnded_wanes h hs
  · rename_i hs
    refine pausedEnded_wanes h hx hs rfl ?_
    simp [Turn.edit]
  · rename_i hne₁ hne₂
    have hs : r.status = .waitingForDifs := by
      unfold Orderly at ho
      cases hs : r.status <;> simp_all
    have hd : r.isDeaf = false := by simp [isDeaf, hs]
    obtain ⟨hns, hr⟩ := ready_of_hearing hd d w.now
    intro he
    rw [he.of_rest (by simp)]
    refine .of_ready hns hr hd (by simp) rfl rfl (by simp) ?_
    simp [bustle, dictated, listening, isReceiving, hs, hx, Timer.rank]

/-- Whatever timer of a sound radio runs out, the radio can do less before the tick is over than it could. -/
theorem expire_wanes (hack : 1 ≤ w.timing.ackDuration) (hacks : ∀ a ∈ r.acks, 1 ≤ a.airtime) (h : r.Sound d)
    (hk : d k = some w.now) (he : Ends w (expire w { radio := r } k) t') :
    Wanes w r d k (expire w { radio := r } k).2 t' := by
  have hset : (d k).isSome := by simp [hk]
  cases k with
  | difs => exact difsElapsed_wanes h hset he
  | backoff => exact backoffElapsed_wanes h hset he
  | transmission => exact transmissionEnded_wanes hack h hset he
  | ackTimeout => exact ackTimedOut_wanes h hk he
  | reception => exact receptionEnded_wanes h hset he
  | sifs => exact sifsElapsed_wanes hacks h hset he
  | ackTransmission => exact ackTransmissionEnded_wanes h hk he

/-- A radio that begins to hear a frame goes on hearing. -/
lemma receive_hears (f : Frame) (hd : r.isDeaf = false) : (receive w f { radio := r }).radio.isDeaf = false := by
  have hlisten : ∀ t : Turn, t.radio.isDeaf = false → (listen w f t).radio.isDeaf = false := by
    intro t ht
    obtain ⟨⟨x, c, n, hr, -⟩, -⟩ := listen_fields (w := w) (t := t) f
    rw [hr]
    exact ht
  unfold isDeaf at hd
  rw [receive_eq]
  cases hs : r.status with
  | sendingMessage | sendingAck | waitingForSifs => simp [hs] at hd
  | idle | waitingForAck => exact hlisten _ (by simp [isDeaf])
  | receivingMessage | waitingForDifs => exact hlisten _ (by simp [isDeaf, hs])
  | waitingForBackoff =>
    apply hlisten
    unfold pauseCountdown
    split <;> simp [isDeaf, hs]

/-- A frame that is heard adds nothing to what a radio can set off. -/
lemma receive_outlook (f : Frame) (h : r.Sound d) (hslot : r.timers.backoff.isSome = (d .backoff).isSome)
    (now : Nat) :
    (receive w f { radio := r }).radio.outlook ((receive w f { radio := r }).alarms d) now = r.outlook d now := by
  cases hd : r.isDeaf with
  | true =>
    rw [receive_deaf hd]
    rfl
  | false =>
    have hheard := receive_heard (w := w) f h hslot
    obtain ⟨hs, hr⟩ := ready_of_hearing hd d now
    obtain ⟨hs', hr'⟩ :=
      ready_of_hearing (receive_hears (w := w) f hd) ((receive w f { radio := r }).alarms d) now
    rw [outlook_of_ready hs hr, outlook_of_ready hs' hr', hheard.outgoing, hheard.alarms _ (by simp) (by simp)]

/-- A frame that joins the queue can be launched. -/
lemma enqueue_outlook (w : Setting) (f : Frame) (r : Radio) (d : Alarms) (now : Nat) :
    (enqueue w f r).radio.outlook ((enqueue w f r).alarms d) now = r.outlook d now + 1 := by
  rw [enqueue_eq]
  split
  · rename_i hs
    simp [outlook, isTied, readiness, hs, Turn.alarms]
    omega
  · show (r.outgoing ++ [f]).length + (!r.isTied d now).toNat + 3 * r.readiness d now = _
    rw [List.length_append, List.length_singleton, outlook]
    omega

end Radio

end CarrierSense
