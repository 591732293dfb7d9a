import CarrierSense.Proofs.Radio.Sound

/-!
# Frames in flight

What a sound radio does when one of its timers runs out, as far as frames are concerned: it launches the
head of its queue, answers with an acknowledgement, settles the head of its queue, accepts a frame, or
does nothing of the kind (`Outcome`).

A `Flight` is what is remembered of the data frame that a radio has put on the air last. A radio is
`Faithful` to it if the frame stays at the head of the queue until it is settled, if its acknowledgement
is awaited for as long as it can come, and if the frame is not launched again before.
-/

namespace CarrierSense

/-- Whether an effect hands a frame to the node, or takes it on for another one. -/
def Effect.handsOn : Effect → Bool
  | .deliver _ | .relay _ => true
  | _ => false

namespace Turn

/-- What a turn does with frames that it accepts. -/
def handedOn (t : Turn) : List Effect := t.effects.filter Effect.handsOn

/-- A turn that has done nothing so far has handed on no frame. -/
@[simp] lemma handedOn_start (r : Radio) : (Turn.mk r []).handedOn = [] := rfl

/-- An effect counts as handing on only if it delivers or relays a frame. -/
@[simp] lemma handedOn_ask (t : Turn) (e : Effect) :
    (t.ask e).handedOn = t.handedOn ++ if e.handsOn then [e] else [] := by
  simp [handedOn, ask, List.filter_append, List.filter_cons]

/-- To edit the radio hands on no frame. -/
@[simp] lemma handedOn_edit (t : Turn) (f : Radio → Radio) : (t.edit f).handedOn = t.handedOn := rfl

/-- To enter a status hands on no frame. -/
@[simp] lemma handedOn_enter (t : Turn) (s : Status) : (t.enter s).handedOn = t.handedOn := by
  unfold enter
  split <;> simp [Effect.handsOn]

end Turn

/-- How far a data frame has come since it was put on the air. -/
inductive Stage where
  | aloft
  /-- The receiver of the hop has taken the frame, and owes or has sent an acknowledgement. -/
  | accepted
  /-- The sender has taken the acknowledgement. -/
  | settled
  deriving DecidableEq, Repr

/-- The data frame that a radio has put on the air last. -/
structure Flight where
  frame : Frame
  endsAt : Nat
  stage : Stage
  deriving DecidableEq, Repr

namespace Radio

/-- A move comes to its end: a countdown that has to follow is taken up with a length of at least one. -/
inductive Ends (w : Setting) : Move → Turn → Prop where
  | rest {t : Turn} {s : Sequel} (h : s ≠ .contend) : Ends w (t, s) t
  | contend {t : Turn} {n : Nat} (h : 1 ≤ n) : Ends w (t, .contend) (beginCountdown w n t)

/-- The radio does not launch a frame at the tick `now`, whatever happens: a launch that it owes has to
wait for a countdown that cannot end within this tick. -/
def Held (r : Radio) (now : Nat) : Prop :=
  r.retransmitPending ∨ (r.backoffPaused ∧ 1 ≤ r.backoffRemaining) ∨
    (r.status = .waitingForBackoff ∧ 1 ≤ r.backoffRemaining ∧
      (r.incoming = none → now ≤ r.backoffStarted))

/-- The radio keeps to what it has put on the air last. -/
structure Faithful (timing : Timing) (now : Nat) (g : Option Flight) (r : Radio) (d : Alarms) :
    Prop where
  head : ∀ {fl}, g = some fl → fl.stage ≠ .settled → r.outgoing.head? = some fl.frame
  sending : r.status = .sendingMessage →
    ∃ fl, g = some fl ∧ fl.stage ≠ .settled ∧ d .transmission = some fl.endsAt
  waiting : r.waitingForAck →
    ∃ fl, g = some fl ∧ fl.stage ≠ .settled ∧ d .ackTimeout = some (fl.endsAt + timing.ackTimeout)
  late : ∀ {fl}, g = some fl → fl.stage ≠ .settled → r.status ≠ .sendingMessage →
    r.waitingForAck = false → fl.endsAt + timing.ackTimeout ≤ now ∧
      (fl.endsAt + timing.ackTimeout = now → r.Held now)

variable {w : Setting} {t t' : Turn} {d d' : Alarms} {r r' : Radio} {g : Option Flight}

/-- A radio stays faithful that neither sends nor stops to wait, and is held if it was before. -/
lemma Faithful.congr {timing : Timing} {now : Nat} (h : Faithful timing now g r d)
    (hq : ∀ {f}, r.outgoing.head? = some f → r'.outgoing.head? = some f)
    (hs : r'.status = .sendingMessage ↔ r.status = .sendingMessage)
    (hs' : r.status = .sendingMessage → d' .transmission = d .transmission)
    (hw : r'.waitingForAck = r.waitingForAck)
    (hw' : r.waitingForAck → d' .ackTimeout = d .ackTimeout)
    (hh : r.Held now → r.outgoing ≠ [] → r'.Held now) : Faithful timing now g r' d' := by
  refine ⟨fun hg hst => hq (h.head hg hst), fun hsend => ?_, fun hwait => ?_, fun {fl} hg hst hsend hwait => ?_⟩
  · rw [hs' (hs.1 hsend)]
    exact h.sending (hs.1 hsend)
  · rw [hw] at hwait
    rw [hw' hwait]
    exact h.waiting hwait
  · obtain ⟨hle, hheld⟩ := h.late hg hst (fun hn => hsend (hs.2 hn)) (hw ▸ hwait)
    refine ⟨hle, fun heq => hh (hheld heq) ?_⟩
    have hhead := h.head hg hst
    rintro hnil
    rw [hnil] at hhead
    cases hhead

/-- A launch that has to wait still has to, while what it waits for stays the same. -/
lemma Held.congr {now : Nat} (h : r.Held now) (hs : r.status ≠ .waitingForBackoff)
    (hre : r'.retransmitPending = r.retransmitPending) (hp : r'.backoffPaused = r.backoffPaused)
    (hn : r'.backoffRemaining = r.backoffRemaining) : r'.Held now := by
  rcases h with h | h | ⟨h, -⟩
  · exact .inl (hre ▸ h)
  · exact .inr (.inl (by rw [hp, hn]; exact h))
  · exact absurd h hs

/-- A countdown that has just been taken up cannot end within the same tick. -/
lemma beginCountdown_held {n : Nat} (hn : 1 ≤ n) : (beginCountdown w n t).radio.Held w.now := by
  unfold beginCountdown
  dsimp only
  split
  · rename_i hin
    refine .inr (.inr ⟨by simp, by simpa using hn, fun hnone => ?_⟩)
    simp [isReceiving] at hin hnone
    rw [hnone] at hin
    cases hin
  · exact .inr (.inr ⟨by simp, by simpa using hn, by simp⟩)

/-- What a countdown that begins leaves of the radio. -/
lemma beginCountdown_fields (n : Nat) :
    let t' := beginCountdown w n t
    t'.radio.outgoing = t.radio.outgoing ∧ t'.radio.acks = t.radio.acks ∧
      t'.radio.incoming = t.radio.incoming ∧ t'.radio.waitingForAck = t.radio.waitingForAck ∧
      t'.radio.status = .waitingForBackoff ∧ t'.handedOn = t.handedOn ∧
      ∀ d k, k ≠ .backoff → t'.alarms d k = t.alarms d k := by
  unfold beginCountdown
  dsimp only
  split <;> simp [Effect.handsOn]
  intro d k hk
  simp [Ne.symm hk]

/-- What turning to the next duty leaves alone. -/
structure Resumed (w : Setting) (t : Turn) (d : Alarms) (s : Sequel) (t' : Turn) : Prop where
  outgoing : t'.radio.outgoing = t.radio.outgoing
  acks : t'.radio.acks = t.radio.acks
  incoming : t'.radio.incoming = t.radio.incoming
  waitingForAck : t'.radio.waitingForAck = t.radio.waitingForAck
  status : t'.radio.status ≠ .sendingMessage
  handedOn : t'.handedOn = t.handedOn
  ackTimeout : t'.alarms d .ackTimeout = t.alarms d .ackTimeout
  sifs : t.radio.acks ≠ [] → t'.alarms d .sifs = some (w.now + w.timing.sifs)
  quiet : ∀ f, s ≠ .transmit f
  held : t.radio.Held w.now → t'.radio.Held w.now

/-- A move without a countdown to follow ends as it is. -/
lemma Ends.of_rest {s : Sequel} (he : Ends w (t, s) t') (hs : s ≠ .contend) : t' = t := by
  cases he with
  | rest _ => rfl
  | contend _ => exact absurd rfl hs

/-- A move whose sequel is no countdown ends with its own turn. -/
lemma Ends.eq_of_rest {m : Move} (he : Ends w m t) (hm : m.2 ≠ .contend) : t = m.1 := by
  obtain ⟨u, s⟩ := m
  exact he.of_rest hm

/-- A move that calls for a countdown ends with one of some length. -/
lemma Ends.of_contend (he : Ends w (t, .contend) t') : ∃ n, 1 ≤ n ∧ t' = beginCountdown w n t := by
  cases he with
  | rest h => exact absurd rfl h
  | contend h => exact ⟨_, h, rfl⟩

/-- However a sound move ends, it leaves a sound radio. -/
lemma Ends.sound {m : Move} (he : Ends w m t) (hm : Move.Sound m d) : t.radio.Sound (t.alarms d) := by
  cases he with
  | @rest t s hs =>
    cases s with
    | contend => exact absurd rfl hs
    | none => exact hm
    | transmit f => exact hm
  | contend _ => exact beginCountdown_sound _ hm

/-- A radio that tries to send, and has no launch held back, has turned to its next duty. -/
lemma trySend_resumed (hin : t.radio.incoming = none) (hacks : t.radio.acks = [])
    (hh : ¬ t.radio.Held w.now) : Resumed w t d .none (trySend w t) := by
  unfold trySend
  split <;> constructor <;> simp [hin, hacks, hh, Effect.handsOn]

/-- Turning to the next duty leaves frames alone, and does not launch one. -/
lemma resume_resumed (hin : t.radio.incoming = none)
    (hb : t.radio.status = .waitingForBackoff → t.radio.backoffPaused) (he : Ends w (resume w t) t') :
    Resumed w t d (resume w t).2 t' := by
  -- with its countdown put off, a held radio is held by what it owes
  have hheld : t.radio.Held w.now →
      t.radio.retransmitPending ∨ (t.radio.backoffPaused ∧ 1 ≤ t.radio.backoffRemaining) := by
    rintro (h | h | ⟨h, hr, -⟩)
    · exact .inl h
    · exact .inr h
    · exact .inr ⟨hb h, hr⟩
  revert he
  unfold resume
  split
  · rename_i ha
    intro he
    rw [he.of_rest (by simp)]
    constructor <;> simp [Effect.handsOn]
    exact fun hh => (hheld hh).imp_right .inl
  rename_i ha
  have ha : t.radio.acks = [] := by simpa using ha
  split
  · intro he
    rw [he.of_rest (by simp)]
    constructor <;> simp [ha]
    exact fun hh => (hheld hh).imp_right .inl
  split
  · rename_i hp
    intro he
    rw [he.of_rest (by simp)]
    constructor <;> simp [ha, resumeCountdown, Effect.handsOn]
    rintro hh
    rcases hheld hh with hre | ⟨-, hn⟩
    · exact .inl hre
    · exact .inr (.inr ⟨by simp, by simpa using hn, by simp⟩)
  rename_i hp
  split
  · intro he
    obtain ⟨n, hn, rfl⟩ := he.of_contend
    obtain ⟨h₁, h₂, h₃, h₄, h₅, h₆, h₇⟩ := beginCountdown_fields (w := w) (t := t.edit fun r =>
      { r with retransmitPending := false }) n
    refine ⟨h₁, h₂, h₃, h₄, by simp [h₅], h₆, h₇ d _ (by simp), fun h => absurd ha h, by simp, fun _ => ?_⟩
    exact beginCountdown_held hn
  · rename_i hre
    intro he
    rw [he.of_rest (by simp)]
    refine trySend_resumed hin ha fun hh => ?_
    rcases hheld hh with h | ⟨h, -⟩
    · exact hre h
    · exact hp h

/-- A radio that turns to its next duty keeps to what it has put on the air. -/
lemma Resumed.faithful {s : Sequel} (h : Resumed w t d s t') (hst : t.radio.status ≠ .sendingMessage)
    (hf : Faithful w.timing w.now g t.radio (t.alarms d)) :
    Faithful w.timing w.now g t'.radio (t'.alarms d) := by
  refine hf.congr (fun hq => ?_) ⟨fun hn => absurd hn h.status, fun hn => absurd hn hst⟩
    (fun hn => absurd hn hst) h.waitingForAck (fun _ => h.ackTimeout) fun hh _ => h.held hh
  rw [h.outgoing]
  exact hq

/-- What happens to frames when the timer `k` of a radio runs out: `s` is the sequel of its move, and `t`
the turn that it ends with. -/
inductive Outcome (w : Setting) (r : Radio) (d : Alarms) (k : Timer) (s : Sequel) (t : Turn) : Prop where
  /-- The head of the queue goes on the air. -/
  | launch {f : Frame} (sequel : s = .transmit f) (head : r.outgoing.head? = some f)
      (outgoing : t.radio.outgoing = r.outgoing) (acks : t.radio.acks = []) (incoming : t.radio.incoming = none)
      (status : t.radio.status = .sendingMessage) (waiting : t.radio.waitingForAck = false)
      (alarm : t.alarms (d.set k none) .transmission = some (w.now + f.airtime))
      (before : r.status ≠ .sendingMessage ∧ r.waitingForAck = false ∧ ¬ r.Held w.now)
      (handedOn : t.handedOn = [])
  /-- An acknowledgement goes on the air. -/
  | answer {a : Frame} (sequel : s = .transmit a) (timer : k = .sifs) (queue : r.acks = [a])
      (outgoing : t.radio.outgoing = r.outgoing) (acks : t.radio.acks = [])
      (incoming : t.radio.incoming = none)
      (faithful : ∀ {g}, Faithful w.timing w.now g r d →
        Faithful w.timing w.now g t.radio (t.alarms (d.set k none)))
      (handedOn : t.handedOn = [])
  /-- The frame that has ended is the acknowledgement that was awaited. -/
  | settle {x : Incoming} (sequel : ∀ f, s ≠ .transmit f) (heard : r.incoming = some x)
      (ack : x.frame.isAck = true) (receiver : x.frame.receiver = some w.self)
      (outgoing : ∃ f, r.outgoing = f :: t.radio.outgoing) (acks : t.radio.acks = [])
      (incoming : t.radio.incoming = none) (status : t.radio.status ≠ .sendingMessage)
      (waiting : t.radio.waitingForAck = false) (handedOn : t.handedOn = [])
  /-- The frame that has ended is a data frame for this radio. -/
  | accept {x : Incoming} (sequel : ∀ f, s ≠ .transmit f) (timer : k = .reception)
      (heard : r.incoming = some x) (data : x.frame.isAck = false)
      (receiver : x.frame.receiver = some w.self) (outgoing : t.radio.outgoing = r.outgoing)
      (acks : r.acks = [] ∧ t.radio.acks = [x.frame.ackFrom w.self w.timing.ackDuration])
      (incoming : t.radio.incoming = none)
      (alarm : t.alarms (d.set k none) .sifs = some (w.now + w.timing.sifs))
      (faithful : ∀ {g}, Faithful w.timing w.now g r d →
        Faithful w.timing w.now g t.radio (t.alarms (d.set k none)))
      (handedOn : t.handedOn =
        [if x.frame.destination = w.home then .deliver x.frame else .relay x.frame])
  /-- Nothing happens to any frame, but that a frame may have ended. -/
  | quiet (sequel : ∀ f, s ≠ .transmit f) (outgoing : t.radio.outgoing = r.outgoing)
      (acks : t.radio.acks = r.acks)
      (alarm : r.acks ≠ [] → t.alarms (d.set k none) .sifs = d .sifs)
      (incoming : t.radio.incoming = r.incoming ∨ t.radio.incoming = none)
      (faithful : ∀ {g}, Faithful w.timing w.now g r d →
        Faithful w.timing w.now g t.radio (t.alarms (d.set k none)))
      (handedOn : t.handedOn = [])

/-- A radio that puts nothing off holds nothing back, unless it is in a countdown. -/
lemma Unburdened.not_held {now : Nat} (hu : r.Unburdened) (hs : r.status ≠ .waitingForBackoff) :
    ¬ r.Held now := by
  rintro (h | ⟨h, -⟩ | ⟨h, -⟩)
  · rw [hu.retransmitPending] at h
    cases h
  · rw [hu.backoffPaused] at h
    cases h
  · exact hs h

/-- What becomes of frames when the head of the queue is sent. -/
lemma transmitHead_outcome {k : Timer} (hu : r.Unburdened) (hf : r.outgoing ≠ [])
    (hin : r.incoming = none) (hs : r.status ≠ .sendingMessage) (hh : ¬ r.Held w.now)
    (he : Ends w (transmitHead w { radio := r }) t') :
    Outcome w r d k (transmitHead w { radio := r }).2 t' := by
  obtain ⟨f, rest, hq⟩ := List.exists_cons_of_ne_nil hf
  revert he
  simp only [transmitHead, hq]
  intro he
  rw [he.of_rest (by simp)]
  refine .launch rfl (by simp [hq]) (by simp [hq]) ?_ ?_ ?_ ?_ ?_ ⟨hs, hu.waitingForAck, hh⟩ ?_ <;>
    simp [hu.acks, hu.waitingForAck, hin, Effect.handsOn]

/-- What becomes of frames once the medium has been idle for long enough. -/
lemma difsElapsed_outcome (h : r.Sound d) (hk : (d .difs).isSome)
    (he : Ends w (difsElapsed w { radio := r }) t') :
    Outcome w r d .difs (difsElapsed w { radio := r }).2 t' := by
  have hs : r.status = .waitingForDifs := h.expects hk
  obtain ⟨-, hnone, hu, hf, -⟩ := h.of_waitingForDifs hs
  have hh : ¬ r.Held w.now := hu.not_held (by simp [hs])
  revert he
  unfold difsElapsed
  split
  · intro he
    obtain ⟨n, hn, rfl⟩ := he.of_contend
    obtain ⟨h₁, h₂, h₃, h₄, h₅, h₆, h₇⟩ := beginCountdown_fields (w := w) (t := { radio := r }) n
    refine .quiet (by simp) h₁ h₂ (fun ha => absurd hu.acks ha) (.inl h₃) (fun hg => ?_) h₆
    refine hg.congr (fun hq => h₁.symm ▸ hq) (by simp [h₅, hs]) (by simp [hs]) h₄
      (fun hw => ?_) fun hh' _ => absurd hh' hh
    rw [hu.waitingForAck] at hw
    cases hw
  · rename_i hfree
    have hin : r.incoming = none := by
      simp only [Bool.or_eq_true, isReceiving, not_or] at hfree
      simpa using hfree.2
    exact transmitHead_outcome hu hf hin (by simp [hs]) hh

/-- What becomes of frames at the end of a countdown. -/
lemma backoffElapsed_outcome (h : r.Sound d) (hk : d .backoff = some w.now)
    (he : Ends w (transmitHead w { radio := r }) t') :
    Outcome w r d .backoff (transmitHead w { radio := r }).2 t' := by
  obtain ⟨hs, hin⟩ := h.expects (k := .backoff) (by simp [hk])
  obtain ⟨-, hnone, hu, hf⟩ := h.of_waitingForBackoff hs
  refine transmitHead_outcome hu hf hin (by simp [hs]) ?_ he
  -- a held countdown ends later than now
  have hend := h.backoff hk
  rintro (hh | ⟨hh, -⟩ | ⟨-, hn, hstart⟩)
  · rw [hu.retransmitPending] at hh
    cases hh
  · rw [hu.backoffPaused] at hh
    cases hh
  · have := hstart hin
    omega

/-- What becomes of frames at the end of a transmission. -/
lemma transmissionEnded_outcome (h : r.Sound d) (hk : d .transmission = some w.now)
    (he : Ends w (transmissionEnded w { radio := r }) t') :
    Outcome w r d .transmission (transmissionEnded w { radio := r }).2 t' := by
  have hs : r.status = .sendingMessage := h.expects (k := .transmission) (by simp [hk])
  have hacks : r.acks = [] := by
    have ho := h.orderly
    simp only [Orderly, hs] at ho
    exact ho.1.acks
  revert he
  simp only [transmissionEnded]
  intro he
  rw [he.of_rest (by simp)]
  refine .quiet (by simp) (by simp) (by simp) (fun ha => absurd hacks ha) (.inl (by simp)) (fun {g} hg => ?_)
    (by simp [Effect.handsOn])
  obtain ⟨fl, rfl, hst, hal⟩ := hg.sending hs
  rw [hk] at hal
  have hnow : w.now = fl.endsAt := Option.some.inj hal
  exact ⟨fun hfl hst => by simpa using hg.head hfl hst, fun hn => by simp at hn,
    fun _ => ⟨fl, rfl, hst, by simp [hnow]⟩, fun _ _ _ hn => by simp at hn⟩

/-- What becomes of frames when an acknowledgement is missed. -/
lemma ackTimedOut_outcome (h : r.Sound d) (hk : d .ackTimeout = some w.now)
    (he : Ends w (ackTimedOut w { radio := r }) t') :
    Outcome w r d .ackTimeout (ackTimedOut w { radio := r }).2 t' := by
  have hw : r.waitingForAck := h.expects (k := .ackTimeout) (by simp [hk])
  obtain ⟨-, hst⟩ := h.of_waitingForAck hw
  -- whatever the radio does meanwhile, the frame is not launched again within this tick
  have hkeep : ∀ {g} {r' : Radio} {d' : Alarms}, Faithful w.timing w.now g r d →
      r'.outgoing = r.outgoing → r'.status ≠ .sendingMessage → r'.waitingForAck = false → r'.Held w.now →
      Faithful w.timing w.now g r' d' := by
    intro g r' d' hg hq hs' hw' hh
    obtain ⟨fl, rfl, hfl, hal⟩ := hg.waiting hw
    rw [hk] at hal
    refine ⟨fun hg' hst => by rw [hq]; exact hg.head hg' hst, fun hn => absurd hn hs', fun hn => ?_,
      fun hg' _ _ _ => ?_⟩
    · rw [hw'] at hn
      cases hn
    · cases hg'
      exact ⟨Nat.le_of_eq (Option.some.inj hal).symm, fun _ => hh⟩
  revert he
  simp only [ackTimedOut]
  split
  · intro he
    obtain ⟨n, hn, rfl⟩ := he.of_contend
    generalize hc : ({ radio := r } : Turn).edit _ = t₀
    have hc₁ : t₀.radio.outgoing = r.outgoing ∧ t₀.radio.acks = r.acks ∧ t₀.radio.incoming = r.incoming ∧
        t₀.radio.waitingForAck = false ∧ t₀.handedOn = [] ∧ ∀ d, t₀.alarms d = d := by
      subst hc
      simp
    obtain ⟨h₁, h₂, h₃, h₄, h₅, h₆, h₇⟩ := beginCountdown_fields (w := w)
      (t := t₀.ask (.count .ackTimeouts)) n
    refine .quiet (by simp) (h₁.trans hc₁.1) (h₂.trans hc₁.2.1) (fun _ => ?_) (.inl (h₃.trans hc₁.2.2.1))
      (fun hg => hkeep hg (h₁.trans hc₁.1) (by simp [h₅]) (h₄.trans hc₁.2.2.2.1)
        (beginCountdown_held hn)) ?_
    · rw [h₇ _ _ (by simp)]
      simp [hc₁.2.2.2.2.2]
    · rw [h₆]
      simp [hc₁.2.2.2.2.1, Effect.handsOn]
  · intro he
    rw [he.of_rest (by simp)]
    refine .quiet (by simp) rfl rfl (by simp) (.inl rfl) (fun hg => hkeep hg rfl ?_ rfl (.inl rfl))
      (by simp [Effect.handsOn])
    rcases hst with hst | hst | hst | hst <;> simp [hst]

/-- What becomes of frames when an acknowledgement is sent. -/
lemma sifsElapsed_outcome (h : r.Sound d) (hk : (d .sifs).isSome)
    (he : Ends w (sifsElapsed w { radio := r }) t') :
    Outcome w r d .sifs (sifsElapsed w { radio := r }).2 t' := by
  have hs : r.status = .waitingForSifs := h.expects hk
  have ho := h.orderly
  simp only [Orderly, hs] at ho
  obtain ⟨-, hacks, hin⟩ := ho
  obtain ⟨a, hacks⟩ := List.length_eq_one_iff.1 hacks
  revert he
  simp only [sifsElapsed, hacks]
  intro he
  rw [he.of_rest (by simp)]
  refine .answer rfl rfl hacks (by simp) (by simp) (by simp [hin]) (fun hg => ?_) (by simp [Effect.handsOn])
  exact hg.congr (by simp) (by simp [hs]) (by simp [hs]) (by simp) (by simp) fun hh _ =>
    hh.congr (by simp [hs]) (by simp) (by simp) (by simp)

/-- What becomes of frames at the end of an acknowledgement. -/
lemma ackTransmissionEnded_outcome (h : r.Sound d) (hk : (d .ackTransmission).isSome)
    (he : Ends w (resume w { radio := r }) t') :
    Outcome w r d .ackTransmission (resume w { radio := r }).2 t' := by
  have hs : r.status = .sendingAck := h.expects hk
  have ho := h.orderly
  simp only [Orderly, hs] at ho
  obtain ⟨-, hacks, hin⟩ := ho
  have hres := resume_resumed (d := d.set .ackTransmission none) (t := { radio := r }) hin (by simp [hs]) he
  refine .quiet hres.quiet hres.outgoing hres.acks (fun ha => absurd hacks ha) (.inl hres.incoming)
    (fun hg => hres.faithful (by simp [hs]) ?_) hres.handedOn
  exact hg.congr (fun hq => hq) Iff.rfl (by simp [hs]) rfl (by simp) fun hh _ => hh

/-- What a radio does with the frame that has ended: nothing, take the acknowledgement that it awaits, or
take a data frame. -/
lemma finishListening_cases (w : Setting) (x : Incoming) (t : Turn) :
    (∃ c, finishListening w (some x) t = t.edit fun r => { r with collision := c }) ∨
      (t.radio.collision = false ∧ x.frame.receiver = some w.self ∧ x.frame.isAck = true ∧
        t.radio.waitingForAck ∧ t.radio.headId = some x.frame.id ∧
        finishListening w (some x) t =
          (t.edit fun r =>
            { r with
              outgoing := r.outgoing.tail
              waitingForAck := false
              window := w.timing.windowMin }).ask (.disarm .ackTimeout)) ∨
      (t.radio.collision = false ∧ x.frame.receiver = some w.self ∧ x.frame.isAck = false ∧
        finishListening w (some x) t =
          (t.edit fun r =>
            { r with acks := r.acks ++ [x.frame.ackFrom w.self w.timing.ackDuration] }).ask
              (if x.frame.destination = w.home then .deliver x.frame else .relay x.frame)) := by
  unfold finishListening
  split
  · exact .inl ⟨false, rfl⟩
  · rename_i hc
    have hc : t.radio.collision = false := by simpa using hc
    rcases accept_cases w x.frame t with he | ⟨hfor, hack, hw, hid, he⟩ | ⟨hfor, hack, he⟩
    · exact .inl ⟨t.radio.collision, he⟩
    · exact .inr (.inl ⟨hc, by simpa [Frame.isFor] using hfor, hack, hw, hid, he⟩)
    · exact .inr (.inr ⟨hc, by simpa [Frame.isFor] using hfor, by simpa using hack, he⟩)

/-- A radio that has taken a data frame turns to the acknowledgement. -/
lemma resume_accepts {x : Incoming} (hx : r.incoming = some x) (hr : r.acks = [])
    (hdata : x.frame.isAck = false) (hrecv : x.frame.receiver = some w.self)
    (hout : t.radio.outgoing = r.outgoing)
    (hacks : t.radio.acks = [x.frame.ackFrom w.self w.timing.ackDuration])
    (hin : t.radio.incoming = none) (hs : t.radio.status ≠ .sendingMessage)
    (hb : t.radio.status = .waitingForBackoff → t.radio.backoffPaused)
    (hh : t.handedOn = [if x.frame.destination = w.home then .deliver x.frame else .relay x.frame])
    (hf : ∀ {g}, Faithful w.timing w.now g r d →
      Faithful w.timing w.now g t.radio (t.alarms (d.set .reception none)))
    (he : Ends w (resume w t) t') : Outcome w r d .reception (resume w t).2 t' := by
  have hres := resume_resumed (d := d.set .reception none) hin hb he
  exact .accept hres.quiet rfl hx hdata hrecv (hres.outgoing.trans hout) ⟨hr, hres.acks.trans hacks⟩
    (hres.incoming.trans hin) (hres.sifs (by simp [hacks])) (fun hg => hres.faithful hs (hf hg))
    (hres.handedOn.trans hh)

/-- A radio that was receiving when the frame `x` ended. -/
lemma receivingEnded_outcome {x : Incoming} (h : r.Sound d) (hx : r.incoming = some x)
    (hs : r.status = .receivingMessage)
    (he : Ends w (resume w (finishListening w (some x) { radio := { r with incoming := none } })) t') :
    Outcome w r d .reception
      (resume w (finishListening w (some x) { radio := { r with incoming := none } })).2 t' := by
  have hr : r.acks = [] := (h.free_of_receiving hs).2
  -- what is done with the frame does not release the radio
  have hkeep : ∀ {g} {r' : Radio}, Faithful w.timing w.now g r d → r'.outgoing = r.outgoing →
      r'.status = r.status → r'.waitingForAck = r.waitingForAck →
      r'.retransmitPending = r.retransmitPending → r'.backoffPaused = r.backoffPaused →
      r'.backoffRemaining = r.backoffRemaining → Faithful w.timing w.now g r' (d.set .reception none) := by
    intro g r' hg hq hst hw hre hp hn
    refine hg.congr (by rw [hq]; exact id) (by rw [hst]) (by simp) hw (by simp) fun hh _ => ?_
    exact hh.congr (by simp [hs]) hre hp hn
  rcases finishListening_cases w x { radio := { r with incoming := none } } with
    ⟨c, hu⟩ | ⟨hc, hrecv, hack, hw, hid, hu⟩ | ⟨hc, hrecv, hdata, hu⟩
  · rw [hu] at he ⊢
    have hres := resume_resumed (d := d.set .reception none) (by simp) (by simp [hs]) he
    refine .quiet hres.quiet hres.outgoing hres.acks (fun ha => absurd hr ha)
      (.inr (hres.incoming.trans (by simp))) (fun hg => hres.faithful (by simp [hs]) ?_) ?_
    · exact hkeep hg rfl rfl rfl rfl rfl rfl
    · exact hres.handedOn.trans (by simp)
  · rw [hu] at he ⊢
    have hres := resume_resumed (d := d.set .reception none) (by simp) (by simp [hs]) he
    refine .settle hres.quiet hx hack hrecv ?_ (hres.acks.trans (by simp [hr]))
      (hres.incoming.trans (by simp)) hres.status (hres.waitingForAck.trans (by simp))
      (hres.handedOn.trans (by simp [Effect.handsOn]))
    rw [hres.outgoing]
    obtain ⟨f, rest, hq⟩ : ∃ f rest, r.outgoing = f :: rest := by
      refine List.exists_cons_of_ne_nil fun hq => ?_
      simp [headId, hq] at hid
    exact ⟨f, by simp [hq]⟩
  · rw [hu] at he ⊢
    refine resume_accepts hx hr hdata hrecv rfl (by simp [hr]) rfl (by simp [hs]) (by simp [hs])
      ?_ (fun hg => ?_) he
    · by_cases hd : x.frame.destination = w.home <;> simp [hd, Effect.handsOn]
    · simp only [Turn.alarms_ask, after_handOn]
      exact hkeep hg rfl rfl rfl rfl rfl rfl

/-- A radio whose countdown was paused when the frame `x` ended. -/
lemma pausedEnded_outcome {x : Incoming} {u : Turn} {m : Move} (h : r.Sound d) (hx : r.incoming = some x)
    (hs : r.status = .waitingForBackoff)
    (hu : u = finishListening w (some x) { radio := { r with incoming := none } })
    (hm : m = if (!r.collision && !u.radio.acks.isEmpty) = true then
      resume w (u.edit fun r => { r with backoffPaused := true }) else (resumeCountdown w u, .none))
    (he : Ends w m t') : Outcome w r d .reception m.2 t' := by
  obtain ⟨-, -, hun, hf⟩ := h.of_waitingForBackoff hs
  -- of the reasons to be held, only the countdown can apply
  have hheld : r.Held w.now → 1 ≤ r.backoffRemaining := by
    rintro (hh | ⟨hh, -⟩ | ⟨-, hn, -⟩)
    · rw [hun.retransmitPending] at hh
      cases hh
    · rw [hun.backoffPaused] at hh
      cases hh
    · exact hn
  rcases finishListening_cases w x { radio := { r with incoming := none } } with
    ⟨c, hv⟩ | ⟨-, -, -, hw, -⟩ | ⟨hc, hrecv, hdata, hv⟩
  · rw [hv] at hu
    have hacks : u.radio.acks = [] := by rw [hu]; exact hun.acks
    rw [hacks] at hm
    simp only [List.isEmpty_nil, Bool.not_true, Bool.and_false, Bool.false_eq_true, if_false] at hm
    rw [hm] at he ⊢
    rw [he.of_rest (by simp), hu]
    refine .quiet (by simp) rfl rfl (fun ha => absurd hun.acks ha) (.inr rfl) (fun hg => ?_)
      (by simp [resumeCountdown, Effect.handsOn])
    refine hg.congr (by simp [resumeCountdown]) (by simp [resumeCountdown, hs]) (by simp [hs])
      (by simp [resumeCountdown]) (by simp [resumeCountdown]) fun hh _ => ?_
    exact .inr (.inr ⟨hs, hheld hh, by simp [resumeCountdown]⟩)
  · have hw : r.waitingForAck = true := hw
    rw [hun.waitingForAck] at hw
    cases hw
  · rw [hv] at hu
    have hc : r.collision = false := hc
    have hacks : u.radio.acks = [x.frame.ackFrom w.self w.timing.ackDuration] := by
      rw [hu]
      simp [hun.acks]
    rw [hacks, hc] at hm
    simp only [List.isEmpty_cons, Bool.not_false, Bool.and_self, if_true] at hm
    rw [hm] at he ⊢
    refine resume_accepts hx hun.acks hdata hrecv (by simp [hu]) hacks (by simp [hu]) (by simp [hu, hs])
      (by simp) ?_ (fun hg => ?_) he
    · by_cases hd : x.frame.destination = w.home <;> simp [hu, hd, Effect.handsOn]
    · refine hg.congr (by simp [hu]) (by simp [hu, hs]) (by simp [hs]) (by simp [hu]) (fun _ => ?_)
        fun hh _ => .inr (.inl ⟨rfl, ?_⟩)
      · simp [hu, after_handOn]
      · simpa [hu] using hheld hh

/-- What becomes of frames at the end of a reception: here they are accepted, or acknowledged. -/
lemma receptionEnded_outcome (h : r.Sound d) (hk : (d .reception).isSome)
    (he : Ends w (receptionEnded w { radio := r }) t') :
    Outcome w r d .reception (receptionEnded w { radio := r }).2 t' := by
  obtain ⟨x, hx⟩ := Option.ne_none_iff_exists'.1 (h.expects hk)
  have ho := h.orderly
  revert he
  unfold receptionEnded
  dsimp only [Turn.edit]
  rw [hx]
  split
  · rename_i hs
    exact receivingEnded_outcome h hx hs
  · rename_i hs
    refine pausedEnded_outcome h hx hs rfl ?_
    simp [Turn.edit]
  · rename_i hne₁ hne₂
    have hs : r.status = .waitingForDifs := by
      unfold Orderly at ho
      cases hs : r.status <;> simp_all
    obtain ⟨-, -, hu, -, -⟩ := h.of_waitingForDifs hs
    intro he
    rw [he.of_rest (by simp)]
    refine .quiet (by simp) rfl rfl (fun ha => absurd hu.acks ha) (.inr rfl) (fun hg => ?_) rfl
    exact hg.congr id Iff.rfl (by simp [hs]) rfl (by simp) fun hh _ => hh.congr (by simp [hs]) rfl rfl rfl

/-- Whatever timer runs out, the outcome for frames is one of five. -/
theorem expire_outcome {k : Timer} (h : r.Sound d) (hk : d k = some w.now)
    (he : Ends w (expire w { radio := r } k) t') :
    Outcome w r d k (expire w { radio := r } k).2 t' := by
  have hset : (d k).isSome := by simp [hk]
  cases k with
  | difs => exact difsElapsed_outcome h hset he
  | backoff => exact backoffElapsed_outcome h hk he
  | transmission => exact transmissionEnded_outcome h hk he
  | ackTimeout => exact ackTimedOut_outcome h hk he
  | reception => exact receptionEnded_outcome h hset he
  | sifs => exact sifsElapsed_outcome h hset he
  | ackTransmission => exact ackTransmissionEnded_outcome h hset he

/-- What hearing a frame leaves alone. -/
structure Heard (w : Setting) (f : Frame) (r : Radio) (d : Alarms) (t : Turn) : Prop where
  outgoing : t.radio.outgoing = r.outgoing
  acks : t.radio.acks = r.acks
  waitingForAck : t.radio.waitingForAck = r.waitingForAck
  sending : t.radio.status = .sendingMessage ↔ r.status = .sendingMessage
  incoming : t.radio.incoming = r.incoming ∨
    r.status ≠ .sendingMessage ∧ t.radio.incoming = some ⟨f, w.now + f.airtime⟩
  handedOn : t.handedOn = []
  alarms : ∀ k, k ≠ .reception → k ≠ .backoff → t.alarms d k = d k
  held : r.Held w.now → t.radio.Held w.now

/-- Listening changes the tracked frame at most. -/
lemma listen_fields (f : Frame) :
    (∃ x c n, (listen w f t).radio = { t.radio with incoming := some x, collision := c, corrupted := n } ∧
      (x = ⟨f, w.now + f.airtime⟩ ∨ t.radio.incoming = some x)) ∧
      (listen w f t).handedOn = t.handedOn ∧
      ∀ d k, k ≠ .reception → (listen w f t).alarms d k = t.alarms d k := by
  unfold listen track
  dsimp only
  split
  · refine ⟨⟨_, _, _, rfl, .inl rfl⟩, by simp [Effect.handsOn], fun d k hk => ?_⟩
    simp [Ne.symm hk]
  · rename_i current hin
    split
    · refine ⟨⟨_, _, _, rfl, .inl rfl⟩, by simp [Effect.handsOn], fun d k hk => ?_⟩
      simp [Ne.symm hk]
    · exact ⟨⟨current, true, t.radio.corrupted + 1, by simp [← hin], .inr hin⟩,
        by simp [Effect.handsOn], fun d k _ => by simp⟩

/-- Listening as part of hearing a frame. -/
lemma listen_heard (f : Frame) (hs : r.status ≠ .sendingMessage) (hs' : t.radio.status ≠ .sendingMessage)
    (hout : t.radio.outgoing = r.outgoing) (hacks : t.radio.acks = r.acks)
    (hw : t.radio.waitingForAck = r.waitingForAck) (hin : t.radio.incoming = r.incoming)
    (hh : t.handedOn = []) (hal : ∀ k, k ≠ .reception → k ≠ .backoff → t.alarms d k = d k)
    (hheld : r.Held w.now → t.radio.retransmitPending ∨
      (t.radio.backoffPaused ∧ 1 ≤ t.radio.backoffRemaining) ∨
        (t.radio.status = .waitingForBackoff ∧ 1 ≤ t.radio.backoffRemaining)) :
    Heard w f r d (listen w f t) := by
  obtain ⟨⟨x, c, n, hr, hx⟩, hhand, halarms⟩ := listen_fields (w := w) (t := t) f
  constructor
  · rw [hr, hout]
  · rw [hr, hacks]
  · rw [hr, hw]
  · rw [hr]
    exact ⟨fun h => absurd h hs', fun h => absurd h hs⟩
  · rw [hr]
    rcases hx with rfl | hx
    · exact .inr ⟨hs, rfl⟩
    · exact .inl (by rw [← hin, hx])
  · rw [hhand, hh]
  · exact fun k h₁ h₂ => (halarms d k h₁).trans (hal k h₁ h₂)
  · rw [hr]
    intro h
    rcases hheld h with h | h | h
    · exact .inl h
    · exact .inr (.inl h)
    · exact .inr (.inr ⟨h.1, h.2, by simp⟩)

/-- A frame that begins to be heard changes neither the queue nor the flight. -/
lemma receive_heard (f : Frame) (h : r.Sound d)
    (hslot : r.timers.backoff.isSome = (d .backoff).isSome) :
    Heard w f r d (receive w f { radio := r }) := by
  rw [receive_eq]
  have hquiet : ∀ c, Heard w f r d (({ radio := r } : Turn).ask (.count c)) := fun c =>
    ⟨rfl, rfl, rfl, Iff.rfl, .inl rfl, by simp [Effect.handsOn], by simp, id⟩
  -- outside a countdown, what holds the radio is what it owes
  have howed : r.status ≠ .waitingForBackoff → r.Held w.now →
      r.retransmitPending ∨ (r.backoffPaused ∧ 1 ≤ r.backoffRemaining) := by
    rintro hs (hh | hh | ⟨hh, -⟩)
    · exact .inl hh
    · exact .inr hh
    · exact absurd hh hs
  split
  · exact hquiet _
  · exact hquiet _
  · exact hquiet _
  · rename_i hs
    refine listen_heard f (by simp_all) (by simp) (by simp) (by simp) (by simp) (by simp) (by simp)
      (by simp) fun hh => ?_
    simpa using howed (by simp_all) hh
  · rename_i hs
    refine listen_heard f (by simp_all) (by simp) (by simp) (by simp) (by simp) (by simp) (by simp)
      (by simp) fun hh => ?_
    simpa using howed (by simp_all) hh
  · rename_i hs
    refine listen_heard f (by simp_all) (by simp_all) rfl rfl rfl rfl rfl (by simp) fun hh => ?_
    exact (howed (by simp_all) hh).imp_right .inl
  · rename_i hs
    refine listen_heard f (by simp_all) (by simp_all) rfl rfl rfl rfl (by simp [Effect.handsOn]) (by simp)
      fun hh => ?_
    exact (howed (by simp_all) hh).imp_right .inl
  · rename_i hs
    have hs : r.status = .waitingForBackoff := hs
    obtain ⟨hback, -, hu, -⟩ := h.of_waitingForBackoff hs
    -- a pause within the tick in which the countdown starts takes nothing from it
    have hleft : r.Held w.now →
        1 ≤ r.backoffRemaining ∧ (r.timers.backoff.isSome → w.now ≤ r.backoffStarted) := by
      rintro (hh | ⟨hh, -⟩ | ⟨-, hn, hstart⟩)
      · rw [hu.retransmitPending] at hh
        cases hh
      · rw [hu.backoffPaused] at hh
        cases hh
      · exact ⟨hn, fun hsome => hstart (hback.1 (hslot ▸ hsome))⟩
    unfold pauseCountdown
    dsimp only
    split
    · rename_i hsome
      refine listen_heard f (by simp [hs]) (by simp [hs]) rfl rfl rfl rfl (by simp [Effect.handsOn])
        (fun k _ hk => by simp [Ne.symm hk]) fun hh => .inr (.inr ⟨hs, ?_⟩)
      obtain ⟨hn, hstart⟩ := hleft hh
      have := hstart hsome
      simp only [Turn.radio_edit, Turn.radio_ask]
      omega
    · exact listen_heard f (by simp [hs]) (by simp [hs]) rfl rfl rfl rfl rfl (by simp) fun hh =>
        .inr (.inr ⟨hs, (hleft hh).1⟩)

/-- A radio that hears a frame keeps to what it has put on the air. -/
lemma Heard.faithful {f : Frame} (h : Heard w f r d t) (hg : Faithful w.timing w.now g r d) :
    Faithful w.timing w.now g t.radio (t.alarms d) :=
  hg.congr (fun hq => by rw [h.outgoing]; exact hq) h.sending (fun _ => h.alarms _ (by simp) (by simp))
    h.waitingForAck (fun _ => h.alarms _ (by simp) (by simp)) fun hh _ => h.held hh

end Radio

end CarrierSense
