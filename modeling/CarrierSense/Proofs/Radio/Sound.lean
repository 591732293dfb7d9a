import CarrierSense.Proofs.Radio.Alarms

/-!
# Sound radios

A radio is `Sound` if the timers that are set are the ones its status dictates, if they run out when
they should, and if its queues, flags and tracked frame fit its status. Between two activities a radio
is not sound: it is `Free` when the medium has become free and it turns to its next duty, and
`Contending` when it is about to take up a countdown. Each function of the machine has one lemma here,
which says what it makes of such a radio.
-/

namespace CarrierSense.Radio

/-- The timer of a tracked frame. -/
def listening (r : Radio) : List Timer := if r.isReceiving then [.reception] else []

/-- The timer of an awaited acknowledgement. -/
def awaiting (r : Radio) : List Timer := if r.waitingForAck then [.ackTimeout] else []

/-- The timers that the status of a radio dictates. -/
def dictated (r : Radio) : List Timer :=
  match r.status with
  | .idle => []
  | .waitingForDifs => .difs :: r.listening
  | .waitingForBackoff => if r.isReceiving then [.reception] else [.backoff]
  | .sendingMessage => [.transmission]
  | .waitingForAck => [.ackTimeout]
  | .receivingMessage => .reception :: r.awaiting
  | .waitingForSifs => .sifs :: r.awaiting
  | .sendingAck => .ackTransmission :: r.awaiting

/-- The duties that can be put off while something else goes on: an acknowledgement that is awaited, a
frame that has to be sent again, and a countdown. -/
def duties (r : Radio) : List Bool := [r.waitingForAck, r.retransmitPending, r.backoffPaused]

/-- Nothing is put off. -/
@[mk_iff] structure Unburdened (r : Radio) : Prop where
  acks : r.acks = []
  waitingForAck : r.waitingForAck = false
  retransmitPending : r.retransmitPending = false
  backoffPaused : r.backoffPaused = false

/-- At most one duty is put off, and there is a frame that it is about. -/
@[mk_iff] structure Owing (r : Radio) : Prop where
  one : r.duties.count true ≤ 1
  frame : true ∈ r.duties → r.outgoing ≠ []

/-- Queues, flags and tracked frame fit the status. -/
def Orderly (r : Radio) : Prop :=
  match r.status with
  | .idle => r.Unburdened ∧ r.outgoing = [] ∧ r.incoming = none
  | .waitingForDifs => r.Unburdened ∧ r.outgoing ≠ [] ∧ (r.isReceiving → r.collision)
  | .waitingForBackoff => r.Unburdened ∧ r.outgoing ≠ []
  | .sendingMessage => r.Unburdened ∧ r.outgoing ≠ [] ∧ r.incoming = none
  | .waitingForAck => r.Owing ∧ r.acks = [] ∧ r.waitingForAck ∧ r.incoming = none
  | .receivingMessage => r.Owing ∧ r.acks = [] ∧ r.backoffPaused = false ∧ r.isReceiving
  | .waitingForSifs => r.Owing ∧ r.acks.length = 1 ∧ r.incoming = none
  | .sendingAck => r.Owing ∧ r.acks = [] ∧ r.incoming = none

/-- A radio between two events: `d` are its alarms. -/
structure Sound (r : Radio) (d : Alarms) : Prop where
  dictated : ∀ k, (d k).isSome ↔ k ∈ r.dictated
  reception : d .reception = r.incoming.map (·.endsAt)
  backoff : ∀ {time}, d .backoff = some time → time = r.backoffStarted + r.backoffRemaining
  orderly : r.Orderly

/-- A radio that turns to its next duty. -/
structure Free (r : Radio) (d : Alarms) : Prop where
  incoming : r.incoming = none
  alarms : ∀ k, (d k).isSome ↔ k = .ackTimeout ∧ r.waitingForAck
  owing : r.Owing
  acks : r.acks.length ≤ 1

/-- A radio that is about to take up a countdown. -/
structure Contending (r : Radio) (d : Alarms) : Prop where
  unburdened : r.Unburdened
  frame : r.outgoing ≠ []
  alarms : ∀ k, k ≠ .reception → d k = none
  reception : d .reception = r.incoming.map (·.endsAt)

/-- A radio that may put the head of its queue on the air. -/
structure Clear (r : Radio) (d : Alarms) : Prop where
  unburdened : r.Unburdened
  frame : r.outgoing ≠ []
  alarms : ∀ k, d k = none
  incoming : r.incoming = none

/-- A move leaves a sound radio, or one that is ready for the countdown that has to follow. -/
def Move.Sound (m : Move) (d : Alarms) : Prop :=
  match m.2 with
  | .contend => m.1.radio.Contending (m.1.alarms d)
  | _ => m.1.radio.Sound (m.1.alarms d)

variable {w : Setting} {t : Turn} {d : Alarms} {r : Radio}

/-- Only the duties and the queue tell what a radio owes. -/
lemma Owing.congr {r' : Radio} (h : r.Owing) (hd : r'.duties = r.duties)
    (hq : r'.outgoing = r.outgoing) : r'.Owing := by
  obtain ⟨hone, hframe⟩ := h
  exact ⟨by rw [hd]; exact hone, by rw [hd, hq]; exact hframe⟩

/-- A radio that puts nothing off owes nothing. -/
lemma Unburdened.owing (h : r.Unburdened) : r.Owing := by
  obtain ⟨-, h₁, h₂, h₃⟩ := h
  constructor <;> simp [duties, h₁, h₂, h₃]

/-- The handles of its timers do not matter to a sound radio. -/
lemma Sound.withTimers (h : r.Sound d) (timers : Timers) : { r with timers }.Sound d := by
  refine ⟨h.dictated, h.reception, h.backoff, ?_⟩
  have ho := h.orderly
  simp only [Orderly, unburdened_iff, owing_iff] at ho ⊢
  exact ho

/-- A timer that the status does not dictate is not set. -/
lemma Sound.eq_none {k : Timer} (h : r.Sound d) (hk : k ∉ r.dictated) : d k = none := by
  simpa using (h.dictated k).not.2 hk

/-- What a timer that is set says about the radio. -/
def Expects (r : Radio) : Timer → Prop
  | .difs => r.status = .waitingForDifs
  | .backoff => r.status = .waitingForBackoff ∧ r.incoming = none
  | .transmission => r.status = .sendingMessage
  | .ackTimeout => r.waitingForAck
  | .reception => r.incoming ≠ none
  | .sifs => r.status = .waitingForSifs
  | .ackTransmission => r.status = .sendingAck

/-- A timer that is set says what the radio has to expect. -/
lemma Sound.expects {k : Timer} (h : r.Sound d) (hk : (d k).isSome) : r.Expects k := by
  have hmem := (h.dictated k).1 hk
  have ho := h.orderly
  unfold Radio.dictated listening awaiting isReceiving at hmem
  unfold Orderly isReceiving at ho
  cases hin : r.incoming <;> cases hs : r.status <;> simp only [hs, hin] at hmem ho <;>
    cases k <;> simp_all [Expects]

/-- What there is to a sound radio that waits for the medium to be idle. -/
lemma Sound.of_waitingForDifs (h : r.Sound d) (hs : r.status = .waitingForDifs) :
    (d .difs).isSome ∧ (∀ k, k ≠ .difs → k ≠ .reception → d k = none) ∧ r.Unburdened ∧
      r.outgoing ≠ [] ∧ (r.incoming ≠ none → r.collision) := by
  have ho := h.orderly
  simp only [Orderly, hs] at ho
  refine ⟨(h.dictated _).2 (by simp [Radio.dictated, hs]), fun k h₁ h₂ => h.eq_none ?_, ho.1, ho.2.1, ?_⟩
  · simp [Radio.dictated, hs, h₁, listening, h₂]
  · simpa [isReceiving, Option.isSome_iff_ne_none] using ho.2.2

/-- What there is to a sound radio in its countdown. -/
lemma Sound.of_waitingForBackoff (h : r.Sound d) (hs : r.status = .waitingForBackoff) :
    ((d .backoff).isSome ↔ r.incoming = none) ∧ (∀ k, k ≠ .backoff → k ≠ .reception → d k = none) ∧
      r.Unburdened ∧ r.outgoing ≠ [] := by
  have ho := h.orderly
  simp only [Orderly, hs] at ho
  refine ⟨?_, fun k h₁ h₂ => h.eq_none ?_, ho.1, ho.2⟩
  · rw [h.dictated]
    cases hin : r.incoming <;> simp [Radio.dictated, hs, isReceiving, hin]
  · cases hin : r.incoming <;> simp [Radio.dictated, hs, isReceiving, hin, h₁, h₂]

/-- A free radio that tries to send is sound. -/
lemma trySend_sound (h : Free t.radio (t.alarms d)) (hu : t.radio.Unburdened) :
    (trySend w t).radio.Sound ((trySend w t).alarms d) := by
  have hin := h.incoming
  have hnone : ∀ k, t.alarms d k = none := fun k => by
    have hk := (h.alarms k).not.2 (by simp [hu.waitingForAck])
    simpa using hk
  unfold trySend
  split
  · rename_i hq
    constructor <;> simp [dictated, Orderly, hnone, hin, hq]
    exact ⟨hu.1, hu.2, hu.3, hu.4⟩
  · rename_i frame rest hq
    constructor <;>
      simp [Timer.forall_iff, dictated, Orderly, hnone, hin, hq, listening, isReceiving]
    exact ⟨hu.1, hu.2, hu.3, hu.4⟩

/-- A radio that sends the head of its queue is sound. -/
lemma transmitHead_sound (h : Clear t.radio (t.alarms d)) :
    Move.Sound (transmitHead w t) d := by
  obtain ⟨hu, hf, hal, hin⟩ := h
  unfold transmitHead
  split
  · rename_i hq
    exact absurd hq hf
  · rename_i frame rest hq
    constructor <;> simp [Timer.forall_iff, dictated, Orderly, hal, hin, hq]
    exact ⟨hu.1, hu.2, hu.3, hu.4⟩

/-- A radio that begins a countdown is sound, whether it can count yet or has to wait. -/
lemma beginCountdown_sound (n : Nat) (h : Contending t.radio (t.alarms d)) :
    (beginCountdown w n t).radio.Sound ((beginCountdown w n t).alarms d) := by
  obtain ⟨hu, hf, hal, hrec⟩ := h
  unfold beginCountdown
  dsimp only
  split
  · rename_i hin
    have hin : t.radio.incoming.isSome := by simpa [isReceiving] using hin
    constructor <;> simp [Timer.forall_iff, dictated, Orderly, isReceiving, hal, hrec, hin, hf]
    exact ⟨hu.1, hu.2, hu.3, hu.4⟩
  · rename_i hin
    have hin : t.radio.incoming = none := by simpa [isReceiving] using hin
    constructor <;> simp [Timer.forall_iff, dictated, Orderly, isReceiving, hal, hrec, hin, hf]
    exact ⟨hu.1, hu.2, hu.3, hu.4⟩

/-- A radio that resumes a countdown is sound. -/
lemma resumeCountdown_sound (hin : t.radio.incoming = none) (hs : t.radio.status = .waitingForBackoff)
    (hu : t.radio.Unburdened) (hf : t.radio.outgoing ≠ []) (hal : ∀ k, t.alarms d k = none) :
    (resumeCountdown w t).radio.Sound ((resumeCountdown w t).alarms d) := by
  unfold resumeCountdown
  constructor <;>
    simp [Timer.forall_iff, dictated, Orderly, isReceiving, hal, hin, hs, hf]
  exact ⟨hu.1, hu.2, hu.3, hu.4⟩

/-- The duties of a radio, one by one. -/
lemma owing_cases (h : r.Owing) :
    (r.waitingForAck = false ∨ r.retransmitPending = false ∧ r.backoffPaused = false) ∧
      (r.retransmitPending = false ∨ r.backoffPaused = false) ∧
        ((r.waitingForAck ∨ r.retransmitPending ∨ r.backoffPaused) → r.outgoing ≠ []) := by
  obtain ⟨hone, hframe⟩ := h
  simp only [duties] at hone hframe
  cases hw : r.waitingForAck <;> cases hr : r.retransmitPending <;> cases hp : r.backoffPaused <;>
    simp_all

/-- Of the timers of a free radio, only the one of an awaited acknowledgement is set. -/
lemma Free.alarms_eq (h : r.Free d) :
    (∀ k, k ≠ .ackTimeout → d k = none) ∧ (d .ackTimeout).isSome = r.waitingForAck := by
  refine ⟨fun k hk => ?_, ?_⟩
  · have hk := (h.alarms k).not.2 (by simp [hk])
    simpa using hk
  · have hk := h.alarms .ackTimeout
    cases hw : r.waitingForAck <;> simp_all

/-- A free radio that turns to its next duty is sound, or ready for a countdown. -/
lemma resume_sound (h : Free t.radio (t.alarms d)) : Move.Sound (resume w t) d := by
  obtain ⟨hal, hack⟩ := h.alarms_eq
  have hin := h.incoming
  have ho := h.owing
  obtain ⟨hw, hr, hf⟩ := owing_cases ho
  unfold resume
  split
  · rename_i ha
    have ha : t.radio.acks.length = 1 := by
      have := h.acks
      cases hq : t.radio.acks <;> simp_all
    constructor <;> simp [Timer.forall_iff, dictated, Orderly, awaiting, hal, hin, ha, hack]
    exact ho.congr rfl rfl
  · rename_i ha
    have ha : t.radio.acks = [] := by simpa using ha
    split
    · rename_i hwait
      constructor <;> simp [Timer.forall_iff, dictated, Orderly, hal, hin, ha, hack, hwait]
      exact ho.congr (by simp [duties, hwait]) rfl
    · rename_i hnw
      have hnw : t.radio.waitingForAck = false := by simpa using hnw
      have hnone : ∀ k, t.alarms d k = none := fun k => by
        by_cases hk : k = .ackTimeout
        · subst hk
          simpa [hnw] using hack
        · exact hal k hk
      split
      · rename_i hp
        simp only [hp, Bool.true_eq_false, or_false] at hr
        refine resumeCountdown_sound ?_ ?_ ?_ ?_ ?_
        · simp [hin]
        · simp
        · simp [unburdened_iff, ha, hnw, hr]
        · simpa using hf (by simp [hp])
        · simp [hnone]
      · rename_i hp
        have hp : t.radio.backoffPaused = false := by simpa using hp
        split
        · rename_i hre
          exact ⟨by simp [unburdened_iff, ha, hnw, hp], hf (by simp [hre]), by simp [hnone], by simp [hnone, hin]⟩
        · rename_i hre
          exact trySend_sound h (by simp [unburdened_iff, ha, hnw, hp, hre])

/-- What listening to one more frame changes: the tracked frame is the one that ends last, and frames
that overlap are spoiled. -/
lemma listen_eq (frame : Frame) (h : t.alarms d .reception = t.radio.incoming.map (·.endsAt)) :
    ∃ x c n, (listen w frame t).radio =
        { t.radio with incoming := some x, collision := c, corrupted := n } ∧
      (listen w frame t).alarms d = (t.alarms d).set .reception (some x.endsAt) ∧
      (t.radio.incoming = none → c = t.radio.collision) ∧
      (t.radio.incoming ≠ none → c = true) ∧
      (x = ⟨frame, w.now + frame.airtime⟩ ∨ t.radio.incoming = some x) := by
  unfold listen
  dsimp only
  split
  · rename_i hin
    exact ⟨⟨frame, w.now + frame.airtime⟩, _, _, rfl, by simp [track], fun _ => rfl, by simp [hin], .inl rfl⟩
  · rename_i current hin
    split
    · exact ⟨⟨frame, w.now + frame.airtime⟩, true, t.radio.corrupted + 1, rfl, by simp [track],
        by simp [hin], fun _ => rfl, .inl rfl⟩
    · refine ⟨current, true, t.radio.corrupted + 1, ?_, ?_, by simp [hin], fun _ => rfl, .inr hin⟩
      · simp [← hin]
      · funext k
        by_cases hk : Timer.reception = k
        · subst hk
          simp [h, hin]
        · simp [hk]

/-- After a pause no countdown runs, whether one did before or not. -/
lemma pauseCountdown_eq (hslot : t.radio.timers.backoff.isSome = (t.alarms d .backoff).isSome) :
    ∃ n, (pauseCountdown w t).radio = { t.radio with backoffRemaining := n } ∧
      (pauseCountdown w t).alarms d = (t.alarms d).set .backoff none := by
  unfold pauseCountdown
  split
  · exact ⟨_, rfl, by simp⟩
  · rename_i hnone
    refine ⟨t.radio.backoffRemaining, rfl, ?_⟩
    have hnone : t.alarms d .backoff = none := by simpa [hnone] using hslot
    funext k
    by_cases hk : Timer.backoff = k
    · subst hk
      simp [hnone]
    · simp [hk]

/-- A radio that listens to one more frame is sound. -/
lemma listen_sound (frame : Frame) (hs : t.radio.status = .receivingMessage) (ho : t.radio.Owing)
    (hacks : t.radio.acks = []) (hp : t.radio.backoffPaused = false)
    (hal : ∀ k, k ≠ .reception → ((t.alarms d k).isSome ↔ k ∈ t.radio.awaiting))
    (hrec : t.alarms d .reception = t.radio.incoming.map (·.endsAt)) :
    (listen w frame t).radio.Sound ((listen w frame t).alarms d) := by
  obtain ⟨x, c, n, hr, ha, -⟩ := listen_eq (w := w) frame hrec
  rw [hr, ha]
  constructor <;> simp_all [Timer.forall_iff, dictated, Orderly, awaiting, isReceiving]
  exact ho.congr (by simp [duties, hp]) rfl

/-- To count keeps a radio sound. -/
lemma ask_count_sound (c : Counter) (h : t.radio.Sound (t.alarms d)) :
    (t.ask (.count c)).radio.Sound ((t.ask (.count c)).alarms d) := by
  simpa using h

/-- A frame that reaches a sound radio keeps it sound, whatever its status. -/
lemma receive_sound (frame : Frame) (h : t.radio.Sound (t.alarms d))
    (hslot : t.radio.timers.backoff.isSome = (t.alarms d .backoff).isSome) :
    (receive w frame t).radio.Sound ((receive w frame t).alarms d) := by
  have hal := h.dictated
  have hrec := h.reception
  have ho := h.orderly
  rw [receive_eq]
  split
  · exact ask_count_sound _ h
  · exact ask_count_sound _ h
  · exact ask_count_sound _ h
  · rename_i hs
    simp only [Orderly, hs] at ho
    obtain ⟨hu, -, -⟩ := ho
    refine listen_sound frame (by simp) ?_ (by simp [hu.acks]) (by simp [hu.backoffPaused]) ?_ ?_
    · exact hu.owing.congr (by simp [duties]) (by simp)
    · simp_all [Timer.forall_iff, dictated, awaiting, hu.waitingForAck]
    · simpa using hrec
  · rename_i hs
    simp only [Orderly, hs] at ho
    obtain ⟨how, hacks, hwait, hin⟩ := ho
    have hp : t.radio.backoffPaused = false := by
      have hone := (owing_cases how).1
      simp_all
    refine listen_sound frame (by simp) ?_ (by simp [hacks]) (by simp [hp]) ?_ ?_
    · exact how.congr (by simp [duties]) (by simp)
    · simp_all [Timer.forall_iff, dictated, awaiting]
    · simpa using hrec
  · rename_i hs
    simp only [Orderly, hs] at ho
    obtain ⟨how, hacks, hp, -⟩ := ho
    refine listen_sound frame hs how hacks hp ?_ hrec
    simp_all [Timer.forall_iff, dictated, awaiting]
  · rename_i hs
    obtain ⟨hdifs, hnone, hu, hf, hc⟩ := h.of_waitingForDifs hs
    obtain ⟨x, c, n, hr, ha, hnew, hover, -⟩ := listen_eq (w := w)
      (t := (t.ask (.count .deferrals)).edit fun r => { r with collision := true }) (d := d) frame
      (by simpa using hrec)
    have hc : c = true := by
      by_cases hin : t.radio.incoming = none
      · simpa using hnew (by simpa using hin)
      · exact hover (by simpa using hin)
    rw [hr, ha]
    constructor <;>
      simp [Timer.forall_iff, dictated, Orderly, listening, isReceiving, hs, hdifs, hnone, hf, hc]
    exact ⟨hu.1, hu.2, hu.3, hu.4⟩
  · rename_i hs
    obtain ⟨-, hnone, hu, hf⟩ := h.of_waitingForBackoff hs
    obtain ⟨m, hr₁, ha₁⟩ := pauseCountdown_eq (w := w) hslot
    obtain ⟨x, c, n, hr, ha, -⟩ := listen_eq (w := w) (t := pauseCountdown w t) (d := d) frame
      (by simpa [hr₁, ha₁] using hrec)
    rw [hr, ha, hr₁, ha₁]
    constructor <;> simp [Timer.forall_iff, dictated, Orderly, isReceiving, hs, hnone, hf]
    exact ⟨hu.1, hu.2, hu.3, hu.4⟩

/-- What a radio does with a frame heard without a collision: nothing, settle the head of its queue, or
take the frame and owe an acknowledgement. -/
lemma accept_cases (w : Setting) (frame : Frame) (t : Turn) :
    accept w frame t = t ∨
      (frame.isFor w.self ∧ frame.isAck ∧ t.radio.waitingForAck ∧ t.radio.headId = some frame.id ∧
        accept w frame t =
          (t.edit fun r =>
            { r with
              outgoing := r.outgoing.tail
              waitingForAck := false
              window := w.timing.windowMin }).ask (.disarm .ackTimeout)) ∨
      (frame.isFor w.self ∧ ¬ frame.isAck ∧
        accept w frame t =
          (t.edit fun r =>
            { r with acks := r.acks ++ [frame.ackFrom w.self w.timing.ackDuration] }).ask
              (if frame.destination = w.home then .deliver frame else .relay frame)) := by
  unfold accept
  by_cases hfor : frame.isFor w.self
  · by_cases hack : frame.isAck
    · by_cases hw : t.radio.waitingForAck ∧ t.radio.headId = some frame.id
      · simp [hfor, hack, hw]
      · simp [hfor, hack, hw]
    · simp [hfor, hack]
  · simp [hfor]

/-- To hand a frame on, to the node or to the next hop, sets no timer. -/
lemma after_handOn (d : Alarms) (home : NodeId) (frame : Frame) :
    d.after (if frame.destination = home then .deliver frame else .relay frame) = d := by
  split <;> rfl

/-- A radio that accepts a frame stays free, with an acknowledgement to send. -/
lemma accept_free (frame : Frame) (h : Free t.radio (t.alarms d)) (ha : t.radio.acks = []) :
    Free (accept w frame t).radio ((accept w frame t).alarms d) := by
  obtain ⟨hin, hal, ho, -⟩ := h
  obtain ⟨hw, hr, hf⟩ := owing_cases ho
  rcases accept_cases w frame t with he | ⟨-, -, hwait, -, he⟩ | ⟨-, -, he⟩ <;> rw [he]
  · exact ⟨hin, hal, ho, by simp [ha]⟩
  · simp only [hwait, Bool.true_eq_false, false_or] at hw
    refine ⟨by simpa using hin, ?_, ?_, by simp [ha]⟩
    · have hnone := fun k => (hal k).not
      simp_all [Timer.forall_iff]
    · constructor <;> simp [duties, hw]
  · refine ⟨by simpa using hin, ?_, ?_, by simp [ha]⟩
    · simpa [after_handOn] using hal
    · exact ho.congr rfl rfl

/-- A radio is free when it has heard a frame to its end. -/
lemma finishListening_free (heard : Option Incoming) (h : Free t.radio (t.alarms d))
    (ha : t.radio.acks = []) :
    Free (finishListening w heard t).radio ((finishListening w heard t).alarms d) := by
  unfold finishListening
  split
  · exact ⟨h.incoming, h.alarms, h.owing.congr rfl rfl, h.acks⟩
  · split
    · exact accept_free _ h ha
    · exact h

/-- Unless an acknowledgement is awaited, the end of a frame can only add to the acknowledgements. -/
lemma finishListening_eq (heard : Option Incoming) (hw : t.radio.waitingForAck = false) :
    ∃ acks c, (finishListening w heard t).radio = { t.radio with acks, collision := c } ∧
      (finishListening w heard t).alarms d = t.alarms d ∧
      (t.radio.collision ∨ heard = none → acks = t.radio.acks) := by
  unfold finishListening
  split
  · exact ⟨t.radio.acks, false, rfl, rfl, fun _ => rfl⟩
  · rename_i hc
    split
    · rename_i x
      rcases accept_cases w x.frame t with he | ⟨-, -, hwait, -⟩ | ⟨-, -, he⟩
      · exact ⟨t.radio.acks, t.radio.collision, by rw [he], by rw [he], fun _ => rfl⟩
      · rw [hw] at hwait
        cases hwait
      · refine ⟨_, t.radio.collision, by rw [he]; rfl, ?_, by simp [hc]⟩
        rw [he]
        simp [after_handOn]
    · exact ⟨t.radio.acks, t.radio.collision, rfl, rfl, fun _ => rfl⟩

/-- A radio that was receiving is free when what it heard has ended. -/
lemma Sound.free_of_receiving (h : r.Sound d) (hs : r.status = .receivingMessage) :
    Free { r with incoming := none } (d.set .reception none) ∧ r.acks = [] := by
  have ho := h.orderly
  simp only [Orderly, hs] at ho
  obtain ⟨how, hacks, -, -⟩ := ho
  refine ⟨⟨rfl, fun k => ?_, how.congr rfl rfl, by simp [hacks]⟩, hacks⟩
  by_cases hk : Timer.reception = k
  · subst hk
    simp
  · rw [Alarms.set_ne hk, h.dictated]
    simp [Radio.dictated, hs, Ne.symm hk, awaiting, and_comm]

/-- A radio whose countdown was paused is free when what it heard has ended. -/
lemma Sound.free_of_waitingForBackoff (h : r.Sound d) (hs : r.status = .waitingForBackoff)
    (hin : r.incoming ≠ none) :
    Free { r with incoming := none } (d.set .reception none) ∧ r.Unburdened ∧ r.outgoing ≠ [] := by
  obtain ⟨hback, hnone, hu, hf⟩ := h.of_waitingForBackoff hs
  refine ⟨⟨rfl, fun k => ?_, hu.owing.congr rfl rfl, by simp [hu.acks]⟩, hu, hf⟩
  by_cases hk : Timer.reception = k
  · subst hk
    simp
  · rw [Alarms.set_ne hk, h.dictated]
    have hin := Option.isSome_iff_ne_none.2 hin
    simp [Radio.dictated, hs, isReceiving, hin, Ne.symm hk, hu.waitingForAck]

/-- The end of a reception keeps a radio sound. -/
lemma receptionEnded_sound (h : r.Sound d) (hk : (d .reception).isSome) :
    Move.Sound (receptionEnded w { radio := r }) (d.set .reception none) := by
  have hin : r.incoming ≠ none := by
    rintro hin
    simp [h.reception, hin] at hk
  have ho := h.orderly
  unfold receptionEnded
  dsimp only [Turn.edit]
  split
  · rename_i hs
    obtain ⟨hfree, hacks⟩ := h.free_of_receiving hs
    exact resume_sound (finishListening_free _ hfree hacks)
  · rename_i hs
    obtain ⟨hfree, hu, hf⟩ := h.free_of_waitingForBackoff hs hin
    have hfree' := finishListening_free (w := w) (t := ⟨{ r with incoming := none }, []⟩)
      (d := d.set .reception none) r.incoming hfree hu.acks
    obtain ⟨acks, c, hr, -, hsame⟩ := finishListening_eq (w := w) (t := ⟨{ r with incoming := none }, []⟩)
      (d := d.set .reception none) r.incoming hu.waitingForAck
    generalize finishListening w r.incoming ⟨{ r with incoming := none }, []⟩ = t at hfree' hr ⊢
    split
    · refine resume_sound ⟨hfree'.incoming, hfree'.alarms, ?_, hfree'.acks⟩
      constructor <;> simp [duties, hr, hu.waitingForAck, hu.retransmitPending, hf]
    · rename_i hcond
      have hacks : acks = [] := by
        by_contra hne
        simp [hr, hne, Option.isSome_iff_ne_none, hin] at hcond
        exact hne ((hsame (.inl hcond)).trans hu.acks)
      obtain ⟨hnone, hack⟩ := hfree'.alarms_eq
      refine resumeCountdown_sound hfree'.incoming ?_ ?_ ?_ fun k => ?_
      · rw [hr]
        exact hs
      · rw [hr]
        exact ⟨hacks, hu.2, hu.3, hu.4⟩
      · rw [hr]
        exact hf
      · by_cases hk : k = .ackTimeout
        · subst hk
          simpa [hr, hu.waitingForAck] using hack
        · exact hnone k hk
  · rename_i hne₁ hne₂
    have hs : r.status = .waitingForDifs := by
      unfold Orderly at ho
      cases hs : r.status <;> simp_all
    obtain ⟨hdifs, hnone, hu, hf, hc⟩ := h.of_waitingForDifs hs
    constructor <;> simp [Timer.forall_iff, dictated, Orderly, listening, isReceiving, hs, hdifs, hnone, hf]
    exact ⟨hu.1, hu.2, hu.3, hu.4⟩

/-- When the medium has been idle for long enough, a radio is sound or ready for a countdown. -/
lemma difsElapsed_sound (h : r.Sound d) (hk : (d .difs).isSome) :
    Move.Sound (difsElapsed w { radio := r }) (d.set .difs none) := by
  obtain ⟨-, hnone, hu, hf, -⟩ := h.of_waitingForDifs (h.expects hk)
  have hnone' : ∀ k, k ≠ .reception → d.set .difs none k = none := fun k hk => by
    by_cases hd : Timer.difs = k
    · subst hd
      simp
    · simpa [hd] using hnone k (Ne.symm hd) hk
  unfold difsElapsed
  split
  · exact ⟨hu, hf, hnone', h.reception⟩
  · rename_i hfree
    have hin : r.incoming = none := by
      simp only [Bool.or_eq_true, isReceiving, not_or] at hfree
      simpa using hfree.2
    refine transmitHead_sound ⟨hu, hf, fun k => ?_, hin⟩
    by_cases hk : k = .reception
    · subst hk
      simp [h.reception, hin]
    · exact hnone' k hk

/-- At the end of a countdown a radio sends, and is sound. -/
lemma backoffElapsed_sound (h : r.Sound d) (hk : (d .backoff).isSome) :
    Move.Sound (transmitHead w { radio := r }) (d.set .backoff none) := by
  obtain ⟨hs, hin⟩ := h.expects hk
  obtain ⟨-, hnone, hu, hf⟩ := h.of_waitingForBackoff hs
  refine transmitHead_sound ⟨hu, hf, fun k => ?_, hin⟩
  by_cases hb : Timer.backoff = k
  · subst hb
    simp
  · by_cases hk : k = .reception
    · subst hk
      simp [h.reception, hin]
    · simpa [hb] using hnone k (Ne.symm hb) hk

/-- At the end of a transmission a radio waits for an acknowledgement, and is sound. -/
lemma transmissionEnded_sound (h : r.Sound d) (hk : (d .transmission).isSome) :
    Move.Sound (transmissionEnded w { radio := r }) (d.set .transmission none) := by
  have hs : r.status = .sendingMessage := h.expects hk
  have ho := h.orderly
  simp only [Orderly, hs] at ho
  obtain ⟨hu, hf, hin⟩ := ho
  have hnone : ∀ k, k ≠ .transmission → d k = none := fun k hk =>
    h.eq_none (by simp [Radio.dictated, hs, hk])
  unfold transmissionEnded
  dsimp only
  constructor <;> simp [Timer.forall_iff, dictated, Orderly, hnone, hin, hu.acks]
  constructor <;> simp [duties, hu.retransmitPending, hu.backoffPaused, hf]

/-- While an acknowledgement is awaited nothing else is put off. -/
lemma Owing.of_waitingForAck (h : r.Owing) (hw : r.waitingForAck) :
    r.retransmitPending = false ∧ r.backoffPaused = false ∧ r.outgoing ≠ [] := by
  obtain ⟨hone, -, hf⟩ := owing_cases h
  simp only [hw, Bool.true_eq_false, false_or] at hone
  exact ⟨hone.1, hone.2, hf (.inl hw)⟩

/-- An acknowledgement can be awaited while a frame is received or acknowledged. -/
lemma Sound.of_waitingForAck (h : r.Sound d) (hw : r.waitingForAck) :
    r.Owing ∧ (r.status = .waitingForAck ∨ r.status = .receivingMessage ∨
      r.status = .waitingForSifs ∨ r.status = .sendingAck) := by
  have ho := h.orderly
  unfold Orderly at ho
  cases hs : r.status <;> simp_all [unburdened_iff]

/-- A radio that misses its acknowledgement is sound, or ready for a countdown. -/
lemma ackTimedOut_sound (h : r.Sound d) (hk : (d .ackTimeout).isSome) :
    Move.Sound (ackTimedOut w { radio := r }) (d.set .ackTimeout none) := by
  have hw : r.waitingForAck := h.expects hk
  have ho := h.orderly
  obtain ⟨how, hst⟩ := h.of_waitingForAck hw
  obtain ⟨hre, hp, hf⟩ := how.of_waitingForAck hw
  unfold ackTimedOut
  dsimp only
  split
  · rename_i hs
    have hs : r.status = .waitingForAck := hs
    simp only [Orderly, hs] at ho
    obtain ⟨-, hacks, -, hin⟩ := ho
    refine ⟨⟨hacks, rfl, hre, hp⟩, hf, fun k hk => ?_, ?_⟩
    · by_cases hk : Timer.ackTimeout = k
      · simp [hk]
      · simpa [hk] using h.eq_none (k := k) (by simp [dictated, hs, Ne.symm hk])
    · simpa using h.reception
  · rename_i hs
    have hs : r.status ≠ .waitingForAck := hs
    have how' : Owing { r with waitingForAck := false, retransmitPending := true } := by
      constructor <;> simp [duties, hp, hf]
    have hal := h.dictated
    have hrec := h.reception
    have hback := @Sound.backoff _ _ h
    clear h hk
    rcases hst with hst | hst | hst | hst
    · exact absurd hst hs
    all_goals
      simp only [Timer.forall_iff, dictated, hst, awaiting] at hal
      simp only [Orderly, hst] at ho
      constructor <;> simp_all [Timer.forall_iff, dictated, Orderly, awaiting, isReceiving]
      exact how'.congr rfl rfl

/-- A radio that sends an acknowledgement is sound. -/
lemma sifsElapsed_sound (h : r.Sound d) (hk : (d .sifs).isSome) :
    Move.Sound (sifsElapsed w { radio := r }) (d.set .sifs none) := by
  have hs : r.status = .waitingForSifs := h.expects hk
  have ho := h.orderly
  simp only [Orderly, hs] at ho
  obtain ⟨how, hacks, hin⟩ := ho
  obtain ⟨ack, hacks⟩ := List.length_eq_one_iff.1 hacks
  have hal := h.dictated
  simp only [Timer.forall_iff, dictated, hs, awaiting] at hal
  simp only [sifsElapsed, hacks]
  constructor <;> simp_all [Timer.forall_iff, dictated, Orderly, awaiting]
  exact how.congr rfl rfl

/-- At the end of its acknowledgement a radio turns to its next duty, and is sound. -/
lemma ackTransmissionEnded_sound (h : r.Sound d) (hk : (d .ackTransmission).isSome) :
    Move.Sound (resume w { radio := r }) (d.set .ackTransmission none) := by
  have hs : r.status = .sendingAck := h.expects hk
  have ho := h.orderly
  simp only [Orderly, hs] at ho
  obtain ⟨how, hacks, hin⟩ := ho
  refine resume_sound ⟨hin, fun k => ?_, how, by simp [hacks]⟩
  by_cases hk : Timer.ackTransmission = k
  · subst hk
    simp
  · simp [hk, h.dictated, dictated, hs, awaiting, Ne.symm hk, and_comm]

/-- Whatever timer runs out, a sound radio stays sound, or turns to a countdown. -/
theorem expire_sound {k : Timer} (h : r.Sound d) (hk : (d k).isSome) :
    Move.Sound (expire w { radio := r } k) (d.set k none) := by
  cases k with
  | difs => exact difsElapsed_sound h hk
  | backoff => exact backoffElapsed_sound h hk
  | transmission => exact transmissionEnded_sound h hk
  | ackTimeout => exact ackTimedOut_sound h hk
  | reception => exact receptionEnded_sound h hk
  | sifs => exact sifsElapsed_sound h hk
  | ackTransmission => exact ackTransmissionEnded_sound h hk

end CarrierSense.Radio
