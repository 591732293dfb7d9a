import CarrierSense.Proofs.Network.Firing
import CarrierSense.Proofs.Radio.Listening

/-!
# Countdowns of a radio

What one moment can make of a radio, as a relation (`Change`) with one constructor for each thing that can
happen to it, and what this means for its countdown. A countdown that is not drawn in the moment was there
before, and is shorter by the ticks for which it ran until it was stopped; one that goes on after a stop
starts another idle time later. The idle time before an attempt runs to its end, whatever is heard, and a
radio launches a frame at the end of an undisturbed one, or at the end of a countdown.
-/

namespace CarrierSense.Radio

/-- Whether a countdown runs, or is about to after an idle time. -/
def isCounting (r : Radio) : Bool := r.status = .waitingForBackoff && !r.isReceiving

/-- Whether the radio has a countdown to finish, which runs, is paused or has been put off. -/
def hasCountdown (r : Radio) : Bool := r.status = .waitingForBackoff || r.backoffPaused

/-- For how many ticks a countdown ran that is stopped or ends: none are counted before its start. -/
def ranFor (now : Nat) (r r' : Radio) : Nat :=
  if r.isCounting && !r'.isCounting then now - r.backoffStarted else 0

variable {w : Setting} {timing : Timing} {now n : Nat} {r r' : Radio} {d d' : Alarms} {f : Frame} {k : Timer}
  {t : Turn} {heard : Option Hearing} {drawn : Option Nat} {restarts : Bool}

/-- What one moment at the tick `now` makes of the radio `r` with the alarms `d`: whether it begins to hear
a frame, and the length of the countdown that it draws. All radios are switched off and on if a run starts. -/
inductive Change (timing : Timing) (now : Nat) (restarts : Bool) (r : Radio) (d : Alarms) :
    Option Hearing → Option Nat → Radio → Alarms → Prop where
  | still : Change timing now restarts r d none none r d
  | restarted (h : restarts = true) : Change timing now restarts r d none none (powerOn timing) fun _ => none
  | queued (w : Setting) (f : Frame) (ht : w.timing = timing) (hn : w.now = now) :
      Change timing now restarts r d none none (enqueue w f r).radio ((enqueue w f r).alarms d)
  | heard (w : Setting) (h : Hearing) (ht : w.timing = timing) (hn : w.now = now) (hd : r.isDeaf = false)
      (hslot : r.timers.backoff.isSome = (d .backoff).isSome) :
      Change timing now restarts r d (some h) none (receive w h.frame { radio := r }).radio
        ((receive w h.frame { radio := r }).alarms d)
  | expired (w : Setting) (k : Timer) (ht : w.timing = timing) (hn : w.now = now) (hk : d k = some now)
      (hs : (expire w { radio := r } k).2 ≠ .contend) :
      Change timing now restarts r d none none (expire w { radio := r } k).1.radio
        ((expire w { radio := r } k).1.alarms (d.set k none))
  | drew (w : Setting) (k : Timer) (n : Nat) (ht : w.timing = timing) (hn : w.now = now)
      (hk : d k = some now) (hs : (expire w { radio := r } k).2 = .contend) (hlow : 1 ≤ n)
      (hhigh : n ≤ max (expire w { radio := r } k).1.radio.window 1) :
      Change timing now restarts r d none (some n) (beginCountdown w n (expire w { radio := r } k).1).radio
        ((beginCountdown w n (expire w { radio := r } k).1).alarms (d.set k none))

/-- A countdown that runs is one that has to be finished. -/
lemma hasCountdown_of_isCounting (h : r.isCounting = true) : r.hasCountdown = true := by
  simp only [isCounting, Bool.and_eq_true] at h
  simp only [hasCountdown, h.1, Bool.true_or]

/-- Countdowns are put off only for an acknowledgement. -/
lemma Sound.hasCountdown_status (h : r.Sound d) (hc : r.hasCountdown = true) :
    r.status ∈ [.waitingForBackoff, .waitingForSifs, .sendingAck] := by
  have ho := h.orderly
  unfold Orderly at ho
  simp only [hasCountdown, Bool.or_eq_true, decide_eq_true_eq] at hc
  cases hs : r.status <;> simp only [hs] at ho hc ⊢ <;>
    simp_all [unburdened_iff, owing_iff, duties, List.count_cons]

/-- What becomes of countdown and attempt of a radio in a moment at the tick `now` in which it draws no
countdown. -/
structure Proceeds (timing : Timing) (now : Nat) (r : Radio) (d : Alarms) (heard : Option Hearing)
    (r' : Radio) (d' : Alarms) : Prop where
  /-- A countdown was there before, and loses the ticks for which it ran. -/
  length : r'.hasCountdown = true →
    r.hasCountdown = true ∧ r'.backoffRemaining + ranFor now r r' = r.backoffRemaining
  /-- A countdown that goes on starts another idle time later. -/
  start : r'.isCounting = true →
    r'.backoffStarted = if r.isCounting then r.backoffStarted else now + timing.difs
  /-- An attempt begins undisturbed; and one that has begun keeps its end, and is disturbed by what is
  heard. -/
  attempt : r'.status = .waitingForDifs →
    (r.status ≠ .waitingForDifs ∧ heard = none ∧ r'.collision = false ∧
      d' .difs = some (now + timing.difs)) ∨
    (r.status = .waitingForDifs ∧ d' .difs = d .difs ∧ r'.collision = (r.collision || heard.isSome))
  /-- A frame is launched at the end of an undisturbed attempt, or of a countdown. -/
  launch : r'.status = .sendingMessage → r.status ≠ .sendingMessage →
    (r.status = .waitingForDifs ∧ r.collision = false ∧ d .difs = some now) ∨
    (r.isCounting = true ∧ d .backoff = some now)

/-- A radio that is done with countdown and attempt. -/
lemma Proceeds.of_done (hc : r'.hasCountdown = false) (hd : r'.status ≠ .waitingForDifs)
    (hs : r'.status = .sendingMessage → r.status = .sendingMessage) :
    Proceeds timing now r d heard r' d' where
  length := fun h => by simp [hc] at h
  start := fun h => by simp [hasCountdown_of_isCounting h] at hc
  attempt := fun h => absurd h hd
  launch := fun h hn => absurd (hs h) hn

/-- A radio whose status, countdown and attempt stay as they are. -/
lemma Proceeds.of_same (hs : r'.status = r.status) (hp : r'.backoffPaused = r.backoffPaused)
    (hn : r'.backoffRemaining = r.backoffRemaining) (hb : r'.backoffStarted = r.backoffStarted)
    (hin : r'.incoming = r.incoming) (hc : r.status = .waitingForDifs → r'.collision = r.collision)
    (hd : d' .difs = d .difs) : Proceeds timing now r d none r' d' := by
  have hcount : r'.isCounting = r.isCounting := by simp only [isCounting, isReceiving, hs, hin]
  have hhas : r'.hasCountdown = r.hasCountdown := by simp only [hasCountdown, hs, hp]
  refine ⟨fun h => ⟨hhas ▸ h, ?_⟩, fun h => ?_, fun h => .inr ⟨hs ▸ h, hd, ?_⟩, fun h hn => absurd (hs ▸ h) hn⟩
  · simp [ranFor, hcount, hn]
  · rw [← hcount, if_pos h, hb]
  · simpa using hc (hs ▸ h)

/-- A frame that joins the queue leaves a countdown as it is, or begins an attempt. -/
lemma enqueue_proceeds (hr : r.Sound d) :
    Proceeds w.timing w.now r d none (enqueue w f r).radio ((enqueue w f r).alarms d) := by
  rw [enqueue_eq]
  split
  · rename_i hs
    have hpaused : r.backoffPaused = false := by
      have ho := hr.orderly
      simp only [Orderly, hs] at ho
      exact ho.1.backoffPaused
    refine ⟨fun h => ?_, fun h => ?_, fun _ => .inl ⟨by simp [hs], rfl, rfl, ?_⟩, fun h => by cases h⟩
    · simp [hasCountdown, hpaused] at h
    · simp [isCounting] at h
    · simp [Turn.alarms]
  · exact .of_same rfl rfl rfl rfl rfl (fun _ => rfl) rfl

/-- Listening to a frame leaves the countdown alone. -/
lemma listen_countdown (w : Setting) (f : Frame) (t : Turn) :
    let u := (listen w f t).radio
    u.status = t.radio.status ∧ u.backoffPaused = t.radio.backoffPaused ∧
      u.backoffRemaining = t.radio.backoffRemaining ∧ u.isReceiving = true ∧
      (t.radio.collision = true → u.collision = true) ∧
      ∀ d, (listen w f t).alarms d .difs = t.alarms d .difs := by
  unfold listen
  dsimp only
  split
  · simp [track, isReceiving]
  · rename_i current hin
    split <;> simp [track, isReceiving, hin]

/-- A radio without a countdown has put none off. -/
lemma Sound.not_backoffPaused (hr : r.Sound d)
    (hs : r.status ∉ [.waitingForBackoff, .waitingForSifs, .sendingAck]) : r.backoffPaused = false := by
  have hnone : r.hasCountdown = false := by
    by_contra h
    exact hs (hr.hasCountdown_status (by simpa using h))
  simp only [hasCountdown, Bool.or_eq_false_iff] at hnone
  exact hnone.2

/-- A pause takes away the ticks for which the countdown ran, which are not more than were left. -/
lemma Sound.pauseCountdown_length (hr : r.Sound d) (hs : r.status = .waitingForBackoff)
    (hnow : ∀ {time}, d .backoff = some time → w.now ≤ time)
    (hslot : r.timers.backoff.isSome = (d .backoff).isSome) :
    (pauseCountdown w { radio := r }).radio.backoffRemaining +
      (if r.isCounting then w.now - r.backoffStarted else 0) = r.backoffRemaining := by
  -- a countdown runs exactly if its timer is set
  have hcount : r.isCounting = r.timers.backoff.isSome := by
    obtain ⟨hset, -⟩ := hr.of_waitingForBackoff hs
    rw [hslot]
    cases hin : r.incoming <;> simp_all [isCounting, isReceiving]
  unfold pauseCountdown
  rw [hcount]
  split
  · rename_i hrun
    rw [hslot] at hrun
    obtain ⟨time, htime⟩ := Option.isSome_iff_exists.1 hrun
    have hend := hr.backoff htime
    have hlate := hnow htime
    simp only [Turn.radio_edit, Turn.radio_ask]
    omega
  · rfl

/-- A frame that begins to be heard stops a countdown, or spoils an attempt. -/
lemma receive_proceeds {h : Hearing} (hr : r.Sound d) (hnow : ∀ {time}, d .backoff = some time → w.now ≤ time)
    (hd : r.isDeaf = false) (hslot : r.timers.backoff.isSome = (d .backoff).isSome) :
    Proceeds w.timing w.now r d (some h) (receive w h.frame { radio := r }).radio
      ((receive w h.frame { radio := r }).alarms d) := by
  -- a radio that was free, or was receiving, has no countdown and no attempt
  have hfree : ∀ {t : Turn}, r.backoffPaused = false → t.radio.backoffPaused = r.backoffPaused →
      t.radio.status = .receivingMessage →
      Proceeds w.timing w.now r d (some h) (listen w h.frame t).radio ((listen w h.frame t).alarms d) := by
    intro t hp hpt hst
    obtain ⟨hs, hpaused, -⟩ := listen_countdown w h.frame t
    refine .of_done ?_ ?_ fun hsend => ?_
    · simp [hasCountdown, hs, hpaused, hst, hpt, hp]
    · simp [hs, hst]
    · simp [hs, hst] at hsend
  rw [receive_eq]
  split
  · rename_i hs
    exact absurd hd (by simp [isDeaf, show r.status = _ from hs])
  · rename_i hs
    exact absurd hd (by simp [isDeaf, show r.status = _ from hs])
  · rename_i hs
    exact absurd hd (by simp [isDeaf, show r.status = _ from hs])
  · rename_i hs
    have hs : r.status = .idle := hs
    exact hfree (hr.not_backoffPaused (by simp [hs])) (by simp) (by simp)
  · rename_i hs
    have hs : r.status = .waitingForAck := hs
    exact hfree (hr.not_backoffPaused (by simp [hs])) (by simp) (by simp)
  · rename_i hs
    have hs : r.status = .receivingMessage := hs
    exact hfree (hr.not_backoffPaused (by simp [hs])) rfl hs
  · rename_i hs
    have hs : r.status = .waitingForDifs := hs
    obtain ⟨hs', hp, -, -, hc, hal⟩ := listen_countdown w h.frame
      ((({ radio := r } : Turn).ask (.count .deferrals)).edit fun r => { r with collision := true })
    have hs' : (listen w h.frame _).radio.status = .waitingForDifs := hs'.trans hs
    refine ⟨fun hhas => ?_, fun hcount => ?_, fun _ => .inr ⟨hs, ?_, ?_⟩, fun hsend => ?_⟩
    · have hp' : (listen w h.frame _).radio.backoffPaused = false :=
        hp.trans (hr.not_backoffPaused (by simp [hs]))
      simp [hasCountdown, hs', hp'] at hhas
    · simp [isCounting, hs'] at hcount
    · simpa using hal d
    · simpa using hc rfl
    · rw [hs'] at hsend
      cases hsend
  · rename_i hs
    have hs : r.status = .waitingForBackoff := hs
    obtain ⟨hs', -, hn, hin, -, -⟩ := listen_countdown w h.frame (pauseCountdown w { radio := r })
    have hpause : (pauseCountdown w { radio := r }).radio.status = .waitingForBackoff := by
      unfold pauseCountdown
      split <;> exact hs
    rw [hpause] at hs'
    refine ⟨fun _ => ⟨by simp [hasCountdown, hs], ?_⟩, fun hcount => ?_, fun hdifs => ?_, fun hsend => ?_⟩
    · have hstill : (listen w h.frame (pauseCountdown w { radio := r })).radio.isCounting = false := by
        simp [isCounting, hin]
      rw [hn, ranFor, hstill, Bool.not_false, Bool.and_true]
      exact hr.pauseCountdown_length hs hnow hslot
    · simp [isCounting, hin] at hcount
    · rw [hs'] at hdifs
      cases hdifs
    · rw [hs'] at hsend
      cases hsend

/-- The head of a queue goes on the air at the end of an attempt or of a countdown. -/
lemma transmitHead_proceeds (hq : r.outgoing ≠ []) (hp : r.backoffPaused = false)
    (hl : (r.status = .waitingForDifs ∧ r.collision = false ∧ d .difs = some now) ∨
      (r.isCounting = true ∧ d .backoff = some now)) :
    Proceeds timing now r d none (transmitHead w { radio := r }).1.radio d' := by
  obtain ⟨f, rest, hq⟩ := List.exists_cons_of_ne_nil hq
  simp only [transmitHead, hq]
  refine ⟨fun h => ?_, fun h => ?_, fun h => ?_, fun _ _ => hl⟩
  · simp [hasCountdown, hp] at h
  · simp [isCounting] at h
  · simp at h

/-- What a radio is like that has turned to its next duty without drawing a countdown. -/
lemma resume_rests (hs : (resume w t).2 ≠ .contend) :
    let u := (resume w t).1
    u.radio.backoffRemaining = t.radio.backoffRemaining ∧
      (u.radio.hasCountdown = true → t.radio.backoffPaused = true) ∧
      (u.radio.isCounting = true → u.radio.backoffStarted = w.now + w.timing.difs) ∧
      u.radio.status ≠ .sendingMessage ∧
      (u.radio.status = .waitingForDifs →
        u.radio.collision = false ∧ ∀ d, u.alarms d .difs = some (w.now + w.timing.difs)) := by
  revert hs
  unfold resume
  split
  · simp [hasCountdown, isCounting]
  split
  · simp [hasCountdown, isCounting]
  split
  · rename_i hp
    simp [resumeCountdown, hp]
  split
  · simp
  · rename_i hp _
    unfold trySend
    split <;> simp [hasCountdown, isCounting, hp]

/-- A radio that turns to its next duty begins an attempt, or goes on with a countdown that was put off. -/
lemma resume_proceeds (hs : (resume w t).2 ≠ .contend) (hn : t.radio.backoffRemaining = r.backoffRemaining)
    (hp : t.radio.backoffPaused = true → r.hasCountdown = true) (hc : r.isCounting = false)
    (hd : r.status ≠ .waitingForDifs) :
    Proceeds w.timing w.now r d none (resume w t).1.radio ((resume w t).1.alarms d') := by
  obtain ⟨hlength, hhas, hstart, hsend, hattempt⟩ := resume_rests hs
  refine ⟨fun h => ⟨hp (hhas h), ?_⟩, fun h => ?_, fun h => .inl ⟨hd, rfl, ?_⟩, fun h => absurd h hsend⟩
  · simp [ranFor, hc, hlength, hn]
  · rw [hc, hstart h]
    rfl
  · exact ⟨(hattempt h).1, (hattempt h).2 d'⟩

/-- What is done with a frame that was heard leaves the countdown alone. -/
lemma finishListening_countdown (w : Setting) (heard : Option Incoming) (t : Turn) :
    (finishListening w heard t).radio.backoffPaused = t.radio.backoffPaused ∧
      (finishListening w heard t).radio.backoffRemaining = t.radio.backoffRemaining := by
  unfold finishListening
  split
  · exact ⟨rfl, rfl⟩
  · split
    · rename_i x
      rcases accept_cases w x.frame t with he | ⟨-, -, -, -, he⟩ | ⟨-, -, he⟩ <;> rw [he] <;> exact ⟨rfl, rfl⟩
    · exact ⟨rfl, rfl⟩

/-- The end of a reception takes up the countdown that it has stopped. -/
lemma receptionEnded_proceeds (hr : r.Sound d) (hk : (d .reception).isSome)
    (hs : (receptionEnded w { radio := r }).2 ≠ .contend) :
    Proceeds w.timing w.now r d none (receptionEnded w { radio := r }).1.radio
      ((receptionEnded w { radio := r }).1.alarms (d.set .reception none)) := by
  have hin : r.isReceiving = true := Option.isSome_iff_ne_none.2 (hr.expects hk)
  have hcount : r.isCounting = false := by simp [isCounting, hin]
  obtain ⟨hp, hn⟩ := finishListening_countdown w r.incoming { radio := { r with incoming := none } }
  obtain ⟨-, -, hnone, hst⟩ := finishListening_clear (w := w)
    (t := { radio := { r with incoming := none } }) r.incoming
  revert hs
  unfold receptionEnded
  dsimp only [Turn.edit]
  generalize finishListening w r.incoming { radio := { r with incoming := none } } = u at hp hn hnone hst
  split
  · rename_i hs
    intro hrest
    have hs : r.status = .receivingMessage := hs
    have hpaused : r.backoffPaused = false := hr.not_backoffPaused (by simp [hs])
    exact resume_proceeds hrest hn (fun h => by simp [hp, hpaused] at h) hcount (by simp [hs])
  · rename_i hs
    have hs : r.status = .waitingForBackoff := hs
    have hhas : r.hasCountdown = true := by simp [hasCountdown, hs]
    split
    · intro hrest
      exact resume_proceeds hrest hn (fun _ => hhas) hcount (by simp [hs])
    · intro _
      refine ⟨fun _ => ⟨hhas, ?_⟩, fun _ => ?_, fun h => ?_, fun h => ?_⟩
      · simp [resumeCountdown, ranFor, hcount, hn]
      · simp [resumeCountdown, hcount]
      · simp [resumeCountdown, hst, hs] at h
      · simp [resumeCountdown, hst, hs] at h
  · rename_i hne₁ hne₂
    intro _
    have hstatus : r.status ≠ .waitingForBackoff := hne₂
    refine ⟨fun h => ?_, fun h => ?_, fun h => .inr ⟨h, by simp, by simp⟩, fun h hn => absurd h hn⟩
    · have h : r.hasCountdown = true := h
      exact ⟨h, by simp [ranFor, hcount]⟩
    · simp [isCounting, hstatus] at h

/-- A missed acknowledgement leaves no countdown, unless one is drawn. -/
lemma ackTimedOut_proceeds (hr : r.Sound d) (hk : (d .ackTimeout).isSome)
    (hs : (ackTimedOut w { radio := r }).2 ≠ .contend) :
    Proceeds w.timing w.now r d none (ackTimedOut w { radio := r }).1.radio
      ((ackTimedOut w { radio := r }).1.alarms (d.set .ackTimeout none)) := by
  obtain ⟨how, hst⟩ := hr.of_waitingForAck (hr.expects hk)
  obtain ⟨-, hp, -⟩ := how.of_waitingForAck (hr.expects hk)
  revert hs
  simp only [ackTimedOut]
  split
  · simp
  · rename_i hs
    intro _
    have hs : r.status ≠ .waitingForAck := hs
    refine .of_done ?_ ?_ fun h => h
    · rcases hst with hst | hst | hst | hst <;> simp_all [hasCountdown]
    · rcases hst with hst | hst | hst | hst <;> simp [hst]

/-- The end of the short pause leaves a countdown as it is. -/
lemma sifsElapsed_proceeds (hr : r.Sound d) (hk : (d .sifs).isSome) :
    Proceeds w.timing w.now r d none (sifsElapsed w { radio := r }).1.radio
      ((sifsElapsed w { radio := r }).1.alarms (d.set .sifs none)) := by
  have hs : r.status = .waitingForSifs := hr.expects hk
  have ho := hr.orderly
  simp only [Orderly, hs] at ho
  obtain ⟨a, hacks⟩ := List.length_eq_one_iff.1 ho.2.1
  simp only [sifsElapsed, hacks]
  refine ⟨fun h => ?_, fun h => ?_, fun h => ?_, fun h => ?_⟩
  · have h : r.backoffPaused = true := by simpa [hasCountdown] using h
    exact ⟨by simp [hasCountdown, h], by simp [ranFor, isCounting, hs]⟩
  · simp [isCounting] at h
  · simp at h
  · simp at h

/-- Whatever timer runs out, if no countdown is drawn. -/
lemma expire_proceeds (hr : r.Sound d) (hk : d k = some w.now)
    (hs : (expire w { radio := r } k).2 ≠ .contend) :
    Proceeds w.timing w.now r d none (expire w { radio := r } k).1.radio
      ((expire w { radio := r } k).1.alarms (d.set k none)) := by
  have hset : (d k).isSome := by simp [hk]
  have hexp := hr.expects hset
  cases k with
  | difs =>
    obtain ⟨-, -, hu, hq, -⟩ := hr.of_waitingForDifs hexp
    revert hs
    simp only [expire, difsElapsed]
    split
    · simp
    · rename_i hfree
      intro _
      have hc : r.collision = false := by
        simp only [Bool.or_eq_true, not_or] at hfree
        simpa using hfree.1
      exact transmitHead_proceeds hq hu.backoffPaused (.inl ⟨hexp, hc, hk⟩)
  | backoff =>
    obtain ⟨hst, hin⟩ := hexp
    obtain ⟨-, -, hu, hq⟩ := hr.of_waitingForBackoff hst
    exact transmitHead_proceeds hq hu.backoffPaused
      (.inr ⟨by simp [isCounting, isReceiving, hst, hin], hk⟩)
  | transmission =>
    have hst : r.status = .sendingMessage := hexp
    refine .of_done ?_ ?_ ?_
    · simp [expire, transmissionEnded, hasCountdown, hr.not_backoffPaused (by simp [hst])]
    · simp [expire, transmissionEnded]
    · simp [expire, transmissionEnded]
  | ackTimeout => exact ackTimedOut_proceeds hr hset hs
  | reception => exact receptionEnded_proceeds hr hset hs
  | sifs => exact sifsElapsed_proceeds hr hset
  | ackTransmission =>
    have hst : r.status = .sendingAck := hexp
    exact resume_proceeds hs rfl (fun hp => by simp [hasCountdown, show r.backoffPaused = true from hp])
      (by simp [isCounting, hst]) (by simp [hst])

/-- Whatever happens in a moment in which no countdown is drawn. -/
theorem Change.proceeds (hr : r.Sound d) (hnow : ∀ {time}, d .backoff = some time → now ≤ time)
    (h : Change timing now restarts r d heard none r' d') : Proceeds timing now r d heard r' d' := by
  cases h with
  | still => exact .of_same rfl rfl rfl rfl rfl (fun _ => rfl) rfl
  | restarted => exact .of_done rfl (by simp [powerOn]) (by simp [powerOn])
  | queued w f ht hn =>
    subst ht hn
    exact enqueue_proceeds hr
  | heard w h ht hn hd hslot =>
    subst ht hn
    exact receive_proceeds hr hnow hd hslot
  | expired w k ht hn hk hs =>
    subst ht hn
    exact expire_proceeds hr hk hs

/-- A countdown that is drawn in a moment: it starts at once, unless a frame is being heard. -/
theorem Change.draws (h : Change timing now restarts r d heard (some n) r' d') :
    heard = none ∧ r'.status = .waitingForBackoff ∧ r'.backoffRemaining = n ∧ 1 ≤ n ∧
      n ≤ max r'.window 1 ∧ (r'.isCounting = true → r'.backoffStarted = now) := by
  cases h with
  | drew w k n ht hn hk hs hlow hhigh =>
    subst hn
    unfold beginCountdown
    dsimp only
    split
    · rename_i hin
      have hin : (expire w { radio := r } k).1.radio.incoming.isSome = true := by simpa [isReceiving] using hin
      simp [hlow, hhigh, isCounting, isReceiving, hin]
    · simp [hlow, hhigh]

/-- Only its own timer ends an attempt whose radio stays switched on. -/
lemma expire_leaves (hr : r.Sound d) (hs : r.status = .waitingForDifs) (hk : (d k).isSome)
    (hne : k ≠ .difs) : (expire w { radio := r } k).2 ≠ .contend ∧
      (expire w { radio := r } k).1.radio.status = .waitingForDifs := by
  obtain ⟨-, hnone, -⟩ := hr.of_waitingForDifs hs
  by_cases hrec : k = .reception
  · subst hrec
    simp [expire, receptionEnded, Turn.edit, hs]
  · simp [hnone k hne hrec] at hk

/-- At the end of an attempt, the collision flag tells whether anything has been heard. -/
lemma Sound.difsElapsed_eq (hr : r.Sound d) (hs : r.status = .waitingForDifs) (w : Setting) :
    difsElapsed w { radio := r } =
      if r.collision then ({ radio := r }, .contend) else transmitHead w { radio := r } := by
  obtain ⟨-, -, -, -, hspoiled⟩ := hr.of_waitingForDifs hs
  have hin : (r.collision || r.isReceiving) = r.collision := by
    cases hc : r.collision with
    | true => rfl
    | false =>
      have hnone : r.incoming = none := by
        by_contra hin
        exact absurd (hspoiled hin) (by simp [hc])
      simp [isReceiving, hnone]
  simp only [difsElapsed, hin]

/-- An attempt ends with its idle time, unless the radio is switched off: if anything has been heard a
countdown is drawn, and otherwise the frame is launched. -/
theorem Change.leaves (hr : r.Sound d) (h : Change timing now restarts r d heard drawn r' d')
    (hs : r.status = .waitingForDifs) (hs' : r'.status ≠ .waitingForDifs) :
    restarts = true ∨
      d .difs = some now ∧ if r.collision then drawn.isSome else r'.status = .sendingMessage := by
  obtain ⟨-, -, -, hq, -⟩ := hr.of_waitingForDifs hs
  obtain ⟨f, rest, hq⟩ := List.exists_cons_of_ne_nil hq
  cases h with
  | still => exact absurd hs hs'
  | restarted h => exact .inl h
  | queued w f =>
    rw [enqueue_eq, if_neg (by simp [hs])] at hs'
    exact absurd hs hs'
  | heard w h =>
    refine absurd ?_ hs'
    rw [receive_eq]
    simp only [hs]
    exact (listen_countdown w h.frame _).1.trans hs
  | expired w k ht hn hk hrest =>
    by_cases hdifs : k = .difs
    · subst hdifs
      simp only [expire, hr.difsElapsed_eq hs] at hrest ⊢
      cases hc : r.collision with
      | true => simp [hc] at hrest
      | false => exact .inr ⟨hk, by simp [transmitHead, hq]⟩
    · exact absurd (expire_leaves hr hs (by simp [hk]) hdifs).2 hs'
  | drew w k n ht hn hk hcontend =>
    by_cases hdifs : k = .difs
    · subst hdifs
      simp only [expire, hr.difsElapsed_eq hs] at hcontend
      cases hc : r.collision with
      | true => exact .inr ⟨hk, rfl⟩
      | false => simp [hc, transmitHead, hq] at hcontend
    · exact absurd hcontend (expire_leaves hr hs (by simp [hk]) hdifs).1

/-- A radio that counts has a timer for the end of its countdown. -/
lemma Sound.counting_ends (hr : r.Sound d) (hc : r.isCounting = true) :
    d .backoff = some (r.backoffStarted + r.backoffRemaining) := by
  simp only [isCounting, Bool.and_eq_true, decide_eq_true_eq] at hc
  obtain ⟨hset, -⟩ := hr.of_waitingForBackoff hc.1
  have hin : r.incoming = none := by simpa [isReceiving] using hc.2
  obtain ⟨time, htime⟩ := Option.isSome_iff_exists.1 (hset.2 hin)
  rw [htime, hr.backoff htime]

end CarrierSense.Radio
