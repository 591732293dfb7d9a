import CarrierSense.Proofs.Radio.Countdown

/-!
# The contention window of a radio

The contention window of a radio that stays switched on changes for two reasons only: a lost acknowledgement
doubles it, and an acknowledgement that settles the head of the queue makes it as small as it was at first.
Countdowns are drawn from it, and what is left of one never grows.
-/

namespace CarrierSense

/-- The contention window after `k` lost acknowledgements: doubled each time, up to the largest one. -/
def Timing.windowAfter (timing : Timing) (k : Nat) : Nat := min (timing.windowMin * 2 ^ k) timing.windowMax

/-- Before any loss the window is the first one. -/
lemma Timing.windowAfter_zero {timing : Timing} (h : timing.windowMin ≤ timing.windowMax) :
    timing.windowAfter 0 = timing.windowMin := by
  unfold windowAfter
  omega

namespace Radio

variable {w : Setting} {timing : Timing} {now n : Nat} {r r' : Radio} {d d' : Alarms} {f : Frame} {k : Timer}
  {t : Turn} {heard : Option Incoming} {restarts : Bool}

/-- Doubling stays exact: the limit of a contention window does not come in before the largest one. -/
lemma widened_windowAfter (h : timing.windowMax ≤ windowLimit) (k : Nat) :
    widened timing (timing.windowAfter k) = timing.windowAfter (k + 1) := by
  have hdouble : timing.windowMin * 2 ^ (k + 1) = 2 * (timing.windowMin * 2 ^ k) := by
    rw [Nat.pow_succ, ← Nat.mul_assoc, Nat.mul_comm]
  unfold widened Timing.windowAfter
  rw [hdouble]
  omega

/-- Whether the end of what is listened to settles the head of the queue: an acknowledgement for this interface
that was not spoiled, with the number that is waited for. -/
def takesAck (self : InterfaceId) (r : Radio) : Bool :=
  !r.collision && r.waitingForAck && r.incoming.any fun x =>
    x.frame.isFor self && x.frame.isAck && r.headId == some x.frame.id

/-- An acknowledgement that is waited for is heard while nothing else is done. -/
lemma Sound.takesAck_status (hr : r.Sound d) {self : InterfaceId} (h : r.takesAck self = true) :
    r.status = .receivingMessage := by
  have ho := hr.orderly
  simp only [takesAck, Bool.and_eq_true, Option.any_eq_true] at h
  obtain ⟨⟨-, hwait⟩, x, hin, -⟩ := h
  unfold Orderly at ho
  cases hs : r.status <;> simp_all [unburdened_iff]

/-- Window and countdown of a radio are as before. -/
structure SameContention (r r' : Radio) : Prop where
  window : r'.window = r.window
  remaining : r'.backoffRemaining = r.backoffRemaining

/-- To try to send leaves window and countdown alone. -/
lemma trySend_contention (w : Setting) (t : Turn) : t.radio.SameContention (trySend w t).radio := by
  unfold trySend
  split <;> constructor <;> simp

/-- To send the head of the queue leaves window and countdown alone. -/
lemma transmitHead_contention (w : Setting) (t : Turn) : t.radio.SameContention (transmitHead w t).1.radio := by
  unfold transmitHead
  split
  · exact trySend_contention w t
  · constructor <;> simp

/-- To turn to the next duty leaves window and countdown alone. -/
lemma resume_contention (w : Setting) (t : Turn) : t.radio.SameContention (resume w t).1.radio := by
  unfold resume
  split
  · constructor <;> simp
  split
  · constructor <;> simp
  split
  · constructor <;> simp [resumeCountdown]
  split
  · constructor <;> simp
  · exact trySend_contention w t

/-- The end of the long pause leaves window and countdown alone. -/
lemma difsElapsed_contention (w : Setting) (t : Turn) : t.radio.SameContention (difsElapsed w t).1.radio := by
  unfold difsElapsed
  split
  · exact ⟨rfl, rfl⟩
  · exact transmitHead_contention w t

/-- The end of the short pause leaves window and countdown alone. -/
lemma sifsElapsed_contention (w : Setting) (t : Turn) : t.radio.SameContention (sifsElapsed w t).1.radio := by
  unfold sifsElapsed
  split
  · exact resume_contention w t
  · constructor <;> simp

/-- A frame that joins the queue leaves window and countdown alone. -/
lemma enqueue_contention (w : Setting) (f : Frame) (r : Radio) : r.SameContention (enqueue w f r).radio := by
  rw [enqueue_eq]
  split <;> exact ⟨rfl, rfl⟩

/-- To listen to a frame leaves window and countdown alone. -/
lemma listen_contention (w : Setting) (f : Frame) (t : Turn) : t.radio.SameContention (listen w f t).radio := by
  unfold listen
  dsimp only
  split
  · exact ⟨rfl, rfl⟩
  · split <;> exact ⟨rfl, rfl⟩

/-- A frame that starts leaves the window alone, and may stop a countdown. -/
lemma receive_contention (w : Setting) (f : Frame) (t : Turn) :
    (receive w f t).radio.window = t.radio.window ∧
      (receive w f t).radio.backoffRemaining ≤ t.radio.backoffRemaining := by
  have hlisten : ∀ u : Turn, u.radio.window = t.radio.window →
      u.radio.backoffRemaining ≤ t.radio.backoffRemaining →
      (listen w f u).radio.window = t.radio.window ∧
        (listen w f u).radio.backoffRemaining ≤ t.radio.backoffRemaining := by
    intro u hw hn
    obtain ⟨hwindow, hremaining⟩ := listen_contention w f u
    exact ⟨hwindow.trans hw, hremaining ▸ hn⟩
  rw [receive_eq]
  split
  · exact ⟨rfl, Nat.le_refl _⟩
  · exact ⟨rfl, Nat.le_refl _⟩
  · exact ⟨rfl, Nat.le_refl _⟩
  · exact hlisten _ (by simp) (by simp)
  · exact hlisten _ (by simp) (by simp)
  · exact hlisten _ rfl (Nat.le_refl _)
  · exact hlisten _ rfl (Nat.le_refl _)
  · unfold pauseCountdown
    split
    · exact hlisten _ rfl (Nat.sub_le _ _)
    · exact hlisten _ rfl (Nat.le_refl _)

/-- A countdown is taken up with the length that it is given. -/
lemma beginCountdown_contention (w : Setting) (n : Nat) (t : Turn) :
    (beginCountdown w n t).radio.window = t.radio.window ∧ (beginCountdown w n t).radio.backoffRemaining = n := by
  unfold beginCountdown
  dsimp only
  split <;> simp

/-- An acknowledgement that settles the head of the queue makes the window small again. -/
lemma accept_window (w : Setting) (f : Frame) (t : Turn) :
    (accept w f t).radio.window =
      if t.radio.waitingForAck && (f.isFor w.self && f.isAck && t.radio.headId == some f.id) then
        w.timing.windowMin
      else t.radio.window := by
  unfold accept
  cases hfor : f.isFor w.self with
  | false => simp
  | true =>
    cases hack : f.isAck with
    | false => simp
    | true =>
      cases hw : t.radio.waitingForAck with
      | false => simp
      | true => cases hid : t.radio.headId == some f.id <;> simp

/-- A frame that has been heard resets the window if it is the acknowledgement that is waited for. -/
lemma finishListening_window (w : Setting) (heard : Option Incoming) (t : Turn) :
    (finishListening w heard t).radio.window =
      if !t.radio.collision && t.radio.waitingForAck && heard.any (fun x =>
        x.frame.isFor w.self && x.frame.isAck && t.radio.headId == some x.frame.id) then w.timing.windowMin
      else t.radio.window := by
  unfold finishListening
  cases hc : t.radio.collision with
  | true => simp
  | false =>
    cases heard with
    | none => simp
    | some x => simpa using accept_window w x.frame t

/-- The end of a reception resets the window if it settles the head of the queue. -/
lemma receptionEnded_window (hr : r.Sound d) (w : Setting) :
    (receptionEnded w { radio := r }).1.radio.window =
      if r.takesAck w.self then w.timing.windowMin else r.window := by
  have hheard := finishListening_window w r.incoming { radio := { r with incoming := none } }
  unfold receptionEnded
  dsimp only [Turn.edit]
  split
  · rw [(resume_contention _ _).window]
    exact hheard
  · split
    · rw [(resume_contention _ _).window]
      exact hheard
    · exact hheard
  · rename_i hne _
    have hnone : r.takesAck w.self ≠ true := fun h => hne (hr.takesAck_status h)
    rw [if_neg hnone]

/-- The end of a reception leaves a countdown with what it has left. -/
lemma receptionEnded_remaining (w : Setting) (r : Radio) :
    (receptionEnded w { radio := r }).1.radio.backoffRemaining = r.backoffRemaining := by
  obtain ⟨-, hheard⟩ := finishListening_countdown w r.incoming { radio := { r with incoming := none } }
  unfold receptionEnded
  dsimp only [Turn.edit]
  split
  · rw [(resume_contention _ _).remaining]
    exact hheard
  · split
    · rw [(resume_contention _ _).remaining]
      exact hheard
    · exact hheard
  · rfl

/-- The window after a timer has run out. -/
def windowAt (w : Setting) (r : Radio) : Timer → Nat
  | .ackTimeout => widened w.timing r.window
  | .reception => if r.takesAck w.self then w.timing.windowMin else r.window
  | _ => r.window

/-- A lost acknowledgement doubles the window, and one that settles the head of the queue resets it. -/
theorem expire_window (hr : r.Sound d) (w : Setting) (k : Timer) :
    (expire w { radio := r } k).1.radio.window = windowAt w r k := by
  cases k with
  | difs => exact (difsElapsed_contention _ _).window
  | backoff => exact (transmitHead_contention _ _).window
  | transmission => simp [expire, transmissionEnded, windowAt]
  | ackTimeout =>
    unfold expire ackTimedOut windowAt
    dsimp only
    split <;> rfl
  | reception => exact receptionEnded_window hr w
  | sifs => exact (sifsElapsed_contention _ _).window
  | ackTransmission => exact (resume_contention _ _).window

/-- No timer changes what is left of a countdown. -/
theorem expire_remaining (w : Setting) (r : Radio) (k : Timer) :
    (expire w { radio := r } k).1.radio.backoffRemaining = r.backoffRemaining := by
  cases k with
  | difs => exact (difsElapsed_contention _ _).remaining
  | backoff => exact (transmitHead_contention _ _).remaining
  | transmission => simp [expire, transmissionEnded]
  | ackTimeout =>
    unfold expire ackTimedOut
    dsimp only
    split <;> rfl
  | reception => exact receptionEnded_remaining w r
  | sifs => exact (sifsElapsed_contention _ _).remaining
  | ackTransmission => exact (resume_contention _ _).remaining

/-- A countdown that follows a turn leaves the window as the turn has left it. -/
lemma Ends.window {move : Move} (he : Ends w move t) : t.radio.window = move.1.radio.window := by
  cases he with
  | rest => rfl
  | contend => exact (beginCountdown_contention _ _ _).1

/-- The window and what is left of a countdown are within the limits of the timing. -/
structure InLimits (timing : Timing) (r : Radio) : Prop where
  low : timing.windowMin ≤ r.window
  high : r.window ≤ timing.windowMax
  remaining : r.backoffRemaining ≤ timing.windowMax

/-- A radio that was just switched on is within the limits. -/
lemma InLimits.powerOn (h : timing.windowMin ≤ timing.windowMax) : (powerOn timing).InLimits timing :=
  ⟨Nat.le_refl _, h, Nat.zero_le _⟩

/-- With the same window and countdown a radio stays within the limits. -/
lemma InLimits.same (h : r.InLimits timing) (hs : r.SameContention r') : r'.InLimits timing where
  low := hs.window ▸ h.low
  high := hs.window ▸ h.high
  remaining := hs.remaining ▸ h.remaining

/-- A timer that runs out leaves the window within the limits. -/
lemma InLimits.windowAt (h : r.InLimits w.timing) (hw : w.timing.windowMax ≤ windowLimit) (k : Timer) :
    w.timing.windowMin ≤ windowAt w r k ∧ windowAt w r k ≤ w.timing.windowMax := by
  obtain ⟨hlow, hhigh, -⟩ := h
  cases k with
  | ackTimeout =>
    have hwide : Radio.windowAt w r .ackTimeout = min (min (2 * r.window) windowLimit) w.timing.windowMax := rfl
    omega
  | reception =>
    unfold Radio.windowAt
    dsimp only
    split
    · exact ⟨Nat.le_refl _, Nat.le_trans hlow hhigh⟩
    · exact ⟨hlow, hhigh⟩
  | _ => exact ⟨hlow, hhigh⟩

/-- Whatever happens in a moment, the limits are kept. -/
theorem Change.inLimits {heard : Option Hearing} {drawn : Option Nat} (hr : r.Sound d) (hpos : 0 < timing.windowMin)
    (hmax : timing.windowMax ≤ windowLimit) (hl : r.InLimits timing)
    (h : Change timing now restarts r d heard drawn r' d') : r'.InLimits timing := by
  have hle := Nat.le_trans hl.low hl.high
  cases h with
  | still => exact hl
  | restarted => exact .powerOn hle
  | queued w f => exact hl.same (enqueue_contention w f r)
  | heard w h =>
    obtain ⟨hwindow, hremaining⟩ := receive_contention w h.frame { radio := r }
    exact ⟨hwindow ▸ hl.low, hwindow ▸ hl.high, Nat.le_trans hremaining hl.remaining⟩
  | expired w k ht =>
    subst ht
    obtain ⟨hlow, hhigh⟩ := hl.windowAt hmax k
    have hwindow := expire_window hr w k
    exact ⟨hwindow ▸ hlow, hwindow ▸ hhigh, expire_remaining w r k ▸ hl.remaining⟩
  | drew w k n ht hn hk hs hlow' hhigh' =>
    subst ht
    obtain ⟨hlow, hhigh⟩ := hl.windowAt hmax k
    obtain ⟨hwindow, hremaining⟩ := beginCountdown_contention w n (expire w { radio := r } k).1
    rw [expire_window hr w k] at hwindow hhigh'
    exact ⟨by omega, by omega, by omega⟩

end Radio

end CarrierSense
