import CarrierSense.Proofs.Radio.Flight
import Mathlib.Algebra.GroupWithZero.Nat
import Mathlib.Data.List.Basic

/-!
# Busy periods

What a radio has heard since it was switched on, as a list of busy periods: the frames that began from the
one that found it free until the end of listening. A radio `Listens` as its busy periods say: it listens
until the last frame of the current period ends, it has counted all overlaps, and what it hears is spoiled
unless it is a single frame that met no spoiled attempt. At the end of a period it takes nothing that is
spoiled, and takes every other frame that is addressed to it.
-/

namespace CarrierSense

/-- A frame that a radio has begun to hear. -/
structure Hearing where
  frame : Frame
  endsAt : Nat
  /-- The radio as the frame found it. -/
  found : Radio

/-- What a radio has heard: busy periods, and in each of them the frames that began, in order. -/
structure Listening where
  closed : List (List Hearing) := []
  current : List Hearing := []

namespace Listening

variable (l : Listening) (h : Hearing)

/-- Another frame begins. -/
def hear : Listening := { l with current := l.current ++ [h] }

/-- Another frame may begin. -/
def add : Option Hearing → Listening
  | some h => l.hear h
  | none => l

/-- The busy period is over. -/
def close : Listening := { closed := l.closed ++ [l.current] }

/-- How many frames began while another one was being heard. -/
def overlaps : Nat := ((l.closed ++ [l.current]).map fun period => period.length - 1).sum

/-- When the frames of the current busy period will all have ended. -/
def latest? : Option Nat := (l.current.map (·.endsAt)).max?

/-- A frame that may begin, and does, is heard. -/
@[simp] lemma add_some : l.add (some h) = l.hear h := rfl

/-- If no frame begins, then nothing more is heard. -/
@[simp] lemma add_none : l.add none = l := rfl

/-- A frame overlaps if the busy period has others already. -/
lemma overlaps_hear :
    (l.hear h).overlaps = if l.current = [] then l.overlaps else l.overlaps + 1 := by
  cases hc : l.current with
  | nil => simp [overlaps, hear, hc]
  | cons h' rest => simp [overlaps, hear, hc, Nat.add_assoc]

/-- The end of a busy period leaves the count of overlaps as it is. -/
lemma overlaps_close : l.close.overlaps = l.overlaps := by
  simp [overlaps, close]

/-- The greatest of a list with one more item is the greater of the two. -/
lemma max?_concat (xs : List Nat) (a : Nat) :
    (xs ++ [a]).max? = some (xs.max?.elim a fun top => max top a) := by
  induction xs with
  | nil => rfl
  | cons x xs ih =>
    rw [List.cons_append, List.max?_cons, List.max?_cons, ih]
    cases xs.max? with
    | none => rfl
    | some top => simp [Nat.max_assoc]

/-- The latest end is put off by a frame that ends later. -/
lemma latest?_hear :
    (l.hear h).latest? = some (l.latest?.elim h.endsAt fun top => max top h.endsAt) := by
  simp only [latest?, hear, List.map_append, List.map_cons, List.map_nil, max?_concat]

/-- There is a latest end as long as the busy period has frames. -/
lemma latest?_eq_none : l.latest? = none ↔ l.current = [] := by
  simp [latest?, List.max?_eq_none_iff]

end Listening

namespace Radio

variable {w : Setting} {r r' : Radio} {d : Alarms} {f : Frame} {x : Incoming} {k : Timer} {t t' : Turn}
  {l : Listening} {h : Hearing}

/-- Whether the radio cannot hear a frame that begins, since it sends or is about to. -/
def isDeaf (r : Radio) : Bool := r.status.isDeaf

/-- Whether the radio attempts to send: it waits for an idle medium, or counts down. -/
def isAttempting (r : Radio) : Bool :=
  match r.status with
  | .waitingForDifs | .waitingForBackoff => true
  | _ => false

/-- Whether a single frame that found the radio like this is spoiled. -/
def spoils (r : Radio) : Bool := r.status = .waitingForDifs || r.collision

/-- The radio listens as its busy periods say. -/
structure Listens (r : Radio) (l : Listening) : Prop where
  latest : r.incoming.map (·.endsAt) = l.latest?
  corrupted : r.corrupted = l.overlaps
  /-- Between busy periods, only an attempt to send can be spoiled. -/
  clear : l.current = [] → r.collision = true → r.isAttempting = true
  sole : ∀ {h}, l.current = [h] → r.incoming = some ⟨h.frame, h.endsAt⟩ ∧ r.collision = h.found.spoils
  overlap : 2 ≤ l.current.length → r.collision = true
  /-- A busy period begins with a frame that finds the radio free. -/
  began : ∀ {h}, l.current = [h] →
    h.found.status ∈ [.idle, .waitingForAck, .waitingForDifs, .waitingForBackoff] ∧
      (h.found.collision = true → h.found.isAttempting = true)

/-- A radio tracks a frame exactly while its busy period has some. -/
lemma Listens.incoming_eq_none (h : r.Listens l) : r.incoming = none ↔ l.current = [] := by
  rw [← l.latest?_eq_none, ← h.latest, Option.map_eq_none_iff]

/-- The handles of its timers do not matter to what a radio hears. -/
lemma Listens.withTimers (h : r.Listens l) (timers : Timers) : { r with timers }.Listens l :=
  ⟨h.latest, h.corrupted, h.clear, h.sole, h.overlap, h.began⟩

/-- A radio that was just switched on has heard nothing. -/
lemma powerOn_listens (timing : Timing) : (powerOn timing).Listens {} := by
  constructor <;> simp [powerOn, Listening.latest?, Listening.overlaps]

/-- What a radio that is not deaf makes of a frame that begins while it listens to none. -/
lemma receive_first (hd : r.isDeaf = false) (hin : r.incoming = none) :
    let r' := (receive w f { radio := r }).radio
    r'.incoming = some ⟨f, w.now + f.airtime⟩ ∧ r'.collision = r.spoils ∧ r'.corrupted = r.corrupted := by
  have hfirst : ∀ {t : Turn}, t.radio.incoming = none → t.radio.corrupted = r.corrupted →
      t.radio.collision = r.spoils →
      (listen w f t).radio.incoming = some ⟨f, w.now + f.airtime⟩ ∧
        (listen w f t).radio.collision = r.spoils ∧ (listen w f t).radio.corrupted = r.corrupted := by
    intro t ht hc hs
    unfold listen track
    simp only [ht]
    exact ⟨rfl, hs, hc⟩
  unfold isDeaf at hd
  rw [receive_eq]
  unfold pauseCountdown
  cases hs : r.status <;> simp only [hs] at hd ⊢
  case idle => exact hfirst (by simpa using hin) (by simp) (by simp [spoils, hs])
  case waitingForAck => exact hfirst (by simpa using hin) (by simp) (by simp [spoils, hs])
  case receivingMessage => exact hfirst hin rfl (by simp [spoils, hs])
  case waitingForDifs => exact hfirst hin rfl (by simp [spoils, hs])
  case waitingForBackoff => split <;> exact hfirst hin rfl (by simp [spoils, hs])
  all_goals cases hd

/-- What a radio that is not deaf makes of a frame that begins while it listens to another one. -/
lemma receive_overlapping (hd : r.isDeaf = false) (hin : r.incoming = some x) :
    let r' := (receive w f { radio := r }).radio
    r'.incoming.map (·.endsAt) = some (max x.endsAt (w.now + f.airtime)) ∧ r'.collision = true ∧
      r'.corrupted = r.corrupted + 1 := by
  have hmax : ∀ {t : Turn}, t.radio.incoming = some x → t.radio.corrupted = r.corrupted →
      (listen w f t).radio.incoming.map (·.endsAt) = some (max x.endsAt (w.now + f.airtime)) ∧
        (listen w f t).radio.collision = true ∧ (listen w f t).radio.corrupted = r.corrupted + 1 := by
    intro t ht hc
    unfold listen track
    simp only [ht]
    split
    · simp [hc]
      omega
    · simp [ht, hc]
      omega
  unfold isDeaf at hd
  rw [receive_eq]
  unfold pauseCountdown
  cases hs : r.status <;> simp only [hs] at hd ⊢
  case idle => exact hmax (by simpa using hin) (by simp)
  case waitingForAck => exact hmax (by simpa using hin) (by simp)
  case receivingMessage => exact hmax hin rfl
  case waitingForDifs => exact hmax hin rfl
  case waitingForBackoff => split <;> exact hmax hin rfl
  all_goals cases hd

/-- A deaf radio only counts that it has missed a frame. -/
lemma receive_deaf (hd : r.isDeaf = true) :
    receive w f { radio := r } = { radio := r, effects := [.count .missed] } := by
  unfold isDeaf at hd
  rw [receive_eq]
  cases hs : r.status <;> simp only [hs] at hd ⊢ <;> first | rfl | cases hd

/-- A radio that listens to nothing, and is not deaf, is in one of four states. -/
lemma Sound.status_of_free (h : r.Sound d) (hin : r.incoming = none) (hd : r.isDeaf = false) :
    r.status ∈ [.idle, .waitingForAck, .waitingForDifs, .waitingForBackoff] := by
  have ho := h.orderly
  unfold Orderly isReceiving at ho
  unfold isDeaf at hd
  cases hs : r.status <;> simp_all

/-- A frame that begins belongs to the current busy period, or opens one. -/
lemma Listens.receive (hl : r.Listens l) (hr : r.Sound d) (hd : r.isDeaf = false) :
    (receive w f { radio := r }).radio.Listens (l.hear ⟨f, w.now + f.airtime, r⟩) := by
  have hlen : (l.hear ⟨f, w.now + f.airtime, r⟩).current = l.current ++ [⟨f, w.now + f.airtime, r⟩] := rfl
  cases hin : r.incoming with
  | none =>
    have hc := hl.incoming_eq_none.1 hin
    rw [hc, List.nil_append] at hlen
    obtain ⟨h₁, h₂, h₃⟩ := receive_first (w := w) (f := f) hd hin
    have hlatest : l.latest? = none := l.latest?_eq_none.2 hc
    refine ⟨?_, ?_, fun hn => ?_, fun {h} hs => ?_, fun h2 => ?_, fun {h} hs => ?_⟩
    · rw [h₁, l.latest?_hear, hlatest]
      rfl
    · rw [h₃, hl.corrupted, l.overlaps_hear, if_pos hc]
    · rw [hlen] at hn
      cases hn
    · rw [hlen] at hs
      cases hs
      exact ⟨h₁, h₂⟩
    · rw [hlen] at h2
      simp at h2
    · rw [hlen] at hs
      cases hs
      exact ⟨hr.status_of_free hin hd, hl.clear hc⟩
  | some x =>
    have hc : l.current ≠ [] := fun hc => by simp [hl.incoming_eq_none.2 hc] at hin
    obtain ⟨h₁, h₂, h₃⟩ := receive_overlapping (w := w) (f := f) hd hin
    have hlatest : l.latest? = some x.endsAt := by rw [← hl.latest, hin]; rfl
    -- at least two frames have begun, so that the last three conditions are about other cases
    have hlen2 : ∀ {h}, (l.hear ⟨f, w.now + f.airtime, r⟩).current ≠ [h] := fun {h} hs => by
      rw [hlen] at hs
      exact hc (List.append_eq_singleton_iff.1 hs |>.elim And.left fun hs => by simp at hs)
    refine ⟨?_, ?_, fun hn => ?_, fun hs => absurd hs hlen2, fun _ => h₂, fun hs => absurd hs hlen2⟩
    · rw [h₁, l.latest?_hear, hlatest]
      rfl
    · rw [h₃, hl.corrupted, l.overlaps_hear, if_neg hc]
    · rw [hlen] at hn
      simp at hn

/-- What a radio keeps of what it hears, whatever else it does. -/
structure Steady (r r' : Radio) : Prop where
  incoming : r'.incoming = r.incoming
  corrupted : r'.corrupted = r.corrupted
  heard : r.incoming ≠ none → r'.collision = r.collision
  clear : r'.collision = true → r.collision = true ∧ (r.isAttempting = true → r'.isAttempting = true)

/-- A radio that keeps what it hears listens as before. -/
lemma Steady.listens (h : r.Steady r') (hl : r.Listens l) : r'.Listens l := by
  refine ⟨by rw [h.incoming, hl.latest], by rw [h.corrupted, hl.corrupted], fun hc hcol => ?_,
    fun {h'} hs => ?_, fun h2 => ?_, hl.began⟩
  · obtain ⟨hcol, hatt⟩ := h.clear hcol
    exact hatt (hl.clear hc hcol)
  · obtain ⟨hin, hcol⟩ := hl.sole hs
    exact ⟨by rw [h.incoming, hin], by rw [h.heard (by simp [hin]), hcol]⟩
  · have hne : r.incoming ≠ none := fun hin => by simp [hl.incoming_eq_none.1 hin] at h2
    rw [h.heard hne, hl.overlap h2]

/-- Taking up a countdown leaves alone what is heard. -/
lemma beginCountdown_spoiled (n : Nat) :
    (beginCountdown w n t).radio.collision = t.radio.collision ∧
      (beginCountdown w n t).radio.corrupted = t.radio.corrupted := by
  unfold beginCountdown
  dsimp only
  split <;> simp

/-- Turning to the next duty spoils nothing. -/
lemma resume_spoiled (he : Ends w (resume w t) t') :
    (t'.radio.collision = true → t.radio.collision = true) ∧ t'.radio.corrupted = t.radio.corrupted := by
  revert he
  unfold resume
  split
  · intro he
    rw [he.of_rest (by simp)]
    simp
  split
  · intro he
    rw [he.of_rest (by simp)]
    simp
  split
  · intro he
    rw [he.of_rest (by simp)]
    simp [resumeCountdown]
  split
  · intro he
    obtain ⟨n, -, rfl⟩ := he.of_contend
    obtain ⟨hc, hn⟩ := beginCountdown_spoiled (w := w) (t := t.edit fun r =>
      { r with retransmitPending := false }) n
    exact ⟨fun h => hc ▸ h, hn⟩
  · intro he
    rw [he.of_rest (by simp)]
    unfold trySend
    split <;> simp

/-- To send the head of the queue keeps what a radio hears. -/
lemma transmitHead_steady (hq : r.outgoing ≠ []) (hin : r.incoming = none)
    (he : Ends w (transmitHead w { radio := r }) t) : r.Steady t.radio := by
  obtain ⟨f, rest, hq⟩ := List.exists_cons_of_ne_nil hq
  revert he
  simp only [transmitHead, hq]
  intro he
  rw [he.of_rest (by simp)]
  constructor <;> simp [hin]

/-- The end of the long pause keeps what a radio hears. -/
lemma difsElapsed_steady (hr : r.Sound d) (hs : r.status = .waitingForDifs)
    (he : Ends w (difsElapsed w { radio := r }) t) : r.Steady t.radio := by
  obtain ⟨-, -, -, hq, -⟩ := hr.of_waitingForDifs hs
  revert he
  unfold difsElapsed
  split
  · intro he
    obtain ⟨n, -, rfl⟩ := he.of_contend
    obtain ⟨-, -, hin, -, hs, -⟩ := beginCountdown_fields (w := w) (t := { radio := r }) n
    obtain ⟨hc, hn⟩ := beginCountdown_spoiled (w := w) (t := { radio := r }) n
    exact ⟨hin, hn, fun _ => hc, fun h => ⟨hc ▸ h, fun _ => by simp [isAttempting, hs]⟩⟩
  · rename_i hfree
    have hin : r.incoming = none := by
      simp only [Bool.or_eq_true, isReceiving, not_or] at hfree
      simpa using hfree.2
    exact transmitHead_steady hq hin

/-- A missed acknowledgement keeps what a radio hears. -/
lemma ackTimedOut_steady (hr : r.Sound d) (hw : r.waitingForAck = true)
    (he : Ends w (ackTimedOut w { radio := r }) t) : r.Steady t.radio := by
  obtain ⟨-, hst⟩ := hr.of_waitingForAck hw
  have hquiet : r.isAttempting = false := by
    rcases hst with hs | hs | hs | hs <;> simp [isAttempting, hs]
  revert he
  simp only [ackTimedOut]
  split
  · intro he
    obtain ⟨n, -, rfl⟩ := he.of_contend
    generalize ht : Turn.ask _ _ = u
    have hu : u.radio.incoming = r.incoming ∧ u.radio.collision = r.collision ∧
        u.radio.corrupted = r.corrupted := by
      subst ht
      exact ⟨rfl, rfl, rfl⟩
    obtain ⟨-, -, hin, -, -, -⟩ := beginCountdown_fields (w := w) (t := u) n
    obtain ⟨hc, hn⟩ := beginCountdown_spoiled (w := w) (t := u) n
    refine ⟨hin.trans hu.1, hn.trans hu.2.2, fun _ => hc.trans hu.2.1, fun h => ⟨?_, by simp [hquiet]⟩⟩
    rw [← hu.2.1, ← hc, h]
  · intro he
    rw [he.of_rest (by simp)]
    exact ⟨rfl, rfl, fun _ => rfl, fun h => ⟨h, by simp [hquiet]⟩⟩

/-- Whatever timer runs out, but that of the frame itself, a sound radio goes on hearing. -/
lemma expire_steady (hr : r.Sound d) (hk : (d k).isSome) (hne : k ≠ .reception)
    (he : Ends w (expire w { radio := r } k) t) : r.Steady t.radio := by
  have hexp := hr.expects hk
  have ho := hr.orderly
  cases k with
  | reception => exact absurd rfl hne
  | difs => exact difsElapsed_steady hr hexp he
  | backoff =>
    obtain ⟨hs, hin⟩ := hexp
    obtain ⟨-, -, -, hq⟩ := hr.of_waitingForBackoff hs
    exact transmitHead_steady hq hin he
  | transmission =>
    have hs : r.status = .sendingMessage := hexp
    rw [he.of_rest (by simp)]
    constructor <;> simp [isAttempting, hs]
  | ackTimeout => exact ackTimedOut_steady hr hexp he
  | sifs =>
    have hs : r.status = .waitingForSifs := hexp
    simp only [Orderly, hs] at ho
    obtain ⟨a, hacks⟩ := List.length_eq_one_iff.1 ho.2.1
    rw [he.of_rest (by simp [hacks])]
    constructor <;> simp [hacks, isAttempting, hs]
  | ackTransmission =>
    have hs : r.status = .sendingAck := hexp
    simp only [Orderly, hs] at ho
    obtain ⟨-, -, hin⟩ := ho
    have hres := resume_resumed (d := d) (t := { radio := r }) hin (by simp [hs]) he
    obtain ⟨hc, hn⟩ := resume_spoiled he
    exact ⟨hres.incoming, hn, fun h => absurd hin h, fun h => ⟨hc h, by simp [isAttempting, hs]⟩⟩

/-- To turn to the next duty puts no frame on the air. -/
lemma resume_silent (w : Setting) (t : Turn) (f : Frame) : (resume w t).2 ≠ .transmit f := by
  unfold resume
  split
  · simp
  split
  · simp
  split
  · simp
  split <;> simp

/-- The end of a reception puts no frame on the air. -/
lemma receptionEnded_silent (w : Setting) (t : Turn) (f : Frame) :
    (receptionEnded w t).2 ≠ .transmit f := by
  unfold receptionEnded
  dsimp only
  split
  · exact resume_silent _ _ _
  · split
    · exact resume_silent _ _ _
    · simp
  · simp

/-- A radio that begins to send is deaf. -/
lemma transmitHead_deaf (hs : (transmitHead w t).2 = .transmit f) :
    (transmitHead w t).1.radio.isDeaf = true := by
  unfold transmitHead at hs ⊢
  split at hs
  · cases hs
  · simp [isDeaf]

/-- What goes on the air makes the radio that sends it deaf. -/
lemma expire_deaf (hs : (expire w { radio := r } k).2 = .transmit f) :
    (expire w { radio := r } k).1.radio.isDeaf = true := by
  cases k with
  | difs =>
    simp only [expire, difsElapsed] at hs ⊢
    split at hs
    · cases hs
    · rename_i hfree
      rw [if_neg hfree]
      exact transmitHead_deaf hs
  | backoff => exact transmitHead_deaf hs
  | transmission => simp [expire, transmissionEnded] at hs
  | ackTimeout =>
    simp only [expire, ackTimedOut] at hs
    split at hs <;> cases hs
  | reception => exact absurd hs (receptionEnded_silent _ _ _)
  | sifs =>
    simp only [expire, sifsElapsed] at hs ⊢
    split at hs
    · exact absurd hs (resume_silent _ _ _)
    · simp [isDeaf]
  | ackTransmission => exact absurd hs (resume_silent _ _ _)

/-- Frames that have overlapped are forgotten when they end. -/
lemma finishListening_spoiled (heard : Option Incoming) (hc : t.radio.collision = true) :
    finishListening w heard t = t.edit fun r => { r with collision := false } := by
  simp only [finishListening, hc, if_true]

/-- Whatever is done with what was heard, nothing is spoiled after it. -/
lemma finishListening_clear (heard : Option Incoming) :
    let u := finishListening w heard t
    u.radio.collision = false ∧ u.radio.corrupted = t.radio.corrupted ∧
      u.radio.incoming = t.radio.incoming ∧ u.radio.status = t.radio.status := by
  unfold finishListening
  split
  · exact ⟨rfl, rfl, rfl, rfl⟩
  · rename_i hc
    have hc : t.radio.collision = false := by simpa using hc
    split
    · rename_i x
      rcases accept_cases w x.frame t with he | ⟨-, -, -, -, he⟩ | ⟨-, -, he⟩ <;> rw [he] <;>
        exact ⟨hc, rfl, rfl, rfl⟩
    · exact ⟨hc, rfl, rfl, rfl⟩

/-- A radio that was receiving, or counting down, is done with what it has heard, and turns to its next
duty or goes on counting. -/
lemma receptionEnded_finished (hr : r.Sound d) (hk : (d .reception).isSome)
    (hs : r.status ≠ .waitingForDifs) (he : Ends w (receptionEnded w { radio := r }) t) :
    let u := finishListening w r.incoming { radio := { r with incoming := none } }
    t.radio.outgoing = u.radio.outgoing ∧ t.radio.acks = u.radio.acks ∧ t.handedOn = u.handedOn ∧
      t.radio.incoming = none ∧ t.radio.collision = false ∧ t.radio.corrupted = r.corrupted := by
  obtain ⟨hc, hn, hin, hst⟩ := finishListening_clear (w := w)
    (t := { radio := { r with incoming := none } }) r.incoming
  have ho := hr.orderly
  have hexp := hr.expects hk
  revert he
  unfold receptionEnded
  dsimp only [Turn.edit]
  generalize finishListening w r.incoming { radio := { r with incoming := none } } = u at hc hn hin hst
  split
  · rename_i hs'
    intro he
    have hs' : r.status = .receivingMessage := hs'
    have hres := resume_resumed (d := d) hin (by simp [hst, hs']) he
    obtain ⟨hcol, hcor⟩ := resume_spoiled he
    exact ⟨hres.outgoing, hres.acks, hres.handedOn, hres.incoming.trans hin,
      by simpa [hc] using hcol, hcor.trans hn⟩
  · rename_i hs'
    split
    · intro he
      have hres := resume_resumed (d := d) (t := u.edit fun r => { r with backoffPaused := true }) hin
        (by simp) he
      obtain ⟨hcol, hcor⟩ := resume_spoiled he
      have hcol : t.radio.collision = true → u.radio.collision = true := hcol
      exact ⟨hres.outgoing, hres.acks, hres.handedOn, hres.incoming.trans hin,
        by simpa [hc] using hcol, hcor.trans hn⟩
    · intro he
      rw [he.of_rest (by simp)]
      simp [resumeCountdown, hc, hn, hin, Effect.handsOn]
  · rename_i hne₁ hne₂
    unfold Orderly at ho
    have hexp : r.incoming ≠ none := hexp
    cases hst' : r.status <;> simp_all

/-- During the idle time before an attempt, what has been heard is dropped. -/
lemma receptionEnded_dropped (hs : r.status = .waitingForDifs)
    (he : Ends w (receptionEnded w { radio := r }) t) : t = { radio := { r with incoming := none } } := by
  rw [he.of_rest (by simp [Turn.edit, hs])]
  simp [Turn.edit, hs]

/-- The end of listening closes the busy period. -/
lemma Listens.close (hl : r.Listens l) (hr : r.Sound d) (hk : (d .reception).isSome)
    (he : Ends w (receptionEnded w { radio := r }) t) : t.radio.Listens l.close := by
  have hcurrent : l.close.current = [] := rfl
  -- of a new period nothing has been heard yet
  suffices h : t.radio.incoming = none ∧ t.radio.corrupted = r.corrupted ∧
      (t.radio.collision = true → t.radio.isAttempting = true) by
    obtain ⟨hin, hn, hc⟩ := h
    refine ⟨by rw [hin]; rfl, by rw [hn, hl.corrupted, l.overlaps_close], fun _ => hc, ?_, ?_, ?_⟩ <;>
      simp [hcurrent]
  by_cases hs : r.status = .waitingForDifs
  · rw [receptionEnded_dropped hs he]
    exact ⟨rfl, rfl, fun _ => by simp [isAttempting, hs]⟩
  · obtain ⟨-, -, -, hin, hc, hn⟩ := receptionEnded_finished hr hk hs he
    exact ⟨hin, hn, fun h => by rw [hc] at h; cases h⟩

/-- Nothing is taken of what was spoiled. -/
lemma receptionEnded_spoiled (hr : r.Sound d) (hk : (d .reception).isSome) (hc : r.collision = true)
    (he : Ends w (receptionEnded w { radio := r }) t) :
    t.radio.outgoing = r.outgoing ∧ t.radio.acks = r.acks ∧ t.handedOn = [] := by
  by_cases hs : r.status = .waitingForDifs
  · rw [receptionEnded_dropped hs he]
    exact ⟨rfl, rfl, rfl⟩
  · obtain ⟨hq, ha, hh, -⟩ := receptionEnded_finished hr hk hs he
    rw [finishListening_spoiled _ hc] at hq ha hh
    exact ⟨hq, ha, hh⟩

/-- What is not spoiled is a single frame, which found the radio free and not waiting before an attempt. -/
lemma Listens.sole_of_clean (hl : r.Listens l) (hx : r.incoming = some x) (hc : r.collision = false) :
    ∃ h, l.current = [h] ∧ x = ⟨h.frame, h.endsAt⟩ ∧
      h.found.status ∈ [.idle, .waitingForAck, .waitingForBackoff] := by
  have hne : l.current ≠ [] := fun hn => by simp [hl.incoming_eq_none.2 hn] at hx
  match hcur : l.current with
  | [] => exact absurd hcur hne
  | [h] =>
    obtain ⟨hin, hcol⟩ := hl.sole hcur
    obtain ⟨hst, -⟩ := hl.began hcur
    rw [hx] at hin
    rw [hc] at hcol
    refine ⟨h, rfl, Option.some.inj hin, ?_⟩
    have hdifs : h.found.status ≠ .waitingForDifs := fun hs => by simp [spoils, hs] at hcol
    simpa [hdifs] using hst
  | h :: h' :: rest =>
    have hcol := hl.overlap (by simp [hcur])
    rw [hc] at hcol
    cases hcol

/-- A single frame that found the radio idle or waiting for an acknowledgement, or counting down with
nothing spoiled, is not spoiled. -/
lemma Listens.clean_of_sole (hl : r.Listens l) (hcur : l.current = [h])
    (hs : h.found.status ∈ [.idle, .waitingForAck] ∨
      h.found.status = .waitingForBackoff ∧ h.found.collision = false) : r.collision = false := by
  obtain ⟨-, hcol⟩ := hl.sole hcur
  obtain ⟨-, hatt⟩ := hl.began hcur
  rw [hcol]
  rcases hs with hs | ⟨hs, hc⟩
  · have hquiet : h.found.isAttempting = false := by
      rcases List.mem_pair.1 hs with hs | hs <;> simp [isAttempting, hs]
    have hc : h.found.collision = false := by
      by_contra hc
      rw [hatt (by simpa using hc)] at hquiet
      cases hquiet
    rcases List.mem_pair.1 hs with hs | hs <;> simp [spoils, hs, hc]
  · simp [spoils, hs, hc]

/-- A data frame for this radio that was not spoiled is taken. -/
lemma receptionEnded_takes (hr : r.Sound d) (hx : r.incoming = some x) (hc : r.collision = false)
    (hdata : x.frame.isAck = false) (hfor : x.frame.receiver = some w.self)
    (he : Ends w (receptionEnded w { radio := r }) t) :
    t.radio.acks = r.acks ++ [x.frame.ackFrom w.self w.timing.ackDuration] ∧
      t.handedOn = [if x.frame.destination = w.home then .deliver x.frame else .relay x.frame] := by
  have hk : (d .reception).isSome := by simp [hr.reception, hx]
  have hs : r.status ≠ .waitingForDifs := by
    intro hs
    obtain ⟨-, -, -, -, hcol⟩ := hr.of_waitingForDifs hs
    rw [hcol (by simp [hx])] at hc
    cases hc
  obtain ⟨-, ha, hh, -⟩ := receptionEnded_finished hr hk hs he
  have hfor : x.frame.isFor w.self = true := by simp [Frame.isFor, hfor]
  rw [ha, hh, hx]
  simp only [finishListening, hc, accept, hfor, hdata, Bool.not_true, Bool.false_eq_true, if_false]
  refine ⟨rfl, ?_⟩
  by_cases hd : x.frame.destination = w.home <;> simp [hd, Effect.handsOn]

end Radio

end CarrierSense
