import CarrierSense.Proofs.Network.Firing
import CarrierSense.Proofs.Network.History
import CarrierSense.Proofs.Radio.Sound

/-!
# Sound networks

A network is `Sound` if its radios agree with its scheduler, if no event is late, and if each of its
radios is sound. Every operation preserves this, whatever frames are injected and whether it ends with an
error or not, so that all reachable networks are sound.
-/

namespace CarrierSense

/-- A sound radio that is given a frame to send stays sound. -/
lemma Radio.enqueue_sound {w : Setting} {f : Frame} {r : Radio} {d : Alarms} (h : r.Sound d) :
    (enqueue w f r).radio.Sound ((enqueue w f r).alarms d) := by
  have hal := h.dictated
  have hrec := h.reception
  have hback := @Radio.Sound.backoff r d h
  have ho := h.orderly
  rw [enqueue_eq]
  split
  · rename_i hs
    simp only [dictated, Orderly, hs] at hal ho
    obtain ⟨hu, hq, hin⟩ := ho
    constructor <;>
      simp_all [Turn.alarms, Timer.forall_iff, dictated, Orderly, listening, isReceiving]
    exact ⟨hu.1, hu.2, hu.3, hu.4⟩
  · rename_i hs
    refine ⟨hal, hrec, hback, ?_⟩
    have hfull : r.outgoing ++ [f] ≠ [] := by simp
    have hun : r.Unburdened → ∀ status, Unburdened { r with status, outgoing := r.outgoing ++ [f] } :=
      fun hu _ => ⟨hu.1, hu.2, hu.3, hu.4⟩
    have how : r.Owing → ∀ status, Owing { r with status, outgoing := r.outgoing ++ [f] } :=
      fun hu _ => ⟨hu.one, fun _ => hfull⟩
    unfold Orderly at ho ⊢
    cases hst : r.status <;> simp only [hst] at ho ⊢
    case idle => exact absurd hst hs
    case waitingForDifs => exact ⟨hun ho.1 _, hfull, ho.2.2⟩
    case waitingForBackoff => exact ⟨hun ho.1 _, hfull⟩
    case sendingMessage => exact ⟨hun ho.1 _, hfull, ho.2.2⟩
    all_goals exact ⟨how ho.1 _, ho.2⟩

namespace Network

variable {net mid net' : Network} {w : Setting} {i : InterfaceId} {k : Timer} {r : Radio}
  {t : Turn} {f : Frame} {result : Except NetworkError Unit}

/-- Radios and scheduler agree, no event is late, and all radios are sound. -/
structure Sound (net : Network) : Prop where
  coherent : net.Coherent
  onTime : net.scheduler.OnTime
  radio : ∀ {i r}, net.radio i = .ok r → r.Sound (net.alarms i)

/-- A turn makes a network sound if it makes the radio sound that acts, and all others were before. -/
lemma Settled.sound (hs : net.Settled w t net')
    (ho : ∀ {j r}, j ≠ w.self → net.radio j = .ok r → r.Sound (net.alarms j))
    (ht : t.radio.Sound (t.alarms (net.alarms w.self))) : net'.Sound := by
  refine ⟨hs.coherent, hs.onTime, fun {j r} hr => ?_⟩
  by_cases hj : j = w.self
  · subst hj
    obtain ⟨timers, hself⟩ := hs.radio_self
    rw [hself] at hr
    cases hr
    rw [hs.alarms_self]
    exact ht.withTimers timers
  · rw [hs.radio_other hj] at hr
    rw [hs.alarms_other hj]
    exact ho hj hr

/-- A network stays sound through a turn that leaves a sound radio. -/
lemma Sound.settled (h : net.Sound) (hs : net.Settled w t net')
    (ht : t.radio.Sound (t.alarms (net.alarms w.self))) : net'.Sound :=
  hs.sound (fun _ hr => h.radio hr) ht

/-- What leaves radios and clock alone keeps a network sound. -/
lemma Sound.aside (h : net.Sound) (ha : net.Aside net') : net'.Sound :=
  ⟨ha.coherent, ha.onTime, fun hr => by
    rw [ha.alarms]
    exact h.radio (ha.radio ▸ hr)⟩

/-- Drawing numbers only moves the stream on. -/
lemma Sound.withStream (h : net.Sound) (stream : Stream) : Sound { net with stream } :=
  ⟨⟨h.coherent.filed, h.coherent.slot, h.coherent.kept⟩, h.onTime, h.radio⟩

/-- A frame that reaches a radio keeps a network sound. -/
lemma Sound.receive (h : net.Sound) (hr : net.radio i = .ok r) (hw : net.setting i = .ok w)
    (hs : net.Settled w (Radio.receive w f { radio := r }) net') : net'.Sound := by
  obtain rfl := setting_self hw
  refine h.settled hs (Radio.receive_sound f (h.radio hr) ?_)
  exact h.coherent.slot_isSome hr .backoff

/-- A frame that is heard keeps a network sound, by induction over those who hear it. -/
lemma Sound.hears {members : List InterfaceId} (h : net.Sound) (hh : Hears net f members net') :
    net'.Sound := by
  induction hh with
  | nil => exact h
  | cons hr hw hs _ ih => exact ih (h.receive hr hw hs)

/-- A frame that joins a queue keeps a network sound. -/
lemma Sound.queued (h : net.Sound) (hq : net.Queued i f net') : net'.Sound := by
  obtain ⟨r, w, hr, hw, hs⟩ := hq
  obtain rfl := setting_self hw
  exact h.settled hs (Radio.enqueue_sound (h.radio hr))

/-- A frame that is sent keeps a network sound. -/
lemma Sound.send (h : net.Sound) (hs : net.send i f = .ok (result, net')) : net'.Sound := by
  rcases send_queued h.coherent h.onTime hs with ⟨-, rfl⟩ | ⟨-, -, next, hq⟩
  · exact h
  · exact h.queued hq

/-- A frame that is produced keeps a network sound. -/
lemma Sound.produce {n : NodeId} (h : net.Sound) (hp : net.produce n = .ok (result, net')) :
    net'.Sound := by
  rcases produce_cases h.coherent h.onTime hp with ⟨ha, -, -⟩ | ⟨-, i, f, next, hp⟩
  · exact h.aside ha
  · obtain ⟨mid, hq, ha, -⟩ := hp.queued
    exact (h.queued hq).aside ha

/-- A timer that runs out is set, and the radio that it belongs to is sound but for this timer. -/
lemma Sound.pop_timer {id : EventId} {scheduler : Scheduler Event} (h : net.Sound)
    (hp : net.scheduler.popDue = some ((id, .timer i k), scheduler))
    (hc : { net with scheduler }.clearTimer id (.timer i k) = .ok mid) :
    net.alarms i k = some net.now ∧ mid.Coherent ∧ mid.scheduler.OnTime ∧ mid.now = net.now ∧
      (∀ {j r}, j ≠ i → mid.radio j = .ok r → r.Sound (mid.alarms j)) ∧
      ∀ {r}, mid.radio i = .ok r → ∃ d, r.Sound d ∧ d = net.alarms i ∧ mid.alarms i = d.set k none := by
  obtain ⟨hal, hcar⟩ := Network.pop_timer h.coherent h.onTime hp hc rfl
  have hcar := hcar (w := ⟨i, ⟨0⟩, net.timing, net.now⟩) rfl
  refine ⟨hal, hcar.coherent, hcar.onTime, hcar.now, fun hj hr => ?_, fun {r} hr => ?_⟩
  · rw [hcar.radio_other hj] at hr
    rw [hcar.alarms_other hj]
    exact h.radio hr
  · obtain ⟨r₀, hr₀, -⟩ := h.coherent.kept (h.onTime.pending_now hp)
    obtain ⟨timers, hself⟩ := hcar.radio_self hr₀
    have hself : mid.radio i = .ok { r₀ with timers } := hself
    rw [hself] at hr
    cases hr
    exact ⟨_, (h.radio hr₀).withTimers timers, rfl, hcar.alarms_self⟩

/-- Whatever timer runs out, the network stays sound. -/
lemma Sound.expire {id : EventId} {scheduler : Scheduler Event} (h : net.Sound)
    (hp : net.scheduler.popDue = some ((id, .timer i k), scheduler))
    (hc : { net with scheduler }.clearTimer id (.timer i k) = .ok mid)
    (he : mid.expire i k = .ok (result, net')) : net'.Sound := by
  obtain ⟨hal, hcoh, hon, -, hother, hself⟩ := h.pop_timer hp hc
  obtain ⟨-, r, w, hr, hw, hmoved⟩ := expire_moved hcoh hon he
  obtain rfl := setting_self hw
  obtain ⟨d, hd, rfl, hmid⟩ := hself hr
  -- the radio does not see that its timer is no longer set
  have hmove := Radio.expire_sound (w := w) hd (k := k) (by simp [hal])
  rw [← hmid] at hmove
  generalize Radio.expire w { radio := r } k = m at hmoved hmove
  unfold Radio.Move.Sound at hmove
  cases hmoved with
  | rest hm hs =>
    rw [hm] at hmove
    exact hs.sound hother hmove
  | contend hm hn hs =>
    rw [hm] at hmove
    exact hs.sound hother (Radio.beginCountdown_sound _ hmove)
  | transmit hm hs _ hh =>
    rw [hm] at hmove
    exact (hs.sound hother hmove).hears hh

/-- A network stays sound without an event that is no timer. -/
lemma Sound.pop_other {id : EventId} {e : Event} {scheduler : Scheduler Event} (h : net.Sound)
    (hp : net.scheduler.popDue = some ((id, e), scheduler))
    (hc : { net with scheduler }.clearTimer id e = .ok mid) (he : ∀ i k, e ≠ .timer i k) :
    mid.Sound := by
  obtain ⟨hmid, hcoh, hon, -, hal, -⟩ := Network.pop_other h.coherent h.onTime hp hc he
  refine ⟨hcoh, hon, fun hr => ?_⟩
  rw [hal]
  rw [hmid] at hr
  exact h.radio hr

/-- Whatever event fires, the network stays sound. -/
theorem Sound.fires {m : Moment} (h : net.Sound) (hf : net.Fires m result) : m.after.Sound := by
  obtain ⟨id, e, scheduler, hp, hc, -, hfire⟩ := hf
  cases e with
  | timer i k => exact h.expire hp hc hfire
  | produce n => exact (h.pop_other hp hc (by simp)).produce hfire
  | forward i f => exact (h.pop_other hp hc (by simp)).send hfire

/-- The clock moves on without a change of what radios and scheduler agree on. -/
lemma Coherent.advanceTo (h : net.Coherent) (time : Nat) :
    Coherent { net with scheduler := net.scheduler.advanceTo time } ∧
      { net with scheduler := net.scheduler.advanceTo time }.alarms = net.alarms := by
  refine h.same_timers (h.filed.advanceTo time) (fun {j r} hr => ⟨r, hr, rfl⟩) (fun {j r} hr => ⟨r, hr⟩) ?_
  exact Scheduler.pending_advanceTo

/-- No event is late when the clock moves to a tick that is awaited. -/
lemma Awaits.onTime {time : Nat} (ha : net.Awaits time) (ho : net.scheduler.OnTime) :
    (net.scheduler.advanceTo time).OnTime := by
  obtain ⟨hmin, hlast | ⟨due, e, hp, rfl⟩⟩ := ha
  · exact ho.advanceTo hmin hlast
  · exact ho.advanceTo hmin (ho.due_le hp)

/-- A network stays sound when its clock moves to a tick that is awaited. -/
lemma Sound.advanceTo {time : Nat} (h : net.Sound) (ha : net.Awaits time) :
    Sound { net with scheduler := net.scheduler.advanceTo time } := by
  obtain ⟨hc, hal⟩ := h.coherent.advanceTo time
  refine ⟨hc, ha.onTime h.onTime, fun hr => ?_⟩
  rw [hal]
  exact h.radio hr

end Network

end CarrierSense
