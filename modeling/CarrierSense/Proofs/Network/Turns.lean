import CarrierSense.Network.Run
import CarrierSense.Proofs.Network.Effects

/-!
# Turns on a network

What the operations of the medium access make of a coherent network, in terms of the turns of its radios:
a turn that is `Settled`, a frame that is heard by radios one after the other (`Hears`), and a move with
all that follows it (`Moved`). None of them ends with an error.
-/

namespace CarrierSense.Network

variable {net mid net' : Network} {w : Setting} {i : InterfaceId} {k : Timer} {r : Radio}
  {t t' : Turn} {f : Frame} {result : Except NetworkError Unit}

/-- The setting of an interface says where it is, and what the clock shows. -/
lemma setting_eq_ok : net.setting i = .ok w ↔
    ∃ iface, net.topology.interface i = .ok iface ∧
      w = { self := i, home := iface.node, timing := net.timing, now := net.now } := by
  simp only [setting, bind_eq_ok, pure_eq_ok, Except.ok.injEq, eq_comm (b := w)]

/-- A setting is about the interface that it was looked up for. -/
lemma setting_self (h : net.setting i = .ok w) : w.self = i := by
  obtain ⟨iface, -, rfl⟩ := setting_eq_ok.1 h
  rfl

/-- A setting shows the time of the clock. -/
lemma setting_now (h : net.setting i = .ok w) : w.now = net.now := by
  obtain ⟨iface, -, rfl⟩ := setting_eq_ok.1 h
  rfl

/-- A setting has the timing of the network. -/
lemma setting_timing (h : net.setting i = .ok w) : w.timing = net.timing := by
  obtain ⟨iface, -, rfl⟩ := setting_eq_ok.1 h
  rfl

/-- A setting depends on clock, timing and topology alone. -/
lemma setting_congr (hn : net'.now = net.now) (ht : net'.timing = net.timing)
    (ho : net'.topology = net.topology) : net'.setting i = net.setting i := by
  simp only [setting, hn, ht, ho]

/-- The network `net'` is what a turn of a radio makes of `net`. -/
structure Settled (net : Network) (w : Setting) (t : Turn) (net' : Network) : Prop
    extends net.Affected w t.effects net' where
  radio_self : ∃ timers, net'.radio w.self = .ok { t.radio with timers }

/-- Two turns of one radio, one after the other, are one turn with the effects of both. -/
lemma Settled.trans {t'' : Turn} (h : net.Settled w t mid) (h' : mid.Settled w t' net')
    (he : t''.effects = t.effects ++ t'.effects) (hr : ∃ timers, t'.radio = { t''.radio with timers }) :
    net.Settled w t'' net' := by
  refine ⟨he ▸ h.toAffected.trans h'.toAffected, ?_⟩
  obtain ⟨timers, hr⟩ := hr
  obtain ⟨timers', hr'⟩ := h'.radio_self
  exact ⟨timers', by rw [hr', hr]⟩

/-- A proper turn is carried out without an error. -/
lemma settle_settled (h : net.Coherent) (ho : net.scheduler.OnTime) (hr : net.radio w.self = .ok r)
    (hw : w.now = net.now) (ht : t.Proper w r.timers) (hs : net.settle w t = .ok (result, net')) :
    result = .ok () ∧ net.Settled w t net' := by
  have hself := radio_setRadio_self hr t.radio
  have hquiet : net.Affected w [] (net.setRadio w.self t.radio) :=
    .quiet (h.setRadio hr ht.timers) ho (fun hj => radio_setRadio_ne hj _) rfl rfl rfl rfl
  obtain ⟨hres, hc⟩ := performAll_carried hquiet.coherent hquiet.onTime
    (fun hmem => hw ▸ ht.punctual hmem) hs
  exact ⟨hres, hquiet.trans hc.toAffected, hc.radio_self hself⟩

/-- What a radio does is carried out without an error, if it is proper. -/
lemma act_settled {move : Setting → Turn → Turn} (h : net.Coherent) (ho : net.scheduler.OnTime)
    (hm : ∀ {w r}, (move w { radio := r }).Proper w r.timers)
    (ha : net.act i move = .ok (result, net')) :
    result = .ok () ∧ ∃ r w, net.radio i = .ok r ∧ net.setting i = .ok w ∧
      net.Settled w (move w { radio := r }) net' := by
  simp only [act, bind_eq_ok] at ha
  obtain ⟨r, hr, w, hw, hs⟩ := ha
  obtain rfl := setting_self hw
  obtain ⟨hres, hs⟩ := settle_settled h ho hr (setting_now hw) hm hs
  exact ⟨hres, r, w, hr, hw, hs⟩

/-- The interfaces of a list hear a frame, one after the other. -/
inductive Hears : Network → Frame → List InterfaceId → Network → Prop where
  | nil {net : Network} {f : Frame} : Hears net f [] net
  | cons {net mid net' : Network} {i : InterfaceId} {r : Radio} {w : Setting} {f : Frame}
      {rest : List InterfaceId} (hr : net.radio i = .ok r) (hw : net.setting i = .ok w)
      (hs : net.Settled w (Radio.receive w f { radio := r }) mid) (ht : Hears mid f rest net') :
      Hears net f (i :: rest) net'

/-- A frame that reaches a radio meets no error. -/
lemma receive_settled (h : net.Coherent) (ho : net.scheduler.OnTime)
    (hr : net.receive i f = .ok (result, net')) :
    result = .ok () ∧ ∃ r w, net.radio i = .ok r ∧ net.setting i = .ok w ∧
      net.Settled w (Radio.receive w f { radio := r }) net' :=
  act_settled h ho (Radio.receive_proper f (Turn.proper_start _ _)) hr

/-- A frame reaches the members of a medium without an error, by induction over them. -/
lemma receiveAll_hears {members : List InterfaceId} (h : net.Coherent) (ho : net.scheduler.OnTime)
    (hr : net.receiveAll f members = .ok (result, net')) :
    result = .ok () ∧ Hears net f members net' := by
  induction members generalizing net with
  | nil =>
    cases hr
    exact ⟨rfl, .nil⟩
  | cons i rest ih =>
    simp only [receiveAll, andThen_eq_ok] at hr
    rcases hr with ⟨e, hm, -⟩ | ⟨_, mid, hm, hr⟩
    · exact absurd (receive_settled h ho hm).1 (by simp)
    · obtain ⟨-, r, w, hradio, hw, hs⟩ := receive_settled h ho hm
      obtain ⟨hres, ht⟩ := ih hs.coherent hs.onTime hr
      exact ⟨hres, .cons hradio hw hs ht⟩

/-- Listening leaves clock, timing and topology alone. -/
lemma Hears.same {members : List InterfaceId} (h : Hears net f members net') :
    net'.now = net.now ∧ net'.timing = net.timing ∧ net'.topology = net.topology := by
  induction h with
  | nil => exact ⟨rfl, rfl, rfl⟩
  | cons _ _ hs _ ih =>
    exact ⟨ih.1.trans hs.now, ih.2.1.trans hs.timing, ih.2.2.trans hs.topology⟩

/-- A frame that is put on the air is heard by the members of the medium, without an error. -/
lemma broadcast_hears (h : net.Coherent) (ho : net.scheduler.OnTime)
    (hb : net.broadcast i f = .ok (result, net')) :
    result = .ok () ∧ ∃ medium, net.topology.mediumOf i = .ok medium ∧
      Hears net f medium.members net' := by
  simp only [broadcast, bind_eq_ok] at hb
  obtain ⟨medium, hm, hb⟩ := hb
  obtain ⟨hres, hh⟩ := receiveAll_hears h ho hb
  exact ⟨hres, medium, hm, hh⟩

/-- The network `net'` is what a move of a radio, with all that follows it, makes of `net`. -/
inductive Moved (net : Network) (w : Setting) (m : Move) (net' : Network) : Prop where
  | rest (hm : m.2 = .none) (hs : net.Settled w m.1 net')
  | contend {n : Nat} (hm : m.2 = .contend) (hn : 1 ≤ n)
      (hs : net.Settled w (Radio.beginCountdown w n m.1) net')
  | transmit {f : Frame} {mid : Network} {medium : Medium} (hm : m.2 = .transmit f)
      (hs : net.Settled w m.1 mid) (ho : net.topology.mediumOf w.self = .ok medium)
      (hh : Hears mid f medium.members net')

end Network

/-- An integer drawn from a range is not below it. -/
lemma Stream.le_between32 (s : Stream) (low high : Nat) : low ≤ (s.between32 low high).1 := by
  have hpick : ∀ width count draw fuel s, low ≤ (pick width low count draw fuel s).1 := by
    intro width count draw fuel
    induction fuel with
    | zero => exact fun _ => Nat.le_refl low
    | succ fuel ih =>
      intro s
      unfold pick
      dsimp only
      split
      · exact Nat.le_add_right _ _
      · exact ih _
  exact hpick _ _ _ _ _

/-- A countdown that is taken up in a turn of its own. -/
lemma Radio.beginCountdown_append (w : Setting) (n : Nat) (t : Turn) (timers : Timers) :
    (beginCountdown w n t).effects =
        t.effects ++ (beginCountdown w n { radio := { t.radio with timers } }).effects ∧
      (beginCountdown w n { radio := { t.radio with timers } }).radio =
        { (beginCountdown w n t).radio with timers } := by
  unfold beginCountdown Turn.enter
  by_cases hs : t.radio.status = .waitingForBackoff <;> cases hin : t.radio.incoming <;>
    simp [hs, hin, isReceiving, Turn.edit, Turn.ask]

namespace Network

variable {net mid net' : Network} {w : Setting} {i : InterfaceId} {k : Timer} {r : Radio}
  {f : Frame} {result : Except NetworkError Unit}

/-- A countdown that is drawn has a length of at least one, and begins without an error. -/
lemma contend_settled (h : net.Coherent) (ho : net.scheduler.OnTime)
    (hc : net.contend i = .ok (result, net')) :
    result = .ok () ∧ ∃ n r w, 1 ≤ n ∧ net.radio i = .ok r ∧ net.setting i = .ok w ∧
      net.Settled w (Radio.beginCountdown w n { radio := r }) net' := by
  simp only [contend, bind_eq_ok] at hc
  obtain ⟨r₀, -, hc⟩ := hc
  have hn := net.stream.le_between32 1 (max r₀.window 1)
  generalize net.stream.between32 1 (max r₀.window 1) = draw at hn hc
  have h' : Coherent { net with stream := draw.2 } := ⟨h.filed, h.slot, h.kept⟩
  obtain ⟨hres, r, w, hr, hw, hs⟩ := act_settled h' ho
    (Radio.beginCountdown_proper draw.1 (Turn.proper_start _ _)) hc
  -- the stream is no part of what a turn depends on
  exact ⟨hres, draw.1, r, w, hn, hr, hw, ⟨hs.coherent, hs.onTime, hs.now, hs.timing, hs.topology,
    hs.radio_other, hs.alarms_self, hs.alarms_other, hs.endpoint, hs.waiting⟩, hs.radio_self⟩

/-- A timer that runs out has its radio move. The clock is checked for one timer only; what is done after
that is the same for all of them. -/
lemma expire_eq_ok {reply : Reply Unit} (he : net.expire i k = .ok reply) :
    ∃ r w, net.radio i = .ok r ∧ net.setting i = .ok w ∧
      andThen (net.settle w (Radio.expire w { radio := r } k).1)
        (fun _ net => net.follow i (Radio.expire w { radio := r } k).2) = .ok reply := by
  unfold expire at he
  split at he <;> simp only [bind_eq_ok] at he
  · obtain ⟨_, -, r, hr, w, hw, he⟩ := he
    exact ⟨r, w, hr, hw, he⟩
  · obtain ⟨r, hr, w, hw, he⟩ := he
    exact ⟨r, w, hr, hw, he⟩

/-- Whatever timer runs out, the radio moves, and all that follows goes without an error. -/
theorem expire_moved (h : net.Coherent) (ho : net.scheduler.OnTime)
    (he : net.expire i k = .ok (result, net')) :
    result = .ok () ∧ ∃ r w, net.radio i = .ok r ∧ net.setting i = .ok w ∧
      net.Moved w (Radio.expire w { radio := r } k) net' := by
  obtain ⟨r, w, hr, hw, he⟩ := expire_eq_ok he
  rw [andThen_eq_ok] at he
  obtain rfl := setting_self hw
  have hproper := Radio.expire_proper (w := w) k (Turn.proper_start w r)
  suffices h : result = .ok () ∧ net.Moved w (Radio.expire w { radio := r } k) net' from
    ⟨h.1, r, w, hr, hw, h.2⟩
  generalize Radio.expire w { radio := r } k = m at he hproper ⊢
  have hsettle : ∀ {result mid}, net.settle w m.1 = .ok (result, mid) →
      result = .ok () ∧ net.Settled w m.1 mid := fun hs =>
    settle_settled h ho hr (setting_now hw) hproper hs
  rcases he with ⟨e, hs, rfl⟩ | ⟨_, mid, hs, hf⟩
  · exact absurd (hsettle hs).1 (by simp)
  obtain ⟨-, hs⟩ := hsettle hs
  unfold follow at hf
  split at hf
  · rename_i hm
    cases hf
    exact ⟨rfl, .rest hm hs⟩
  · rename_i hm
    obtain ⟨hres, n, r', w', hn, hr', hw', hs'⟩ := contend_settled hs.coherent hs.onTime hf
    rw [setting_congr hs.now hs.timing hs.topology, hw] at hw'
    cases hw'
    obtain ⟨timers, hr''⟩ := hs.radio_self
    rw [hr''] at hr'
    cases hr'
    -- two turns, the second one from the radio that the first one left, are one turn
    obtain ⟨heff, hrad⟩ := Radio.beginCountdown_append w n m.1 timers
    exact ⟨hres, .contend hm hn (hs.trans hs' heff ⟨timers, hrad⟩)⟩
  · rename_i f hm
    obtain ⟨hres, medium, hmedium, hh⟩ := broadcast_hears hs.coherent hs.onTime hf
    rw [hs.topology] at hmedium
    exact ⟨hres, .transmit hm hs hmedium hh⟩

end CarrierSense.Network
