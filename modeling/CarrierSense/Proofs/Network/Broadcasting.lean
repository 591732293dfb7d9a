import CarrierSense.Proofs.Network.Complete
import CarrierSense.Proofs.Network.Course
import CarrierSense.Proofs.Network.Footprint
import CarrierSense.Proofs.Network.Slots

/-!
# Broadcasting

A frame that is put on the air is heard by the members of the sender's medium, one after the other, and that is all:
nobody begins to send since it hears a frame, takes one, or draws a number (`Network.Calm`). So a broadcast sets off no
other, and ends with the last member (`Network.Broadcasts`).
-/

namespace CarrierSense.Network

variable {net mid net' : Network} {near near' : InterfaceId → Prop} {w : Setting} {i j : InterfaceId} {r : Radio}
  {f : Frame} {members : List InterfaceId} {result : Except NetworkError Unit}

/-- Interfaces that are `near` have heard a frame begin, and nothing else has happened. No radio has begun to send or
has taken a frame, and no queue has changed. Timers were set for the end of a reception, and countdowns stopped.
Neither nodes nor random numbers take part, and only three counters may have gone on. -/
structure Calm (net : Network) (near : InterfaceId → Prop) (net' : Network) : Prop
    extends net.Touches near
      (fun event => ∃ j, near j ∧ (event = .timer j .reception ∨ event = .timer j .backoff)) net' where
  hushed : ∀ j r, net.radio j = .ok r → ∃ r', net'.radio j = .ok r' ∧ r.Hushed r'
  endpoint : net'.endpoint = net.endpoint
  variates : net'.variates = net.variates
  stream : net'.stream = net.stream
  counters : ∀ c, c ≠ .missed ∧ c ≠ .collisions ∧ c ≠ .deferrals → net'.counters.get c = net.counters.get c

namespace Calm

/-- A network that has not changed has been calm. -/
lemma refl (net : Network) : net.Calm near net :=
  ⟨.refl net, fun _ r hr => ⟨r, hr, .refl r⟩, rfl, rfl, rfl, fun _ _ => rfl⟩

/-- Two changes that are calm are calm together. -/
lemma trans (h : net.Calm near mid) (h' : mid.Calm near net') : net.Calm near net' where
  toTouches := h.toTouches.trans h'.toTouches
  hushed := fun j r hr => by
    obtain ⟨r', hr', hh⟩ := h.hushed j r hr
    obtain ⟨r'', hr'', hh'⟩ := h'.hushed j r' hr'
    exact ⟨r'', hr'', hh.trans hh'⟩
  endpoint := h'.endpoint.trans h.endpoint
  variates := h'.variates.trans h.variates
  stream := h'.stream.trans h.stream
  counters := fun c hc => (h'.counters c hc).trans (h.counters c hc)

/-- What is calm among few is calm among more. -/
lemma mono (h : net.Calm near net') (hn : ∀ j, near j → near' j) : net.Calm near' net' where
  toTouches := h.toTouches.mono hn fun _ ⟨j, hj, he⟩ => ⟨j, hn j hj, he⟩
  hushed := h.hushed
  endpoint := h.endpoint
  variates := h.variates
  stream := h.stream
  counters := h.counters

end Calm

/-- Whatever is heard, no frame is handed to a node. -/
lemma Settled.endpoint_receive (h : net.Settled w (Radio.receive w f { radio := r }) net') :
    net'.endpoint = net.endpoint := by
  have hnone : (Radio.receive w f { radio := r }).effects.countP Effect.delivers = 0 := by
    refine List.countP_eq_zero.2 fun e he => ?_
    have hhears := (Radio.receive_overhears w f r).effects e he
    cases e with
    | deliver frame => cases hhears
    | report | count | arm | disarm | relay => exact Bool.false_ne_true
  funext n
  rw [h.endpoint, hnone, ite_self]
  cases net.endpoint n <;> rfl

/-- A frame that reaches a radio is taken calmly there. -/
lemma receive_calm (h : net.Clocked) (hr : net.receive i f = .ok (result, net')) : net.Calm (· = i) net' := by
  obtain ⟨-, r, w, hradio, hw, hset⟩ := receive_settled h.coherent h.onTime hr
  have hself := setting_self hw
  refine ⟨?_, fun j s hs => ?_, hset.endpoint_receive, variates_turnClosed.act hr, stream_turnClosed.act hr,
    fun c hc => ?_⟩
  · refine act_touches h.coherent h.onTime (Radio.receive_proper f (Turn.proper_start _ _)) ?_ hr
    intro w r e he event hevent
    exact ⟨i, rfl, Effect.event_of_isHearing ((Radio.receive_overhears w f r).effects e he) hevent⟩
  · by_cases hj : j = w.self
    · subst hj
      rw [hself, hradio] at hs
      cases hs
      obtain ⟨timers, hr'⟩ := hset.radio_self
      exact ⟨_, hr', (Radio.receive_overhears w f r).toHushed.withTimers timers⟩
    · exact ⟨s, (hset.radio_other hj).trans hs, .refl s⟩
  · simp only [receive, act, settle, bind_eq_ok] at hr
    obtain ⟨s, -, v, -, hs⟩ := hr
    have hcount := performAll_counters (fun e he =>
      Effect.counts_of_isHearing ((Radio.receive_overhears v f s).effects e he) hc) hs
    exact hcount

/-- A frame that reaches the members of a medium is taken calmly, by induction over them. -/
lemma receiveAll_calm (h : net.Clocked) (hr : net.receiveAll f members = .ok (result, net')) :
    net.Calm (· ∈ members) net' := by
  induction members generalizing net with
  | nil =>
    cases hr
    exact .refl _
  | cons i rest ih =>
    have hfirst : ∀ {result mid}, net.receive i f = .ok (result, mid) → net.Calm (· ∈ i :: rest) mid := by
      intro result mid hm
      refine (receive_calm h hm).mono ?_
      rintro _ rfl
      exact List.mem_cons_self
    rcases andThen_eq_ok.1 hr with ⟨_, hm, -⟩ | ⟨_, mid, hm, hr⟩
    · exact hfirst hm
    · obtain ⟨-, s, w, -, -, hset⟩ := receive_settled h.coherent h.onTime hm
      have hrest := ih ⟨hset.coherent, hset.onTime⟩ hr
      exact (hfirst hm).trans (hrest.mono fun j => List.mem_cons_of_mem i)

/-- If no interface is named twice, then each hears the frame once, with its radio as it was before. -/
lemma Hears.once (hh : Hears net f members net') (hnd : members.Nodup) (hj : j ∈ members) :
    ∃ r w timers, net.radio j = .ok r ∧ net.setting j = .ok w ∧
      net'.radio j = .ok { (Radio.receive w f { radio := r }).radio with timers } := by
  induction hh with
  | nil => cases hj
  | @cons net mid net' i r w f rest hr hw hs hrest ih =>
    obtain ⟨hnew, hrestnd⟩ := List.nodup_cons.1 hnd
    have hself := setting_self hw
    rcases List.mem_cons.1 hj with rfl | hj
    · obtain ⟨timers, hr'⟩ := hs.radio_self
      rw [hself] at hr'
      exact ⟨r, w, timers, hr, hw, (hrest.untouched hnew).1.trans hr'⟩
    · -- those that come later find themselves as they were
      have hne : j ≠ w.self := by
        rintro rfl
        exact hnew (hself ▸ hj)
      obtain ⟨s, v, timers, hs', hv, hr'⟩ := ih hrestnd hj
      rw [hs.radio_other hne] at hs'
      rw [setting_congr hs.now hs.timing hs.topology] at hv
      exact ⟨s, v, timers, hs', hv, hr'⟩

/-- The frame `f` of the interface `i` is on the air. The members of its medium have heard it one after the other, each
of them once, and beyond that nothing has happened. -/
structure Broadcasts (net : Network) (i : InterfaceId) (f : Frame) (net' : Network) : Prop
    extends net.Calm (· ∈ net.topology.listeners i) net' where
  heard : Hears net f (net.topology.listeners i) net'
  distinct : (net.topology.listeners i).Nodup
  once : ∀ j ∈ net.topology.listeners i, ∃ r w timers, net.radio j = .ok r ∧ net.setting j = .ok w ∧
    net'.radio j = .ok { (Radio.receive w f { radio := r }).radio with timers }

/-- A broadcast never meets an error. -/
lemma broadcast_broadcasts (h : net.Clocked) (hd : net.topology.Distinct)
    (hb : net.broadcast i f = .ok (result, net')) : result = .ok () ∧ net.Broadcasts i f net' := by
  obtain ⟨medium, hm, hr⟩ := bind_eq_ok.1 hb
  rw [← Topology.listeners_eq hm] at hr
  have hnd : (net.topology.listeners i).Nodup := Topology.listeners_eq hm ▸ hd.mediumOf hm
  obtain ⟨hres, hh⟩ := receiveAll_hears h.coherent h.onTime hr
  exact ⟨hres, receiveAll_calm h hr, hh, hnd, fun j hj => hh.once hnd hj⟩

/-- Whoever is there can hear a frame that ends on the clock. -/
lemma receive_ends {iface : Interface Float} (h : net.Clocked) (hfit : net.Fitted) (hm : net.Matched)
    (hi : net.topology.interface i = .ok iface) (ht : net.now + f.airtime ≤ Clock.last) :
    ∃ net', net.receive i f = .ok (.ok (), net') := by
  obtain ⟨r, hr⟩ := hfit.radio hi
  obtain ⟨x, hx⟩ := hm.endpoint hi
  obtain ⟨w, hw⟩ : ∃ w, net.setting i = .ok w := ⟨_, setting_eq_ok.2 ⟨iface, hi, rfl⟩⟩
  have hhome : w.home = iface.node := by
    obtain ⟨iface', hi', rfl⟩ := setting_eq_ok.1 hw
    cases hi.symm.trans hi'
    rfl
  obtain rfl := setting_self hw
  have hnow := setting_now hw
  have hproper := Radio.receive_proper f (Turn.proper_start w r)
  have htimely : Timely net.now (Radio.receive w f { radio := r }).effects := by
    intro k time hmem
    obtain ⟨-, rfl⟩ := of_decide_eq_true ((Radio.receive_overhears w f r).effects _ hmem)
    rw [hnow]
    exact ⟨Nat.le_add_right _ _, ht⟩
  have hable : (net.setRadio w.self (Radio.receive w f { radio := r }).radio).Able w :=
    ⟨(h.coherent.setRadio hr hproper.timers).1, h.onTime, hnow, ⟨_, radio_setRadio_self hr _⟩, ⟨iface, hi⟩, x,
      hhome ▸ hx⟩
  obtain ⟨net', hp, -⟩ := performAll_enacted hable htimely
  refine ⟨net', ?_⟩
  simp only [receive, act, hr, hw, ok_bind]
  exact hp

/-- A frame that ends on the clock reaches all members of a medium. -/
lemma receiveAll_ends (h : net.Clocked) (hfit : net.Fitted) (hm : net.Matched)
    (hmembers : ∀ j ∈ members, ∃ iface, net.topology.interface j = .ok iface)
    (ht : net.now + f.airtime ≤ Clock.last) : ∃ net', net.receiveAll f members = .ok (.ok (), net') := by
  induction members generalizing net with
  | nil => exact ⟨net, rfl⟩
  | cons i rest ih =>
    obtain ⟨⟨iface, hi⟩, hrest⟩ := List.forall_mem_cons.1 hmembers
    obtain ⟨mid, hr⟩ := receive_ends h hfit hm hi ht
    obtain ⟨-, s, w, -, -, hset⟩ := receive_settled h.coherent h.onTime hr
    have hsame : net.SameSetUp mid := (act_keeps i _).left hr
    obtain ⟨net', hall⟩ := ih ⟨hset.coherent, hset.onTime⟩ (hsame.fitted hfit) (hsame.matched hm)
      (by rwa [hsame.topology]) (by rwa [hset.now])
    refine ⟨net', ?_⟩
    rw [receiveAll, hr]
    exact hall

/-- If no handle dangles, then a frame that ends on the clock reaches all members of the medium. -/
lemma broadcast_ends {iface : Interface Float} (h : net.Clocked) (hfit : net.Fitted) (hm : net.Matched)
    (hfurnished : net.topology.Furnished) (hi : net.topology.interface i = .ok iface)
    (ht : net.now + f.airtime ≤ Clock.last) : ∃ net', net.broadcast i f = .ok (.ok (), net') := by
  obtain ⟨medium, hmedium⟩ := hfurnished.medium hi
  have hof : net.topology.mediumOf i = .ok medium := bind_eq_ok.2 ⟨iface, hi, hmedium⟩
  obtain ⟨net', hr⟩ := receiveAll_ends h hfit hm (fun j hj => hfurnished.member hmedium hj) ht
  exact ⟨net', bind_eq_ok.2 ⟨medium, hof, hr⟩⟩

end CarrierSense.Network
