import CarrierSense.Proofs.Network.Changes
import CarrierSense.Proofs.Network.Enactment
import CarrierSense.Proofs.Radio.Overhearing

/-!
# Footprints

What an operation leaves alone. A network `Touches` another one, near some interfaces and by some events, if all
radios but those of these interfaces are the same, and all events but these are pending under the same numbers as
before. The footprint of a turn can be read off its effects: the radio that acts, the events of the timers that are
set or cancelled, and the frames that are taken on. What the random numbers come from, and most counters, are beyond
its reach.
-/

namespace CarrierSense

/-- The interface that an event belongs to, if it belongs to any. -/
def Event.iface? : Event → Option InterfaceId
  | .timer i _ | .forward i _ => some i
  | .produce _ => none

/-- The event that an effect of the interface `i` posts or takes out, if any. -/
def Effect.event? (i : InterfaceId) : Effect → Option Event
  | .arm k _ | .disarm k => some (.timer i k)
  | .relay f => some (.forward i f)
  | .report _ | .count _ | .deliver _ => none

/-- The events of an effect belong to the interface that asks for it. -/
lemma Effect.iface_of_event? {i : InterfaceId} {e : Effect} {event : Event} (h : e.event? i = some event) :
    event.iface? = some i := by
  cases e <;> cases h <;> rfl

/-- To hear a frame begin is a matter of two timers. -/
lemma Effect.event_of_isHearing {i : InterfaceId} {e : Effect} {endsAt : Nat} {event : Event}
    (he : e.isHearing endsAt = true) (h : e.event? i = some event) :
    event = .timer i .reception ∨ event = .timer i .backoff := by
  cases e with
  | arm k time =>
    cases h
    rw [(of_decide_eq_true he).1]
    exact .inl rfl
  | disarm k =>
    cases h
    rw [of_decide_eq_true he]
    exact .inr rfl
  | report | count | deliver | relay => cases h <;> cases he

/-- To hear a frame begin is counted by three counters. -/
lemma Effect.counts_of_isHearing {e : Effect} {endsAt : Nat} {c : Counter} (he : e.isHearing endsAt = true)
    (hc : c ≠ .missed ∧ c ≠ .collisions ∧ c ≠ .deferrals) : e.counts c = false := by
  cases e with
  | count counter =>
    refine decide_eq_false fun heq => ?_
    rcases of_decide_eq_true he with rfl | rfl | rfl
    · exact hc.1 heq.symm
    · exact hc.2.1 heq.symm
    · exact hc.2.2 heq.symm
  | report | arm | disarm => rfl
  | deliver | relay => cases he

namespace Network

variable {net mid net' : Network} {near near' : InterfaceId → Prop} {mine mine' : Event → Prop} {w : Setting}
  {i : InterfaceId} {k : Timer} {r : Radio} {n : NodeId} {f : Frame} {t : Turn} {e : Effect} {es : List Effect}
  {event : Event} {id : EventId} {time : Nat} {scheduler : Scheduler Event} {result : Except NetworkError Unit}

/-- The network `net` has become `net'`, and nothing may differ in topology, radios and pending events but the radios
of the interfaces that are `near`, and the events that are `mine`. -/
structure Touches (net : Network) (near : InterfaceId → Prop) (mine : Event → Prop) (net' : Network) : Prop where
  topology : net'.topology = net.topology
  radio : ∀ j, ¬ near j → net'.radio j = net.radio j
  pending : ∀ due event, ¬ mine event → (net'.scheduler.Pending due event ↔ net.scheduler.Pending due event)

namespace Touches

/-- Where nothing changes, nothing is touched. -/
lemma refl (net : Network) : net.Touches near mine net := ⟨rfl, fun _ _ => rfl, fun _ _ _ => Iff.rfl⟩

/-- Two changes that touch at most the same touch no more together. -/
lemma trans (h : net.Touches near mine mid) (h' : mid.Touches near mine net') : net.Touches near mine net' where
  topology := h'.topology.trans h.topology
  radio := fun j hj => (h'.radio j hj).trans (h.radio j hj)
  pending := fun due event he => (h'.pending due event he).trans (h.pending due event he)

/-- What touches little touches no more than what includes it. -/
lemma mono (h : net.Touches near mine net') (hnear : ∀ j, near j → near' j)
    (hmine : ∀ event, mine event → mine' event) : net.Touches near' mine' net' where
  topology := h.topology
  radio := fun j hj => h.radio j fun hn => hj (hnear j hn)
  pending := fun due event he => h.pending due event fun hm => he (hmine event hm)

/-- Without a change of topology, radios and scheduler nothing is touched. -/
lemma of_eq (ht : net'.topology = net.topology) (hr : net'.radio = net.radio) (hs : net'.scheduler = net.scheduler) :
    net.Touches near mine net' :=
  ⟨ht, fun _ _ => by rw [hr], fun _ _ _ => by rw [hs]⟩

/-- Another radio touches the interface that it belongs to. -/
lemma setRadio (net : Network) (i : InterfaceId) (r : Radio) : net.Touches (· = i) mine (net.setRadio i r) :=
  ⟨rfl, fun _ hj => radio_setRadio_ne hj r, fun _ _ _ => Iff.rfl⟩

/-- A post adds one event. -/
lemma post (hf : net.scheduler.Filed) (hp : net.scheduler.post time event = .ok (id, scheduler)) :
    net.Touches near (· = event) { net with scheduler } :=
  ⟨rfl, fun _ _ => rfl, fun _ _ he => (Scheduler.pending_post hf hp).trans (or_iff_right fun hq => he hq.2)⟩

/-- A post touches the event that is posted. -/
lemma withPost (hf : net.scheduler.Filed) (hp : net.withPost (net.scheduler.post time event) = .ok (result, net')) :
    net.Touches near (· = event) net' := by
  unfold Network.withPost at hp
  split at hp <;> cases hp
  · exact .refl net
  · exact .post hf ‹_›

/-- The handle that a radio keeps of a timer leads to its event, so that no other is taken out. -/
lemma drop (h : net.Coherent) (hr : net.radio i = .ok r) (hk : r.timers.get k = some id) :
    net.Touches near (· = .timer i k) { net with scheduler := (net.scheduler.drop id).2 } := by
  refine ⟨rfl, fun _ _ => rfl, fun due event he => (Scheduler.pending_drop h.filed).trans ?_⟩
  exact and_iff_left_of_imp fun hp hn => he ((h.number_eq_iff hr hk hp).1 hn)

/-- The event that is taken out is the only one. -/
lemma pop (h : net.Coherent) (hp : net.scheduler.popDue = some ((id, event), scheduler)) :
    net.Touches near (· = event) { net with scheduler } := by
  refine ⟨rfl, fun _ _ => rfl, fun due event' he => (Scheduler.pending_popDue h.filed hp).trans ?_⟩
  refine and_iff_left_of_imp fun hq hn => he ?_
  obtain ⟨time, hpend, -⟩ := Scheduler.popDue_eq_some hp
  obtain rfl := h.filed.place_unique hq hpend hn
  exact hq.unique hpend

end Touches

/-- To cancel a timer is to forget its handle, and to take its event out. -/
lemma disarm_eq_ok (hd : net.disarm i k = .ok net') : net' = net ∨ ∃ r id, net.radio i = .ok r ∧
    r.timers.get k = some id ∧ net' = { net.setRadio i { r with timers := r.timers.set k none } with
      scheduler := (net.scheduler.drop id).2 } := by
  obtain ⟨r, hr, hd⟩ := bind_eq_ok.1 hd
  split at hd
  · cases hd
    exact .inl rfl
  · rename_i id hid
    cases hd
    exact .inr ⟨r, id, hr, hid, rfl⟩

/-- To set a timer is to cancel it, and to post an event for it. -/
lemma arm_eq_ok (ha : net.arm i k time = .ok (result, net')) : ∃ mid : Network, net.disarm i k = .ok mid ∧
    (net' = mid ∨ ∃ id scheduler, ∃ r : Radio, mid.scheduler.post time (.timer i k) = .ok (id, scheduler) ∧
      net' = setRadio { mid with scheduler } i { r with timers := r.timers.set k (some id) }) := by
  simp only [arm, bind_eq_ok, Clock.check_eq_ok_iff] at ha
  obtain ⟨_, ⟨-, rfl⟩, mid, hd, ha⟩ := ha
  refine ⟨mid, hd, ?_⟩
  split at ha
  · cases ha
    exact .inl rfl
  · rename_i id scheduler hpost
    obtain ⟨r, -, ha⟩ := bind_eq_ok.1 ha
    cases ha
    exact .inr ⟨id, scheduler, r, hpost, rfl⟩

/-- To disarm a timer touches this timer and the radio that keeps its handle. -/
lemma disarm_touches (h : net.Coherent) (hd : net.disarm i k = .ok net') :
    net.Touches (· = i) (· = .timer i k) net' := by
  rcases disarm_eq_ok hd with rfl | ⟨r, id, hr, hid, rfl⟩
  · exact .refl net'
  · exact (Touches.drop h hr hid).trans (.setRadio _ i _)

/-- To arm a timer touches this timer and the radio that keeps its handle. -/
lemma arm_touches (h : net.Coherent) (ha : net.arm i k time = .ok (result, net')) :
    net.Touches (· = i) (· = .timer i k) net' := by
  obtain ⟨mid, hd, ha⟩ := arm_eq_ok ha
  have hcancel := disarm_touches h hd
  rcases ha with rfl | ⟨id, scheduler, r, hpost, rfl⟩
  · exact hcancel
  · have hfiled : mid.scheduler.Filed := by
      rcases disarm_eq_ok hd with rfl | ⟨r, id, -, -, rfl⟩
      · exact h.filed
      · exact h.filed.drop
    exact hcancel.trans ((Touches.post hfiled hpost).trans (.setRadio _ i _))

/-- A frame that is taken on touches the event that is to forward it. -/
lemma relay_touches (h : net.Coherent) (hr : net.relay i f = .ok (result, net')) :
    net.Touches (· = i) (· = .forward i f) net' := by
  have hcount : net.Touches (· = i) (· = .forward i f) { net with counters := net.counters.increment .forwarded } :=
    .of_eq rfl rfl rfl
  exact hcount.trans (.withPost h.filed hr)

/-- An effect touches the radio of its interface, and the event that it posts or takes out. -/
lemma perform_touches (h : net.Coherent) (hp : net.perform w e = .ok (result, net')) :
    net.Touches (· = w.self) (fun event => e.event? w.self = some event) net' := by
  have hevent : ∀ {event}, e.event? w.self = some event → net.Touches (· = w.self) (· = event) net' →
      net.Touches (· = w.self) (fun event => e.event? w.self = some event) net' := by
    intro event he ht
    refine ht.mono (fun _ => id) ?_
    rintro _ rfl
    exact he
  cases e with
  | report status =>
    obtain ⟨iface, -, hp⟩ := bind_eq_ok.1 hp
    cases hp
    exact .of_eq rfl rfl rfl
  | count counter =>
    cases hp
    exact .of_eq rfl rfl rfl
  | arm timer time => exact hevent rfl (arm_touches h hp)
  | disarm timer =>
    obtain ⟨mid, hd, hp⟩ := bind_eq_ok.1 hp
    cases hp
    exact hevent rfl (disarm_touches h hd)
  | deliver frame =>
    obtain ⟨mid, hd, hp⟩ := bind_eq_ok.1 hp
    cases hp
    obtain ⟨x, -, rfl⟩ := put_eq_ok hd
    exact .of_eq rfl rfl rfl
  | relay frame => exact hevent rfl (relay_touches h hp)

/-- An effect counts for the counters that it is said to count for, and for no other. -/
lemma perform_counters {c : Counter} (hc : e.counts c = false) (hp : net.perform w e = .ok (result, net')) :
    net'.counters.get c = net.counters.get c := by
  have hother : ∀ {c'}, decide (c' = c) = false →
      (net.counters.increment c').get c = net.counters.get c := by
    intro c' hne
    rw [Counters.get_increment, if_neg (of_decide_eq_false hne), Nat.add_zero]
  have hcancel : ∀ {k mid}, net.disarm w.self k = .ok mid → mid.counters = net.counters := by
    intro k mid hd
    rcases disarm_eq_ok hd with rfl | ⟨r, id, -, -, rfl⟩ <;> rfl
  cases e with
  | report status =>
    obtain ⟨iface, -, hp⟩ := bind_eq_ok.1 hp
    cases hp
    rfl
  | count counter =>
    cases hp
    exact hother hc
  | arm timer time =>
    obtain ⟨mid, hd, ha⟩ := arm_eq_ok hp
    rcases ha with rfl | ⟨id, scheduler, r, -, rfl⟩ <;> exact congrArg (·.get c) (hcancel hd)
  | disarm timer =>
    obtain ⟨mid, hd, hp⟩ := bind_eq_ok.1 hp
    cases hp
    exact congrArg (·.get c) (hcancel hd)
  | deliver frame =>
    obtain ⟨mid, hd, hp⟩ := bind_eq_ok.1 hp
    cases hp
    obtain ⟨x, -, rfl⟩ := put_eq_ok hd
    exact hother hc
  | relay frame =>
    simp only [perform, relay, withPost] at hp
    split at hp <;> cases hp <;> exact hother hc

/-- Effects touch the radio of their interface, and the events that they post or take out. -/
lemma performAll_touches (h : net.Coherent) (ho : net.scheduler.OnTime)
    (he : ∀ {k time}, .arm k time ∈ es → net.now ≤ time)
    (hmine : ∀ e ∈ es, ∀ event, e.event? w.self = some event → mine event)
    (hp : net.performAll w es = .ok (result, net')) : net.Touches (· = w.self) mine net' := by
  induction es generalizing net with
  | nil =>
    cases hp
    exact .refl _
  | cons e es ih =>
    obtain ⟨hfirst, hrest⟩ := List.forall_mem_cons.1 hmine
    have htouch : ∀ {result mid}, net.perform w e = .ok (result, mid) → net.Touches (· = w.self) mine mid :=
      fun hm => (perform_touches h hm).mono (fun _ => id) hfirst
    rcases andThen_eq_ok.1 hp with ⟨_, hm, -⟩ | ⟨_, mid, hm, hp⟩
    · exact htouch hm
    · obtain ⟨-, hc⟩ := perform_carried h ho (fun heq => he (List.mem_cons.2 (.inl heq.symm))) hm
      have hlate : ∀ {k time}, .arm k time ∈ es → mid.now ≤ time := fun hmem =>
        hc.now ▸ he (List.mem_cons_of_mem _ hmem)
      exact (htouch hm).trans (ih hc.coherent hc.onTime hlate hrest hp)

/-- Effects change no counter but those that they count with. -/
lemma performAll_counters {c : Counter} (hc : ∀ e ∈ es, e.counts c = false)
    (hp : net.performAll w es = .ok (result, net')) : net'.counters.get c = net.counters.get c := by
  induction es generalizing net with
  | nil =>
    cases hp
    rfl
  | cons e es ih =>
    obtain ⟨hfirst, hrest⟩ := List.forall_mem_cons.1 hc
    rcases andThen_eq_ok.1 hp with ⟨_, hm, -⟩ | ⟨_, mid, hm, hp⟩
    · exact perform_counters hfirst hm
    · exact (ih hrest hp).trans (perform_counters hfirst hm)

/-- A turn touches the radio that takes it, and the events of its effects. -/
lemma settle_touches (h : net.Coherent) (ho : net.scheduler.OnTime) (hr : net.radio w.self = .ok r)
    (hw : w.now = net.now) (ht : t.Proper w r.timers)
    (hmine : ∀ e ∈ t.effects, ∀ event, e.event? w.self = some event → mine event)
    (hs : net.settle w t = .ok (result, net')) : net.Touches (· = w.self) mine net' :=
  (Touches.setRadio net w.self t.radio).trans
    (performAll_touches (h.setRadio hr ht.timers).1 ho (fun hmem => hw ▸ ht.punctual hmem) hmine hs)

/-- A turn touches its own radio, and the events of its effects. -/
lemma act_touches {move : Setting → Turn → Turn} (h : net.Coherent) (ho : net.scheduler.OnTime)
    (hm : ∀ {w r}, (move w { radio := r }).Proper w r.timers)
    (hmine : ∀ w r, ∀ e ∈ (move w { radio := r }).effects, ∀ event, e.event? i = some event → mine event)
    (ha : net.act i move = .ok (result, net')) : net.Touches (· = i) mine net' := by
  simp only [act, bind_eq_ok] at ha
  obtain ⟨r, hr, w, hw, hs⟩ := ha
  obtain rfl := setting_self hw
  exact settle_touches h ho hr (setting_now hw) hm (hmine w r) hs

/-- Radios leave the variates of the sources alone. -/
lemma variates_turnClosed : TurnClosed fun net net' : Network => net'.variates = net.variates where
  refl _ := rfl
  trans h h' := h'.trans h
  radio _ _ _ := rfl
  count _ _ := rfl
  note _ _ := rfl
  put hp := by
    obtain ⟨x, -, rfl⟩ := put_eq_ok hp
    rfl
  drop _ _ := rfl
  post _ _ := rfl

end Network

end CarrierSense
