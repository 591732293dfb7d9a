import CarrierSense.Proofs.Network.Coherent

/-!
# Effects on a network

What a network looks like once the effects of a turn are carried out: the radio that acted has the
alarms that the turn asked for, all other radios are as before, deliveries are counted at the home node,
and relayed frames wait to be forwarded. In a coherent network effects never fail with an error.
-/

namespace CarrierSense

/-- The node after `n` more frames have reached it. -/
def Endpoint.took (e : Endpoint) (n : Nat) : Endpoint := { e with consumed := e.consumed + n }

/-- Whether an effect hands a frame to the node of the interface. -/
def Effect.delivers : Effect → Bool
  | .deliver _ => true
  | _ => false

/-- Whether an effect of the interface `i` posts an event that satisfies `p`, apart from timers. -/
def Effect.posts (i : InterfaceId) (p : Event → Bool) : Effect → Bool
  | .relay frame => p (.forward i frame)
  | _ => false

namespace Network

variable {net mid net' : Network} {w : Setting} {i : InterfaceId} {k : Timer} {r : Radio}
  {e : Effect} {es es' : List Effect} {result : Except NetworkError Unit}

/-- What the effects `es` of an interface make of a network, apart from its own radio. -/
structure Affected (net : Network) (w : Setting) (es : List Effect) (net' : Network) : Prop where
  coherent : net'.Coherent
  onTime : net'.scheduler.OnTime
  now : net'.now = net.now
  timing : net'.timing = net.timing
  topology : net'.topology = net.topology
  radio_other : ∀ {j}, j ≠ w.self → net'.radio j = net.radio j
  alarms_self : net'.alarms w.self = es.foldl Alarms.after (net.alarms w.self)
  alarms_other : ∀ {j}, j ≠ w.self → net'.alarms j = net.alarms j
  endpoint : ∀ n, net'.endpoint n =
    (net.endpoint n).map (Endpoint.took · (if n = w.home then es.countP Effect.delivers else 0))
  waiting : ∀ {p : Event → Bool}, (∀ i k, p (.timer i k) = false) →
    net'.scheduler.waiting p = net.scheduler.waiting p + es.countP (Effect.posts w.self p)

/-- The effects `es` of an interface are carried out: of its own radio, only the handles change. -/
structure Carried (net : Network) (w : Setting) (es : List Effect) (net' : Network) : Prop
    extends net.Affected w es net' where
  radio_self : ∀ {r}, net.radio w.self = .ok r →
    ∃ timers, net'.radio w.self = .ok { r with timers }

/-- What two lists of effects change is what both together change. -/
lemma Affected.trans (h : net.Affected w es mid) (h' : mid.Affected w es' net') :
    net.Affected w (es ++ es') net' where
  coherent := h'.coherent
  onTime := h'.onTime
  now := h'.now.trans h.now
  timing := h'.timing.trans h.timing
  topology := h'.topology.trans h.topology
  radio_other := fun hj => (h'.radio_other hj).trans (h.radio_other hj)
  alarms_self := by rw [h'.alarms_self, h.alarms_self, List.foldl_append]
  alarms_other := fun hj => (h'.alarms_other hj).trans (h.alarms_other hj)
  endpoint := fun n => by
    rw [h'.endpoint, h.endpoint]
    cases net.endpoint n with
    | error halt => rfl
    | ok e => split <;> simp [Except.map, Endpoint.took, Nat.add_assoc]
  waiting := fun hp => by
    rw [h'.waiting hp, h.waiting hp, List.countP_append, Nat.add_assoc]

/-- Effects that are carried out one after the other are carried out together. -/
lemma Carried.trans (h : net.Carried w es mid) (h' : mid.Carried w es' net') :
    net.Carried w (es ++ es') net' where
  toAffected := h.toAffected.trans h'.toAffected
  radio_self := fun hr => by
    obtain ⟨timers, hm⟩ := h.radio_self hr
    obtain ⟨timers', hn⟩ := h'.radio_self hm
    exact ⟨timers', hn⟩

/-- Nothing is asked for, and at most the own radio has changed. -/
lemma Affected.quiet (h : net'.Coherent ∧ net'.alarms = net.alarms) (ho : net.scheduler.OnTime)
    (hr : ∀ {j}, j ≠ w.self → net'.radio j = net.radio j) (hs : net'.scheduler = net.scheduler)
    (hti : net'.timing = net.timing) (hto : net'.topology = net.topology)
    (hn : net'.endpoint = net.endpoint) : net.Affected w [] net' := by
  refine ⟨h.1, hs ▸ ho, congrArg Scheduler.now hs, hti, hto, hr, by rw [h.2]; rfl, fun _ => by rw [h.2],
    fun n => ?_, fun _ => by rw [hs]; rfl⟩
  rw [hn]
  cases net.endpoint n <;> simp [Except.map, Endpoint.took]

/-- Where there are no effects, nothing has to be carried out. -/
lemma Carried.nil (h : net.Coherent) (ho : net.scheduler.OnTime) (w : Setting) :
    net.Carried w [] net :=
  ⟨.quiet ⟨h, rfl⟩ ho (fun _ => rfl) rfl rfl rfl rfl, fun {r} hr => ⟨r.timers, hr⟩⟩

/-- An effect that neither radios nor scheduler take part in. -/
lemma Carried.aside (h : net.Coherent) (ho : net.scheduler.OnTime) (hr : net'.radio = net.radio)
    (hs : net'.scheduler = net.scheduler) (hti : net'.timing = net.timing)
    (hto : net'.topology = net.topology) (ha : ∀ d : Alarms, d.after e = d)
    (hn : ∀ n, net'.endpoint n =
      (net.endpoint n).map (Endpoint.took · (if n = w.home then [e].countP Effect.delivers else 0)))
    (hp : ∀ p, e.posts w.self p = false) : net.Carried w [e] net' := by
  obtain ⟨h', hal⟩ := h.congr hr hs
  exact ⟨⟨h', hs ▸ ho, congrArg Scheduler.now hs, hti, hto, fun _ => by rw [hr], by simp [hal, ha],
    fun _ => by rw [hal], hn, fun _ => by simp [hs, hp]⟩, fun {r} h => ⟨r.timers, by rw [hr]; exact h⟩⟩

/-- An effect that delivers nothing leaves all endpoints as they are. -/
lemma endpoint_same (he : e.delivers = false) (h : net'.endpoint = net.endpoint) (n : NodeId) :
    net'.endpoint n =
      (net.endpoint n).map (Endpoint.took · (if n = w.home then [e].countP Effect.delivers else 0)) := by
  rw [h]
  cases net.endpoint n <;> simp [Except.map, Endpoint.took, he]

/-- A timer that is disarmed is carried out, and its handle is gone. -/
lemma disarm_carried (h : net.Coherent) (ho : net.scheduler.OnTime)
    (hd : net.disarm w.self k = .ok net') :
    net.Carried w [.disarm k] net' ∧ ∃ r, net'.radio w.self = .ok r ∧ r.timers.get k = none := by
  simp only [disarm, bind_eq_ok] at hd
  obtain ⟨r, hr, hd⟩ := hd
  split at hd
  · -- without a handle the alarm is not set either, so that clearing it changes nothing
    rename_i hnone
    cases hd
    have hal : net.alarms w.self = (net.alarms w.self).set k none := by
      have hslot := h.slot_isSome hr k
      funext l
      by_cases hl : k = l
      · subst hl
        simpa [hnone] using hslot
      · simp [hl]
    refine ⟨⟨⟨h, ho, rfl, rfl, rfl, fun _ => rfl, hal, fun _ => rfl, endpoint_same rfl rfl, fun _ => rfl⟩,
      fun {s} hs => ⟨s.timers, hs⟩⟩, r, hr, hnone⟩
  · rename_i id hsome
    have hd := (Except.ok.inj hd).symm
    obtain ⟨time, hp⟩ := h.slot hr hsome
    have hs : net'.scheduler = (net.scheduler.drop id).2 := by
      rw [hd]
      rfl
    have hself : net'.radio w.self = .ok { r with timers := r.timers.set k none } := by
      rw [hd]
      exact radio_setRadio_self hr _
    have hother : ∀ {j}, j ≠ w.self → net'.radio j = net.radio j := fun hj => by
      rw [hd]
      exact radio_setRadio_ne hj _
    have h' := h.drop_timer hp hs hself hr hother
    obtain ⟨halarms, halarms'⟩ := h.alarms_drop_timer hp hs h'
    refine ⟨⟨⟨h', hs ▸ ho.drop h.filed, ?_, by rw [hd]; rfl, by rw [hd]; rfl, hother, halarms, halarms',
      endpoint_same rfl (by rw [hd]; rfl), fun hq => ?_⟩, fun {s} hr' => ?_⟩, _, hself, ?_⟩
    · exact (congrArg Scheduler.now hs).trans (Scheduler.now_drop _ _)
    · rw [hs, Scheduler.waiting_drop h.filed hp rfl]
      simp [hq, Effect.posts]
    · rw [hr] at hr'
      cases hr'
      exact ⟨_, hself⟩
    · simp [Timers.get_set]

/-- A timer can be set to any tick that is not over. -/
lemma arm_carried {time : Nat} (h : net.Coherent) (ho : net.scheduler.OnTime) (hnow : net.now ≤ time)
    (ha : net.arm w.self k time = .ok (result, net')) :
    result = .ok () ∧ net.Carried w [.arm k time] net' := by
  simp only [arm, bind_eq_ok, Clock.check_eq_ok_iff] at ha
  obtain ⟨_, ⟨hlast, rfl⟩, mid, hd, ha⟩ := ha
  obtain ⟨hc, r, hr, hnone⟩ := disarm_carried h ho hd
  split at ha
  · -- the post cannot be refused, since the time is not over
    rename_i e hpost
    have hnow' : mid.scheduler.now ≤ _ := Nat.le_trans (Nat.le_of_eq hc.now) hnow
    simp [Scheduler.post, Nat.not_lt.2 hnow'] at hpost
  · rename_i id scheduler hpost
    simp only [hr, ok_bind, pure_eq_ok, Except.ok.injEq, Prod.mk.injEq] at ha
    obtain ⟨hres, ha⟩ := ha
    have hr₀ : { mid with scheduler }.radio w.self = .ok r := hr
    have hself : net'.radio w.self = .ok { r with timers := r.timers.set k (some id) } := by
      rw [← ha]
      exact radio_setRadio_self hr₀ _
    have hother : ∀ {j}, j ≠ w.self → net'.radio j = mid.radio j := fun hj => by
      rw [← ha]
      exact radio_setRadio_ne hj _
    have hs : net'.scheduler = scheduler := by
      rw [← ha]
      rfl
    rw [← hs] at hpost
    have h' := hc.coherent.post_timer hr hnone hpost hself hother
    obtain ⟨halarms, halarms'⟩ := hc.coherent.alarms_post_timer hpost h'
    have hwait := Scheduler.waiting_post hc.coherent.filed hpost
    refine ⟨hres.symm, ⟨h', hc.onTime.post hc.coherent.filed hpost hlast, ?_, ?_, ?_,
      fun hj => (hother hj).trans (hc.radio_other hj), ?_,
      fun hj => (halarms' hj).trans (hc.alarms_other hj), ?_, fun hp => ?_⟩, fun hs => ?_⟩
    · exact (Scheduler.now_post hpost).trans hc.now
    · exact (congrArg Network.timing ha).symm.trans hc.timing
    · exact (congrArg Network.topology ha).symm.trans hc.topology
    · rw [halarms, hc.alarms_self]
      simp
    · intro n
      rw [← ha]
      exact hc.endpoint n
    · rw [hwait, hc.waiting hp]
      simp [hp, Effect.posts]
    · obtain ⟨timers, hm⟩ := hc.radio_self hs
      rw [hr] at hm
      cases hm
      exact ⟨_, hself⟩

/-- An endpoint is looked up at its place. -/
lemma endpoint_eq_ok {n : NodeId} {x : Endpoint} :
    net.endpoint n = .ok x ↔ net.endpoints[n.index]? = some x := by
  unfold endpoint
  cases net.endpoints[n.index]? <;> simp

/-- An endpoint that takes the place of another is found there. -/
lemma endpoint_setEndpoint {n : NodeId} {x y : Endpoint} (h : net.endpoint n = .ok x) (m : NodeId) :
    (net.setEndpoint n y).endpoint m = if m = n then .ok y else net.endpoint m := by
  have hlt := (Array.getElem?_eq_some_iff.1 (endpoint_eq_ok.1 h)).1
  split
  · rename_i hm
    subst hm
    simp [endpoint_eq_ok, setEndpoint, hlt]
  · rename_i hm
    have hne : n.index ≠ m.index := fun he => hm (by cases m; cases n; simp_all)
    simp [endpoint, setEndpoint, Array.getElem?_setIfInBounds_ne hne]

/-- A frame that is handed to a node is counted there, and as delivered. -/
lemma put_eq_ok {n : NodeId} (h : net.put n = .ok net') :
    ∃ x, net.endpoint n = .ok x ∧
      net' = { net.setEndpoint n (x.took 1) with counters := net.counters.increment .delivered } := by
  simp only [put, bind_eq_ok] at h
  obtain ⟨x, hx, h⟩ := h
  cases h
  exact ⟨x, hx, rfl⟩

/-- A frame that is handed to its node is carried out. -/
lemma put_carried {frame : Frame} (h : net.Coherent) (ho : net.scheduler.OnTime)
    (hp : net.put w.home = .ok net') : net.Carried w [.deliver frame] net' := by
  obtain ⟨x, hx, rfl⟩ := put_eq_ok hp
  refine .aside h ho rfl rfl rfl rfl (fun _ => rfl) (fun n => ?_) fun _ => rfl
  refine (endpoint_setEndpoint hx n).trans ?_
  split
  · rename_i hn
    simp [hn, hx, Except.map, Effect.delivers]
  · cases net.endpoint n <;> simp [Except.map, Endpoint.took]

/-- A frame can be relayed at any time: it is forwarded within the current tick. -/
lemma relay_carried {frame : Frame} (h : net.Coherent) (ho : net.scheduler.OnTime)
    (hr : net.relay w.self frame = .ok (result, net')) :
    result = .ok () ∧ net.Carried w [.relay frame] net' := by
  -- no delay takes the clock over its last tick
  have hnow : Clock.later net.scheduler.now 0 = net.scheduler.now := by
    have := ho.now_le
    unfold Clock.later
    omega
  unfold relay withPost Scheduler.postAfter at hr
  dsimp only at hr
  rw [hnow] at hr
  split at hr
  · rename_i e hpost
    simp [Scheduler.post] at hpost
  · rename_i id scheduler hpost
    simp only [Except.ok.injEq, Prod.mk.injEq] at hr
    obtain ⟨hres, hr⟩ := hr
    have hs : net'.scheduler = scheduler := by rw [← hr]
    have hradio : net'.radio = net.radio := by
      rw [← hr]
      rfl
    rw [← hs] at hpost
    obtain ⟨h', hal⟩ := h.post_other (by simp) hpost hradio
    refine ⟨hres.symm, ⟨h', ho.post h.filed hpost ho.now_le, Scheduler.now_post hpost, by rw [← hr],
      by rw [← hr], fun _ => by rw [hradio], by rw [hal]; rfl, fun _ => by rw [hal], ?_, fun hp => ?_⟩,
      fun {r} hr => ⟨r.timers, by rw [hradio]; exact hr⟩⟩
    · exact endpoint_same rfl (by rw [← hr]; rfl)
    · rw [List.countP_singleton]
      exact Scheduler.waiting_post h.filed hpost _

/-- In a coherent network an effect is carried out without an error. -/
lemma perform_carried (h : net.Coherent) (ho : net.scheduler.OnTime)
    (he : ∀ {k time}, e = .arm k time → net.now ≤ time)
    (hp : net.perform w e = .ok (result, net')) : result = .ok () ∧ net.Carried w [e] net' := by
  cases e with
  | report status =>
    simp only [perform, bind_eq_ok] at hp
    obtain ⟨iface, -, hp⟩ := hp
    cases hp
    exact ⟨rfl, .aside h ho rfl rfl rfl rfl (fun _ => rfl) (endpoint_same rfl rfl) fun _ => rfl⟩
  | count counter =>
    cases hp
    exact ⟨rfl, .aside h ho rfl rfl rfl rfl (fun _ => rfl) (endpoint_same rfl rfl) fun _ => rfl⟩
  | arm timer time => exact arm_carried h ho (he rfl) hp
  | disarm timer =>
    simp only [perform, bind_eq_ok] at hp
    obtain ⟨mid, hd, hp⟩ := hp
    cases hp
    exact ⟨rfl, (disarm_carried h ho hd).1⟩
  | deliver frame =>
    simp only [perform, bind_eq_ok] at hp
    obtain ⟨mid, hd, hp⟩ := hp
    cases hp
    exact ⟨rfl, put_carried h ho hd⟩
  | relay frame => exact relay_carried h ho hp

/-- Effects are carried out without an error if they set no timer to a time that is over. -/
lemma performAll_carried (h : net.Coherent) (ho : net.scheduler.OnTime)
    (he : ∀ {k time}, .arm k time ∈ es → net.now ≤ time)
    (hp : net.performAll w es = .ok (result, net')) : result = .ok () ∧ net.Carried w es net' := by
  induction es generalizing net with
  | nil =>
    cases hp
    exact ⟨rfl, .nil h ho w⟩
  | cons e es ih =>
    simp only [performAll, andThen_eq_ok] at hp
    have hfirst : ∀ {result mid}, net.perform w e = .ok (result, mid) →
        result = .ok () ∧ net.Carried w [e] mid := fun hm =>
      perform_carried h ho (fun {k time} heq => he (List.mem_cons.2 (.inl heq.symm))) hm
    rcases hp with ⟨e', hm, rfl⟩ | ⟨_, mid, hm, hp⟩
    · exact absurd (hfirst hm).1 (by simp)
    · obtain ⟨-, hc⟩ := hfirst hm
      obtain ⟨hres, hc'⟩ := ih hc.coherent hc.onTime
        (fun hmem => hc.now ▸ he (List.mem_cons_of_mem _ hmem)) hp
      exact ⟨hres, hc.trans hc'⟩

end Network

end CarrierSense
