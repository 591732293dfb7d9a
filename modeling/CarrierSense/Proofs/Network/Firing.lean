import CarrierSense.Proofs.Network.Turns

/-!
# Events of a network

What it means that an event is taken out of the scheduler, and what firing it makes of a network: a timer
that runs out is no longer set, a frame that is sent joins the queue of its interface, and a source that
produces counts the frame and posts its next production.
-/

namespace CarrierSense

/-- What a radio does that is given a frame to send: it starts an attempt if it is idle. -/
def Radio.enqueue (w : Setting) (frame : Frame) (r : Radio) : Turn :=
  let t : Turn := { radio := { r with outgoing := r.outgoing ++ [frame] } }
  if r.status = .idle then trySend w t else t

/-- An idle radio that is given a frame starts an attempt, any other radio does not. -/
lemma Radio.enqueue_eq (w : Setting) (frame : Frame) (r : Radio) :
    enqueue w frame r =
      if r.status = .idle then
        { radio := { r with
            status := .waitingForDifs, outgoing := r.outgoing ++ [frame], collision := false }
          effects := [.report .waitingForDifs, .arm .difs (w.now + w.timing.difs)] }
      else { radio := { r with outgoing := r.outgoing ++ [frame] } } := by
  unfold enqueue
  split
  · rename_i hs
    unfold trySend
    dsimp only
    split
    · rename_i hq
      simp at hq
    · simp [Turn.enter, Turn.edit, Turn.ask, hs]
  · rfl

/-- A radio that is given a frame to send asks at most for a report and a timer. -/
lemma Radio.enqueue_effects (w : Setting) (frame : Frame) (r : Radio) {p : Effect → Bool}
    (hr : ∀ s, p (.report s) = false) (ha : ∀ k time, p (.arm k time) = false) :
    (enqueue w frame r).effects.countP p = 0 := by
  rw [enqueue_eq]
  split <;> simp [hr, ha]

/-- The endpoint of a source that has produced one more frame. -/
def Endpoint.madeOne (x : Endpoint) : Endpoint :=
  { x with traffic := x.traffic.map fun t => { t with produced := t.produced + 1 } }

namespace Network

variable {net mid net' : Network} {w : Setting} {i : InterfaceId} {k : Timer} {r : Radio}
  {f : Frame} {result : Except NetworkError Unit}

/-- At most the handle of one timer is forgotten. -/
lemma clearTimer_eq_ok {id : EventId} {e : Event} (hc : net.clearTimer id e = .ok net') :
    net' = net ∨ ∃ i k r, net.radio i = .ok r ∧
      net' = net.setRadio i { r with timers := r.timers.set k none } := by
  unfold clearTimer at hc
  split at hc
  · simp only [bind_eq_ok] at hc
    obtain ⟨r, hr, hc⟩ := hc
    split at hc <;> cases hc
    · exact .inr ⟨_, _, r, hr, rfl⟩
    · exact .inl rfl
  · cases hc
    exact .inl rfl

section Pop

variable {id : EventId} {e : Event} {scheduler : Scheduler Event} (h : net.Coherent)
  (ho : net.scheduler.OnTime) (hp : net.scheduler.popDue = some ((id, e), scheduler))
  (hc : { net with scheduler }.clearTimer id e = .ok mid)
include h ho hp hc

/-- The timer whose event is taken out has run out just now, and is no longer set. -/
lemma pop_timer (he : e = .timer i k) :
    net.alarms i k = some net.now ∧ ∀ {w : Setting}, w.self = i → net.Carried w [.disarm k] mid := by
  subst he
  have hpend := ho.pending_now hp
  -- the radio still keeps the handle of the event, and is made to forget it
  obtain ⟨r, hr, hid⟩ := h.kept hpend
  have hr' : { net with scheduler }.radio i = .ok r := hr
  have hclear : mid = setRadio { net with scheduler } i { r with timers := r.timers.set k none } := by
    simp only [clearTimer, hr', ok_bind, hid, if_true, pure_eq_ok, Except.ok.injEq] at hc
    exact hc.symm
  have hs : mid.scheduler = (net.scheduler.drop id).2 := by
    rw [hclear]
    exact Scheduler.popDue_eq_drop h.filed hp
  have hself : mid.radio i = .ok { r with timers := r.timers.set k none } := by
    rw [hclear]
    exact radio_setRadio_self hr' _
  have hother : ∀ {j}, j ≠ i → mid.radio j = net.radio j := fun hj => by
    rw [hclear]
    exact radio_setRadio_ne hj _
  have h' := h.drop_timer hpend hs hself hr hother
  obtain ⟨halarms, halarms'⟩ := h.alarms_drop_timer hpend hs h'
  refine ⟨h.alarms_eq_of_pending hpend, ?_⟩
  rintro w rfl
  refine ⟨⟨h', hs ▸ ho.drop h.filed, ?_, by rw [hclear]; rfl, by rw [hclear]; rfl, hother, halarms,
    halarms', endpoint_same rfl (by rw [hclear]; rfl), fun hq => ?_⟩, fun {s} hr' => ?_⟩
  · exact (congrArg Scheduler.now hs).trans (Scheduler.now_drop _ _)
  · rw [hs, Scheduler.waiting_drop h.filed hpend rfl]
    simp [hq, Effect.posts]
  · rw [hr] at hr'
    cases hr'
    exact ⟨_, hself⟩

/-- Any other event is taken out without a trace. -/
lemma pop_other (he : ∀ i k, e ≠ .timer i k) :
    mid = { net with scheduler } ∧ mid.Coherent ∧ mid.scheduler.OnTime ∧ mid.now = net.now ∧
      mid.alarms = net.alarms ∧ net.scheduler.Pending ⟨net.now, id.number⟩ e ∧
      ∀ p, net.scheduler.waiting p = mid.scheduler.waiting p + if p e then 1 else 0 := by
  have hpend := ho.pending_now hp
  have hmid : mid = { net with scheduler } := by
    unfold clearTimer at hc
    split at hc
    · exact absurd rfl (he _ _)
    · cases hc
      rfl
  have hs : mid.scheduler = (net.scheduler.drop id).2 := by
    rw [hmid]
    exact Scheduler.popDue_eq_drop h.filed hp
  have hradio : mid.radio = net.radio := by
    rw [hmid]
    rfl
  obtain ⟨h', hal⟩ := h.same_timers (hs ▸ h.filed.drop) (fun {j r} hr => ⟨r, hradio ▸ hr, rfl⟩)
    (fun {j r} hr => ⟨r, hradio ▸ hr⟩) fun {due j k} => by
      rw [hs, Scheduler.pending_drop h.filed]
      refine ⟨And.left, fun hq => ⟨hq, fun hn => ?_⟩⟩
      have hplace := h.filed.place_unique hq hpend hn
      subst hplace
      exact he j k (hpend.unique hq)
  refine ⟨hmid, h', hs ▸ ho.drop h.filed, ?_, hal, hpend, fun p => ?_⟩
  · exact (congrArg Scheduler.now hs).trans (Scheduler.now_drop _ _)
  · rw [hs]
    exact Scheduler.waiting_drop h.filed hpend rfl p

end Pop

/-- The frame `f` has joined the queue of the interface `i`. -/
def Queued (net : Network) (i : InterfaceId) (f : Frame) (net' : Network) : Prop :=
  ∃ r w, net.radio i = .ok r ∧ net.setting i = .ok w ∧ net.Settled w (Radio.enqueue w f r) net'

/-- A frame that joins a queue reaches no node. -/
lemma Queued.endpoint (h : net.Queued i f net') : net'.endpoint = net.endpoint := by
  obtain ⟨r, w, -, -, hs⟩ := h
  funext n
  rw [hs.endpoint, Radio.enqueue_effects w f r (fun _ => rfl) fun _ _ => rfl, ite_self]
  cases net.endpoint n <;> rfl

/-- A frame that joins a queue changes pending timers only. -/
lemma Queued.waiting (h : net.Queued i f net') {p : Event → Bool}
    (hp : ∀ i k, p (.timer i k) = false) :
    net'.scheduler.waiting p = net.scheduler.waiting p := by
  obtain ⟨r, w, -, -, hs⟩ := h
  rw [hs.waiting hp, Radio.enqueue_effects w f r (fun _ => rfl) fun _ _ => rfl, Nat.add_zero]

/-- Routing fails for want of members only, never because the network has come to rest. -/
lemma route_error {topo : Topology Float} {n : NodeId} {e : NetworkError}
    (h : topo.route i n = .ok (.error e)) : e.isQuiescent = false := by
  simp only [Topology.route, bind_eq_ok] at h
  obtain ⟨iface, -, medium, -, h⟩ := h
  split at h
  · cases h
    rfl
  simp only [bind_eq_ok] at h
  obtain ⟨target, -, h⟩ := h
  split at h
  · cases h
  simp only [bind_eq_ok] at h
  obtain ⟨here, -, h⟩ := h
  split at h
  · simp only [bind_eq_ok] at h
    obtain ⟨best, -, h⟩ := h
    cases h
  split at h
  · simp only [bind_eq_ok] at h
    obtain ⟨best, -, h⟩ := h
    cases h
  · cases h

/-- A frame without a next hop is refused. Any other joins the queue, and an idle radio starts an attempt. -/
lemma send_eq_ok (hs : net.send i f = .ok (result, net')) :
    (net' = net ∧ ∃ e, result = .error e ∧ e.isQuiescent = false) ∨
      ∃ next r mid, net.topology.route i f.destination = .ok (.ok (some next)) ∧ net.radio i = .ok r ∧
        mid = net.setRadio i { r with outgoing := r.outgoing ++ [f.onHop i next] } ∧
        (if r.status = .idle then mid.act i Radio.trySend else .ok (.ok (), mid)) = .ok (result, net') := by
  simp only [send, bind_eq_ok] at hs
  obtain ⟨route, hroute, hs⟩ := hs
  split at hs
  · cases hs
    exact .inl ⟨rfl, _, rfl, route_error hroute⟩
  · simp only [bind_eq_ok] at hs
    obtain ⟨iface, -, target, -, hs⟩ := hs
    cases hs
    exact .inl ⟨rfl, _, rfl, rfl⟩
  · rename_i next
    simp only [bind_eq_ok] at hs
    obtain ⟨r, hr, hs⟩ := hs
    exact .inr ⟨next, r, _, hroute, hr, rfl, hs⟩

/-- A route leads from an interface to a node. -/
lemma route_ends {topo : Topology Float} {d : NodeId} {next : Option InterfaceId}
    (hroute : topo.route i d = .ok (.ok next)) :
    (∃ iface, topo.interface i = .ok iface) ∧ ∃ site, topo.node d = .ok site := by
  simp only [Topology.route, bind_eq_ok] at hroute
  obtain ⟨iface, hiface, medium, -, hroute⟩ := hroute
  split at hroute
  · cases hroute
  · simp only [bind_eq_ok] at hroute
    obtain ⟨target, htarget, -⟩ := hroute
    exact ⟨⟨iface, hiface⟩, target, htarget⟩

/-- A frame without a next hop is refused; any other joins the queue of the interface, on its way to this hop. -/
lemma send_routed (h : net.Coherent) (ho : net.scheduler.OnTime)
    (hs : net.send i f = .ok (result, net')) :
    ((∃ e, result = .error e ∧ e.isQuiescent = false) ∧ net' = net) ∨
      result = .ok () ∧ ∃ next, net.topology.route i f.destination = .ok (.ok (some next)) ∧
        net.Queued i (f.onHop i next) net' := by
  rcases send_eq_ok hs with ⟨rfl, hrefused⟩ | ⟨next, r, mid, hroute, hr, rfl, hs⟩
  · exact .inl ⟨hrefused, rfl⟩
  · obtain ⟨⟨iface, hiface⟩, -⟩ := route_ends hroute
    obtain ⟨w, hw⟩ : ∃ w, net.setting i = .ok w := ⟨_, setting_eq_ok.2 ⟨iface, hiface, rfl⟩⟩
    obtain rfl := setting_self hw
    refine .inr ?_
    suffices hq : result = .ok () ∧ net.Settled w (Radio.enqueue w (f.onHop w.self next) r) net' from
      ⟨hq.1, next, hroute, r, w, hr, hw, hq.2⟩
    -- queueing the frame touches no timer, so that the attempt to send is a turn of its own
    generalize f.onHop w.self next = f at hs ⊢
    have hself := radio_setRadio_self hr { r with outgoing := r.outgoing ++ [f] }
    have hquiet : net.Affected w [] (net.setRadio w.self { r with outgoing := r.outgoing ++ [f] }) :=
      .quiet (h.setRadio hr rfl) ho (fun hj => radio_setRadio_ne hj _) rfl rfl rfl rfl
    have hset := setting_congr (i := w.self) hquiet.now hquiet.timing hquiet.topology
    generalize net.setRadio w.self { r with outgoing := r.outgoing ++ [f] } = mid at hs hself hquiet hset
    unfold Radio.enqueue
    split at hs
    · rename_i hidle
      obtain ⟨hres, r', w', hr', hw', hs⟩ := act_settled hquiet.coherent hquiet.onTime
        (Radio.trySend_proper (Turn.proper_start _ _)) hs
      rw [hself] at hr'
      cases hr'
      rw [hset, hw] at hw'
      cases hw'
      rw [if_pos hidle]
      exact ⟨hres, hquiet.trans hs.toAffected, hs.radio_self⟩
    · rename_i hidle
      cases hs
      rw [if_neg hidle]
      exact ⟨rfl, hquiet, _, hself⟩

/-- A frame without a next hop is refused; any other joins the queue of the interface. -/
lemma send_queued (h : net.Coherent) (ho : net.scheduler.OnTime)
    (hs : net.send i f = .ok (result, net')) :
    ((∃ e, result = .error e ∧ e.isQuiescent = false) ∧ net' = net) ∨
      result = .ok () ∧ (∃ site, net.topology.node f.destination = .ok site) ∧
        ∃ next, net.Queued i (f.onHop i next) net' := by
  rcases send_routed h ho hs with hrefused | ⟨hres, next, hroute, hq⟩
  · exact .inl hrefused
  · exact .inr ⟨hres, (route_ends hroute).2, next, hq⟩

/-- Neither radios nor clock have changed, and nothing but productions has been posted. -/
structure Aside (net net' : Network) : Prop where
  coherent : net'.Coherent
  onTime : net'.scheduler.OnTime
  now : net'.now = net.now
  timing : net'.timing = net.timing
  radio : net'.radio = net.radio
  alarms : net'.alarms = net.alarms
  waiting : ∀ {p : Event → Bool}, (∀ n, p (.produce n) = false) →
    net'.scheduler.waiting p = net.scheduler.waiting p

/-- Without a change of radios and scheduler both are left alone. -/
lemma Aside.of_scheduler (h : net.Coherent) (ho : net.scheduler.OnTime) (ht : net'.timing = net.timing)
    (hr : net'.radio = net.radio) (hs : net'.scheduler = net.scheduler) : net.Aside net' := by
  obtain ⟨h', hal⟩ := h.congr hr hs
  exact ⟨h', hs ▸ ho, congrArg Scheduler.now hs, ht, hr, hal, fun _ => by rw [hs]⟩

/-- Two changes that leave radios and clock alone do so together. -/
lemma Aside.trans (h : net.Aside mid) (h' : mid.Aside net') : net.Aside net' :=
  ⟨h'.coherent, h'.onTime, h'.now.trans h.now, h'.timing.trans h.timing, h'.radio.trans h.radio,
    h'.alarms.trans h.alarms, fun hp => (h'.waiting hp).trans (h.waiting hp)⟩

/-- A production can be posted for any tick that is not over. -/
lemma post_production {n : NodeId} {time : Nat} (h : net.Coherent) (ho : net.scheduler.OnTime)
    (ht : time ≤ Clock.last)
    (hp : net.withPost (net.scheduler.post time (.produce n)) = .ok (result, net')) :
    (net.now ≤ time → result = .ok ()) ∧ net.Aside net' ∧ net'.topology = net.topology ∧
      net'.endpoint = net.endpoint := by
  unfold withPost at hp
  split at hp
  · rename_i e hpost
    cases hp
    refine ⟨fun hnow => ?_, .of_scheduler h ho rfl rfl rfl, rfl, rfl⟩
    have hnow : net.scheduler.now ≤ time := hnow
    simp [Scheduler.post, Nat.not_lt.2 hnow] at hpost
  · rename_i id scheduler hpost
    simp only [Except.ok.injEq, Prod.mk.injEq] at hp
    obtain ⟨hres, hp⟩ := hp
    have hs : net'.scheduler = scheduler := by rw [← hp]
    have hradio : net'.radio = net.radio := by
      rw [← hp]
      rfl
    rw [← hs] at hpost
    obtain ⟨h', hal⟩ := h.post_other (by simp) hpost hradio
    refine ⟨fun _ => hres.symm, ⟨h', ho.post h.filed hpost ht, Scheduler.now_post hpost,
      by rw [← hp], hradio, hal, fun {p} hn => ?_⟩, by rw [← hp], by rw [← hp]; rfl⟩
    rw [Scheduler.waiting_post h.filed hpost]
    simp [hn]

/-- Drawing a delay moves a variate and the stream on. -/
lemma drawDelay_eq_ok {v : VariateId} {delay : Nat} (hd : net.drawDelay v = .ok (delay, net')) :
    delay ≤ Clock.last ∧ ∃ variates stream, net' = { net with variates, stream } := by
  unfold drawDelay at hd
  split at hd
  · cases hd
  · simp only [bind_eq_ok] at hd
    obtain ⟨draw, -, hd⟩ := hd
    cases hd
    exact ⟨Nat.min_le_right _ _, _, _, rfl⟩

/-- To draw a delay leaves radios and clock alone, and the delay is on the clock. -/
lemma drawDelay_aside {v : VariateId} {delay : Nat} (h : net.Coherent) (ho : net.scheduler.OnTime)
    (hd : net.drawDelay v = .ok (delay, net')) :
    delay ≤ Clock.last ∧ net.Aside net' ∧ net'.topology = net.topology ∧
      net'.endpoint = net.endpoint := by
  obtain ⟨hlast, variates, stream, rfl⟩ := drawDelay_eq_ok hd
  exact ⟨hlast, .of_scheduler h ho rfl rfl rfl, rfl, rfl⟩

/-- The source `n` has handed the data frame `f` to its interface `i`, and has counted it. -/
structure Produced (net : Network) (n : NodeId) (i : InterfaceId) (f : Frame) (net' : Network) :
    Prop where
  iface : ∃ site, net.topology.node n = .ok site ∧ site.iface = some i
  data : f.isAck = false
  target : ∃ target, net.topology.node f.destination = .ok target
  queued : ∃ mid, net.Queued i f mid ∧ mid.Aside net' ∧ net'.topology = mid.topology
  source : ∃ x traffic, net.endpoint n = .ok x ∧ x.traffic = some traffic
  endpoint : ∀ m, net'.endpoint m =
    if m = n then (net.endpoint m).map Endpoint.madeOne else net.endpoint m

/-- What is left to do once a source has queued a frame: to count it, and to post the next production. -/
def countOne (net : Network) (n : NodeId) (x : Endpoint) (traffic : Traffic) :
    Except Halt (Reply Unit) := do
  let traffic := { traffic with produced := traffic.produced + 1 }
  let net := net.setEndpoint n { x with traffic := some traffic }
  if traffic.isExhausted then return (.ok (), net)
  let (delay, net) ← net.drawDelay traffic.nextDelay
  net.withPost (net.scheduler.postAfter delay (.produce n))

/-- The frame that a source makes, and the stream that its draws leave. -/
def drawFrame (net : Network) (n : NodeId) (traffic : Traffic) : Frame × Stream :=
  let (place, stream) := net.stream.between64 0 (traffic.destinations.length - 1)
  let (id, stream) := stream.between32 0 32767
  (Frame.data id traffic.messageLength n (traffic.destinations.getD place n), stream)

/-- A source that fires leaves the network alone if it has nothing left, or is refused. Otherwise it makes a frame,
hands it to its interface, and counts it. -/
lemma produce_makes {n : NodeId} (hp : net.produce n = .ok (result, net')) :
    (net' = net ∧ ((∃ e, result = .error e ∧ e.isQuiescent = false) ∨ result = .ok () ∧
      ∀ {x traffic}, net.endpoint n = .ok x → x.traffic = some traffic → traffic.isExhausted = true)) ∨
    ∃ site x traffic i, net.topology.node n = .ok site ∧ site.iface = some i ∧
      net.endpoint n = .ok x ∧ x.traffic = some traffic ∧ traffic.isExhausted = false ∧ traffic.destinations ≠ [] ∧
      andThen ({ net with stream := (net.drawFrame n traffic).2 }.send i (net.drawFrame n traffic).1)
        (fun _ net => net.countOne n x traffic) = .ok (result, net') := by
  simp only [produce, bind_eq_ok] at hp
  obtain ⟨site, hsite, x, hx, hp⟩ := hp
  split at hp
  · rename_i hnone
    cases hp
    exact .inl ⟨rfl, .inl ⟨_, rfl, rfl⟩⟩
  rename_i traffic htraffic
  split at hp
  · rename_i hdone
    cases hp
    refine .inl ⟨rfl, .inr ⟨rfl, fun hx' ht => ?_⟩⟩
    rw [hx] at hx'
    cases hx'
    rw [htraffic] at ht
    cases ht
    exact hdone
  rename_i hmore
  split at hp
  · cases hp
    exact .inl ⟨rfl, .inl ⟨_, rfl, rfl⟩⟩
  rename_i hdestinations
  split at hp
  · cases hp
    exact .inl ⟨rfl, .inl ⟨_, rfl, rfl⟩⟩
  rename_i i hi
  refine .inr ⟨site, x, traffic, i, hsite, hi, hx, htraffic, by simpa using hmore, by simpa using hdestinations, ?_⟩
  simp only [drawFrame]
  generalize net.stream.between64 0 (traffic.destinations.length - 1) = place at hp ⊢
  generalize place.2.between32 0 32767 = id at hp ⊢
  exact hp

/-- A source that fires leaves the network alone if it has nothing left, or is refused. Otherwise it hands a
data frame to its interface, and counts it. -/
lemma produce_eq_ok {n : NodeId} (hp : net.produce n = .ok (result, net')) :
    (net' = net ∧ ((∃ e, result = .error e ∧ e.isQuiescent = false) ∨ result = .ok () ∧
      ∀ {x traffic}, net.endpoint n = .ok x → x.traffic = some traffic → traffic.isExhausted = true)) ∨
    ∃ site x traffic i stream, ∃ f : Frame, net.topology.node n = .ok site ∧ site.iface = some i ∧
      net.endpoint n = .ok x ∧ x.traffic = some traffic ∧ traffic.isExhausted = false ∧ f.isAck = false ∧
      andThen ({ net with stream }.send i f) (fun _ net => net.countOne n x traffic) =
        .ok (result, net') := by
  rcases produce_makes hp with hsame | ⟨site, x, traffic, i, hsite, hi, hx, htraffic, hmore, -, hp⟩
  · exact .inl hsame
  · have hdata : (net.drawFrame n traffic).1.isAck = false := rfl
    generalize net.drawFrame n traffic = drawn at hp hdata
    exact .inr ⟨site, x, traffic, i, drawn.2, drawn.1, hsite, hi, hx, htraffic, hmore, hdata, hp⟩

/-- To count a frame leaves radios and clock alone, and changes the endpoint of its source. -/
lemma count_produced {n : NodeId} {x : Endpoint} {traffic : Traffic} (h : net.Coherent)
    (ho : net.scheduler.OnTime) (hx : net.endpoint n = .ok x) (ht : x.traffic = some traffic)
    (hp : net.countOne n x traffic = .ok (result, net')) :
    result = .ok () ∧ net.Aside net' ∧ net'.topology = net.topology ∧
      ∀ m, net'.endpoint m =
        if m = n then (net.endpoint m).map Endpoint.madeOne else net.endpoint m := by
  unfold countOne at hp
  generalize htr : { traffic with produced := traffic.produced + 1 } = traffic' at hp
  have hmade : { x with traffic := some traffic' } = x.madeOne := by
    simp [Endpoint.madeOne, ht, htr]
  dsimp only at hp
  rw [hmade] at hp
  have hcount : net.Aside (net.setEndpoint n x.madeOne) := .of_scheduler h ho rfl rfl rfl
  have hcounted : ∀ m, (net.setEndpoint n x.madeOne).endpoint m =
      if m = n then (net.endpoint m).map Endpoint.madeOne else net.endpoint m := by
    intro m
    rw [endpoint_setEndpoint hx]
    split
    · rename_i hm
      rw [hm, hx]
      rfl
    · rfl
  have htop : (net.setEndpoint n x.madeOne).topology = net.topology := rfl
  generalize net.setEndpoint n x.madeOne = net₁ at hp hcount hcounted htop
  split at hp
  · cases hp
    exact ⟨rfl, hcount, htop, hcounted⟩
  · simp only [bind_eq_ok] at hp
    obtain ⟨⟨delay, net₂⟩, hd, hp⟩ := hp
    obtain ⟨-, haside, htop', hend'⟩ := drawDelay_aside hcount.coherent hcount.onTime hd
    obtain ⟨hres, haside', htop'', hend''⟩ := post_production haside.coherent haside.onTime
      (Clock.later_le_last _ _) hp
    have hres := hres (Clock.le_later haside.onTime.now_le delay)
    refine ⟨hres, (hcount.trans haside).trans haside', htop''.trans (htop'.trans htop), fun m => ?_⟩
    rw [hend'', hend', hcounted]

/-- A source that fires produces no frame, or one that is routed. -/
lemma produce_routed {n : NodeId} (h : net.Coherent) (ho : net.scheduler.OnTime)
    (hp : net.produce n = .ok (result, net')) :
    (net.Aside net' ∧ net'.topology = net.topology ∧ net'.endpoint = net.endpoint) ∨
      result = .ok () ∧ ∃ i, ∃ f : Frame, ∃ next, net.topology.route i f.destination = .ok (.ok (some next)) ∧
        net.Produced n i (f.onHop i next) net' := by
  have hsame : net.Aside net ∧ net.topology = net.topology ∧ net.endpoint = net.endpoint :=
    ⟨.of_scheduler h ho rfl rfl rfl, rfl, rfl⟩
  rcases produce_eq_ok hp with ⟨rfl, -⟩ |
    ⟨site, x, traffic, i, stream, f, hsite, hi, hx, htraffic, -, hack, hp⟩
  · exact .inl hsame
  -- the draws only move the stream on
  have h₀ : Coherent { net with stream } := ⟨h.filed, h.slot, h.kept⟩
  simp only [andThen_eq_ok] at hp
  rcases hp with ⟨e, hs, rfl⟩ | ⟨_, mid, hs, hp⟩
  · rcases send_queued h₀ ho hs with ⟨-, rfl⟩ | ⟨hres, -⟩
    · have haside : net.Aside { net with stream } := ⟨h₀, ho, rfl, rfl, rfl, rfl, fun _ => rfl⟩
      exact .inl ⟨haside, rfl, rfl⟩
    · cases hres
  rcases send_routed h₀ ho hs with ⟨⟨_, hres, -⟩, -⟩ | ⟨-, next, hroute, hq⟩
  · cases hres
  obtain ⟨r, w, hr, hw, hset⟩ := hq
  have hq : net.Queued i (f.onHop i next) mid :=
    ⟨r, w, hr, hw, ⟨hset.coherent, hset.onTime, hset.now, hset.timing, hset.topology, hset.radio_other,
      hset.alarms_self, hset.alarms_other, hset.endpoint, hset.waiting⟩, hset.radio_self⟩
  have hx' : mid.endpoint n = .ok x := by rw [hq.endpoint, hx]
  obtain ⟨hres, haside, htop, hend⟩ := count_produced hset.coherent hset.onTime hx' htraffic hp
  exact .inr ⟨hres, i, f, next, hroute, ⟨site, hsite, hi⟩, hack, (route_ends hroute).2, ⟨mid, hq, haside, htop⟩,
    ⟨x, traffic, hx, htraffic⟩, fun m => by rw [hend, hq.endpoint]⟩

/-- A source that fires produces one frame, or none. -/
lemma produce_cases {n : NodeId} (h : net.Coherent) (ho : net.scheduler.OnTime)
    (hp : net.produce n = .ok (result, net')) :
    (net.Aside net' ∧ net'.topology = net.topology ∧ net'.endpoint = net.endpoint) ∨
      result = .ok () ∧ ∃ i, ∃ f : Frame, ∃ next, net.Produced n i (f.onHop i next) net' := by
  rcases produce_routed h ho hp with haside | ⟨hres, i, f, next, -, hmade⟩
  · exact .inl haside
  · exact .inr ⟨hres, i, f, next, hmade⟩

end Network

end CarrierSense
