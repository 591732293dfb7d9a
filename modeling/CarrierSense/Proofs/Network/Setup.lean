import CarrierSense.Proofs.Network.Sound

/-!
# Setting a network up

What the operations do that build a network and start a run. Most of them leave radios and scheduler
alone; a new interface comes with a radio that is switched on, and at the start of a run all radios are,
with nothing pending but the first productions.
-/

namespace CarrierSense

/-- A radio that was just switched on is sound if none of its timers is set. -/
lemma Radio.powerOn_sound (timing : Timing) {d : Alarms} (hd : ∀ k, d k = none) :
    (powerOn timing).Sound d := by
  constructor <;> simp [hd, powerOn, dictated, Orderly, unburdened_iff]

/-- A radio that was just switched on keeps no handles. -/
lemma Radio.powerOn_get (timing : Timing) (k : Timer) : (powerOn timing).timers.get k = none :=
  Timers.get_default k

namespace Network

variable {net mid net' : Network} {i j : InterfaceId} {r : Radio} {result : Except NetworkError Unit}

/-- Whether an operation leaves radios and scheduler alone. -/
def Op.keepsBooks : Op → Bool
  | addInterface .. | initRun | produce _ | send .. | receive .. | broadcast .. => false
  | op => !op.firesEvents

/-- At most the traffic of one source is changed. -/
lemma editTraffic_eq_ok {n : NodeId} {edit : Traffic → Traffic}
    (he : net.editTraffic n edit = .ok (result, net')) :
    net' = net ∨ ∃ x traffic, net.endpoint n = .ok x ∧ x.traffic = some traffic ∧
      net' = net.setEndpoint n { x with traffic := some (edit traffic) } := by
  simp only [editTraffic, bind_eq_ok] at he
  obtain ⟨x, hx, site, -, he⟩ := he
  split at he <;> cases he
  · exact .inl rfl
  · exact .inr ⟨x, _, hx, ‹_›, rfl⟩

/-- To edit the traffic of a node leaves radios and clock alone. -/
lemma editTraffic_aside {n : NodeId} {edit : Traffic → Traffic} (h : net.Coherent)
    (ho : net.scheduler.OnTime) (he : net.editTraffic n edit = .ok (result, net')) : net.Aside net' := by
  rcases editTraffic_eq_ok he with rfl | ⟨x, traffic, -, -, rfl⟩ <;> exact .of_scheduler h ho rfl rfl rfl

/-- A frame that is handed to its node leaves radios and clock alone. -/
lemma put_aside {n : NodeId} (h : net.Coherent) (ho : net.scheduler.OnTime) (hp : net.put n = .ok net') :
    net.Aside net' := by
  obtain ⟨x, -, rfl⟩ := put_eq_ok hp
  exact .of_scheduler h ho rfl rfl rfl

/-- Whatever is built but interfaces leaves radios and clock alone. -/
lemma Op.apply_aside {op : Op} {fuel : Nat} (hop : op.keepsBooks = true) (h : net.Coherent)
    (ho : net.scheduler.OnTime) (ha : op.apply fuel net = .ok (result, net')) : net.Aside net' := by
  cases op with
  | addVariate | setVariate | addNode | addSource | connectInRange | startTrace | stopTrace | reseed =>
    cases ha
    exact .of_scheduler h ho rfl rfl rfl
  | setPeriod | setMessageLength | addDestination => exact editTraffic_aside h ho ha
  | addMember m i =>
    simp only [apply, Network.addMember, bind_eq_ok] at ha
    obtain ⟨_, ⟨_, -, hm⟩, ha⟩ := ha
    cases hm
    cases ha
    exact .of_scheduler h ho rfl rfl rfl
  | put n =>
    simp only [apply, bind_eq_ok] at ha
    obtain ⟨mid, hp, ha⟩ := ha
    cases ha
    exact put_aside h ho hp
  | _ => cases hop

/-- A new interface comes with a radio that is switched on. -/
lemma addInterface_radio {n : NodeId} {name : String} {radius : Float}
    (h : net.Coherent) (ha : net.addInterface n name radius = .ok (i, net')) :
    net'.Coherent ∧ net'.scheduler = net.scheduler ∧ net'.timing = net.timing ∧
      ∃ i, (∀ r, net.radio i ≠ .ok r) ∧ net'.radio i = .ok (Radio.powerOn net.timing) ∧
        (∀ k, net'.alarms i k = none) ∧
        (∀ {j}, j ≠ i → net'.radio j = net.radio j) ∧ ∀ {j}, j ≠ i → net'.alarms j = net.alarms j := by
  simp only [addInterface, bind_eq_ok] at ha
  obtain ⟨⟨i', topology⟩, -, ha⟩ := ha
  simp only [pure_eq_ok, Except.ok.injEq, Prod.mk.injEq] at ha
  obtain ⟨-, ha⟩ := ha
  have hs : net'.scheduler = net.scheduler := by rw [← ha]
  have hself : net'.radio ⟨net.radios.size⟩ = .ok (Radio.powerOn net.timing) := by
    rw [← ha, radio_eq_ok]
    simp
  have hother : ∀ {j}, j ≠ ⟨net.radios.size⟩ → net'.radio j = net.radio j := by
    intro j hj
    have hne : j.index ≠ net.radios.size := fun he => hj (by cases j; simp_all)
    rw [← ha]
    simp only [radio, Array.getElem?_push, hne, if_false]
  have hnew : ∀ r, net.radio ⟨net.radios.size⟩ ≠ .ok r := by
    simp [radio_eq_ok]
  -- nothing can be pending for an interface that does not exist yet
  have hkept : ∀ {due k}, ¬ net.scheduler.Pending due (.timer ⟨net.radios.size⟩ k) := fun hp => by
    obtain ⟨r, hr, -⟩ := h.kept hp
    exact hnew r hr
  have h' : net'.Coherent := by
    refine h.update (hs ▸ h.filed) hself hother (fun _ => by rw [hs]) (fun hk => ?_) fun hp => ?_
    · rw [Radio.powerOn_get] at hk
      cases hk
    · exact absurd (hs ▸ hp) hkept
  refine ⟨h', hs, by rw [← ha], ⟨net.radios.size⟩, hnew, hself, fun k => ?_, hother, fun hj => ?_⟩
  · simp [alarms, hself, Radio.powerOn_get]
  · exact alarms_congr h h' fun due k => by rw [hs]

/-- Turning variates back touches nothing but the variates. -/
lemma rewindAll_eq (endpoints : List Endpoint) (net : Network) :
    ∃ variates, endpoints.foldl (fun net e => (e.traffic.map net.rewindTraffic).getD net) net =
      { net with variates } := by
  induction endpoints generalizing net with
  | nil => exact ⟨net.variates, rfl⟩
  | cons e rest ih =>
    have hstep : ∃ variates, (e.traffic.map net.rewindTraffic).getD net = { net with variates } := by
      cases e.traffic with
      | none => exact ⟨net.variates, rfl⟩
      | some traffic =>
        simp only [Option.map_some, Option.getD_some, rewindTraffic]
        split <;> exact ⟨_, rfl⟩
    obtain ⟨variates, hstep⟩ := hstep
    rw [List.foldl_cons, hstep]
    exact ih _

/-- What a reset makes of a network, field by field. -/
lemma reset_eq (net : Network) : ∃ variates, net.reset = { net with
    variates
    scheduler := net.scheduler.reset
    counters := {}
    radios := net.radios.map fun _ => Radio.powerOn net.timing
    endpoints := net.endpoints.map Endpoint.reset } := by
  obtain ⟨variates, hv⟩ := rewindAll_eq net.endpoints.toList net
  exact ⟨variates, by simp only [reset, hv]⟩

/-- After a reset every radio has just been switched on. -/
lemma radio_reset (net : Network) (i : InterfaceId) :
    net.reset.radio i = (net.radio i).map fun _ => Radio.powerOn net.timing := by
  obtain ⟨variates, hr⟩ := reset_eq net
  rw [hr]
  simp only [radio, Array.getElem?_map]
  cases net.radios[i.index]? <;> rfl

/-- After a reset nothing is left of what nodes have counted. -/
lemma endpoint_reset (net : Network) (n : NodeId) :
    net.reset.endpoint n = (net.endpoint n).map Endpoint.reset := by
  obtain ⟨variates, hr⟩ := reset_eq net
  rw [hr]
  simp only [endpoint, Array.getElem?_map]
  cases net.endpoints[n.index]? <;> rfl

/-- A reset of a network resets its scheduler. -/
lemma scheduler_reset (net : Network) : net.reset.scheduler = net.scheduler.reset := by
  obtain ⟨variates, hr⟩ := reset_eq net
  rw [hr]

/-- A reset keeps the timing. -/
lemma timing_reset (net : Network) : net.reset.timing = net.timing := by
  obtain ⟨variates, hr⟩ := reset_eq net
  rw [hr]

/-- A reset keeps the topology. -/
lemma topology_reset (net : Network) : net.reset.topology = net.topology := by
  obtain ⟨variates, hr⟩ := reset_eq net
  rw [hr]

/-- A radio that is there after a reset has just been switched on. -/
lemma radio_reset_eq (h : net.reset.radio i = .ok r) : r = Radio.powerOn net.timing := by
  rw [radio_reset] at h
  cases hr : net.radio i <;> rw [hr] at h <;> cases h
  rfl

/-- After a reset radios and scheduler agree: no timer is set. -/
lemma coherent_reset (net : Network) : net.reset.Coherent := by
  refine ⟨scheduler_reset net ▸ Scheduler.filed_reset _, fun hr hk => ?_, fun hp => ?_⟩
  · rw [radio_reset_eq hr, Radio.powerOn_get] at hk
    cases hk
  · rw [scheduler_reset] at hp
    exact absurd hp Scheduler.not_pending_reset

/-- After a reset no event is late. -/
lemma onTime_reset (net : Network) : net.reset.scheduler.OnTime :=
  scheduler_reset net ▸ Scheduler.onTime_reset _

/-- After a reset no interface has an alarm. -/
lemma alarms_reset (net : Network) (i : InterfaceId) : net.reset.alarms i = fun _ => none := by
  funext k
  unfold alarms
  split
  · rename_i r hr
    rw [radio_reset_eq hr, Radio.powerOn_get]
    rfl
  · rfl

/-- A node without frames to produce is passed over; for any other one, a first production is posted. -/
lemma start_eq_ok {n : NodeId} (hs : net.start n = .ok (result, net')) :
    ∃ x, net.endpoint n = .ok x ∧ ((net' = net ∧ result = .ok () ∧
        ∀ {traffic}, x.traffic = some traffic → traffic.isExhausted = true) ∨
      ∃ traffic delay mid, x.traffic = some traffic ∧ traffic.isExhausted = false ∧
        net.drawDelay traffic.arrival = .ok (delay, mid) ∧
        mid.withPost (mid.scheduler.post delay (.produce n)) = .ok (result, net')) := by
  simp only [start, bind_eq_ok] at hs
  obtain ⟨x, hx, hs⟩ := hs
  refine ⟨x, hx, ?_⟩
  split at hs
  · rename_i hnone
    cases hs
    exact .inl ⟨rfl, rfl, fun ht => by rw [hnone] at ht; cases ht⟩
  rename_i traffic htraffic
  split at hs
  · rename_i hdone
    cases hs
    refine .inl ⟨rfl, rfl, fun ht => ?_⟩
    rw [htraffic] at ht
    cases ht
    exact hdone
  · rename_i hmore
    simp only [bind_eq_ok] at hs
    obtain ⟨⟨delay, mid⟩, hd, hs⟩ := hs
    exact .inr ⟨traffic, delay, mid, htraffic, by simpa using hmore, hd, hs⟩

/-- What drawing a delay and posting a production keep, the start of any nodes keeps. -/
lemma startAll_closed {R : Network → Network → Prop} {nodes : List NodeId} (hrefl : ∀ net, R net net)
    (htrans : ∀ {net mid net'}, R net mid → R mid net' → R net net')
    (hdraw : ∀ {net v delay net'}, drawDelay net v = .ok (delay, net') → R net net')
    (hpost : ∀ {net time e result net'}, withPost net (net.scheduler.post time e) = .ok (result, net') → R net net')
    (hs : net.startAll nodes = .ok (result, net')) : R net net' := by
  have hstart : ∀ {net n result net'}, start net n = .ok (result, net') → R net net' := by
    intro net n result net' hs
    obtain ⟨x, -, ⟨rfl, -, -⟩ | ⟨traffic, delay, mid, -, -, hd, hp⟩⟩ := start_eq_ok hs
    · exact hrefl _
    · exact htrans (hdraw hd) (hpost hp)
  induction nodes generalizing net with
  | nil =>
    cases hs
    exact hrefl _
  | cons n rest ih =>
    rcases andThen_eq_ok.1 hs with ⟨_, hn, -⟩ | ⟨_, mid, hn, hs⟩
    · exact hstart hn
    · exact htrans (hstart hn) (ih hs)

/-- The first post of a source leaves radios and clock, topology and endpoints alone. -/
lemma start_aside {n : NodeId} (h : net.Coherent) (ho : net.scheduler.OnTime)
    (hs : net.start n = .ok (result, net')) :
    net.Aside net' ∧ net'.topology = net.topology ∧ net'.endpoint = net.endpoint := by
  obtain ⟨x, -, ⟨rfl, -, -⟩ | ⟨traffic, delay, mid, -, -, hd, hs⟩⟩ := start_eq_ok hs
  · exact ⟨.of_scheduler h ho rfl rfl rfl, rfl, rfl⟩
  obtain ⟨hlast, ha, ht, he⟩ := drawDelay_aside h ho hd
  obtain ⟨-, ha', ht', he'⟩ := post_production ha.coherent ha.onTime hlast hs
  exact ⟨ha.trans ha', ht'.trans ht, he'.trans he⟩

/-- The first posts of a run do so too, by induction over the nodes. -/
lemma startAll_aside {nodes : List NodeId} (h : net.Coherent) (ho : net.scheduler.OnTime)
    (hs : net.startAll nodes = .ok (result, net')) :
    net.Aside net' ∧ net'.topology = net.topology ∧ net'.endpoint = net.endpoint := by
  induction nodes generalizing net with
  | nil =>
    cases hs
    exact ⟨.of_scheduler h ho rfl rfl rfl, rfl, rfl⟩
  | cons n rest ih =>
    simp only [startAll, andThen_eq_ok] at hs
    rcases hs with ⟨e, hn, -⟩ | ⟨_, mid, hn, hs⟩
    · exact start_aside h ho hn
    · obtain ⟨ha, ht, he⟩ := start_aside h ho hn
      obtain ⟨ha', ht', he'⟩ := ih ha.coherent ha.onTime hs
      exact ⟨ha.trans ha', ht'.trans ht, he'.trans he⟩

/-- A run starts from the network as it is before a run, but for the first productions. -/
lemma initRun_aside (hi : net.initRun = .ok (result, net')) :
    net.reset.Aside net' ∧ net'.topology = net.topology ∧ net'.endpoint = net.reset.endpoint := by
  obtain ⟨ha, ht, he⟩ := startAll_aside (coherent_reset net) (onTime_reset net) hi
  exact ⟨ha, ht.trans (topology_reset net), he⟩

/-- A new network is sound. -/
lemma new_sound (timing : Timing) (seed : UInt64) (laws : List Law) :
    (Network.new timing seed laws).Sound := by
  have hpend : ∀ {due e}, ¬ (Network.new timing seed laws).scheduler.Pending due e :=
    fun {due e} => Scheduler.not_pending_reset (s := {})
  have hradio : ∀ {i r}, (Network.new timing seed laws).radio i ≠ .ok r := by
    simp [radio_eq_ok, new]
  exact ⟨⟨Scheduler.filed_empty, fun hr => absurd hr hradio, fun hp => absurd hp hpend⟩,
    ⟨Nat.zero_le _, fun hp => absurd hp hpend, fun hp => absurd hp hpend⟩, fun hr => absurd hr hradio⟩

/-- A network stays sound with one more interface. -/
lemma Sound.addInterface {n : NodeId} {name : String} {radius : Float} (h : net.Sound)
    (ha : net.addInterface n name radius = .ok (i, net')) : net'.Sound := by
  obtain ⟨hc, hs, -, i, -, hself, hnone, hother, halarms⟩ := addInterface_radio h.coherent ha
  refine ⟨hc, hs ▸ h.onTime, fun {j r} hr => ?_⟩
  by_cases hj : j = i
  · subst hj
    rw [hself] at hr
    cases hr
    exact Radio.powerOn_sound _ hnone
  · rw [halarms hj]
    exact h.radio (hother hj ▸ hr)

/-- A network that was reset is sound. -/
lemma reset_sound (net : Network) : net.reset.Sound := by
  refine ⟨coherent_reset net, onTime_reset net, fun hr => ?_⟩
  rw [radio_reset_eq hr, alarms_reset]
  exact Radio.powerOn_sound _ fun _ => rfl

/-- Whatever is called, the network stays sound. -/
theorem Sound.apply {op : Op} {fuel : Nat} (h : net.Sound) (hop : op.firesEvents = false)
    (ha : op.apply fuel net = .ok (result, net')) : net'.Sound := by
  by_cases hk : op.keepsBooks = true
  · exact h.aside (Op.apply_aside hk h.coherent h.onTime ha)
  cases op with
  | addInterface n name radius =>
    simp only [Op.apply, bind_eq_ok] at ha
    obtain ⟨⟨i, mid⟩, hi, ha⟩ := ha
    cases ha
    exact h.addInterface hi
  | initRun => exact (reset_sound net).aside (initRun_aside ha).1
  | produce n => exact h.produce ha
  | send i f => exact h.send ha
  | receive i f =>
    obtain ⟨-, r, w, hr, hw, hs⟩ := receive_settled h.coherent h.onTime ha
    exact h.receive hr hw hs
  | broadcast i f =>
    obtain ⟨-, medium, -, hh⟩ := broadcast_hears h.coherent h.onTime ha
    exact h.hears hh
  | step | runTo | runUntilIdle => cases hop
  | _ => exact absurd rfl hk

/-- Operations of all kinds keep a network sound. -/
lemma sound_closed : Closed (fun _ net => net.Sound) fun _ => True :=
  ⟨fun h ha => h.advanceTo ha, fun h hf _ => h.fires hf⟩

/-- A run leaves a sound network sound. -/
theorem Run.sound {allowed : Op → Except NetworkError Unit → Prop} {first : Network}
    {log : List Moment} (hrun : Run allowed first log net) (h : first.Sound) : net.Sound :=
  sound_closed.run (fun h hop _ ha => h.apply hop ha) (fun _ _ => trivial) h hrun

/-- Every reachable network is sound. -/
theorem Reachable.sound (h : net.Reachable) : net.Sound := by
  obtain ⟨timing, seed, laws, log, hrun⟩ := h
  exact hrun.sound (new_sound timing seed laws)

end Network

end CarrierSense
