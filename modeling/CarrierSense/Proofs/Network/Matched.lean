import CarrierSense.Proofs.Network.Setup

/-!
# The shape of a network

The endpoints of a network belong to the nodes of its topology, and every interface to one of the nodes.
This holds of all reachable networks: building adds to both sides, and running leaves the shape alone.
The timing is what it was from the beginning.
-/

namespace CarrierSense

namespace Topology

variable {κ : Type} {topo : Topology κ} {n : NodeId} {i : InterfaceId}

/-- A node is looked up at its place. -/
lemma node_eq_ok {site : Site κ} : topo.node n = .ok site ↔ topo.nodes[n.index]? = some site := by
  unfold node
  cases topo.nodes[n.index]? <;> simp

/-- An interface is looked up at its place. -/
lemma interface_eq_ok {iface : Interface κ} :
    topo.interface i = .ok iface ↔ topo.interfaces[i.index]? = some iface := by
  unfold interface
  cases topo.interfaces[i.index]? <;> simp

/-- Joining media touches neither nodes nor interfaces. -/
lemma connectInRange_same [Scalar κ] (topo : Topology κ) :
    topo.connectInRange.nodes = topo.nodes ∧ topo.connectInRange.interfaces = topo.interfaces := by
  unfold connectInRange
  generalize (List.range topo.interfaces.size).map InterfaceId.mk = senders
  induction senders generalizing topo with
  | nil => exact ⟨rfl, rfl⟩
  | cons i rest ih =>
    have hstep : (topo.connect i).nodes = topo.nodes ∧ (topo.connect i).interfaces = topo.interfaces := by
      unfold connect
      split <;> exact ⟨rfl, rfl⟩
    obtain ⟨hn, hi⟩ := ih (topo.connect i)
    exact ⟨hn.trans hstep.1, hi.trans hstep.2⟩

end Topology

namespace Network

variable {net mid net' : Network} {w : Setting} {es : List Effect} {i : InterfaceId} {f : Frame}
  {n : NodeId} {result : Except NetworkError Unit}

/-- Endpoints and nodes belong together, and every interface belongs to a node. -/
structure Matched (net : Network) : Prop where
  endpoints : net.endpoints.size = net.topology.nodes.size
  home : ∀ {i iface}, net.topology.interface i = .ok iface →
    iface.node.index < net.topology.nodes.size

/-- The endpoints that are there are those with small enough numbers. -/
lemma endpoint_exists : (∃ x, net.endpoint n = .ok x) ↔ n.index < net.endpoints.size := by
  simp only [endpoint_eq_ok]
  constructor
  · rintro ⟨x, hx⟩
    exact (Array.getElem?_eq_some_iff.1 hx).1
  · intro hlt
    exact ⟨_, Array.getElem?_eq_getElem hlt⟩

/-- In a matched network the node of an interface has an endpoint. -/
lemma Matched.endpoint {iface : Interface Float} (h : net.Matched)
    (hi : net.topology.interface i = .ok iface) : ∃ x, net.endpoint iface.node = .ok x :=
  endpoint_exists.2 (h.endpoints ▸ h.home hi)

/-- The topology has not changed, and the same nodes have endpoints. -/
structure SameShape (net net' : Network) : Prop where
  topology : net'.topology = net.topology
  endpoint : ∀ n, (∃ x, net'.endpoint n = .ok x) ↔ ∃ x, net.endpoint n = .ok x

namespace SameShape

/-- Without a change of topology and endpoints, the shape is the same. -/
lemma of_eq (ht : net'.topology = net.topology) (he : net'.endpoint = net.endpoint) :
    net.SameShape net' :=
  ⟨ht, fun n => by rw [he]⟩

/-- The shape stays the same through two changes that keep it. -/
lemma trans (h : net.SameShape mid) (h' : mid.SameShape net') : net.SameShape net' :=
  ⟨h'.topology.trans h.topology, fun n => (h'.endpoint n).trans (h.endpoint n)⟩

/-- Whether a network is matched is a matter of its shape. -/
lemma matched (h : net.SameShape net') (hm : net.Matched) : net'.Matched := by
  refine ⟨?_, fun hi => ?_⟩
  · -- an array is as long as the places that it has
    rw [h.topology, ← hm.endpoints]
    have hlt : ∀ k, k < net'.endpoints.size ↔ k < net.endpoints.size := fun k => by
      have hk := h.endpoint ⟨k⟩
      rwa [endpoint_exists, endpoint_exists] at hk
    exact Nat.le_antisymm (Nat.not_lt.1 fun hn => Nat.lt_irrefl _ ((hlt _).1 hn))
      (Nat.not_lt.1 fun hn => Nat.lt_irrefl _ ((hlt _).2 hn))
  · rw [h.topology] at hi ⊢
    exact hm.home hi

end SameShape

/-- An endpoint is there after an edit if it was there before. -/
lemma exists_map {x : Except Halt Endpoint} {edit : Endpoint → Endpoint} :
    (∃ y, x.map edit = .ok y) ↔ ∃ y, x = .ok y := by
  cases x <;> simp [Except.map]

/-- Effects keep the shape, as they change endpoints at most. -/
lemma Affected.sameShape (h : net.Affected w es net') : net.SameShape net' :=
  ⟨h.topology, fun n => by rw [h.endpoint, exists_map]⟩

/-- Listening keeps the shape, by induction over those who hear. -/
lemma Hears.sameShape {members : List InterfaceId} (h : Hears net f members net') :
    net.SameShape net' := by
  induction h with
  | nil => exact .of_eq rfl rfl
  | cons _ _ hs _ ih => exact hs.sameShape.trans ih

/-- What follows a turn keeps the shape. -/
lemma Moved.sameShape {m : Move} (h : net.Moved w m net') : net.SameShape net' := by
  cases h with
  | rest _ hs => exact hs.sameShape
  | contend _ _ hs => exact hs.sameShape
  | transmit _ hs _ hh => exact hs.sameShape.trans hh.sameShape

/-- A frame that joins a queue keeps the shape. -/
lemma Queued.sameShape (h : net.Queued i f net') : net.SameShape net' := by
  obtain ⟨r, w, -, -, hs⟩ := h
  exact hs.sameShape

/-- Another endpoint at the same node keeps the shape. -/
lemma sameShape_setEndpoint {x : Endpoint} (y : Endpoint) (h : net.endpoint n = .ok x) :
    net.SameShape (net.setEndpoint n y) := by
  refine ⟨rfl, fun m => ?_⟩
  rw [endpoint_setEndpoint h]
  split
  · rename_i hm
    subst hm
    exact ⟨fun _ => ⟨x, h⟩, fun _ => ⟨y, rfl⟩⟩
  · exact Iff.rfl

/-- To send a frame keeps the shape, refused or not. -/
lemma send_sameShape (h : net.Coherent) (ho : net.scheduler.OnTime) (hs : net.send i f = .ok (result, net')) :
    net.SameShape net' := by
  rcases send_queued h ho hs with ⟨-, rfl⟩ | ⟨-, -, next, hq⟩
  · exact .of_eq rfl rfl
  · exact hq.sameShape

/-- To produce a frame keeps the shape, refused or not. -/
lemma produce_sameShape (h : net.Coherent) (ho : net.scheduler.OnTime) (hp : net.produce n = .ok (result, net')) :
    net.SameShape net' := by
  rcases produce_cases h ho hp with ⟨-, ht, he⟩ | ⟨-, i, f, next, hmade⟩
  · exact .of_eq ht he
  · obtain ⟨mid, hq, ha, ht⟩ := hmade.queued
    refine ⟨ht.trans hq.sameShape.topology, fun m => ?_⟩
    rw [hmade.endpoint]
    split
    · exact exists_map
    · exact Iff.rfl

/-- Taking an event out of the scheduler leaves everything else in place. -/
lemma clearTimer_sameShape {id : EventId} {e : Event} {scheduler : Scheduler Event}
    (hc : { net with scheduler }.clearTimer id e = .ok mid) : net.SameShape mid := by
  rcases clearTimer_eq_ok hc with rfl | ⟨i, k, r, -, rfl⟩ <;> exact .of_eq rfl rfl

/-- Whatever event fires, the shape of the network stays. -/
theorem Sound.fires_sameShape {m : Moment} (h : net.Sound) (hf : net.Fires m result) :
    net.SameShape m.before ∧ m.before.SameShape m.after := by
  obtain ⟨id, e, scheduler, hp, hc, -, hfire⟩ := hf
  refine ⟨clearTimer_sameShape hc, ?_⟩
  cases e with
  | timer i k =>
    obtain ⟨-, hcoh, hon, -⟩ := h.pop_timer hp hc
    obtain ⟨-, r, w, -, -, hm⟩ := expire_moved hcoh hon hfire
    exact hm.sameShape
  | produce n =>
    have hmid := h.pop_other hp hc (by simp)
    exact produce_sameShape hmid.coherent hmid.onTime hfire
  | forward i f =>
    have hmid := h.pop_other hp hc (by simp)
    exact send_sameShape hmid.coherent hmid.onTime hfire

/-- To edit the traffic of a node keeps the shape. -/
lemma editTraffic_sameShape {edit : Traffic → Traffic}
    (he : net.editTraffic n edit = .ok (result, net')) : net.SameShape net' := by
  rcases editTraffic_eq_ok he with rfl | ⟨x, traffic, hx, -, rfl⟩
  · exact .of_eq rfl rfl
  · exact sameShape_setEndpoint _ hx

/-- A network stays matched with one more node and its endpoint. -/
lemma Matched.push {site : Site Float} {x : Endpoint} (h : net.Matched)
    (hn : net'.topology.nodes = net.topology.nodes.push site)
    (hi : net'.topology.interfaces = net.topology.interfaces)
    (he : net'.endpoints = net.endpoints.push x) : net'.Matched := by
  refine ⟨by rw [hn, he, Array.size_push, Array.size_push, h.endpoints], fun hget => ?_⟩
  rw [Topology.interface_eq_ok, hi] at hget
  rw [hn, Array.size_push]
  exact Nat.lt_succ_of_lt (h.home (Topology.interface_eq_ok.2 hget))

/-- A network stays matched with one more interface of a node that is there. -/
lemma Matched.addInterface {name : String} {radius : Float} (h : net.Matched)
    (ha : net.addInterface n name radius = .ok (i, net')) : net'.Matched := by
  simp only [Network.addInterface, Topology.addInterface, bind_eq_ok] at ha
  obtain ⟨_, ⟨site, hsite, ht⟩, ha⟩ := ha
  cases ht
  cases ha
  refine ⟨by simpa using h.endpoints, fun {j iface} hget => ?_⟩
  have hget := Topology.interface_eq_ok.1 hget
  have hlt := (Array.getElem?_eq_some_iff.1 (Topology.node_eq_ok.1 hsite)).1
  dsimp only at hget ⊢
  rw [Array.size_setIfInBounds]
  rw [Array.getElem?_push] at hget
  split at hget
  · cases hget
    exact hlt
  · exact h.home (Topology.interface_eq_ok.2 hget)

/-- Whatever is called, the endpoints of a network belong to its nodes. -/
lemma Matched.apply {op : Op} {fuel : Nat} (h : net.Matched) (hc : net.Coherent) (ho : net.scheduler.OnTime)
    (hop : op.firesEvents = false) (ha : op.apply fuel net = .ok (result, net')) : net'.Matched := by
  cases op with
  | addVariate | setVariate | startTrace | stopTrace | reseed =>
    cases ha
    exact ⟨h.endpoints, h.home⟩
  | addNode name position | addSource name position arrival maxMessages =>
    cases ha
    exact h.push rfl rfl rfl
  | setPeriod | setMessageLength | addDestination => exact (editTraffic_sameShape ha).matched h
  | addInterface n name radius =>
    simp only [Op.apply, bind_eq_ok] at ha
    obtain ⟨⟨i, mid⟩, hi, ha⟩ := ha
    cases ha
    exact h.addInterface hi
  | addMember m i =>
    simp only [Op.apply, Network.addMember, Topology.addMember, bind_eq_ok] at ha
    obtain ⟨_, ⟨_, ⟨medium, -, ht⟩, hm⟩, ha⟩ := ha
    cases ht
    cases hm
    cases ha
    exact ⟨h.endpoints, h.home⟩
  | connectInRange =>
    cases ha
    obtain ⟨hn, hi⟩ := Topology.connectInRange_same net.topology
    refine ⟨h.endpoints.trans (congrArg Array.size hn).symm, fun {j iface} hget => ?_⟩
    have hget := Topology.interface_eq_ok.1 hget
    exact (congrArg Array.size hn) ▸ h.home (Topology.interface_eq_ok.2 (hi ▸ hget))
  | initRun =>
    obtain ⟨-, ht, he⟩ := initRun_aside ha
    have hshape : net.SameShape net' := ⟨ht, fun m => by rw [he, endpoint_reset, exists_map]⟩
    exact hshape.matched h
  | produce n => exact (produce_sameShape hc ho ha).matched h
  | put n =>
    simp only [Op.apply, bind_eq_ok] at ha
    obtain ⟨mid, hp, ha⟩ := ha
    cases ha
    obtain ⟨x, hx, rfl⟩ := put_eq_ok hp
    have hput := (sameShape_setEndpoint (x.took 1) hx).matched h
    exact ⟨hput.endpoints, hput.home⟩
  | send i f => exact (send_sameShape hc ho ha).matched h
  | receive i f =>
    obtain ⟨-, r, w, -, -, hset⟩ := receive_settled hc ho ha
    exact hset.sameShape.matched h
  | broadcast i f =>
    obtain ⟨-, medium, -, hh⟩ := broadcast_hears hc ho ha
    exact hh.sameShape.matched h
  | step | runTo | runUntilIdle => cases hop

/-- Operations of all kinds keep a network sound and matched. -/
lemma matched_closed : Closed (fun _ net => net.Sound ∧ net.Matched) fun _ => True where
  clock := fun h ha => ⟨h.1.advanceTo ha, ⟨h.2.endpoints, h.2.home⟩⟩
  event := fun h hf _ => by
    obtain ⟨hpop, hfire⟩ := h.1.fires_sameShape hf
    exact ⟨h.1.fires hf, (hpop.trans hfire).matched h.2⟩

/-- In every reachable network the endpoints belong to the nodes, and the interfaces too. -/
theorem Reachable.matched (h : net.Reachable) : net.Matched := by
  obtain ⟨timing, seed, laws, log, hrun⟩ := h
  have hnew : (Network.new timing seed laws).Matched :=
    ⟨rfl, fun hi => by simp [Topology.interface_eq_ok, new] at hi⟩
  exact (matched_closed.run (fun h hop _ ha => ⟨h.1.apply hop ha, h.2.apply h.1.coherent h.1.onTime hop ha⟩)
    (fun _ _ => trivial) ⟨new_sound timing seed laws, hnew⟩ hrun).2

/-- What follows a turn keeps the timing. -/
lemma Moved.timing {move : Move} (h : net.Moved w move net') : net'.timing = net.timing := by
  cases h with
  | rest _ hs => exact hs.timing
  | contend _ _ hs => exact hs.timing
  | transmit _ hs _ hh => exact hh.same.2.1.trans hs.timing

/-- A frame that joins a queue keeps the timing. -/
lemma Queued.timing (h : net.Queued i f net') : net'.timing = net.timing := by
  obtain ⟨r, w, -, -, hs⟩ := h
  exact hs.timing

/-- To send a frame keeps the timing. -/
lemma send_timing (h : net.Sound) (hs : net.send i f = .ok (result, net')) :
    net'.timing = net.timing := by
  rcases send_queued h.coherent h.onTime hs with ⟨-, rfl⟩ | ⟨-, -, next, hq⟩
  · rfl
  · exact hq.timing

/-- To produce a frame keeps the timing. -/
lemma produce_timing {n : NodeId} (h : net.Sound) (hp : net.produce n = .ok (result, net')) :
    net'.timing = net.timing := by
  rcases produce_cases h.coherent h.onTime hp with ⟨ha, -, -⟩ | ⟨-, i, f, next, hmade⟩
  · exact ha.timing
  · obtain ⟨mid, hq, ha, -⟩ := hmade.queued
    exact ha.timing.trans hq.timing

/-- To take out an event keeps the timing. -/
lemma clearTimer_timing {id : EventId} {e : Event} {scheduler : Scheduler Event}
    (hc : { net with scheduler }.clearTimer id e = .ok mid) : mid.timing = net.timing := by
  rcases clearTimer_eq_ok hc with rfl | ⟨i, k, r, -, rfl⟩ <;> rfl

/-- Whatever event fires, the timing stays. -/
lemma Sound.fires_timing {m : Moment} (h : net.Sound) (hf : net.Fires m result) :
    m.before.timing = net.timing ∧ m.after.timing = net.timing := by
  obtain ⟨id, e, scheduler, hp, hc, -, hfire⟩ := hf
  have hbefore := clearTimer_timing hc
  refine ⟨hbefore, Eq.trans ?_ hbefore⟩
  cases e with
  | timer i k =>
    obtain ⟨-, hcoh, hon, -⟩ := h.pop_timer hp hc
    obtain ⟨-, r, w, -, -, hmoved⟩ := expire_moved hcoh hon hfire
    exact hmoved.timing
  | produce n => exact produce_timing (h.pop_other hp hc (by simp)) hfire
  | forward i f => exact send_timing (h.pop_other hp hc (by simp)) hfire

/-- Operations that fire no events keep the timing. -/
lemma Sound.apply_timing {op : Op} {fuel : Nat} (h : net.Sound) (hop : op.firesEvents = false)
    (ha : op.apply fuel net = .ok (result, net')) : net'.timing = net.timing := by
  by_cases hk : op.keepsBooks = true
  · exact (Op.apply_aside hk h.coherent h.onTime ha).timing
  cases op with
  | addInterface n name radius =>
    simp only [Op.apply, bind_eq_ok] at ha
    obtain ⟨⟨i, mid⟩, hi, ha⟩ := ha
    cases ha
    exact (addInterface_radio h.coherent hi).2.2.1
  | initRun => exact (initRun_aside ha).1.timing.trans (timing_reset net)
  | produce n => exact produce_timing h ha
  | send i f => exact send_timing h ha
  | receive i f =>
    obtain ⟨-, r, w, -, -, hs⟩ := receive_settled h.coherent h.onTime ha
    exact hs.timing
  | broadcast i f =>
    obtain ⟨-, medium, -, hh⟩ := broadcast_hears h.coherent h.onTime ha
    exact hh.same.2.1
  | step | runTo | runUntilIdle => cases hop
  | _ => exact absurd rfl hk

/-- The timing of a network never changes. -/
theorem Run.timing {allowed : Op → Except NetworkError Unit → Prop} {first : Network}
    {log : List Moment} (hrun : Run allowed first log net) (h : first.Sound) : net.timing = first.timing := by
  have hclosed : Closed (fun _ net => net.Sound ∧ net.timing = first.timing) fun _ => True :=
    ⟨fun h ha => ⟨h.1.advanceTo ha, h.2⟩,
      fun h hf _ => ⟨h.1.fires hf, (h.1.fires_timing hf).2.trans h.2⟩⟩
  exact (hclosed.run (fun h hop _ ha => ⟨h.1.apply hop ha, (h.1.apply_timing hop ha).trans h.2⟩)
    (fun _ _ => trivial) ⟨h, rfl⟩ hrun).2

end Network

end CarrierSense
