import CarrierSense.Proofs.Network.Handles
import CarrierSense.Proofs.Network.Standing

/-!
# What a run finds

A network is `Complete` if all that a run looks up in it is there: interfaces have radios, nodes and media, sources
have destinations, and their delays can be drawn. Most of this holds of every network that was built with valid
handles, and a run leaves it as it is. Then routing always answers.
-/

namespace CarrierSense

/-- A fold goes through if every step does. -/
lemma foldlM_ends {ε α β : Type} {f : β → α → Except ε β} {xs : List α}
    (h : ∀ b, ∀ a ∈ xs, ∃ b', f b a = .ok b') (b : β) : ∃ b', xs.foldlM f b = .ok b' := by
  induction xs generalizing b with
  | nil => exact ⟨b, rfl⟩
  | cons a rest ih =>
    obtain ⟨mid, hfirst⟩ := h b a List.mem_cons_self
    obtain ⟨last, hrest⟩ := ih (fun b a ha => h b a (List.mem_cons_of_mem _ ha)) mid
    refine ⟨last, ?_⟩
    rw [List.foldlM_cons, hfirst]
    exact hrest

/-- The search for the best member ends if every member has a key. -/
lemma Medium.extreme?_ends {κ : Type} [Scalar κ] {medium : Medium} {key : InterfaceId → Except Halt κ}
    (h : ∀ m ∈ medium.members, ∃ value, key m = .ok value) : ∃ best, medium.extreme? key = .ok best := by
  have hstep : ∀ best, ∀ m ∈ medium.members, ∃ best', Medium.better key best m = .ok best' := by
    intro best m hm
    obtain ⟨value, hvalue⟩ := h m hm
    unfold Medium.better
    rw [hvalue]
    cases best <;> exact ⟨_, rfl⟩
  obtain ⟨best, hbest⟩ := foldlM_ends hstep none
  exact ⟨_, bind_eq_ok.2 ⟨best, hbest, rfl⟩⟩

/-- In a topology without dangling handles, routing from an interface to a node always answers. -/
lemma Topology.Furnished.route_ends {κ : Type} [Scalar κ] {topo : Topology κ} {i : InterfaceId} {d : NodeId}
    {iface : Interface κ} {target : Site κ} (h : topo.Furnished) (hi : topo.interface i = .ok iface)
    (hd : topo.node d = .ok target) : ∃ answer, topo.route i d = .ok answer := by
  obtain ⟨medium, hm⟩ := h.medium hi
  obtain ⟨home, hh⟩ := h.home hi
  have hextreme : ∀ axis : Point κ → κ,
      ∃ best, (medium.extreme? fun m => do return axis (← topo.positionOf m)) = .ok best := by
    refine fun axis => Medium.extreme?_ends fun m hmem => ?_
    obtain ⟨there, hj⟩ := h.member hm hmem
    obtain ⟨site, -, hplace⟩ := h.positionOf hj
    exact ⟨axis site.position, bind_eq_ok.2 ⟨_, hplace, rfl⟩⟩
  unfold Topology.route
  simp only [hi, hm, hd, hh, ok_bind]
  split
  · exact ⟨_, rfl⟩
  split
  · exact ⟨_, rfl⟩
  split
  · obtain ⟨best, hbest⟩ := hextreme Point.x
    exact ⟨_, bind_eq_ok.2 ⟨best, hbest, rfl⟩⟩
  split
  · obtain ⟨best, hbest⟩ := hextreme Point.y
    exact ⟨_, bind_eq_ok.2 ⟨best, hbest, rfl⟩⟩
  · exact ⟨_, rfl⟩

namespace Network

variable {net mid net' : Network} {n d : NodeId} {i : InterfaceId} {x : Endpoint} {t : Traffic} {v : VariateId}
  {log : List Moment} {result : Except NetworkError Unit}

/-- The node is one of the network. -/
def Knows (net : Network) (n : NodeId) : Prop := ∃ site, net.topology.node n = .ok site

/-- A delay can be drawn from the variate, wherever it stands. -/
def CanDraw (net : Network) (v : VariateId) : Prop :=
  ∃ law, net.variates[v.index]?.map Variate.law = some law ∧ law.Drawable

/-- The delays of a source can be drawn. The number of its frames is one of 64 bits, and their length one of 32. -/
structure Feeds (net : Network) (t : Traffic) : Prop where
  arrival : net.CanDraw t.arrival
  period : ∀ v, t.period = some v → net.CanDraw v
  maxMessages : t.maxMessages ≤ Clock.last
  messageLength : t.messageLength < 2 ^ 32

/-- A source that can be fed can draw its next delay. -/
lemma Feeds.nextDelay (h : net.Feeds t) : net.CanDraw t.nextDelay := by
  unfold Traffic.nextDelay
  cases hp : t.period with
  | none => exact h.arrival
  | some v => exact h.period v hp

/-- Every source can be fed. -/
def Fed (net : Network) : Prop := ∀ n x t, net.endpoint n = .ok x → x.traffic = some t → net.Feeds t

/-- Whether a law can be drawn from can be decided. -/
instance (law : Law) : Decidable law.Drawable :=
  match law with
  | .uniform min max => decidable_of_iff (max ≤ min ∨ (min.isFinite && max.isFinite && (max - min).isFinite) = true)
      (by simp [Law.drawable_iff])
  | .exponential _ | .sequence _ | .delta _ => .isTrue (by simp [Law.drawable_iff])

/-- Whether a variate can be drawn from can be decided. -/
instance (net : Network) (v : VariateId) : Decidable (net.CanDraw v) :=
  match h : net.variates[v.index]?.map Variate.law with
  | some law => decidable_of_iff law.Drawable (by simp [CanDraw, h])
  | none => .isFalse (by simp [CanDraw, h])

/-- Whether a source can be fed can be decided. -/
instance (net : Network) (t : Traffic) : Decidable (net.Feeds t) :=
  decidable_of_iff (net.CanDraw t.arrival ∧ (∀ v ∈ t.period, net.CanDraw v) ∧ t.maxMessages ≤ Clock.last ∧
    t.messageLength < 2 ^ 32)
    ⟨fun ⟨ha, hp, hm, hl⟩ => ⟨ha, hp, hm, hl⟩, fun h => ⟨h.arrival, h.period, h.maxMessages, h.messageLength⟩⟩

/-- Whether all sources can be fed can be decided. -/
instance (net : Network) : Decidable net.Fed :=
  decidable_of_iff (∀ x ∈ net.endpoints.toList, ∀ t ∈ x.traffic, net.Feeds t) (by
    simp only [Fed, endpoint_eq_ok, Array.mem_toList_iff, Array.mem_iff_getElem?]
    exact ⟨fun h n x t hx => h x ⟨n.index, hx⟩ t, fun h x ⟨k, hx⟩ t => h ⟨k⟩ x t hx⟩)

/-- If all sources can be fed, then all first delays can be drawn. -/
lemma Fed.drawable (h : net.Fed) : net.Drawable := fun n x t hx ht => (h n x t hx ht).arrival

/-- Every destination of a source is a node of the network. -/
def Directed (net : Network) : Prop :=
  ∀ n x t, net.endpoint n = .ok x → x.traffic = some t → ∀ d ∈ t.destinations, net.Knows d

namespace SameSetUp

/-- Which nodes there are is part of the set-up. -/
lemma knows (h : net.SameSetUp net') (hd : net.Knows d) : net'.Knows d := by
  unfold Knows
  rw [h.topology]
  exact hd

/-- What can be drawn is part of the set-up. -/
lemma canDraw (h : net.SameSetUp net') (hv : net.CanDraw v) : net'.CanDraw v := by
  unfold CanDraw
  rw [← Array.getElem?_map, h.laws, Array.getElem?_map]
  exact hv

/-- Whether sources can be fed is part of the set-up. -/
lemma fed (h : net.SameSetUp net') (hf : net.Fed) : net'.Fed := by
  intro n x t hx ht
  obtain ⟨y, produced, hy, hs⟩ := h.traffic hx ht
  have hfeeds := hf n y _ hy hs
  exact ⟨h.canDraw hfeeds.arrival, fun v hv => h.canDraw (hfeeds.period v hv), hfeeds.maxMessages,
    hfeeds.messageLength⟩

/-- Where destinations lie is part of the set-up. -/
lemma directed (h : net.SameSetUp net') (hd : net.Directed) : net'.Directed := by
  intro n x t hx ht d hmem
  obtain ⟨y, produced, hy, hs⟩ := h.traffic hx ht
  exact h.knows (hd n y _ hy hs d hmem)

/-- Whether endpoints and nodes belong together is part of the set-up. -/
lemma matched (h : net.SameSetUp net') (hm : net.Matched) : net'.Matched := by
  have hsize := congrArg Array.size h.endpoints
  rw [Array.size_map, Array.size_map] at hsize
  refine ⟨?_, fun hi => ?_⟩
  · rw [hsize, h.topology]
    exact hm.endpoints
  · rw [h.topology] at hi ⊢
    exact hm.home hi

end SameSetUp

/-- All that a run looks up is there. -/
structure Complete (net : Network) : Prop where
  furnished : net.topology.Furnished
  matched : net.Matched
  fitted : net.Fitted
  directed : net.Directed
  fed : net.Fed

/-- A run takes nothing away. -/
lemma Complete.same (h : net.Complete) (hs : net.SameSetUp net') : net'.Complete where
  furnished := by
    rw [hs.topology]
    exact h.furnished
  matched := hs.matched h.matched
  fitted := hs.fitted h.fitted
  directed := hs.directed h.directed
  fed := hs.fed h.fed

/-- An interface has a radio, and knows what it needs to. -/
lemma Complete.interface {iface : Interface Float} (h : net.Complete) (hi : net.topology.interface i = .ok iface) :
    (∃ r, net.radio i = .ok r) ∧ ∃ w, net.setting i = .ok w ∧ ∃ x, net.endpoint w.home = .ok x :=
  ⟨h.fitted.radio hi, _, setting_eq_ok.2 ⟨iface, hi, rfl⟩, h.matched.endpoint hi⟩

/-- A node with an endpoint is one of the network. -/
lemma Matched.knows (h : net.Matched) (hx : net.endpoint n = .ok x) : net.Knows n := by
  have hlt := endpoint_exists.1 ⟨x, hx⟩
  rw [h.endpoints] at hlt
  exact ⟨_, Topology.node_eq_ok.2 (Array.getElem?_eq_getElem hlt)⟩

/-- A node of the network has an endpoint. -/
lemma Matched.endpoint_of_knows (h : net.Matched) (hn : net.Knows n) : ∃ x, net.endpoint n = .ok x := by
  obtain ⟨site, hsite⟩ := hn
  apply endpoint_exists.2
  rw [h.endpoints]
  exact (Array.getElem?_eq_some_iff.1 (Topology.node_eq_ok.1 hsite)).1

/-- A network that extends another one has all its nodes. -/
lemma knows_of_extends (h : net.topology.Extends net'.topology) (hd : net.Knows d) : net'.Knows d := by
  obtain ⟨site, hsite⟩ := hd
  obtain ⟨site', hsite', -⟩ := h.node hsite
  exact ⟨site', hsite'⟩

/-- Destinations stay nodes of the network while it grows, and new ones have to be. -/
lemma Directed.grow (h : net.Directed) (hext : net.topology.Extends net'.topology)
    (hnew : ∀ n x t, net'.endpoint n = .ok x → x.traffic = some t → ∀ d ∈ t.destinations,
      net.Knows d ∨ ∃ y s, net.endpoint n = .ok y ∧ y.traffic = some s ∧ d ∈ s.destinations) : net'.Directed := by
  intro n x t hx ht d hmem
  apply knows_of_extends hext
  rcases hnew n x t hx ht d hmem with hd | ⟨y, s, hy, hs, hmem⟩
  · exact hd
  · exact h n y s hy hs d hmem

/-- Destinations are there as long as the topology only grows. -/
lemma Directed.keep (h : net.Directed) (hext : net.topology.Extends net'.topology)
    (he : net'.endpoint = net.endpoint) : net'.Directed :=
  h.grow hext fun _ x t hx ht _ hmem => .inr ⟨x, t, he ▸ hx, ht, hmem⟩

/-- A new node has no destinations yet. -/
lemma Directed.push {y : Endpoint} (h : net.Directed) (hext : net.topology.Extends net'.topology)
    (he : net'.endpoints = net.endpoints.push y) (hy : ∀ t, y.traffic = some t → t.destinations = []) :
    net'.Directed := by
  refine h.grow hext fun _ x t hx ht d hmem => ?_
  rw [endpoint_eq_ok, he, Array.getElem?_push] at hx
  split at hx
  · cases hx
    rw [hy t ht] at hmem
    cases hmem
  · exact .inr ⟨x, t, endpoint_eq_ok.2 hx, ht, hmem⟩

/-- Traffic may be edited if its new destinations are nodes of the network. -/
lemma Directed.editTraffic {edit : Traffic → Traffic} (h : net.Directed)
    (he : net.editTraffic n edit = .ok (result, net'))
    (hedit : ∀ t, ∀ d ∈ (edit t).destinations, net.Knows d ∨ d ∈ t.destinations) : net'.Directed := by
  rcases editTraffic_eq_ok he with rfl | ⟨y, s, hy, hs, rfl⟩
  · exact h
  refine h.grow (.refl _) fun m x t hx ht d hmem => ?_
  rw [endpoint_setEndpoint hy] at hx
  split at hx
  · rename_i hm
    subst hm
    cases hx
    cases ht
    exact (hedit s d hmem).imp_right fun hold => ⟨y, s, hy, hs, hold⟩
  · exact .inr ⟨x, t, hx, ht, hmem⟩

/-- If a call is given valid handles, then sources still have none but nodes for destinations. -/
lemma Directed.apply {op : Op} {fuel : Nat} (h : net.Directed) (hop : op.firesEvents = false) (hv : op.Valid net)
    (hext : net.topology.Extends net'.topology) (ha : op.apply fuel net = .ok (result, net')) : net'.Directed := by
  cases op with
  | addVariate | setVariate | startTrace | stopTrace | reseed | connectInRange =>
    cases ha
    exact h.keep hext rfl
  | addNode name position =>
    cases ha
    exact h.push hext rfl nofun
  | addSource name position arrival maxMessages =>
    cases ha
    refine h.push hext rfl ?_
    rintro t ⟨⟩
    rfl
  | setPeriod | setMessageLength => exact h.editTraffic ha fun _ _ hmem => .inr hmem
  | addDestination n destination =>
    refine h.editTraffic ha fun t d hmem => ?_
    split at hmem
    · exact .inr hmem
    · rcases List.mem_append.1 hmem with hmem | hmem
      · exact .inr hmem
      · rw [List.mem_singleton.1 hmem]
        exact .inl hv.2
  | addInterface n name radius =>
    simp only [Op.apply, Network.addInterface, bind_eq_ok] at ha
    obtain ⟨_, ⟨_, -, hi⟩, ha⟩ := ha
    cases hi
    cases ha
    exact h.keep hext rfl
  | addMember m i =>
    simp only [Op.apply, Network.addMember, bind_eq_ok] at ha
    obtain ⟨_, ⟨_, -, hm⟩, ha⟩ := ha
    cases hm
    cases ha
    exact h.keep hext rfl
  | initRun => exact (initRun_keeps.left ha).directed h
  | produce n => exact ((produce_keeps n).left ha).directed h
  | put n =>
    obtain ⟨mid, hp, ha⟩ := bind_eq_ok.1 ha
    cases ha
    exact (put_sameSetUp hp).directed h
  | send i f => exact ((send_keeps i f).left ha).directed h
  | receive i f => exact ((act_keeps i _).left ha).directed h
  | broadcast i f => exact ((broadcast_keeps i f).left ha).directed h
  | step | runTo | runUntilIdle => cases hop

/-- Whatever is built with valid handles has no handle that dangles, and no source with a destination that is not
there. -/
structure Built (net : Network) : Prop where
  sound : net.Sound
  furnished : net.topology.Furnished
  directed : net.Directed

/-- Operations with valid handles build nothing that dangles. -/
lemma built_closed : Closed (fun log net => (∀ m ∈ log, m.Valid) → net.Built) fun _ => True where
  clock := fun h ha hvalid => by
    have hb := h hvalid
    exact ⟨hb.sound.advanceTo ha, hb.furnished, hb.directed⟩
  event := fun h hf _ hvalid => by
    have hb := h fun m hm => hvalid m (List.mem_append_left _ hm)
    have hsame := hf.sameSetUp.1.trans hf.sameSetUp.2
    refine ⟨hb.sound.fires hf, ?_, hsame.directed hb.directed⟩
    rw [hsame.topology]
    exact hb.furnished

/-- What a run of valid operations builds has no handle that dangles. -/
lemma Run.built {allowed : Op → Except NetworkError Unit → Prop} {timing : Timing} {seed : UInt64} {laws : List Law}
    (hrun : Run allowed (Network.new timing seed laws) log net) (hvalid : ∀ m ∈ log, m.Valid) : net.Built := by
  refine built_closed.run (fun {log net op fuel result net'} h hop _ ha hvalid => ?_) (fun _ _ => trivial) ?_ hrun
    hvalid
  · have hb := h fun m hm => hvalid m (List.mem_append_left _ hm)
    have hop' : op.Valid net := hvalid ⟨net, .call op, net'⟩ (by simp)
    obtain ⟨hfurnished, hext⟩ := apply_furnished hb.furnished hb.sound hop hop' ha
    exact ⟨hb.sound.apply hop ha, hfurnished, hb.directed.apply hop hop' hext ha⟩
  · refine fun _ => ⟨new_sound timing seed laws, new_furnished timing seed laws, fun n x t hx => ?_⟩
    simp [endpoint, new] at hx

/-- What is built with valid handles is complete, if its sources can be fed. -/
theorem Run.complete {timing : Timing} {seed : UInt64} {laws : List Law}
    (hrun : Run (fun _ _ => True) (Network.new timing seed laws) log net) (hvalid : ∀ m ∈ log, m.Valid)
    (hfed : net.Fed) : net.Complete := by
  have hbuilt := hrun.built hvalid
  have hreach : net.Reachable := ⟨timing, seed, laws, log, hrun⟩
  exact ⟨hbuilt.furnished, hreach.matched, hreach.fitted, hbuilt.directed, hfed⟩

end Network

end CarrierSense
