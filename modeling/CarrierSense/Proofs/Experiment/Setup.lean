import CarrierSense.Proofs.Experiment.Draft

/-!
# What an experiment is set up with

The network that a scene becomes, read node by node (`Scene.Depicts`). Its sources are the nodes with traffic, in the
order of the scene, and each is ready to produce: it has an interface, and destinations that are other nodes.
-/

namespace CarrierSense

namespace Topology

/-- Joining media changes nothing of them but their members. -/
lemma connectInRange_names {κ : Type} [Scalar κ] (topo : Topology κ) :
    topo.connectInRange.media.map Medium.name = topo.media.map Medium.name := by
  unfold connectInRange
  generalize (List.range topo.interfaces.size).map InterfaceId.mk = senders
  induction senders generalizing topo with
  | nil => rfl
  | cons i rest ih =>
    rw [List.foldl_cons, ih]
    unfold connect
    split
    · rename_i iface _
      have hname : ∀ (audience : List InterfaceId) (m : Medium), (audience.foldl .insert m).name = m.name := by
        intro audience
        induction audience with
        | nil => exact fun _ => rfl
        | cons j rest ih =>
          intro m
          rw [List.foldl_cons, ih]
          unfold Medium.insert
          split <;> rfl
      apply Array.ext_getElem?
      intro k
      simp only [Array.getElem?_map, Array.getElem?_modify]
      split
      · rw [Option.map_map]
        congr 1
        funext m
        exact hname _ m
      · rfl
    · rfl

end Topology

/-- The sources of a network: the handles of the endpoints with traffic, in order. A run sets the period of each. -/
def Network.sources (net : Network) : List NodeId :=
  (net.endpoints.toList.findIdxs (·.traffic.isSome)).map NodeId.mk

/-- Two lists pass a test at the same places if it has the same results for them. -/
lemma findIdxs_eq_of_map {α β : Type} {p : α → Bool} {q : β → Bool} {xs : List α} {ys : List β}
    (h : xs.map p = ys.map q) : xs.findIdxs p = ys.findIdxs q := by
  have hfrom : ∀ start, xs.findIdxs p start = ys.findIdxs q start := by
    induction xs generalizing ys with
    | nil =>
      obtain rfl : ys = [] := by simpa using h.symm
      exact fun _ => rfl
    | cons x rest ih =>
      cases ys with
      | nil => cases h
      | cons y others =>
        obtain ⟨hfirst, hrest⟩ := List.cons.inj h
        intro start
        rw [List.findIdxs_cons, List.findIdxs_cons, hfirst, ih hrest]
  exact hfrom 0

namespace Scene

variable {scene : Scene} {sweep : Sweep} {node : SceneNode} {traffic : SceneTraffic} {k : Nat}

/-- The number of a node of the scene leads to this node. -/
lemma getElem?_handle {id : Nat} (h : id ∈ scene.nodes.map (·.id)) :
    ∃ node, scene.nodes[(scene.handle id).index]? = some node ∧ node.id = id := by
  obtain ⟨node, hmem, rfl⟩ := List.mem_map.1 h
  have hlt : scene.nodes.findIdx (·.id == node.id) < scene.nodes.length :=
    List.findIdx_lt_length_of_exists ⟨node, hmem, by simp⟩
  refine ⟨_, List.getElem?_eq_getElem hlt, ?_⟩
  have hfound := List.findIdx_getElem (w := hlt)
  simpa using hfound

/-- The destinations of a source that is supplied are nodes of the scene, at least one, and not the source. -/
lemma Supplied.handles (h : scene.Supplied node traffic) (hk : scene.nodes[k]? = some node) :
    scene.handles traffic.destinations ≠ [] ∧ ⟨k⟩ ∉ scene.handles traffic.destinations ∧
      ∀ n ∈ scene.handles traffic.destinations, n.index < scene.nodes.length := by
  have hmem : ∀ n, n ∈ scene.handles traffic.destinations ↔ ∃ id ∈ traffic.destinations, scene.handle id = n := by
    intro n
    simp [Scene.handles]
  refine ⟨?_, ?_, ?_⟩
  · intro hnone
    obtain ⟨id, hid⟩ := List.exists_mem_of_ne_nil _ h.some_destination
    have hin := (hmem _).2 ⟨id, hid, rfl⟩
    rw [hnone] at hin
    cases hin
  · rw [hmem]
    rintro ⟨id, hid, hself⟩
    obtain ⟨found, hfound, rfl⟩ := getElem?_handle (h.known id hid)
    rw [hself, hk] at hfound
    cases hfound
    exact h.others hid
  · intro n hn
    obtain ⟨id, hid, rfl⟩ := (hmem n).1 hn
    obtain ⟨found, hfound, -⟩ := getElem?_handle (h.known id hid)
    exact (List.getElem?_eq_some_iff.1 hfound).1

/-- The first delays of sources that bring a law along have variates of their own. -/
lemma getElem?_laws {law : Law} (hk : scene.nodes[k]? = some node) (hlaw : node.ownArrival = some law) :
    (scene.laws scene.nodes)[(scene.laws (scene.nodes.take k)).length]? = some law := by
  obtain ⟨hlt, rfl⟩ := List.getElem?_eq_some_iff.1 hk
  have hsplit : scene.laws scene.nodes = scene.laws (scene.nodes.take k) ++
      law :: (scene.nodes.drop (k + 1)).filterMap SceneNode.ownArrival := by
    have hnodes : scene.nodes.take k ++ scene.nodes[k] :: scene.nodes.drop (k + 1) = scene.nodes := by simp
    have hown := congrArg (List.filterMap SceneNode.ownArrival) hnodes
    rw [List.filterMap_append, List.filterMap_cons_some hlaw] at hown
    unfold laws
    rw [← hown, List.append_assoc]
  rw [hsplit]
  simp

/-- More nodes that bring laws along make more variates. -/
lemma length_laws_lt {j : Nat} (hj : scene.nodes[j]? = some node) (hown : node.ownArrival.isSome) (hlt : j < k) :
    (scene.laws (scene.nodes.take j)).length < (scene.laws (scene.nodes.take k)).length := by
  have hsub : (scene.nodes.take (j + 1)).Sublist (scene.nodes.take k) :=
    (List.take_prefix_take_left (by omega)).sublist
  have hle := (hsub.filterMap SceneNode.ownArrival).length_le
  have htake : scene.nodes.take (j + 1) = scene.nodes.take j ++ [node] := by
    rw [List.take_add_one, hj]
    rfl
  obtain ⟨law, hlaw⟩ := Option.isSome_iff_exists.1 hown
  rw [htake, List.filterMap_append] at hle
  simp [hlaw] at hle
  simp [laws]
  omega

/-- A variate that a source brings along is nobody else's. -/
lemma arrivalAt_unshared {j : Nat} {node' : SceneNode} {traffic' : SceneTraffic}
    (hk : scene.nodes[k]? = some node) (ht : node.traffic = some traffic) (hown : traffic.arrival.isSome)
    (hj : scene.nodes[j]? = some node') (ht' : node'.traffic = some traffic') (hs : scene.Supplied node' traffic')
    (hsame : scene.arrivalAt j traffic' = scene.arrivalAt k traffic) : j = k := by
  have harrival : ∀ (i : Nat) (traffic : SceneTraffic), traffic.arrival.isSome →
      scene.arrivalAt i traffic = ⟨(scene.laws (scene.nodes.take i)).length⟩ := by
    intro i traffic hown
    obtain ⟨law, hlaw⟩ := Option.isSome_iff_exists.1 hown
    simp [arrivalAt, hlaw]
  have hbring : ∀ {node : SceneNode} {traffic : SceneTraffic}, node.traffic = some traffic → traffic.arrival.isSome →
      node.ownArrival.isSome := by
    intro node traffic ht hown
    simp [SceneNode.ownArrival, ht, hown]
  rw [harrival k traffic hown] at hsame
  cases hown' : traffic'.arrival with
  | none =>
    -- the variates that sources bring along stand behind the shared one
    obtain ⟨law, hdefault⟩ := hs.arrival hown'
    simp [arrivalAt, hown', laws, hdefault, Experiment.sharedArrivalId] at hsame
  | some law =>
    rw [harrival j traffic' (by simp [hown'])] at hsame
    have hlength := VariateId.mk.inj hsame
    rcases Nat.lt_trichotomy j k with hlt | rfl | hlt
    · have hless := length_laws_lt hj (hbring ht' (by simp [hown'])) hlt
      omega
    · rfl
    · have hless := length_laws_lt hk (hbring ht hown) hlt
      omega

/-- The sources of a scene: the places of the nodes with traffic, in order. -/
def sources (scene : Scene) : List NodeId := (scene.nodes.findIdxs (·.traffic.isSome)).map NodeId.mk

/-- The `k`-th node of a network is a source, with the traffic of the `k`-th node of the scene. Nobody else draws
from a variate that it brings along. -/
structure DepictsSource (scene : Scene) (sweep : Sweep) (net : Network) (k : Nat) (traffic : SceneTraffic)
    (t : Traffic) : Prop where
  endpoint : net.endpoints[k]? = some { traffic := some t }
  destinations : t.destinations = (traffic.destinations.map scene.handle).eraseDups
  some_destination : t.destinations ≠ []
  others : ⟨k⟩ ∉ t.destinations
  known : ∀ n ∈ t.destinations, n.index < scene.nodes.length
  period : t.period = some Experiment.periodId
  maxMessages : t.maxMessages = traffic.maxMessages.getD sweep.maxMessages
  messageLength : t.messageLength = traffic.messageLength.getD sweep.messageLength
  own : ∀ law, traffic.arrival = some law → net.variates[t.arrival.index]? = some { law } ∧
    ∀ (j : Nat) (x : Endpoint) (u : Traffic), net.endpoints[j]? = some x → x.traffic = some u →
      u.arrival = t.arrival → j = k
  shared : traffic.arrival = none → t.arrival = Experiment.sharedArrivalId ∧
    ∃ law, scene.defaultArrival = some law ∧ net.variates[t.arrival.index]? = some { law }

/-- A network has a node, an interface and a medium for each node of a scene, with its number, and nothing else.
The sources are the nodes with traffic, in the order of the scene. They share the variate for the delay between frames,
which gets its law when a run is made. -/
structure Depicts (scene : Scene) (sweep : Sweep) (net : Network) : Prop where
  timing : net.timing = sweep.timing
  nodes : net.topology.nodes.size = scene.nodes.length
  interfaces : net.topology.interfaces.size = scene.nodes.length
  media : net.topology.media.size = scene.nodes.length
  endpoints : net.endpoints.size = scene.nodes.length
  radios : net.radios.size = scene.nodes.length
  site : ∀ (k : Nat) (node : SceneNode), scene.nodes[k]? = some node → net.topology.nodes[k]? =
    some { name := node.displayName, position := node.position, iface := some ⟨k⟩ }
  interface : ∀ (k : Nat) (node : SceneNode), scene.nodes[k]? = some node → net.topology.interfaces[k]? =
    some { name := "Interface_" ++ node.displayName, node := ⟨k⟩, medium := ⟨k⟩, radius := node.radius }
  medium : ∀ (k : Nat) (node : SceneNode), scene.nodes[k]? = some node →
    ∃ medium, net.topology.media[k]? = some medium ∧ medium.name = "Link_" ++ node.displayName
  sources : net.sources = scene.sources
  delay : net.variates[Experiment.periodId.index]? = some { law := .delta 0 }
  silent : ∀ (k : Nat) (node : SceneNode), scene.nodes[k]? = some node → node.traffic = none →
    net.endpoints[k]? = some {}
  source : ∀ (k : Nat) (node : SceneNode) (traffic : SceneTraffic), scene.nodes[k]? = some node →
    node.traffic = some traffic → ∃ t, scene.DepictsSource sweep net k traffic t

variable (sweep)

/-- The endpoints of the network that a scene becomes. -/
lemma endpoint_ofScene (scene : Scene) (k : Nat) :
    (scene.draft sweep scene.nodes scene.nodes.length).connectInRange.endpoints[k]? =
      scene.nodes[k]?.map (scene.endpointAt sweep scene.nodes.length k) := by
  simp [Network.connectInRange, draft]

/-- A node with traffic becomes the source that the scene describes. -/
lemma depictsSource (hc : scene.Consistent) (hk : scene.nodes[k]? = some node) (ht : node.traffic = some traffic) :
    scene.DepictsSource sweep (scene.draft sweep scene.nodes scene.nodes.length).connectInRange k traffic
      (scene.sourceAt sweep k traffic (scene.handles traffic.destinations)) := by
  have hs := hc.supplied node (List.mem_of_getElem? hk) traffic ht
  obtain ⟨hsome, hothers, hknown⟩ := hs.handles hk
  have hlt := (List.getElem?_eq_some_iff.1 hk).1
  have hvariates : ∀ v : VariateId,
      (scene.draft sweep scene.nodes scene.nodes.length).connectInRange.variates[v.index]? =
        (scene.laws scene.nodes)[v.index]?.map fun law => { law } := by
    intro v
    simp [Network.connectInRange, draft]
  refine ⟨?_, rfl, hsome, hothers, hknown, rfl, rfl, rfl, ?_, ?_⟩
  · rw [endpoint_ofScene, hk]
    simp [endpointAt, ht, hlt]
  · intro law hlaw
    have hown : node.ownArrival = some law := by simp [SceneNode.ownArrival, ht, hlaw]
    refine ⟨?_, ?_⟩
    · rw [hvariates]
      show Option.map _ (scene.laws scene.nodes)[(scene.arrivalAt k traffic).index]? = _
      have harrival : scene.arrivalAt k traffic = ⟨(scene.laws (scene.nodes.take k)).length⟩ := by
        simp [arrivalAt, hlaw]
      rw [harrival, getElem?_laws hk hown]
      rfl
    · intro j x u hx hu hsame
      rw [endpoint_ofScene] at hx
      obtain ⟨node', hj, rfl⟩ := Option.map_eq_some_iff.1 hx
      obtain ⟨traffic', ht', rfl⟩ := Option.map_eq_some_iff.1 hu
      have hs' := hc.supplied node' (List.mem_of_getElem? hj) traffic' ht'
      exact arrivalAt_unshared hk ht (by simp [hlaw]) hj ht' hs' hsame
  · intro hnone
    obtain ⟨law, hdefault⟩ := hs.arrival hnone
    have harrival : scene.arrivalAt k traffic = Experiment.sharedArrivalId := by simp [arrivalAt, hnone]
    refine ⟨harrival, law, hdefault, ?_⟩
    rw [hvariates]
    show Option.map _ (scene.laws scene.nodes)[(scene.arrivalAt k traffic).index]? = _
    rw [harrival]
    simp [laws, hdefault, Experiment.sharedArrivalId]

/-- A consistent scene is depicted by the network that it becomes. -/
theorem depicts (hc : scene.Consistent) :
    scene.Depicts sweep (scene.draft sweep scene.nodes scene.nodes.length).connectInRange := by
  obtain ⟨hnodes, hinterfaces⟩ :=
    Topology.connectInRange_same (scene.draft sweep scene.nodes scene.nodes.length).topology
  have hnames := Topology.connectInRange_names (scene.draft sweep scene.nodes scene.nodes.length).topology
  have hname : ∀ k : Nat, ((scene.draft sweep scene.nodes scene.nodes.length).topology.connectInRange.media)[k]?.map
      Medium.name = scene.nodes[k]?.map fun node => "Link_" ++ node.displayName := by
    intro k
    rw [← Array.getElem?_map, hnames]
    simp [draft, Function.comp_def]
  refine ⟨rfl, ?_, ?_, ?_, ?_, ?_, ?_, ?_, ?_, ?_, ?_, ?_, ?_⟩
  · show (Topology.connectInRange _).nodes.size = _
    rw [hnodes]
    simp [draft]
  · show (Topology.connectInRange _).interfaces.size = _
    rw [hinterfaces]
    simp [draft]
  · have hsize := congrArg Array.size hnames
    simpa [draft, Network.connectInRange] using hsize
  · simp [Network.connectInRange, draft]
  · simp [Network.connectInRange, draft]
  · intro k node hk
    show (Topology.connectInRange _).nodes[k]? = _
    rw [hnodes]
    simp [draft, hk, SceneNode.site]
  · intro k node hk
    show (Topology.connectInRange _).interfaces[k]? = _
    rw [hinterfaces]
    simp [draft, hk, SceneNode.interface]
  · intro k node hk
    have hat := hname k
    rw [hk] at hat
    exact Option.map_eq_some_iff.1 hat
  · refine congrArg (List.map NodeId.mk) (findIdxs_eq_of_map ?_)
    apply List.ext_getElem?
    intro k
    rw [List.getElem?_map, List.getElem?_map, Array.getElem?_toList, endpoint_ofScene, Option.map_map]
    congr 1
    funext node
    exact Option.isSome_map
  · rfl
  · intro k node hk ht
    rw [endpoint_ofScene, hk]
    simp [endpointAt, ht]
  · intro k node traffic hk ht
    exact ⟨_, depictsSource sweep hc hk ht⟩

end Scene

end CarrierSense
