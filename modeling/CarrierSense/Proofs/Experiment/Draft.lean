import CarrierSense.Experiment.Basic
import CarrierSense.Proofs.Network.Matched
import CarrierSense.Proofs.Scene.Check

/-!
# The network of a scene

What becomes of a consistent scene, spelled out: the `k`-th node of the scene is the `k`-th node of the network,
with the `k`-th interface and medium. The network is drawn up node by node, and then the destinations of one
source after the other are entered (`Scene.draft`); no step of this can fail.
-/

namespace CarrierSense

/-- The law of the first delay that a node brings along. -/
def SceneNode.ownArrival (node : SceneNode) : Option Law := node.traffic.bind (·.arrival)

namespace Scene

variable (scene : Scene) (sweep : Sweep)

/-- The handle of the node with a number: its place in the scene. -/
def handle (id : Nat) : NodeId := ⟨scene.nodes.findIdx (·.id == id)⟩

/-- The laws of the variates when some nodes have been added: for the delay between frames, for the first delay of
sources without one of their own, and then for each source that has one. -/
def laws (added : List SceneNode) : List Law :=
  .delta 0 :: scene.defaultArrival.toList ++ added.filterMap SceneNode.ownArrival

/-- The variate for the first delay of the `k`-th node. -/
def arrivalAt (k : Nat) (traffic : SceneTraffic) : VariateId :=
  match traffic.arrival with
  | some _ => ⟨(scene.laws (scene.nodes.take k)).length⟩
  | none => Experiment.sharedArrivalId

/-- The traffic of the `k`-th node. -/
def sourceAt (k : Nat) (traffic : SceneTraffic) (destinations : List NodeId) : Traffic where
  destinations
  arrival := scene.arrivalAt k traffic
  period := some Experiment.periodId
  maxMessages := traffic.maxMessages.getD sweep.maxMessages
  messageLength := traffic.messageLength.getD sweep.messageLength

/-- The destinations of a source: later ones that were there before are left out. -/
def handles (ids : List Nat) : List NodeId := (ids.map scene.handle).eraseDups

/-- The `k`-th endpoint, when the destinations of the first nodes have been entered. -/
def endpointAt (linked k : Nat) (node : SceneNode) : Endpoint where
  traffic := node.traffic.map fun traffic =>
    scene.sourceAt sweep k traffic (if k < linked then scene.handles traffic.destinations else [])

end Scene

/-- The `k`-th node of a network as the scene describes it. -/
def SceneNode.site (k : Nat) (node : SceneNode) : Site Float where
  name := node.displayName
  position := node.position
  iface := some ⟨k⟩

/-- The `k`-th interface, which belongs to the `k`-th node. -/
def SceneNode.interface (k : Nat) (node : SceneNode) : Interface Float where
  name := "Interface_" ++ node.displayName
  node := ⟨k⟩
  medium := ⟨k⟩
  radius := node.radius

/-- The network that a scene describes, when some nodes have been added, and the destinations of the first
`linked` ones have been entered. Nobody hears anybody yet. -/
def Scene.draft (scene : Scene) (sweep : Sweep) (added : List SceneNode) (linked : Nat) : Network where
  timing := sweep.timing
  topology :=
    { nodes := (added.mapIdx SceneNode.site).toArray
      interfaces := (added.mapIdx SceneNode.interface).toArray
      media := (added.map fun node => { name := "Link_" ++ node.displayName }).toArray }
  endpoints := (added.mapIdx (scene.endpointAt sweep linked)).toArray
  radios := Array.replicate added.length (Radio.powerOn sweep.timing)
  stream := Stream.ofSeed sweep.seed.toUInt64
  variates := ((scene.laws added).map fun law => { law }).toArray

/-- In a consistent scene the handle of a node is its place. -/
lemma Scene.Consistent.handle_eq {scene : Scene} {k : Nat} {node : SceneNode} (h : scene.Consistent)
    (hk : scene.nodes[k]? = some node) : scene.handle node.id = ⟨k⟩ := by
  obtain ⟨hlt, rfl⟩ := List.getElem?_eq_some_iff.1 hk
  have hfind : scene.nodes.findIdx (·.id == scene.nodes[k].id) = k := by
    rw [List.findIdx_eq hlt]
    refine ⟨by simp, ?_⟩
    intro j hj
    -- an earlier node has another number
    have hne := List.pairwise_iff_getElem.1 h.distinct j k (by simp; omega) (by simpa using hlt) hj
    simpa using hne
  exact congrArg NodeId.mk hfind

/-- What was pushed onto an array is replaced. -/
lemma setIfInBounds_push {α : Type} (xs : Array α) (x y : α) :
    (xs.push x).setIfInBounds xs.size y = xs.push y := by
  simp [Array.setIfInBounds_def, Array.set_push]

namespace Network

variable {net : Network} {site : Site Float} {x : Endpoint} {t : Traffic}

/-- The network with one more node. -/
def withNode (net : Network) (site : Site Float) (x : Endpoint) : Network :=
  { net with
    topology := { net.topology with nodes := net.topology.nodes.push site }
    endpoints := net.endpoints.push x }

/-- The network with one more interface, and its medium and radio. -/
def withInterface (net : Network) (iface : Interface Float) (medium : Medium) : Network :=
  { net with
    topology :=
      { net.topology with
        interfaces := net.topology.interfaces.push iface
        media := net.topology.media.push medium }
    radios := net.radios.push (Radio.powerOn net.timing) }

/-- The network with fresh variates of some laws. -/
def withLaws (net : Network) (laws : List Law) : Network :=
  { net with variates := (laws.map fun law => { law }).toArray }

/-- The traffic of a source is edited. -/
lemma editTraffic_source {n : NodeId} {consumed : Nat} {edit : Traffic → Traffic}
    (hx : net.endpoint n = .ok ⟨consumed, some t⟩) (hsite : net.topology.node n = .ok site) :
    net.editTraffic n edit = .ok (.ok (), net.setEndpoint n ⟨consumed, some (edit t)⟩) := by
  simp only [editTraffic, hx, hsite, ok_bind, pure_eq_ok]

/-- The node that was added last is found at its place. -/
lemma node_withNode (net : Network) (site : Site Float) (x : Endpoint) :
    (net.withNode site x).topology.node ⟨net.topology.nodes.size⟩ = .ok site :=
  Topology.node_eq_ok.2 Array.getElem?_push_size

/-- The traffic of a source that was added last is edited. -/
lemma editTraffic_withNode {consumed : Nat} {edit : Traffic → Traffic}
    (h : net.endpoints.size = net.topology.nodes.size) :
    (net.withNode site ⟨consumed, some t⟩).editTraffic ⟨net.topology.nodes.size⟩ edit =
      .ok (.ok (), net.withNode site ⟨consumed, some (edit t)⟩) := by
  have hx : (net.withNode site ⟨consumed, some t⟩).endpoint ⟨net.topology.nodes.size⟩ = .ok ⟨consumed, some t⟩ := by
    rw [endpoint_eq_ok, ← h]
    exact Array.getElem?_push_size
  rw [editTraffic_source hx (node_withNode _ _ _)]
  simp only [setEndpoint, withNode, ← h, setIfInBounds_push]

/-- An endpoint that is put back changes nothing. -/
lemma setEndpoint_self {n : NodeId} (hx : net.endpoint n = .ok x) : net.setEndpoint n x = net := by
  obtain ⟨hlt, rfl⟩ := Array.getElem?_eq_some_iff.1 (endpoint_eq_ok.1 hx)
  simp [setEndpoint, Array.setIfInBounds_def, hlt]

/-- Of two endpoints put at one node, the last one stays. -/
lemma setEndpoint_setEndpoint (net : Network) (n : NodeId) (x y : Endpoint) :
    (net.setEndpoint n x).setEndpoint n y = net.setEndpoint n y := by
  simp [setEndpoint]

/-- The node that was added last gets its interface. -/
lemma addInterface_withNode (net : Network) (site : Site Float) (x : Endpoint) (name : String) (radius : Float) :
    (net.withNode site x).addInterface ⟨net.topology.nodes.size⟩ name radius =
      .ok (⟨net.topology.interfaces.size⟩,
        (net.withNode { site with iface := some ⟨net.topology.interfaces.size⟩ } x).withInterface
          ⟨name, ⟨net.topology.nodes.size⟩, ⟨net.topology.media.size⟩, radius⟩ ⟨"Link_" ++ site.name, []⟩) := by
  simp only [addInterface, Topology.addInterface, node_withNode, ok_bind, pure_eq_ok]
  simp only [withNode, setIfInBounds_push, withInterface]

end Network

namespace Experiment

open Network

variable {scene : Scene} {net mid : Network} {node : SceneNode} {traffic : SceneTraffic}
  {added rest : List SceneNode} (sweep : Sweep)

/-- A source is added with all it needs to produce, but for its destinations. -/
lemma addSource_eq {arrival : VariateId} (h : mid.endpoints.size = mid.topology.nodes.size)
    (ha : arrivalOf scene net node traffic = .ok (arrival, mid)) :
    addSource scene sweep net node traffic =
      .ok (⟨mid.topology.nodes.size⟩, mid.withNode ⟨node.displayName, node.position, none⟩
        ⟨0, some
          { arrival
            period := some periodId
            maxMessages := traffic.maxMessages.getD sweep.maxMessages
            messageLength := traffic.messageLength.getD sweep.messageLength }⟩) := by
  have hadd : ∀ maxMessages, mid.addSource node.displayName node.position arrival maxMessages =
      (⟨mid.topology.nodes.size⟩, mid.withNode ⟨node.displayName, node.position, none⟩
        ⟨0, some { arrival, maxMessages, messageLength := Traffic.defaultLength }⟩) := fun _ => rfl
  simp only [addSource, ha, ok_bind, hadd, setMessageLength, setPeriod, editTraffic_withNode h, settled,
    pure_eq_ok]

/-- The first delay of a source is drawn from its own variate, which is new, or from the shared one. -/
lemma arrivalOf_draft (hsplit : scene.nodes = added ++ node :: rest) (ht : node.traffic = some traffic)
    (hs : scene.Supplied node traffic) :
    arrivalOf scene (scene.draft sweep added 0) node traffic =
      .ok (scene.arrivalAt added.length traffic,
        (scene.draft sweep added 0).withLaws (scene.laws (added ++ [node]))) := by
  have htake : scene.nodes.take added.length = added := by simp [hsplit]
  unfold arrivalOf Scene.arrivalAt
  cases hown : traffic.arrival with
  | some law =>
    have hlaws : scene.laws (added ++ [node]) = scene.laws added ++ [law] := by
      simp [Scene.laws, SceneNode.ownArrival, ht, hown]
    simp [addVariate, htake, withLaws, hlaws, Scene.draft]
  | none =>
    obtain ⟨law, hdefault⟩ := hs.arrival hown
    have hlaws : scene.laws (added ++ [node]) = scene.laws added := by
      simp [Scene.laws, SceneNode.ownArrival, ht, hown]
    simp only [hdefault, hlaws]
    rfl

variable (scene added node)

/-- The draft, with the variates that it has once the next node has been added. -/
lemma size_withLaws_draft :
    ((scene.draft sweep added 0).withLaws (scene.laws (added ++ [node]))).topology.nodes.size = added.length ∧
      ((scene.draft sweep added 0).withLaws (scene.laws (added ++ [node]))).endpoints.size = added.length := by
  simp [Scene.draft, withLaws]

/-- A node that is added to the draft gets its interface, and is then the one that the scene describes. -/
lemma addInterface_draft {x : Endpoint} (hx : x = scene.endpointAt sweep 0 added.length node) :
    (((scene.draft sweep added 0).withLaws (scene.laws (added ++ [node]))).withNode
        ⟨node.displayName, node.position, none⟩ x).addInterface ⟨added.length⟩
        ("Interface_" ++ node.displayName) node.radius =
      .ok (⟨added.length⟩, scene.draft sweep (added ++ [node]) 0) := by
  have hadd := fun net : Network =>
    net.addInterface_withNode ⟨node.displayName, node.position, none⟩ x ("Interface_" ++ node.displayName) node.radius
  have hnew := hadd ((scene.draft sweep added 0).withLaws (scene.laws (added ++ [node])))
  rw [(size_withLaws_draft scene node added sweep).1] at hnew
  rw [hnew, hx]
  simp [withNode, withInterface, withLaws, Scene.draft, SceneNode.site, SceneNode.interface, Array.replicate_succ]

variable {scene added node}

/-- The next node of a scene takes its place. -/
lemma addNode_draft (hc : scene.Consistent) (hsplit : scene.nodes = added ++ node :: rest) :
    addNode scene sweep (scene.draft sweep added 0) node =
      .ok (⟨added.length⟩, scene.draft sweep (added ++ [node]) 0) := by
  obtain ⟨hnodes, hendpoints⟩ := size_withLaws_draft scene node added sweep
  unfold addNode
  cases ht : node.traffic with
  | none =>
    have hlaws : scene.laws (added ++ [node]) = scene.laws added := by
      simp [Scene.laws, SceneNode.ownArrival, ht]
    have hnew : (scene.draft sweep added 0).addNode node.displayName node.position = (⟨added.length⟩,
        ((scene.draft sweep added 0).withLaws (scene.laws (added ++ [node]))).withNode
          ⟨node.displayName, node.position, none⟩ {}) := by
      rw [hlaws, ← hnodes, hlaws]
      rfl
    have hadd := addInterface_draft scene node added sweep (x := {}) (by simp [Scene.endpointAt, ht])
    simp only [pure_eq_ok, ok_bind, hnew, hadd]
  | some traffic =>
    have hs := hc.supplied node (by simp [hsplit]) traffic ht
    have hsource := addSource_eq sweep (hendpoints.trans hnodes.symm) (arrivalOf_draft sweep hsplit ht hs)
    rw [hnodes] at hsource
    have hadd := addInterface_draft scene node added sweep
      (x := ⟨0, some (scene.sourceAt sweep added.length traffic [])⟩) (by simp [Scene.endpointAt, ht])
    simp only [Scene.sourceAt] at hadd
    simp only [hsource, pure_eq_ok, ok_bind, hadd]

/-- The numbers of all nodes that have been added lead to their handles. -/
lemma addNodes_draft {handles : Handles} (hc : scene.Consistent) (hsplit : scene.nodes = added ++ rest)
    (hh : ∀ id ∈ added.map (·.id), handles[id]? = some (scene.handle id)) :
    ∃ handles', addNodes scene sweep (scene.draft sweep added 0) handles rest =
        .ok (scene.draft sweep scene.nodes 0, handles') ∧
      ∀ id ∈ scene.nodes.map (·.id), handles'[id]? = some (scene.handle id) := by
  induction rest generalizing added handles with
  | nil =>
    obtain rfl : scene.nodes = added := by simpa using hsplit
    exact ⟨handles, rfl, hh⟩
  | cons node rest ih =>
    have hplace : scene.nodes[added.length]? = some node := by simp [hsplit]
    have hstep : ∀ id ∈ (added ++ [node]).map (·.id),
        (handles.insert node.id ⟨added.length⟩)[id]? = some (scene.handle id) := by
      intro id hid
      rw [Std.TreeMap.getElem?_insert]
      split
      · rename_i heq
        obtain rfl : node.id = id := by simpa using heq
        rw [hc.handle_eq hplace]
      · rename_i hne
        apply hh
        simp only [List.map_append, List.map_cons, List.map_nil, List.mem_append, List.mem_singleton] at hid
        rcases hid with hid | rfl
        · exact hid
        · simp at hne
    simp only [addNodes, addNode_draft sweep hc hsplit, ok_bind]
    exact ih (by simpa using hsplit) hstep

/-- Destinations that are entered one by one stand behind those before them, without those that were there. -/
lemma foldl_enter (old new : List NodeId) :
    new.foldl (fun ds d => if ds.contains d then ds else ds ++ [d]) old =
      old ++ (new.filter (!old.contains ·)).eraseDups := by
  induction new generalizing old with
  | nil => simp
  | cons d rest ih =>
    rw [List.foldl_cons, ih]
    split
    · rename_i hold
      rw [List.filter_cons_of_neg (by simpa using hold)]
    · rename_i hnew
      rw [List.filter_cons_of_pos (by simpa using hnew), List.eraseDups_cons, List.filter_filter]
      have hboth : (fun e => !(old ++ [d]).contains e) = fun e => !e == d && !old.contains e := by
        funext e
        by_cases he : e = d <;> simp [he]
      rw [hboth, List.append_assoc, List.singleton_append]

/-- All destinations of a source that have handles are entered. -/
lemma addDestinations_eq {handles : Handles} {n : NodeId} {t : Traffic} {site : Site Float} {consumed : Nat}
    {ids : List Nat} (hx : net.endpoint n = .ok ⟨consumed, some t⟩) (hsite : net.topology.node n = .ok site)
    (hh : ∀ id ∈ ids, handles[id]? = some (scene.handle id)) :
    addDestinations handles n net ids = .ok (net.setEndpoint n ⟨consumed, some { t with
      destinations := (ids.map scene.handle).foldl (fun ds d => if ds.contains d then ds else ds ++ [d])
        t.destinations }⟩) := by
  induction ids generalizing net t with
  | nil =>
    rw [List.map_nil, List.foldl_nil, setEndpoint_self hx]
    rfl
  | cons id rest ih =>
    rw [List.forall_mem_cons] at hh
    have hedit : net.addDestination n (scene.handle id) = .ok (.ok (), net.setEndpoint n ⟨consumed, some { t with
        destinations := if t.destinations.contains (scene.handle id) then t.destinations
          else t.destinations ++ [scene.handle id] }⟩) := by
      rw [addDestination, editTraffic_source hx hsite]
      split <;> rfl
    have hnext := endpoint_setEndpoint (y := ⟨consumed, some { t with
      destinations := if t.destinations.contains (scene.handle id) then t.destinations
        else t.destinations ++ [scene.handle id] }⟩) hx n
    rw [if_pos rfl] at hnext
    unfold addDestinations
    simp only [hh.1, hedit, settled, ok_bind]
    rw [ih hnext hsite hh.2, setEndpoint_setEndpoint]
    rfl

/-- To enter the destinations of the next node changes its endpoint. -/
lemma draft_succ {k : Nat} (hk : scene.nodes[k]? = some node) :
    scene.draft sweep scene.nodes (k + 1) =
      (scene.draft sweep scene.nodes k).setEndpoint ⟨k⟩ (scene.endpointAt sweep (k + 1) k node) := by
  obtain ⟨hlt, rfl⟩ := List.getElem?_eq_some_iff.1 hk
  have hother : ∀ j, k ≠ j → scene.endpointAt sweep (k + 1) j = scene.endpointAt sweep k j := by
    intro j hj
    have hsame : j < k + 1 ↔ j < k := by omega
    funext node
    simp only [Scene.endpointAt, hsame]
  have hendpoints : scene.nodes.mapIdx (scene.endpointAt sweep (k + 1)) =
      (scene.nodes.mapIdx (scene.endpointAt sweep k)).set k (scene.endpointAt sweep (k + 1) k scene.nodes[k]) := by
    apply List.ext_getElem?
    intro j
    rw [List.getElem?_mapIdx, List.getElem?_set]
    split
    · rename_i hj
      subst hj
      simp [hlt]
    · rename_i hj
      rw [hother j hj, List.getElem?_mapIdx]
  simp [Scene.draft, setEndpoint, hendpoints]

/-- The destinations of all sources are entered. -/
lemma addTraffic_draft {handles : Handles} {place : Nat} (hc : scene.Consistent)
    (hh : ∀ id ∈ scene.nodes.map (·.id), handles[id]? = some (scene.handle id))
    (hsplit : scene.nodes = added ++ rest) (hplace : added.length = place) :
    addTraffic handles (scene.draft sweep scene.nodes place) place rest =
      .ok (scene.draft sweep scene.nodes scene.nodes.length) := by
  induction rest generalizing added place with
  | nil =>
    subst hplace
    obtain rfl : scene.nodes = added := by simpa using hsplit
    rfl
  | cons node rest ih =>
    have hk : scene.nodes[place]? = some node := by simp [hsplit, ← hplace]
    have hnext : addTraffic handles (scene.draft sweep scene.nodes (place + 1)) (place + 1) rest =
        .ok (scene.draft sweep scene.nodes scene.nodes.length) := by
      have hsplit' : scene.nodes = (added ++ [node]) ++ rest := by simpa using hsplit
      exact ih hsplit' (by simp [hplace])
    have hx : (scene.draft sweep scene.nodes place).endpoint ⟨place⟩ =
        .ok (scene.endpointAt sweep place place node) := by
      rw [endpoint_eq_ok]
      simp [Scene.draft, hk]
    have hsite : (scene.draft sweep scene.nodes place).topology.node ⟨place⟩ = .ok (node.site place) := by
      rw [Topology.node_eq_ok]
      simp [Scene.draft, hk]
    rw [draft_succ sweep hk] at hnext
    unfold addTraffic
    unfold Scene.endpointAt at hx hnext
    cases ht : node.traffic with
    | none =>
      rw [ht, Option.map_none] at hx hnext
      rw [setEndpoint_self hx] at hnext
      exact hnext
    | some traffic =>
      have hs := hc.supplied node (List.mem_of_getElem? hk) traffic ht
      rw [ht, Option.map_some] at hx hnext
      rw [if_neg (Nat.lt_irrefl place)] at hx
      rw [if_pos (Nat.lt_succ_self place)] at hnext
      have hadd := addDestinations_eq hx hsite fun id hid => hh id (hs.known id hid)
      rw [foldl_enter] at hadd
      have hall : (traffic.destinations.map scene.handle).filter (fun d => !([] : List NodeId).contains d) =
          traffic.destinations.map scene.handle := by simp
      have hdestinations : (scene.sourceAt sweep place traffic []).destinations = [] := rfl
      rw [hdestinations, List.nil_append, hall] at hadd
      simp only [hadd, ok_bind]
      exact hnext

/-- A consistent scene can be set up, and this is the network that it becomes. -/
theorem ofScene_eq (hc : scene.Consistent) :
    ofScene scene sweep =
      .ok { network := (scene.draft sweep scene.nodes scene.nodes.length).connectInRange, sweep } := by
  have hnew : Network.new sweep.timing sweep.seed.toUInt64 (.delta 0 :: scene.defaultArrival.toList) =
      scene.draft sweep [] 0 := by
    simp [Network.new, Scene.draft, Scene.laws]
  have hsplit : scene.nodes = [] ++ scene.nodes := rfl
  have hnone : ∀ id ∈ ([] : List SceneNode).map (·.id), (∅ : Handles)[id]? = some (scene.handle id) := by simp
  obtain ⟨handles, hadd, hh⟩ := addNodes_draft sweep hc hsplit hnone
  have htraffic := addTraffic_draft sweep hc hh hsplit rfl
  simp only [ofScene, hnew, hadd, ok_bind, List.length_nil] at htraffic ⊢
  simp only [htraffic, ok_bind, pure_eq_ok]

end Experiment

end CarrierSense
