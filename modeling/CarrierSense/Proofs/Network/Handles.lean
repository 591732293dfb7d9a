import CarrierSense.Proofs.Network.Media

/-!
# Handles

A handle is the number of something that is there for good: a topology only grows (`Topology.Extends`). So if every
call is given handles of things that are there, those that a network stores never dangle (`Topology.Furnished`).
-/

namespace CarrierSense

namespace Topology

variable {κ : Type} {topo mid topo' : Topology κ} {i j : InterfaceId} {n : NodeId} {m : MediumId}

/-- A medium is looked up at its place. -/
lemma medium_eq_ok {medium : Medium} : topo.medium m = .ok medium ↔ topo.media[m.index]? = some medium := by
  unfold Topology.medium
  cases topo.media[m.index]? <;> simp

/-- Whatever is in a topology stays there: nodes keep their places, interfaces stay as they are, and members of media
keep their order, which new ones join at its end. -/
structure Extends (topo topo' : Topology κ) : Prop where
  node : ∀ {n site}, topo.node n = .ok site → ∃ site', topo'.node n = .ok site' ∧ site'.position = site.position
  interface : ∀ {i iface}, topo.interface i = .ok iface → topo'.interface i = .ok iface
  medium : ∀ {m medium}, topo.medium m = .ok medium →
    ∃ medium', topo'.medium m = .ok medium' ∧ medium.members <+: medium'.members

namespace Extends

/-- A topology extends itself. -/
lemma refl (topo : Topology κ) : topo.Extends topo :=
  ⟨fun h => ⟨_, h, rfl⟩, fun h => h, fun h => ⟨_, h, List.prefix_rfl⟩⟩

/-- What extends an extension extends the topology itself. -/
lemma trans (h : topo.Extends mid) (h' : mid.Extends topo') : topo.Extends topo' where
  node := fun hn => by
    obtain ⟨site, hsite, hplace⟩ := h.node hn
    obtain ⟨site', hsite', hplace'⟩ := h'.node hsite
    exact ⟨site', hsite', hplace'.trans hplace⟩
  interface := fun hi => h'.interface (h.interface hi)
  medium := fun hm => by
    obtain ⟨medium, hmedium, hmembers⟩ := h.medium hm
    obtain ⟨medium', hmedium', hmembers'⟩ := h'.medium hmedium
    exact ⟨medium', hmedium', hmembers.trans hmembers'⟩

/-- Whoever hears an interface goes on hearing it. -/
lemma listeners (h : topo.Extends topo') (i : InterfaceId) : topo.listeners i <+: topo'.listeners i := by
  cases hm : topo.mediumOf i with
  | error halt =>
    simp only [Topology.listeners, hm]
    exact List.nil_prefix
  | ok medium =>
    obtain ⟨iface, hi, hmedium⟩ := bind_eq_ok.1 hm
    obtain ⟨medium', hmedium', hmembers⟩ := h.medium hmedium
    have hm' : topo'.mediumOf i = .ok medium' := bind_eq_ok.2 ⟨iface, h.interface hi, hmedium'⟩
    rw [listeners_eq hm, listeners_eq hm']
    exact hmembers

end Extends

/-- Every handle that a topology stores names something in it. -/
structure Furnished (topo : Topology κ) : Prop where
  home : ∀ {i iface}, topo.interface i = .ok iface → ∃ site, topo.node iface.node = .ok site
  medium : ∀ {i iface}, topo.interface i = .ok iface → ∃ medium, topo.medium iface.medium = .ok medium
  member : ∀ {m medium j}, topo.medium m = .ok medium → j ∈ medium.members → ∃ iface, topo.interface j = .ok iface
  iface : ∀ {n site i}, topo.node n = .ok site → site.iface = some i → ∃ iface, topo.interface i = .ok iface

namespace Furnished

/-- Whoever hears an interface of a furnished topology is there. -/
lemma listener (h : topo.Furnished) (hj : j ∈ topo.listeners i) : ∃ iface, topo.interface j = .ok iface := by
  unfold listeners at hj
  split at hj
  · rename_i medium hm
    obtain ⟨iface, -, hmedium⟩ := bind_eq_ok.1 hm
    exact h.member hmedium hj
  · cases hj

/-- An interface of a furnished topology stands where its node stands. -/
lemma positionOf {iface : Interface κ} (h : topo.Furnished) (hi : topo.interface i = .ok iface) :
    ∃ site, topo.node iface.node = .ok site ∧ topo.positionOf i = .ok site.position := by
  obtain ⟨site, hsite⟩ := h.home hi
  exact ⟨site, hsite, bind_eq_ok.2 ⟨iface, hi, bind_eq_ok.2 ⟨site, hsite, rfl⟩⟩⟩

end Furnished

/-- A new node stands behind those before it. -/
lemma addNode_node (topo : Topology κ) (name : String) (position : Point κ) (n : NodeId) :
    (topo.addNode name position).2.node n =
      if n.index = topo.nodes.size then .ok { name, position } else topo.node n := by
  by_cases hn : n.index = topo.nodes.size <;> simp [node, addNode, Array.getElem?_push, hn]

/-- A new node leaves all others in their places. -/
lemma addNode_extends (topo : Topology κ) (name : String) (position : Point κ) :
    topo.Extends (topo.addNode name position).2 where
  node := fun {n site} hn => by
    have hlt := (Array.getElem?_eq_some_iff.1 (node_eq_ok.1 hn)).1
    refine ⟨site, ?_, rfl⟩
    rw [addNode_node, if_neg (Nat.ne_of_lt hlt), hn]
  interface := fun hi => hi
  medium := fun hm => ⟨_, hm, List.prefix_rfl⟩

/-- A topology stays furnished with one more node. -/
lemma Furnished.addNode (h : topo.Furnished) (name : String) (position : Point κ) :
    (topo.addNode name position).2.Furnished where
  home := fun hi => by
    obtain ⟨site, hsite⟩ := h.home hi
    obtain ⟨site', hsite', -⟩ := (addNode_extends topo name position).node hsite
    exact ⟨site', hsite'⟩
  medium := fun hi => h.medium hi
  member := fun hm hj => h.member hm hj
  iface := fun {n site i} hn hi => by
    rw [addNode_node] at hn
    split at hn
    · cases hn
      cases hi
    · exact h.iface hn hi

/-- A new interface comes with a new medium, and its node sends with it from now on. -/
lemma addInterface_eq_ok {name : String} {radius : κ} (ha : topo.addInterface n name radius = .ok (i, topo')) :
    ∃ site, topo.node n = .ok site ∧ i = ⟨topo.interfaces.size⟩ ∧
      (∀ k, topo'.node k = if k = n then .ok { site with iface := some i } else topo.node k) ∧
      (∀ j, topo'.interface j = if j = i then .ok { name, node := n, medium := ⟨topo.media.size⟩, radius }
        else topo.interface j) ∧
      ∀ m, topo'.medium m = if m = ⟨topo.media.size⟩ then .ok { name := "Link_" ++ site.name } else topo.medium m := by
  obtain ⟨site, hsite, ha⟩ := bind_eq_ok.1 ha
  cases ha
  have hlt := (Array.getElem?_eq_some_iff.1 (node_eq_ok.1 hsite)).1
  refine ⟨site, hsite, rfl, fun k => ?_, fun j => ?_, fun m => ?_⟩
  · by_cases hk : k = n
    · subst hk
      simp only [node, Array.getElem?_setIfInBounds_self_of_lt hlt, if_true]
    · have hne : n.index ≠ k.index := fun he => hk (by cases k; cases n; simp_all)
      simp only [node, Array.getElem?_setIfInBounds_ne hne, hk, if_false]
  · by_cases hj : j = ⟨topo.interfaces.size⟩
    · subst hj
      simp [interface]
    · have hne : j.index ≠ topo.interfaces.size := fun he => hj (by cases j; simp_all)
      simp only [interface, Array.getElem?_push, hne, hj, if_false]
  · by_cases hm : m = ⟨topo.media.size⟩
    · subst hm
      simp [Topology.medium]
    · have hne : m.index ≠ topo.media.size := fun he => hm (by cases m; simp_all)
      simp only [Topology.medium, Array.getElem?_push, hne, hm, if_false]

/-- An interface that is there is not the next one to be added. -/
lemma ne_new_interface {iface : Interface κ} (hi : topo.interface i = .ok iface) :
    i ≠ ⟨topo.interfaces.size⟩ := by
  rintro rfl
  simp [interface] at hi

/-- A medium that is there is not the next one to be added. -/
lemma ne_new_medium {medium : Medium} (hm : topo.medium m = .ok medium) : m ≠ ⟨topo.media.size⟩ := by
  rintro rfl
  simp [Topology.medium] at hm

/-- A new interface leaves all others and their media as they are. -/
lemma addInterface_extends {name : String} {radius : κ} (ha : topo.addInterface n name radius = .ok (i, topo')) :
    topo.Extends topo' := by
  obtain ⟨site, hsite, rfl, hnode, hinterface, hmedium⟩ := addInterface_eq_ok ha
  refine ⟨fun {k old} hk => ?_, fun {j iface} hj => ?_, fun {m medium} hm => ⟨medium, ?_, List.prefix_rfl⟩⟩
  · rw [hnode]
    split
    · rename_i heq
      subst heq
      cases hsite.symm.trans hk
      exact ⟨_, rfl, rfl⟩
    · exact ⟨old, hk, rfl⟩
  · rw [hinterface, if_neg (ne_new_interface hj), hj]
  · rw [hmedium, if_neg (ne_new_medium hm), hm]

/-- A topology stays furnished with one more interface. -/
lemma Furnished.addInterface {name : String} {radius : κ} (h : topo.Furnished)
    (ha : topo.addInterface n name radius = .ok (i, topo')) : topo'.Furnished := by
  have hext := addInterface_extends ha
  obtain ⟨site, hsite, rfl, hnode, hinterface, hmedium⟩ := addInterface_eq_ok ha
  refine ⟨fun {j iface} hj => ?_, fun {j iface} hj => ?_, fun {m medium j} hm hmem => ?_, fun {k old j} hk hj => ?_⟩
  · have hhome : ∃ site, topo.node iface.node = .ok site := by
      rw [hinterface] at hj
      split at hj
      · cases hj
        exact ⟨site, hsite⟩
      · exact h.home hj
    obtain ⟨old, hold⟩ := hhome
    obtain ⟨new, hnew, -⟩ := hext.node hold
    exact ⟨new, hnew⟩
  · rw [hinterface] at hj
    split at hj
    · cases hj
      exact ⟨_, (hmedium _).trans (if_pos rfl)⟩
    · obtain ⟨old, hold⟩ := h.medium hj
      obtain ⟨new, hnew, -⟩ := hext.medium hold
      exact ⟨new, hnew⟩
  · rw [hmedium] at hm
    split at hm
    · cases hm
      cases hmem
    · obtain ⟨iface, hj⟩ := h.member hm hmem
      exact ⟨iface, hext.interface hj⟩
  · rw [hnode] at hk
    split at hk
    · cases hk
      cases hj
      exact ⟨_, (hinterface _).trans (if_pos rfl)⟩
    · obtain ⟨iface, hj⟩ := h.iface hk hj
      exact ⟨iface, hext.interface hj⟩

/-- Interfaces of the topology have joined some media, and nothing else has changed. -/
structure Joins (topo topo' : Topology κ) : Prop where
  node : topo'.node = topo.node
  interface : topo'.interface = topo.interface
  grown : ∀ {m medium}, topo.medium m = .ok medium →
    ∃ medium', topo'.medium m = .ok medium' ∧ medium.members <+: medium'.members
  member : ∀ {m medium' j}, topo'.medium m = .ok medium' → j ∈ medium'.members →
    (∃ medium, topo.medium m = .ok medium ∧ j ∈ medium.members) ∨ ∃ iface, topo.interface j = .ok iface

namespace Joins

/-- Where nobody joins, nothing changes. -/
lemma refl (topo : Topology κ) : topo.Joins topo :=
  ⟨rfl, rfl, fun hm => ⟨_, hm, List.prefix_rfl⟩, fun hm hj => .inl ⟨_, hm, hj⟩⟩

/-- Members that join one after the other have joined. -/
lemma trans (h : topo.Joins mid) (h' : mid.Joins topo') : topo.Joins topo' where
  node := h'.node.trans h.node
  interface := h'.interface.trans h.interface
  grown := fun hm => by
    obtain ⟨medium, hmedium, hmembers⟩ := h.grown hm
    obtain ⟨medium', hmedium', hmembers'⟩ := h'.grown hmedium
    exact ⟨medium', hmedium', hmembers.trans hmembers'⟩
  member := fun hm hj => by
    rcases h'.member hm hj with ⟨medium, hmedium, hj⟩ | hnew
    · exact h.member hmedium hj
    · rw [h.interface] at hnew
      exact .inr hnew

/-- A topology in which members have joined extends the one before. -/
lemma toExtends (h : topo.Joins topo') : topo.Extends topo' :=
  ⟨fun hn => ⟨_, h.node ▸ hn, rfl⟩, fun hi => h.interface ▸ hi, h.grown⟩

/-- A topology stays furnished when members join that are there. -/
lemma furnished (h : topo.Joins topo') (hf : topo.Furnished) : topo'.Furnished where
  home := fun hi => by
    rw [h.interface] at hi
    rw [h.node]
    exact hf.home hi
  medium := fun hi => by
    rw [h.interface] at hi
    obtain ⟨medium, hmedium⟩ := hf.medium hi
    obtain ⟨medium', hmedium', -⟩ := h.grown hmedium
    exact ⟨medium', hmedium'⟩
  member := fun hm hj => by
    rw [h.interface]
    rcases h.member hm hj with ⟨medium, hmedium, hj⟩ | hnew
    · exact hf.member hmedium hj
    · exact hnew
  iface := fun hn hi => by
    rw [h.node] at hn
    rw [h.interface]
    exact hf.iface hn hi

/-- One medium has been given new members. -/
lemma modify {k : Nat} {f : Medium → Medium} (hgrown : ∀ medium, medium.members <+: (f medium).members)
    (hnew : ∀ {medium j}, j ∈ (f medium).members → j ∈ medium.members ∨ ∃ iface, topo.interface j = .ok iface) :
    topo.Joins { topo with media := topo.media.modify k f } := by
  refine ⟨rfl, rfl, fun {m medium} hm => ?_, fun {m medium' j} hm hj => ?_⟩
  · have hm := medium_eq_ok.1 hm
    by_cases hk : k = m.index
    · refine ⟨f medium, medium_eq_ok.2 ?_, hgrown medium⟩
      simp [Array.getElem?_modify, hk, hm]
    · refine ⟨medium, medium_eq_ok.2 ?_, List.prefix_rfl⟩
      simp [Array.getElem?_modify, hk, hm]
  · have hm := medium_eq_ok.1 hm
    simp only [Array.getElem?_modify] at hm
    split at hm
    · obtain ⟨medium, hmedium, rfl⟩ := Option.map_eq_some_iff.1 hm
      exact (hnew hj).imp_left fun hold => ⟨medium, medium_eq_ok.2 hmedium, hold⟩
    · exact .inl ⟨medium', medium_eq_ok.2 hm, hj⟩

end Joins

/-- Members of a medium stay in their places when one more joins. -/
lemma insert_members (medium : Medium) (i : InterfaceId) : medium.members <+: (medium.insert i).members := by
  unfold Medium.insert
  split
  · exact List.prefix_rfl
  · exact List.prefix_append _ _

/-- Whoever is a member then was one before, or is the one that has joined. -/
lemma mem_insert {medium : Medium} (hj : j ∈ (medium.insert i).members) : j ∈ medium.members ∨ j = i := by
  unfold Medium.insert at hj
  split at hj
  · exact .inl hj
  · simpa using hj

/-- An interface that is there joins a medium. -/
lemma addMember_joins {added : Bool} (hi : ∃ iface, topo.interface i = .ok iface)
    (ha : topo.addMember m i = .ok (added, topo')) : topo.Joins topo' := by
  obtain ⟨medium, hm, ha⟩ := bind_eq_ok.1 ha
  cases ha
  -- only the medium that was looked up changes
  have hmodify : topo.media.setIfInBounds m.index (medium.insert i) =
      topo.media.modify m.index fun medium => medium.insert i := by
    apply Array.ext_getElem?
    intro k
    have hm := medium_eq_ok.1 hm
    rw [Array.getElem?_modify, Array.getElem?_setIfInBounds]
    split
    · rename_i hk
      subst hk
      rw [hm, if_pos (Array.getElem?_eq_some_iff.1 hm).1, Option.map_some]
    · rfl
  rw [hmodify]
  refine .modify (fun medium => insert_members medium i) fun hj => ?_
  rcases mem_insert hj with hold | rfl
  · exact .inl hold
  · exact .inr hi

/-- Whoever joins a medium, be it an interface or not, comes behind its members. -/
lemma addMember_extends {added : Bool} (ha : topo.addMember m i = .ok (added, topo')) : topo.Extends topo' := by
  obtain ⟨medium, hm, ha⟩ := bind_eq_ok.1 ha
  cases ha
  have hget := medium_eq_ok.1 hm
  refine ⟨fun hn => ⟨_, hn, rfl⟩, fun hi => hi, fun {l old} hl => ?_⟩
  by_cases hlm : m.index = l.index
  · have hsame : old = medium := by
      rw [medium_eq_ok, ← hlm, hget] at hl
      exact (Option.some.inj hl).symm
    refine ⟨medium.insert i, medium_eq_ok.2 ?_, hsame ▸ insert_members medium i⟩
    simp [← hlm, (Array.getElem?_eq_some_iff.1 hget).1]
  · refine ⟨old, medium_eq_ok.2 ?_, List.prefix_rfl⟩
    rw [Array.getElem?_setIfInBounds_ne hlm]
    exact medium_eq_ok.1 hl

variable [Scalar κ]

/-- Who lies in range of an interface is an interface of the topology. -/
lemma interface_of_audience (hj : j ∈ topo.audience i) : ∃ iface, topo.interface j = .ok iface := by
  unfold audience at hj
  split at hj
  · obtain ⟨hj, -⟩ := List.mem_filter.1 hj
    obtain ⟨k, hk, rfl⟩ := List.mem_map.1 hj
    have hlt : k < topo.interfaces.size := List.mem_range.1 hk
    exact ⟨_, interface_eq_ok.2 (Array.getElem?_eq_getElem hlt)⟩
  · cases hj

/-- Those in range of an interface join its medium. -/
lemma connect_joins (topo : Topology κ) (i : InterfaceId) : topo.Joins (topo.connect i) := by
  unfold connect
  split
  · refine .modify (fun medium => ?_) fun {medium j} hj => ?_
    · generalize topo.audience i = audience
      induction audience generalizing medium with
      | nil => exact List.prefix_rfl
      | cons k rest ih => exact (insert_members medium k).trans (ih _)
    · have hall : ∀ k ∈ topo.audience i, ∃ iface, topo.interface k = .ok iface := fun k hk =>
        interface_of_audience hk
      generalize topo.audience i = audience at hj hall
      induction audience generalizing medium with
      | nil => exact .inl hj
      | cons k rest ih =>
        obtain ⟨hk, hrest⟩ := List.forall_mem_cons.1 hall
        rcases ih hj hrest with hj | hnew
        · rcases mem_insert hj with hold | rfl
          · exact .inl hold
          · exact .inr hk
        · exact .inr hnew
  · exact .refl topo

/-- All that are in range of each other join. -/
lemma connectInRange_joins (topo : Topology κ) : topo.Joins topo.connectInRange := by
  unfold connectInRange
  generalize (List.range topo.interfaces.size).map InterfaceId.mk = senders
  induction senders generalizing topo with
  | nil => exact .refl topo
  | cons i rest ih => exact (connect_joins topo i).trans (ih _)

/-- Whatever is built, the topology goes on extending what it was. -/
lemma extends_lasting (topo : Topology κ) : Lasting topo.Extends :=
  ⟨fun name position h => h.trans (addNode_extends _ name position), fun h ha => h.trans (addInterface_extends ha),
    fun h ha => h.trans (addMember_extends ha), fun h => h.trans (connectInRange_joins _).toExtends⟩

end Topology

namespace Network

variable {net net' : Network} {m : Moment} {log : List Moment} {result : Except NetworkError Unit}

/-- Whether a look-up succeeds can be decided by making it. -/
instance {α β : Type} (x : Except α β) : Decidable (∃ b, x = .ok b) :=
  match x with
  | .ok b => .isTrue ⟨b, rfl⟩
  | .error _ => .isFalse nofun

/-- The end nodes of a frame, and the interfaces of its hop, are there. -/
def Located (net : Network) (f : Frame) : Prop :=
  (∃ site, net.topology.node f.source = .ok site) ∧ (∃ site, net.topology.node f.destination = .ok site) ∧
    (∀ i ∈ f.sender, ∃ iface, net.topology.interface i = .ok iface) ∧
      ∀ i ∈ f.receiver, ∃ iface, net.topology.interface i = .ok iface

/-- Whether the handles of a frame name something can be decided. -/
instance (f : Frame) : Decidable (net.Located f) := inferInstanceAs (Decidable (_ ∧ _ ∧ _ ∧ _))

/-- What the handles name that a call is given is there. -/
def Op.Valid (net : Network) : Op → Prop
  | setVariate v _ | addSource _ _ v _ => v.index < net.variates.size
  | setPeriod n v => (∃ site, net.topology.node n = .ok site) ∧ v.index < net.variates.size
  | setMessageLength n _ | addInterface n _ _ | produce n | put n => ∃ site, net.topology.node n = .ok site
  | addDestination n destination =>
    (∃ site, net.topology.node n = .ok site) ∧ ∃ site, net.topology.node destination = .ok site
  | addMember m i =>
    (∃ medium, net.topology.medium m = .ok medium) ∧ ∃ iface, net.topology.interface i = .ok iface
  | send i f | receive i f | broadcast i f => (∃ iface, net.topology.interface i = .ok iface) ∧ net.Located f
  | _ => True

/-- Whether an operation has valid handles can be decided. -/
instance (op : Op) : Decidable (op.Valid net) :=
  match op with
  | .setVariate .. | .addSource .. => inferInstanceAs (Decidable (_ < _))
  | .setPeriod .. => inferInstanceAs (Decidable (_ ∧ _ < _))
  | .setMessageLength .. | .addInterface .. | .produce _ | .put _ => inferInstanceAs (Decidable (∃ _, _ = Except.ok _))
  | .addDestination .. | .addMember .. =>
    inferInstanceAs (Decidable ((∃ _, _ = Except.ok _) ∧ ∃ _, _ = Except.ok _))
  | .send .. | .receive .. | .broadcast .. => inferInstanceAs (Decidable ((∃ _, _ = Except.ok _) ∧ _))
  | .addVariate _ | .addNode .. | .connectInRange | .startTrace | .stopTrace | .reseed _ | .initRun | .step | .runTo _
  | .runUntilIdle => .isTrue trivial

/-- If a moment is a call, then it is given handles of things that are there. -/
def Moment.Valid (m : Moment) : Prop :=
  match m.cause with
  | .call op => op.Valid m.before
  | .event _ => True

/-- Whether the operation of a moment has valid handles can be decided. -/
instance : Decidable m.Valid :=
  match h : m.cause with
  | .call op => decidable_of_iff (op.Valid m.before) (by rw [Moment.Valid, h])
  | .event _ => .isTrue (by rw [Moment.Valid, h]; trivial)

/-- A call with valid handles lets the topology grow, and no handle in it comes to dangle. -/
lemma apply_furnished {op : Op} {fuel : Nat} (h : net.topology.Furnished) (hs : net.Sound)
    (hop : op.firesEvents = false) (hv : op.Valid net) (ha : op.apply fuel net = .ok (result, net')) :
    net'.topology.Furnished ∧ net.topology.Extends net'.topology := by
  have hsame : net'.topology = net.topology →
      net'.topology.Furnished ∧ net.topology.Extends net'.topology := by
    intro ht
    rw [ht]
    exact ⟨h, .refl _⟩
  cases op with
  | addVariate | setVariate | startTrace | stopTrace | reseed =>
    cases ha
    exact hsame rfl
  | addNode name position | addSource name position =>
    cases ha
    exact ⟨h.addNode name position, Topology.addNode_extends _ name position⟩
  | setPeriod | setMessageLength | addDestination => exact hsame (editTraffic_sameShape ha).topology
  | addInterface n name radius =>
    simp only [Op.apply, Network.addInterface, bind_eq_ok] at ha
    obtain ⟨_, ⟨_, ht, hi⟩, ha⟩ := ha
    cases hi
    cases ha
    exact ⟨h.addInterface ht, Topology.addInterface_extends ht⟩
  | addMember m i =>
    simp only [Op.apply, Network.addMember, bind_eq_ok] at ha
    obtain ⟨_, ⟨_, ht, hm⟩, ha⟩ := ha
    cases hm
    cases ha
    have hjoins := Topology.addMember_joins hv.2 ht
    exact ⟨hjoins.furnished h, hjoins.toExtends⟩
  | connectInRange =>
    cases ha
    have hjoins := Topology.connectInRange_joins net.topology
    exact ⟨hjoins.furnished h, hjoins.toExtends⟩
  | initRun => exact hsame (initRun_aside ha).2.1
  | produce n => exact hsame (produce_sameShape hs.coherent hs.onTime ha).topology
  | put n =>
    obtain ⟨mid, hp, ha⟩ := bind_eq_ok.1 ha
    cases ha
    obtain ⟨x, -, rfl⟩ := put_eq_ok hp
    exact hsame rfl
  | send i f => exact hsame (send_sameShape hs.coherent hs.onTime ha).topology
  | receive i f =>
    obtain ⟨-, r, w, -, -, hset⟩ := receive_settled hs.coherent hs.onTime ha
    exact hsame hset.topology
  | broadcast i f =>
    obtain ⟨-, medium, -, hh⟩ := broadcast_hears hs.coherent hs.onTime ha
    exact hsame hh.same.2.2
  | step | runTo | runUntilIdle => cases hop

/-- A new network stores no handles yet. -/
lemma new_furnished (timing : Timing) (seed : UInt64) (laws : List Law) :
    (Network.new timing seed laws).topology.Furnished where
  home := fun hi => by simp [new, Topology.interface] at hi
  medium := fun hi => by simp [new, Topology.interface] at hi
  member := fun hm => by simp [new, Topology.medium] at hm
  iface := fun hn => by simp [new, Topology.node] at hn

end Network

end CarrierSense
