import CarrierSense.Proofs.Network.Matched

/-!
# Members of media

An interface joins a medium at most once, so that in every reachable network the members of a medium are
all different, and hear a frame that is put on the air once each.
-/

namespace CarrierSense

/-- Nobody joins a medium twice. -/
lemma Medium.insert_nodup {m : Medium} (h : m.members.Nodup) (i : InterfaceId) :
    (m.insert i).members.Nodup := by
  unfold Medium.insert
  split
  · exact h
  · rename_i hnew
    have hnew : i ∉ m.members := by simpa [Medium.contains] using hnew
    exact List.nodup_append.2 ⟨h, List.pairwise_singleton _ i, fun a ha b hb => by
      rintro rfl
      exact hnew (List.mem_singleton.1 hb ▸ ha)⟩

namespace Topology

variable {κ : Type} {topo topo' : Topology κ} {i : InterfaceId} {n : NodeId} {m : MediumId}

/-- The members of each medium are all different. -/
def Distinct (topo : Topology κ) : Prop :=
  ∀ (k : Nat) (medium : Medium), topo.media[k]? = some medium → medium.members.Nodup

/-- The members of the medium that an interface transmits on. -/
def listeners (topo : Topology κ) (i : InterfaceId) : List InterfaceId :=
  match topo.mediumOf i with
  | .ok medium => medium.members
  | .error _ => []

/-- Those who hear an interface are the members of its medium. -/
lemma listeners_eq {medium : Medium} (h : topo.mediumOf i = .ok medium) :
    topo.listeners i = medium.members := by
  simp only [listeners, h]

/-- Nobody is twice on the medium of an interface. -/
lemma Distinct.mediumOf (h : topo.Distinct) {medium : Medium} (hm : topo.mediumOf i = .ok medium) :
    medium.members.Nodup := by
  simp only [Topology.mediumOf, bind_eq_ok, Topology.medium] at hm
  obtain ⟨iface, -, hm⟩ := hm
  split at hm
  · rename_i hget
    cases hm
    exact h _ _ hget
  · cases hm

/-- One medium has changed, and its members are still different. -/
lemma Distinct.modify (h : topo.Distinct) {k : Nat} {f : Medium → Medium}
    (hf : ∀ {medium}, medium.members.Nodup → (f medium).members.Nodup)
    (hm : topo'.media = topo.media.modify k f) : topo'.Distinct := by
  intro l medium hget
  rw [hm, Array.getElem?_modify] at hget
  split at hget
  · obtain ⟨old, hold, rfl⟩ := Option.map_eq_some_iff.1 hget
    exact hf (h _ _ hold)
  · exact h _ _ hget

/-- A new interface brings a medium without members. -/
lemma Distinct.addInterface {name : String} {radius : κ} (h : topo.Distinct)
    (ha : topo.addInterface n name radius = .ok (i, topo')) : topo'.Distinct := by
  simp only [Topology.addInterface, bind_eq_ok] at ha
  obtain ⟨site, -, ha⟩ := ha
  cases ha
  intro k medium hget
  rw [Array.getElem?_push] at hget
  split at hget
  · cases hget
    exact List.nodup_nil
  · exact h _ _ hget

/-- A member that joins is on its medium once. -/
lemma Distinct.addMember {added : Bool} (h : topo.Distinct)
    (ha : topo.addMember m i = .ok (added, topo')) : topo'.Distinct := by
  simp only [Topology.addMember, bind_eq_ok, Topology.medium] at ha
  obtain ⟨medium, hget, ha⟩ := ha
  cases ha
  split at hget
  · rename_i hold
    cases hget
    intro k medium' hget
    rw [Array.getElem?_setIfInBounds] at hget
    split at hget
    · split at hget
      · cases hget
        exact Medium.insert_nodup (h _ _ hold) i
      · cases hget
    · exact h _ _ hget
  · cases hget

/-- Nobody is on a medium twice after those in range have joined. -/
lemma Distinct.connectInRange [Scalar κ] (h : topo.Distinct) : topo.connectInRange.Distinct := by
  unfold Topology.connectInRange
  generalize (List.range topo.interfaces.size).map InterfaceId.mk = senders
  induction senders generalizing topo with
  | nil => exact h
  | cons i rest ih =>
    refine ih ?_
    unfold Topology.connect
    split
    · refine h.modify (f := fun m => (topo.audience i).foldl .insert m) (fun {medium} hmedium => ?_) rfl
      generalize topo.audience i = audience
      -- all interfaces in range join one after the other
      induction audience generalizing medium with
      | nil => exact hmedium
      | cons j rest ih => exact ih (Medium.insert_nodup hmedium j)
    · exact h

/-- What holds of a topology goes on holding, whatever is added to it. -/
structure Lasting [Scalar κ] (P : Topology κ → Prop) : Prop where
  addNode : ∀ {topo : Topology κ} (name : String) (position : Point κ), P topo → P (topo.addNode name position).2
  addInterface : ∀ {topo topo' : Topology κ} {n : NodeId} {name : String} {radius : κ} {i : InterfaceId}, P topo →
    topo.addInterface n name radius = .ok (i, topo') → P topo'
  addMember : ∀ {topo topo' : Topology κ} {m : MediumId} {i : InterfaceId} {added : Bool}, P topo →
    topo.addMember m i = .ok (added, topo') → P topo'
  connectInRange : ∀ {topo : Topology κ}, P topo → P topo.connectInRange

/-- Nothing that builds or joins puts anybody on a medium twice. -/
lemma distinct_lasting [Scalar κ] : Lasting (Distinct (κ := κ)) :=
  ⟨fun _ _ h => h, fun h => h.addInterface, fun h => h.addMember, fun h => h.connectInRange⟩

end Topology

namespace Network

variable {net net' : Network} {result : Except NetworkError Unit} {P : Topology Float → Prop}

/-- Whatever is called, the topology at most grows. -/
lemma apply_lasting {op : Op} {fuel : Nat} (hP : Topology.Lasting P) (h : P net.topology) (hc : net.Coherent)
    (ho : net.scheduler.OnTime) (hop : op.firesEvents = false) (ha : op.apply fuel net = .ok (result, net')) :
    P net'.topology := by
  have hsame : net'.topology = net.topology → P net'.topology := fun ht => ht ▸ h
  cases op with
  | addVariate | setVariate | startTrace | stopTrace | reseed =>
    cases ha
    exact h
  | addNode name position | addSource name position =>
    cases ha
    exact hP.addNode name position h
  | setPeriod | setMessageLength | addDestination => exact hsame (editTraffic_sameShape ha).topology
  | addInterface n name radius =>
    simp only [Op.apply, Network.addInterface, bind_eq_ok] at ha
    obtain ⟨_, ⟨_, ht, hi⟩, ha⟩ := ha
    cases hi
    cases ha
    exact hP.addInterface h ht
  | addMember m i =>
    simp only [Op.apply, Network.addMember, bind_eq_ok] at ha
    obtain ⟨_, ⟨_, ht, hm⟩, ha⟩ := ha
    cases hm
    cases ha
    exact hP.addMember h ht
  | connectInRange =>
    cases ha
    exact hP.connectInRange h
  | initRun => exact hsame (initRun_aside ha).2.1
  | produce n => exact hsame (produce_sameShape hc ho ha).topology
  | put n =>
    simp only [Op.apply, bind_eq_ok] at ha
    obtain ⟨mid, hp, ha⟩ := ha
    cases ha
    obtain ⟨x, -, rfl⟩ := put_eq_ok hp
    exact h
  | send i f => exact hsame (send_sameShape hc ho ha).topology
  | receive i f =>
    obtain ⟨-, r, w, -, -, hset⟩ := receive_settled hc ho ha
    exact hsame hset.topology
  | broadcast i f =>
    obtain ⟨-, medium, -, hh⟩ := broadcast_hears hc ho ha
    exact hsame hh.same.2.2
  | step | runTo | runUntilIdle => cases hop

/-- What lasts in topologies, lasts in networks, whatever is done with them. -/
lemma lasting_closed (P : Topology Float → Prop) :
    Closed (fun _ net => net.Sound ∧ P net.topology) fun _ => True where
  clock := fun h ha => ⟨h.1.advanceTo ha, h.2⟩
  event := fun h hf _ => by
    obtain ⟨hpop, hfire⟩ := h.1.fires_sameShape hf
    exact ⟨h.1.fires hf, (hpop.trans hfire).topology ▸ h.2⟩

/-- What holds of the empty topology and lasts holds of every reachable network. -/
lemma Reachable.lasting (h : net.Reachable) (hP : Topology.Lasting P) (hempty : P {}) : P net.topology := by
  obtain ⟨timing, seed, laws, log, hrun⟩ := h
  refine ((lasting_closed P).run (fun h hop _ ha => ?_) (fun _ _ => trivial)
    ⟨new_sound timing seed laws, hempty⟩ hrun).2
  exact ⟨h.1.apply hop ha, apply_lasting hP h.2 h.1.coherent h.1.onTime hop ha⟩

/-- Whatever is called, the members of each medium stay different. -/
lemma apply_distinct {op : Op} {fuel : Nat} (h : net.topology.Distinct) (hs : net.Sound)
    (hop : op.firesEvents = false) (ha : op.apply fuel net = .ok (result, net')) : net'.topology.Distinct :=
  apply_lasting Topology.distinct_lasting h hs.coherent hs.onTime hop ha

/-- A new network has no media. -/
lemma new_distinct (timing : Timing) (seed : UInt64) (laws : List Law) :
    (Network.new timing seed laws).topology.Distinct := by
  intro k medium hget
  simp [new] at hget

/-- In every reachable network the members of each medium are all different. -/
theorem Reachable.distinct (h : net.Reachable) : net.topology.Distinct :=
  h.lasting Topology.distinct_lasting (new_distinct {} 0 [])

end Network

end CarrierSense
