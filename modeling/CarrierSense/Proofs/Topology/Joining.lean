import CarrierSense.Proofs.Network.Handles
import Mathlib.Data.List.Nodup

/-!
# Who joins the media

Every interface transmits on a medium of its own (`OwnMedia`), so that no medium is changed twice when all interfaces
in range join. What they make of the media has a closed form (`joined`): the members that were there stay in
front, and behind them come those that were none, in the order of their numbers.
-/

namespace CarrierSense

namespace Medium

variable {m : Medium} {j : InterfaceId}

/-- Whoever is a member of a medium does not join it again. -/
lemma insert_of_mem (h : j ∈ m.members) : m.insert j = m := by
  simp [insert, contains, h]

/-- Whoever is no member yet joins at the end. -/
lemma insert_of_not_mem (h : j ∉ m.members) : m.insert j = { m with members := m.members ++ [j] } := by
  simp [insert, contains, h]

/-- Of different interfaces that join one after the other, those come in that were no members. -/
lemma foldl_insert {js : List InterfaceId} (h : js.Nodup) :
    js.foldl insert m = { m with members := m.members ++ js.filter (· ∉ m.members) } := by
  induction js generalizing m with
  | nil => simp
  | cons j rest ih =>
    obtain ⟨hj, hrest⟩ := List.nodup_cons.1 h
    rw [List.foldl_cons, ih hrest]
    by_cases hmem : j ∈ m.members
    · rw [insert_of_mem hmem, List.filter_cons_of_neg (by simpa using hmem)]
    · -- nobody else is kept out by `j`
      have hsame : rest.filter (· ∉ m.members ++ [j]) = rest.filter (· ∉ m.members) :=
        List.filter_congr fun k hk => by
          have hne : k ≠ j := ne_of_mem_of_not_mem hk hj
          simp [hne]
      rw [insert_of_not_mem hmem, List.filter_cons_of_pos (by simpa using hmem), hsame, List.append_assoc]
      rfl

end Medium

namespace Topology

variable {κ : Type} {topo topo' : Topology κ} {i j : InterfaceId} {n : NodeId} {m : MediumId} {medium : Medium}

/-- Every interface transmits on the medium that has its number, and there are no other media. -/
structure OwnMedia (topo : Topology κ) : Prop where
  size : topo.media.size = topo.interfaces.size
  medium : ∀ {i iface}, topo.interface i = .ok iface → iface.medium = ⟨i.index⟩

/-- The interfaces that are there are those with small enough numbers. -/
lemma interface_exists : (∃ iface, topo.interface i = .ok iface) ↔ i.index < topo.interfaces.size := by
  simp only [interface_eq_ok]
  constructor
  · rintro ⟨iface, hi⟩
    exact (Array.getElem?_eq_some_iff.1 hi).1
  · intro hlt
    exact ⟨_, Array.getElem?_eq_getElem hlt⟩

namespace OwnMedia

/-- An empty topology has no media to speak of. -/
lemma empty : OwnMedia ({} : Topology κ) :=
  ⟨rfl, fun hi => by simp [interface] at hi⟩

/-- A new interface brings the medium that has its number. -/
lemma addInterface {name : String} {radius : κ} (h : topo.OwnMedia)
    (ha : topo.addInterface n name radius = .ok (i, topo')) : topo'.OwnMedia := by
  obtain ⟨site, -, rfl, -, hinterface, -⟩ := addInterface_eq_ok ha
  refine ⟨?_, fun {j iface} hj => ?_⟩
  · obtain ⟨_, -, ha⟩ := bind_eq_ok.1 ha
    cases ha
    simp [h.size]
  · rw [hinterface] at hj
    split at hj
    · rename_i hnew
      cases hj
      rw [hnew, h.size]
    · exact h.medium hj

/-- New members leave the media with their interfaces. -/
lemma addMember {added : Bool} (h : topo.OwnMedia) (ha : topo.addMember m i = .ok (added, topo')) :
    topo'.OwnMedia := by
  obtain ⟨_, -, ha⟩ := bind_eq_ok.1 ha
  cases ha
  exact ⟨by simp [h.size], h.medium⟩

/-- The medium of an interface has its number. -/
lemma mediumOf_eq (h : topo.OwnMedia) {iface : Interface κ} (hi : topo.interface i = .ok iface) :
    topo.mediumOf i = topo.medium ⟨i.index⟩ := by
  simp [mediumOf, hi, h.medium hi]

/-- Every interface transmits on a medium. -/
lemma exists_mediumOf (h : topo.OwnMedia) {iface : Interface κ} (hi : topo.interface i = .ok iface) :
    ∃ medium, topo.mediumOf i = .ok medium := by
  have hlt := interface_exists.1 ⟨iface, hi⟩
  rw [h.mediumOf_eq hi]
  exact ⟨_, medium_eq_ok.2 (Array.getElem?_eq_getElem (h.size ▸ hlt))⟩

end OwnMedia

/-- A member that joins once more changes nothing. -/
lemma addMember_of_mem (hm : topo.medium m = .ok medium) (hj : j ∈ medium.members) :
    topo.addMember m j = .ok (false, topo) := by
  have hget := medium_eq_ok.1 hm
  have hsame : topo.media.setIfInBounds m.index medium = topo.media := by
    refine Array.ext_getElem? fun k => ?_
    rw [Array.getElem?_setIfInBounds]
    split
    · rename_i hk
      subst hk
      rw [if_pos (Array.getElem?_eq_some_iff.1 hget).1, hget]
    · rfl
  simp [addMember, hm, Medium.insert_of_mem hj, Medium.contains, hj, hsame]

variable [Scalar κ]

/-- Whether the place of `j` lies strictly within the radius of `i` around the place of `i`. -/
def reaches (topo : Topology κ) (i j : InterfaceId) : Bool :=
  match topo.interface i, topo.positionOf i, topo.positionOf j with
  | .ok iface, .ok origin, .ok place => origin.inRange place iface.radius
  | _, _, _ => false

/-- The interfaces other than `i` in range of it that are no members of a medium yet, in the order of their numbers. -/
def newcomers (topo : Topology κ) (i : InterfaceId) (medium : Medium) : List InterfaceId :=
  ((List.range topo.interfaces.size).map InterfaceId.mk).filter fun j =>
    j ≠ i ∧ j ∉ medium.members ∧ topo.reaches i j

/-- What it takes to join a medium anew. -/
lemma mem_newcomers :
    j ∈ topo.newcomers i medium ↔ j ≠ i ∧ j ∉ medium.members ∧ topo.reaches i j = true := by
  rw [newcomers, List.mem_filter, decide_eq_true_eq, and_iff_right_iff_imp]
  rintro ⟨-, -, hreaches⟩
  -- only an interface of the topology has a place
  cases hj : topo.interface j with
  | error halt =>
    have hnowhere : topo.positionOf j = .error halt := by
      rw [positionOf, hj]
      rfl
    simp [reaches, hnowhere] at hreaches
  | ok iface => exact List.mem_map.2 ⟨j.index, List.mem_range.2 (interface_exists.1 ⟨iface, hj⟩), rfl⟩

/-- A medium of `i` after these have joined it. -/
def welcome (topo : Topology κ) (i : InterfaceId) (medium : Medium) : Medium :=
  { medium with members := medium.members ++ topo.newcomers i medium }

/-- The topology after those in range of the first `count` interfaces have joined their media. -/
def joinedUpTo (topo : Topology κ) (count : ℕ) : Topology κ :=
  { topo with media := topo.media.mapIdx fun k medium => if k < count then topo.welcome ⟨k⟩ medium else medium }

/-- The topology after all interfaces in range of each other have joined the media. -/
def joined (topo : Topology κ) : Topology κ :=
  { topo with media := topo.media.mapIdx fun k medium => topo.welcome ⟨k⟩ medium }

/-- The audience of an interface are all others in range of it, in order. -/
lemma audience_eq (topo : Topology κ) (i : InterfaceId) : topo.audience i =
    ((List.range topo.interfaces.size).map InterfaceId.mk).filter fun j => j ≠ i ∧ topo.reaches i j := by
  rw [audience]
  cases hi : topo.interface i with
  | error => simp [reaches, hi]
  | ok iface =>
    cases hp : topo.positionOf i with
    | error => simp [reaches, hi, hp]
    | ok origin =>
      refine List.filter_congr fun j _ => ?_
      cases hj : topo.positionOf j <;> simp [reaches, hi, hp, hj, bne, ← Bool.beq_eq_decide_eq]

/-- Nobody is twice in the audience of an interface. -/
lemma audience_nodup (topo : Topology κ) (i : InterfaceId) : (topo.audience i).Nodup := by
  have hinj : Function.Injective InterfaceId.mk := fun _ _ h => InterfaceId.mk.inj h
  rw [audience_eq]
  exact (List.nodup_range.map hinj).filter _

/-- Those in range that are no members yet are the newcomers. -/
lemma filter_audience (topo : Topology κ) (i : InterfaceId) (medium : Medium) :
    (topo.audience i).filter (· ∉ medium.members) = topo.newcomers i medium := by
  rw [audience_eq, List.filter_filter, newcomers]
  refine List.filter_congr fun j _ => ?_
  rw [← Bool.decide_and, decide_eq_decide]
  tauto

/-- To connect an interface is to welcome those in range on its medium. -/
lemma connect_eq (h : topo.OwnMedia) (hlt : i.index < topo.interfaces.size) :
    topo.connect i = { topo with media := topo.media.modify i.index (topo.welcome i) } := by
  obtain ⟨iface, hi⟩ := interface_exists.2 hlt
  have hfold : (fun medium => (topo.audience i).foldl Medium.insert medium) = topo.welcome i := by
    funext medium
    rw [Medium.foldl_insert (audience_nodup topo i), filter_audience, welcome]
  simp only [connect, hi, h.medium hi, hfold]

/-- The interfaces are connected one after the other. -/
lemma connect_joinedUpTo (h : topo.OwnMedia) {count : ℕ} (hcount : count < topo.interfaces.size) :
    (topo.joinedUpTo count).connect ⟨count⟩ = topo.joinedUpTo (count + 1) := by
  have hown : (topo.joinedUpTo count).OwnMedia := ⟨by simp [joinedUpTo, h.size], h.medium⟩
  rw [connect_eq hown hcount]
  simp only [joinedUpTo]
  congr 1
  refine Array.ext_getElem? fun k => ?_
  rw [Array.getElem?_modify, Array.getElem?_mapIdx, Array.getElem?_mapIdx]
  split
  · rename_i hk
    subst hk
    cases topo.media[count]? with
    | none => rfl
    | some medium =>
      simp only [Option.map_some, Nat.lt_irrefl, if_false, Nat.lt_succ_self, if_true]
      rfl
  · rename_i hk
    have hiff : k < count + 1 ↔ k < count := by omega
    simp only [hiff]

/-- The first interfaces are visited one after the other. -/
lemma foldl_connect (h : topo.OwnMedia) {count : ℕ} (hcount : count ≤ topo.interfaces.size) :
    ((List.range count).map InterfaceId.mk).foldl connect topo = topo.joinedUpTo count := by
  induction count with
  | zero =>
    have hsame : topo.media.mapIdx (fun _ medium => medium) = topo.media := Array.ext (by simp) (by simp)
    simp [joinedUpTo, hsame]
  | succ count ih =>
    rw [List.range_succ, List.map_append, List.foldl_append, ih (by omega), List.map_singleton, List.foldl_cons,
      List.foldl_nil, connect_joinedUpTo h hcount]

/-- Every medium keeps its members, and behind them come those in range. -/
theorem connectInRange_eq (h : topo.OwnMedia) : topo.connectInRange = topo.joined := by
  rw [connectInRange, foldl_connect h (Nat.le_refl _), joinedUpTo, joined]
  congr 1
  refine Array.ext (by simp) fun k hk _ => ?_
  rw [Array.size_mapIdx, h.size] at hk
  simp [hk]

/-- Joining keeps the media with their interfaces. -/
lemma OwnMedia.joined (h : topo.OwnMedia) : topo.joined.OwnMedia :=
  ⟨by simp [Topology.joined, h.size], h.medium⟩

/-- Nothing that builds or joins separates the media from their interfaces. -/
lemma ownMedia_lasting : Lasting (OwnMedia (κ := κ)) :=
  ⟨fun _ _ h => ⟨h.size, h.medium⟩, fun h => h.addInterface, fun h => h.addMember, fun h => by
    rw [connectInRange_eq h]
    exact h.joined⟩

/-- A medium of the joined topology has welcomed those in range. -/
lemma medium_joined (topo : Topology κ) (m : MediumId) :
    topo.joined.medium m = (topo.medium m).map (topo.welcome ⟨m.index⟩) := by
  simp only [Topology.medium, Topology.joined, Array.getElem?_mapIdx]
  cases topo.media[m.index]? <;> rfl

/-- Whoever is in range is a member once the newcomers have joined. -/
lemma newcomers_welcome (topo : Topology κ) (i : InterfaceId) (medium : Medium) :
    topo.newcomers i (topo.welcome i medium) = [] := by
  refine List.filter_eq_nil_iff.2 fun j hj hnew => ?_
  obtain ⟨hne, hnot, hreaches⟩ := of_decide_eq_true hnew
  rw [welcome, List.mem_append, not_or] at hnot
  exact hnot.2 (List.mem_filter.2 ⟨hj, decide_eq_true ⟨hne, hnot.1, hreaches⟩⟩)

/-- Joining twice is joining once. -/
lemma joined_joined (topo : Topology κ) : topo.joined.joined = topo.joined := by
  have hsame : ∀ i medium, topo.joined.welcome i (topo.welcome i medium) = topo.welcome i medium :=
    fun i medium => by
      have hnone : topo.joined.newcomers i (topo.welcome i medium) = [] := newcomers_welcome topo i medium
      rw [welcome, hnone, List.append_nil]
  simp only [joined] at hsame ⊢
  simp [Array.mapIdx_mapIdx, Function.comp_def, hsame]

end Topology

end CarrierSense
