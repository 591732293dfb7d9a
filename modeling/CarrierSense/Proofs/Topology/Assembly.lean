import CarrierSense.Proofs.Topology.Joining
import Mathlib.Data.List.Induction

/-!
# Assembling a topology

Nodes and interfaces are added in any order (`Assembled`). As long as nobody has joined a medium, a topology is told by
the places of its nodes and by the nodes of its interfaces.
-/

namespace CarrierSense.Topology

variable {κ : Type} {topo topo' : Topology κ} {i j : InterfaceId} {n : NodeId} {m : MediumId}

/-- What some nodes and interfaces, added in any order, make of an empty topology. -/
inductive Assembled : Topology κ → Prop where
  | empty : Assembled {}
  | addNode {topo : Topology κ} (name : String) (position : Point κ) (before : Assembled topo) :
      Assembled (topo.addNode name position).2
  | addInterface {topo topo' : Topology κ} {n : NodeId} {name : String} {radius : κ} {i : InterfaceId}
      (before : Assembled topo) (added : topo.addInterface n name radius = .ok (i, topo')) : Assembled topo'

namespace Assembled

/-- In what has been assembled every interface has its own medium. -/
lemma ownMedia (h : Assembled topo) : topo.OwnMedia := by
  induction h with
  | empty => exact .empty
  | addNode name position _ ih => exact ⟨ih.size, ih.medium⟩
  | addInterface _ ha ih => exact ih.addInterface ha

/-- In what has been assembled no handle dangles. -/
lemma furnished (h : Assembled topo) : topo.Furnished := by
  induction h with
  | empty => exact ⟨by simp [interface], by simp [interface], by simp [Topology.medium], by simp [node]⟩
  | addNode name position _ ih => exact ih.addNode name position
  | addInterface _ ha ih => exact ih.addInterface ha

/-- Nobody hears anybody yet. -/
lemma unheard (h : Assembled topo) {medium : Medium} (hm : topo.medium m = .ok medium) : medium.members = [] := by
  induction h with
  | empty => simp [Topology.medium] at hm
  | addNode _ _ _ ih => exact ih hm
  | addInterface _ ha ih =>
    obtain ⟨site, -, rfl, -, -, hmedium⟩ := addInterface_eq_ok ha
    rw [hmedium] at hm
    split at hm
    · cases hm
      rfl
    · exact ih hm

/-- The interface that a node sends with is one of its own. -/
lemma home_of_iface (h : Assembled topo) {site : Site κ} (hn : topo.node n = .ok site) (hi : site.iface = some i) :
    ∃ iface, topo.interface i = .ok iface ∧ iface.node = n := by
  induction h generalizing site with
  | empty => simp [node] at hn
  | addNode _ _ _ ih =>
    rw [addNode_node] at hn
    split at hn
    · cases hn
      cases hi
    · exact ih hn hi
  | addInterface _ ha ih =>
    obtain ⟨home, -, rfl, hnode, hinterface, -⟩ := addInterface_eq_ok ha
    rw [hnode] at hn
    split at hn
    · rename_i hk
      cases hn
      cases hi
      exact ⟨_, (hinterface _).trans (if_pos rfl), hk.symm⟩
    · obtain ⟨iface, hiface, hhome⟩ := ih hn hi
      exact ⟨iface, (addInterface_extends ha).interface hiface, hhome⟩

/-- A node with an interface sends with one. -/
lemma iface_of_home (h : Assembled topo) {iface : Interface κ} {site : Site κ} (hi : topo.interface i = .ok iface)
    (hn : topo.node iface.node = .ok site) : ∃ j, site.iface = some j := by
  induction h generalizing iface site i with
  | empty => simp [interface] at hi
  | @addNode topo name position before ih =>
    obtain ⟨old, hold⟩ := before.furnished.home (i := i) hi
    have hlt := (Array.getElem?_eq_some_iff.1 (node_eq_ok.1 hold)).1
    rw [addNode_node, if_neg (Nat.ne_of_lt hlt)] at hn
    exact ih hi hn
  | addInterface before ha ih =>
    obtain ⟨home, -, rfl, hnode, hinterface, -⟩ := addInterface_eq_ok ha
    rw [hnode] at hn
    split at hn
    · cases hn
      exact ⟨_, rfl⟩
    · rename_i hother
      rw [hinterface] at hi
      split at hi
      · cases hi
        exact absurd rfl hother
      · exact ih hi hn

end Assembled

/-- Adds a node with one interface. -/
def addStation (topo : Topology κ) (name : String) (position : Point κ) (radius : κ) : Topology κ :=
  match (topo.addNode name position).2.addInterface ⟨topo.nodes.size⟩ name radius with
  | .ok (_, topo') => topo'
  | .error _ => topo

/-- An interface on a node that has just been added makes a station. -/
lemma addInterface_addNode (topo : Topology κ) (name : String) (position : Point κ) (radius : κ) :
    ∃ i, (topo.addNode name position).2.addInterface ⟨topo.nodes.size⟩ name radius =
      .ok (i, topo.addStation name position radius) := by
  refine ⟨⟨topo.interfaces.size⟩, ?_⟩
  simp [addStation, addInterface, addNode, node]

/-- A station comes with a node, an interface and a medium behind all others. -/
lemma addStation_eq (topo : Topology κ) (name : String) (position : Point κ) (radius : κ) :
    topo.addStation name position radius =
      { nodes := topo.nodes.push { name, position, iface := some ⟨topo.interfaces.size⟩ }
        interfaces := topo.interfaces.push { name, node := ⟨topo.nodes.size⟩, medium := ⟨topo.media.size⟩, radius }
        media := topo.media.push { name := "Link_" ++ name } } := by
  have hset : ∀ site site' : Site κ, (topo.nodes.push site).setIfInBounds topo.nodes.size site' =
      topo.nodes.push site' := fun site site' => by
    refine Array.ext_getElem? fun k => ?_
    simp only [Array.getElem?_setIfInBounds, Array.getElem?_push, Array.size_push]
    grind
  simp [addStation, addInterface, addNode, node, hset]

/-- One node after the other, each with one interface. -/
def stations (radius : κ) (places : List (Point κ)) : Topology κ :=
  places.foldl (fun topo position => topo.addStation "station" position radius) {}

/-- The last of the stations is added last. -/
lemma stations_concat (radius : κ) (places : List (Point κ)) (position : Point κ) :
    stations radius (places ++ [position]) = (stations radius places).addStation "station" position radius := by
  simp [stations]

/-- Stations are assembled node by node. -/
lemma assembled_stations (radius : κ) (places : List (Point κ)) : Assembled (stations radius places) := by
  induction places using List.reverseRecOn with
  | nil => exact .empty
  | append_singleton places position ih =>
    obtain ⟨i, hi⟩ := addInterface_addNode (stations radius places) "station" position radius
    rw [stations_concat]
    exact .addInterface (.addNode "station" position ih) hi

/-- There are as many nodes and interfaces as places. -/
lemma sizes_stations (radius : κ) (places : List (Point κ)) :
    (stations radius places).nodes.size = places.length ∧ (stations radius places).interfaces.size = places.length := by
  induction places using List.reverseRecOn with
  | nil => exact ⟨rfl, rfl⟩
  | append_singleton places position ih => simp [stations_concat, addStation_eq, ih]

/-- The station with a number stands at the place with this number. -/
lemma node_stations (radius : κ) (places : List (Point κ)) (n : NodeId) :
    (stations radius places).nodes[n.index]? = (places[n.index]?).map fun position =>
      { name := "station", position, iface := some ⟨n.index⟩ } := by
  induction places using List.reverseRecOn with
  | nil => rfl
  | append_singleton places position ih =>
    obtain ⟨hnodes, hinterfaces⟩ := sizes_stations radius places
    rw [stations_concat, addStation_eq, Array.getElem?_push, ih, hnodes, hinterfaces]
    rcases Nat.lt_trichotomy n.index places.length with hlt | heq | hgt
    · rw [if_neg (Nat.ne_of_lt hlt), List.getElem?_append_left hlt]
    · rw [if_pos heq, heq, List.getElem?_concat_length]
      rfl
    · rw [if_neg (Nat.ne_of_gt hgt), List.getElem?_eq_none (Nat.le_of_lt hgt), List.getElem?_eq_none (by simp; omega)]

/-- The nodes stand at the places, in order. -/
lemma places_stations (radius : κ) (places : List (Point κ)) :
    (stations radius places).nodes.toList.map Site.position = places := by
  refine List.ext_getElem? fun k => ?_
  rw [List.getElem?_map, Array.getElem?_toList, node_stations radius places ⟨k⟩, Option.map_map]
  cases places[k]? <;> rfl

/-- The interfaces belong to the nodes, in order. -/
lemma homes_stations (radius : κ) (places : List (Point κ)) :
    (stations radius places).interfaces.toList.map Interface.node =
      (List.range (stations radius places).nodes.size).map NodeId.mk := by
  induction places using List.reverseRecOn with
  | nil => rfl
  | append_singleton places position ih =>
    rw [stations_concat, addStation_eq, Array.toList_push, List.map_append, ih, Array.size_push, List.range_succ,
      List.map_append]
    rfl

/-- All stations reach equally far. -/
lemma radius_stations {radius : κ} {places : List (Point κ)} {iface : Interface κ}
    (hi : (stations radius places).interface i = .ok iface) : iface.radius = radius := by
  induction places using List.reverseRecOn with
  | nil => simp [stations, interface] at hi
  | append_singleton places position ih =>
    rw [interface_eq_ok, stations_concat, addStation_eq, Array.getElem?_push] at hi
    split at hi
    · cases hi
      rfl
    · exact ih (interface_eq_ok.2 hi)

end CarrierSense.Topology
