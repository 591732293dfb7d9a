import CarrierSense.Medium
import CarrierSense.NetworkError
import CarrierSense.Point

/-!
# Topology of a network

What of a network stays fixed while it runs: the places of the nodes, their interfaces, and who hears
whom. Each interface transmits on a medium of its own, which has the interface's number.

The grid routing sends a frame directly to a destination that hears the sender. Otherwise it sends to
the right within the row of the destination, and down within its column.
-/

namespace CarrierSense

/-- A node's name, its place, and the interface it sends with. -/
structure Site (κ : Type) where
  name : String
  position : Point κ
  iface : Option InterfaceId := none
  deriving Inhabited

/-- The fixed part of a wireless interface. -/
structure Interface (κ : Type) where
  name : String
  /-- The node that the interface belongs to. -/
  node : NodeId
  /-- The medium that the interface transmits on. -/
  medium : MediumId
  /-- The range of the transmitter. -/
  radius : κ
  deriving Inhabited

/-- Nodes, interfaces and media of a network. -/
structure Topology (κ : Type) where
  nodes : Array (Site κ) := #[]
  interfaces : Array (Interface κ) := #[]
  media : Array Medium := #[]
  deriving Inhabited

namespace Topology

variable {κ : Type}

/-- The node with a handle. -/
def node (t : Topology κ) (n : NodeId) : Except Halt (Site κ) :=
  match t.nodes[n.index]? with
  | some site => .ok site
  | none => .error .badHandle

/-- The interface with a handle. -/
def interface (t : Topology κ) (i : InterfaceId) : Except Halt (Interface κ) :=
  match t.interfaces[i.index]? with
  | some iface => .ok iface
  | none => .error .badHandle

/-- The medium with a handle. -/
def medium (t : Topology κ) (m : MediumId) : Except Halt Medium :=
  match t.media[m.index]? with
  | some medium => .ok medium
  | none => .error .badHandle

/-- The place of the node that an interface belongs to. -/
def positionOf (t : Topology κ) (i : InterfaceId) : Except Halt (Point κ) := do
  return (← t.node (← t.interface i).node).position

/-- The medium on which an interface transmits. -/
def mediumOf (t : Topology κ) (i : InterfaceId) : Except Halt Medium := do
  t.medium (← t.interface i).medium

/-- Adds a node without interface. -/
def addNode (t : Topology κ) (name : String) (position : Point κ) : NodeId × Topology κ :=
  (⟨t.nodes.size⟩, { t with nodes := t.nodes.push { name, position } })

/-- Adds an interface to a node, together with the medium it transmits on, which nobody hears yet.
The node sends with the interface it was given last. -/
def addInterface (t : Topology κ) (n : NodeId) (name : String) (radius : κ) :
    Except Halt (InterfaceId × Topology κ) := do
  let site ← t.node n
  let iface : InterfaceId := ⟨t.interfaces.size⟩
  return (iface,
    { nodes := t.nodes.setIfInBounds n.index { site with iface := some iface }
      interfaces := t.interfaces.push { name, node := n, medium := ⟨t.media.size⟩, radius }
      media := t.media.push { name := "Link_" ++ site.name } })

/-- Lets an interface join a medium, and says whether it was not a member yet. -/
def addMember (t : Topology κ) (m : MediumId) (i : InterfaceId) :
    Except Halt (Bool × Topology κ) := do
  let medium ← t.medium m
  return (!medium.contains i,
    { t with media := t.media.setIfInBounds m.index (medium.insert i) })

variable [Scalar κ]

/-- The interfaces other than `sender` that lie in range of it, in the order of their numbers. -/
def audience (t : Topology κ) (sender : InterfaceId) : List InterfaceId :=
  match t.interface sender, t.positionOf sender with
  | .ok iface, .ok origin =>
    ((List.range t.interfaces.size).map InterfaceId.mk).filter fun i =>
      i != sender &&
        match t.positionOf i with
        | .ok place => origin.inRange place iface.radius
        | .error _ => false
  | _, _ => []

/-- Lets all interfaces in range of `sender` join its medium. -/
def connect (t : Topology κ) (sender : InterfaceId) : Topology κ :=
  match t.interface sender with
  | .ok iface =>
    { t with
      media := t.media.modify iface.medium.index fun m => (t.audience sender).foldl .insert m }
  | .error _ => t

/-- Lets every interface hear all others that it lies in range of. -/
def connectInRange (t : Topology κ) : Topology κ :=
  ((List.range t.interfaces.size).map InterfaceId.mk).foldl connect t

/-- The next hop from an interface towards a node, if there is one. -/
def route (t : Topology κ) (i : InterfaceId) (destination : NodeId) :
    Except Halt (Except NetworkError (Option InterfaceId)) := do
  let iface ← t.interface i
  let medium ← t.medium iface.medium
  if medium.isEmpty then return .error (.emptyMedium medium.name)
  let target ← t.node destination
  match target.iface.filter medium.contains with
  | some direct => return .ok (some direct)
  | none =>
    -- out of reach: the frame goes along the row or the column that it shares with its destination
    let here := (← t.node iface.node).position
    if here.sameRow target.position then
      return .ok (← medium.extreme? fun m => return (← t.positionOf m).x)
    else if here.sameColumn target.position then
      return .ok (← medium.extreme? fun m => return (← t.positionOf m).y)
    else return .ok none

end Topology

end CarrierSense
