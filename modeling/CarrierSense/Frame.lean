import CarrierSense.Handle
import CarrierSense.Clock

/-!
# Frames

What travels over a medium: a data frame, or the acknowledgement of one. A frame is addressed twice,
by its end nodes and by the two interfaces of its current hop.
-/

namespace CarrierSense

/-- A data frame or an acknowledgement. -/
structure Frame where
  /-- Length, in units of one tick of transmission time. -/
  length : Nat
  /-- How long the frame occupies the medium. -/
  airtime : Nat
  /-- Number that ties an acknowledgement to the frame it answers. -/
  id : Nat
  isAck : Bool
  /-- The node that produced the frame. -/
  source : NodeId
  /-- The node the frame is meant for. -/
  destination : NodeId
  /-- The interface that transmits the frame on its current hop. -/
  sender : Option InterfaceId
  /-- The interface that should accept the frame on its current hop. -/
  receiver : Option InterfaceId
  deriving DecidableEq, Repr, Inhabited

namespace Frame

/-- A new data frame: each unit of length takes one tick, and no hop is chosen yet. -/
def data (id length : Nat) (source destination : NodeId) : Frame :=
  { length, airtime := length, id, isAck := false, source, destination,
    sender := none, receiver := none }

/-- The acknowledgement of `f` by the interface `me`: same number, opposite way. -/
def ackFrom (f : Frame) (me : InterfaceId) (airtime : Nat) : Frame :=
  { length := 0, airtime, id := f.id, isAck := true, source := f.destination,
    destination := f.source, sender := some me, receiver := f.sender }

/-- Whether the current hop of `f` ends at the interface `i`. -/
def isFor (f : Frame) (i : InterfaceId) : Bool := f.receiver == some i

/-- The frame `f` on the hop from `sender` to `receiver`. -/
def onHop (f : Frame) (sender receiver : InterfaceId) : Frame :=
  { f with sender := some sender, receiver := some receiver }

end Frame

end CarrierSense
