import CarrierSense.Halt
import CarrierSense.Handle
import CarrierSense.Scalar

/-!
# Broadcast media

A medium is the set of interfaces that hear one transmitter. Its members keep the order in which they
joined, which is the order in which they hear a frame.
-/

namespace CarrierSense

/-- The interfaces that hear a transmitter, in the order in which they joined. -/
structure Medium where
  name : String
  members : List InterfaceId := []
  deriving DecidableEq, Repr, Inhabited

namespace Medium

/-- Whether `i` hears the medium. -/
def contains (m : Medium) (i : InterfaceId) : Bool := m.members.contains i

/-- Whether nobody hears the medium. -/
def isEmpty (m : Medium) : Bool := m.members.isEmpty

/-- Lets `i` join, unless it is a member already. -/
def insert (m : Medium) (i : InterfaceId) : Medium :=
  if m.contains i then m else { m with members := m.members ++ [i] }

variable {κ : Type} [Scalar κ]

/-- The better of the best member so far and the next one: the next one replaces it unless its key
is less or equal. -/
def better (key : InterfaceId → Except Halt κ) (best : Option (InterfaceId × κ))
    (next : InterfaceId) : Except Halt (Option (InterfaceId × κ)) := do
  let value ← key next
  match best with
  | some (leader, top) => return some (if Scalar.le value top then (leader, top) else (next, value))
  | none => return some (next, value)

/-- The member with the greatest key, the earliest of several. -/
def extreme? (m : Medium) (key : InterfaceId → Except Halt κ) :
    Except Halt (Option InterfaceId) := do
  return (← m.members.foldlM (better key) none).map (·.1)

end Medium

end CarrierSense
