/-!
# Handles

Nodes, interfaces and media are kept in arrays and named by their places in them.
-/

namespace CarrierSense

/-- A node of a network. -/
structure NodeId where
  index : Nat
  deriving DecidableEq, Repr, Inhabited

/-- A wireless interface of a network. -/
structure InterfaceId where
  index : Nat
  deriving DecidableEq, Repr, Inhabited

/-- A broadcast medium of a network. -/
structure MediumId where
  index : Nat
  deriving DecidableEq, Repr, Inhabited

/-- The written form of a node's handle. -/
def NodeId.label (n : NodeId) : String := "node#" ++ toString n.index

def InterfaceId.label (i : InterfaceId) : String := "interface#" ++ toString i.index

def MediumId.label (m : MediumId) : String := "medium#" ++ toString m.index

end CarrierSense
