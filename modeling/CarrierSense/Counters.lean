/-!
# Counters of a run

Eight things are counted while a network runs. A tally keeps further counters beside them, under any
names.
-/

namespace CarrierSense

/-- What is counted in a network. -/
inductive Counter where
  /-- A data frame went on the air. -/
  | framesSent
  | acksSent
  | ackTimeouts
  /-- Frames overlapped at a receiver. -/
  | collisions
  /-- A frame was heard during the idle time before an attempt to send. -/
  | deferrals
  /-- A frame met a radio that could not hear it. -/
  | missed
  /-- A frame was handed to the node it was meant for. -/
  | delivered
  /-- A frame was taken on for another node. -/
  | forwarded
  deriving DecidableEq, Repr

namespace Counter

/-- The name under which a count is reported. -/
def name : Counter → String
  | framesSent => "frames_sent"
  | acksSent => "acks_sent"
  | ackTimeouts => "ack_timeouts"
  | collisions => "collisions"
  | deferrals => "deferrals"
  | missed => "missed"
  | delivered => "delivered"
  | forwarded => "forwarded"

/-- Every counter, in the order of the names. -/
def all : List Counter :=
  [ackTimeouts, acksSent, collisions, deferrals, delivered, forwarded, framesSent, missed]

/-- The counter with a name, if there is one. -/
def ofName? (name : String) : Option Counter := all.find? (·.name == name)

end Counter

/-- The values of the eight counters. -/
structure Counters where
  framesSent : Nat := 0
  acksSent : Nat := 0
  ackTimeouts : Nat := 0
  collisions : Nat := 0
  deferrals : Nat := 0
  missed : Nat := 0
  delivered : Nat := 0
  forwarded : Nat := 0
  deriving DecidableEq, Repr, Inhabited

namespace Counters

/-- What a counter shows. -/
def get (c : Counters) : Counter → Nat
  | .framesSent => c.framesSent
  | .acksSent => c.acksSent
  | .ackTimeouts => c.ackTimeouts
  | .collisions => c.collisions
  | .deferrals => c.deferrals
  | .missed => c.missed
  | .delivered => c.delivered
  | .forwarded => c.forwarded

/-- Counts one more. -/
def increment (c : Counters) : Counter → Counters
  | .framesSent => { c with framesSent := c.framesSent + 1 }
  | .acksSent => { c with acksSent := c.acksSent + 1 }
  | .ackTimeouts => { c with ackTimeouts := c.ackTimeouts + 1 }
  | .collisions => { c with collisions := c.collisions + 1 }
  | .deferrals => { c with deferrals := c.deferrals + 1 }
  | .missed => { c with missed := c.missed + 1 }
  | .delivered => { c with delivered := c.delivered + 1 }
  | .forwarded => { c with forwarded := c.forwarded + 1 }

/-- The counters with their names, in the order of the names. -/
def entries (c : Counters) : List (String × Nat) := Counter.all.map fun k => (k.name, c.get k)

/-- One more of one counter changes no other. -/
theorem get_increment (c : Counters) (k l : Counter) :
    (c.increment k).get l = c.get l + if k = l then 1 else 0 := by
  cases k <;> cases l <;> rfl

end Counters

/-- The eight counters, and counters of other names in the order of the names. -/
structure Tally where
  counters : Counters := {}
  others : List (String × Nat) := []
  deriving DecidableEq, Repr, Inhabited

namespace Tally

/-- Counts one more under a name in a list that is ordered by names. -/
def bump (name : String) : List (String × Nat) → List (String × Nat)
  | [] => [(name, 1)]
  | (other, n) :: rest =>
    if name = other then (other, n + 1) :: rest
    else if name < other then (name, 1) :: (other, n) :: rest
    else (other, n) :: bump name rest

/-- Counts one more under a name, which need not be known. -/
def increment (t : Tally) (name : String) : Tally :=
  match Counter.ofName? name with
  | some k => { t with counters := t.counters.increment k }
  | none => { t with others := bump name t.others }

/-- The count under a name, zero if the name is not known. -/
def get (t : Tally) (name : String) : Nat :=
  match Counter.ofName? name with
  | some k => t.counters.get k
  | none => (t.others.lookup name).getD 0

/-- All counters, in the order of the names. -/
def entries (t : Tally) : List (String × Nat) :=
  t.counters.entries.merge t.others fun a b => a.1 ≤ b.1

end Tally

end CarrierSense
