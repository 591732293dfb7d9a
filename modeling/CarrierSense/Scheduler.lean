import CarrierSense.Clock
import Std.Data.TreeMap

/-!
# Discrete event scheduler

Pending events wait in a queue ordered by time and, within one tick, by the order in which they were
posted. Beside the queue an index leads from the handle of each pending event to its time, so that
an event can be dropped by its handle. Posting numbers are never used twice, not even after a reset:
a handle never comes to name a second event.
-/

namespace CarrierSense

/-- The handle of a posted event: the number of its post. -/
structure EventId where
  number : Nat
  deriving DecidableEq, Repr, Inhabited

/-- Where an event stands in the queue: first by time, then by the number of its post. -/
structure Due where
  time : Nat
  number : Nat
  deriving DecidableEq, Repr, Inhabited

instance : Ord Due := ⟨fun a b => (compare a.time b.time).then (compare a.number b.number)⟩

/-- Misuse of the scheduler. -/
inductive SchedulerError where
  /-- An event was posted for a time before the clock. -/
  | inThePast (requested now : Nat)
  /-- Nothing is pending. -/
  | noMoreEvents
  deriving DecidableEq, Repr

/-- The wording of a scheduler error. -/
def SchedulerError.message : SchedulerError → String
  | inThePast requested now =>
    "Cannot post event at tick " ++ toString requested ++ " (current tick is " ++ toString now ++ ")"
  | noMoreEvents => "No more events in queue"

/-- A clock and the events of type `ε` that wait for it. -/
structure Scheduler (ε : Type) where
  now : Nat := 0
  /-- The number of the next post. -/
  nextNumber : Nat := 0
  /-- The pending events, in the order in which they fire. -/
  queue : Std.TreeMap Due ε := ∅
  /-- The time of each pending event, by the number of its post. -/
  pending : Std.TreeMap Nat Nat := ∅

namespace Scheduler

variable {ε : Type}

/-- Number of pending events. -/
def size (s : Scheduler ε) : Nat := s.queue.size

/-- Whether nothing is pending. -/
def isEmpty (s : Scheduler ε) : Bool := s.queue.isEmpty

/-- The event that fires next, with its place in the queue. -/
def first? (s : Scheduler ε) : Option (Due × ε) :=
  Id.run (ForIn.forIn s.queue none fun entry _ => pure (.done (some entry)))

/-- The event that fires next heads the list of all pending events. -/
theorem first?_eq_head? (s : Scheduler ε) : s.first? = s.queue.toList.head? := by
  simp only [first?, Std.TreeMap.forIn_eq_forIn_toList]
  cases s.queue.toList <;> rfl

/-- The time of the next event. -/
def nextTime? (s : Scheduler ε) : Option Nat := s.first?.map (·.1.time)

/-- The time of the next event, or the error that there is none. -/
def nextTime (s : Scheduler ε) : Except SchedulerError Nat :=
  match s.nextTime? with
  | some time => .ok time
  | none => .error .noMoreEvents

/-- Lets `event` fire at `time`, which must not lie before the clock. -/
def post (s : Scheduler ε) (time : Nat) (event : ε) :
    Except SchedulerError (EventId × Scheduler ε) :=
  if time < s.now then .error (.inThePast time s.now)
  else .ok (⟨s.nextNumber⟩,
    { s with
      nextNumber := s.nextNumber + 1
      queue := s.queue.insert ⟨time, s.nextNumber⟩ event
      pending := s.pending.insert s.nextNumber time })

/-- Lets `event` fire `delay` ticks from now, or at the last tick of the clock. -/
def postAfter (s : Scheduler ε) (delay : Nat) (event : ε) :
    Except SchedulerError (EventId × Scheduler ε) :=
  s.post (Clock.later s.now delay) event

/-- Whether the event still waits. -/
def isPending (s : Scheduler ε) (id : EventId) : Bool := s.pending.contains id.number

/-- Cancels an event and says whether one was removed: none is if the event has fired, was dropped,
or was forgotten by a reset. -/
def drop (s : Scheduler ε) (id : EventId) : Bool × Scheduler ε :=
  match s.pending[id.number]? with
  | none => (false, s)
  | some time =>
    (s.queue.contains ⟨time, id.number⟩,
      { s with
        queue := s.queue.erase ⟨time, id.number⟩
        pending := s.pending.erase id.number })

/-- Moves the clock forward to `time`; it never goes back. -/
def advanceTo (s : Scheduler ε) (time : Nat) : Scheduler ε :=
  if s.now < time then { s with now := time } else s

/-- Takes the next event out of the queue if its time has come. -/
def popDue (s : Scheduler ε) : Option ((EventId × ε) × Scheduler ε) :=
  match s.first? with
  | none => none
  | some (due, event) =>
    if s.now < due.time then none
    else some ((⟨due.number⟩, event),
      { s with
        queue := s.queue.erase due
        pending := s.pending.erase due.number })

/-- Forgets every pending event and turns the clock back to zero. The numbers of the posts run on,
so that no old handle names a new event. -/
def reset (s : Scheduler ε) : Scheduler ε := { s with now := 0, queue := ∅, pending := ∅ }

end Scheduler

end CarrierSense
