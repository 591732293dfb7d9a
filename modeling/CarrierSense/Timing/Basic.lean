import CarrierSense.Clock

/-!
# Timing of the medium access

The parameters of the carrier sense protocol, the two spans derived from them, and the test that a
configuration is usable.
-/

namespace CarrierSense

/-- Parameters of the medium access, in ticks. -/
structure Timing where
  slot : Nat := 9
  sifs : Nat := 10
  /-- Airtime of an acknowledgement. -/
  ackDuration : Nat := 10
  /-- First contention window. -/
  windowMin : Nat := 16
  /-- Largest contention window. -/
  windowMax : Nat := 1024
  deriving DecidableEq, Repr, Inhabited

/-- What is wrong with a timing. -/
inductive TimingFault where
  | emptyWindow
  | invertedWindow (max min : Nat)
  | emptyAck
  deriving DecidableEq, Repr

/-- The wording of a fault. -/
def TimingFault.message : TimingFault → String
  | emptyWindow => "cw-min must be at least 1"
  | invertedWindow max min =>
    "cw-max (" ++ toString max ++ ") must not be below cw-min (" ++ toString min ++ ")"
  | emptyAck => "ack-duration must be positive"

namespace Timing

/-- The idle time that goes before a first attempt to send. -/
def difs (t : Timing) : Nat := t.sifs + 2 * t.slot

/-- How long an acknowledgement is awaited once a data frame has ended. -/
def ackTimeout (t : Timing) : Nat := t.sifs + t.ackDuration + t.slot

/-- The first fault of a timing, if it has one. -/
def check (t : Timing) : Except TimingFault Unit :=
  if t.windowMin = 0 then .error .emptyWindow
  else if t.windowMax < t.windowMin then .error (.invertedWindow t.windowMax t.windowMin)
  else if t.ackDuration = 0 then .error .emptyAck
  else .ok ()

/-- What the check asks of a timing. -/
theorem check_eq_ok_iff {t : Timing} :
    t.check = .ok () ↔ 0 < t.windowMin ∧ t.windowMin ≤ t.windowMax ∧ 0 < t.ackDuration := by
  unfold check
  split
  · simp; omega
  · split
    · simp; omega
    · split <;> simp <;> omega

end Timing

end CarrierSense
