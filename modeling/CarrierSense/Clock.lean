import CarrierSense.Halt

/-!
# Simulated time

Time is counted in whole ticks on a 64-bit clock. Points and spans of time are natural numbers; the
two ways to leave the clock's range are kept apart: `Clock.check` halts, `Clock.later` stays at the
last tick.
-/

namespace CarrierSense.Clock

/-- The last tick of the clock. -/
def last : Nat := 18446744073709551615

/-- A time on the clock; one beyond the last tick halts. -/
def check (t : Nat) : Except Halt Nat :=
  if t ≤ last then .ok t else .error .overflow

/-- The tick `span` ticks after `t`, or the last tick if that comes first. -/
def later (t span : Nat) : Nat := min (t + span) last

/-- A time passes the check if it is on the clock, and then it stays as it is. -/
theorem check_eq_ok_iff {t s : Nat} : check t = .ok s ↔ t ≤ last ∧ s = t := by
  unfold check
  split <;> simp <;> omega

theorem le_later {t : Nat} (h : t ≤ last) (span : Nat) : t ≤ later t span := by
  unfold later
  omega

theorem later_le_last (t span : Nat) : later t span ≤ last := by
  unfold later
  omega

end CarrierSense.Clock
