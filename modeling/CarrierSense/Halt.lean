/-!
# Computations that cannot go on

The simulator keeps its clock, its handles and its random draws inside fixed limits. A computation
that would leave one of them has no value: it halts, and nothing of the state it was working on is
kept. Errors of the simulated network are something else: they are values (`NetworkError`), and the
network that met them lives on.
-/

namespace CarrierSense

/-- Why a computation has no value. -/
inductive Halt where
  /-- A time or a count left the range of its machine word. -/
  | overflow
  /-- A handle names nothing. -/
  | badHandle
  /-- A random draw was asked for from an impossible range. -/
  | badRange
  /-- The fuel of an event loop ran out. -/
  | outOfFuel
  deriving DecidableEq, Repr

end CarrierSense
