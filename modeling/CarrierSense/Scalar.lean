/-!
# Measured quantities

Positions, radii and traffic periods are doubles when a simulation runs. What is computed with them
is written over any type of scalars, so that it can be read over exact numbers as well.
-/

namespace CarrierSense

/-- A type of numbers that positions and periods are measured in. -/
class Scalar (κ : Type) extends Add κ, Sub κ, Mul κ where
  ofNat : Nat → κ
  abs : κ → κ
  /-- Strictly less. -/
  lt : κ → κ → Bool
  /-- Less or equal. -/
  le : κ → κ → Bool
  isFinite : κ → Bool
  /-- The distance from one to the next larger double. -/
  epsilon : κ

instance : Scalar Float where
  ofNat n := Float.ofScientific n false 0
  abs := Float.abs
  lt a b := a < b
  le a b := a ≤ b
  isFinite := Float.isFinite
  epsilon := Float.ofBits 0x3CB0000000000000

end CarrierSense
