import CarrierSense.Scalar
import Mathlib.Algebra.Order.Ring.Rat

/-!
# Exact numbers

Positions, radii and periods read over the rational numbers, where nothing is rounded: a sum of doubles is then the
sum of their values. What is equal up to the last place of a double differs by less than `2⁻¹ ^ 52`, as before.
-/

namespace CarrierSense

instance : Scalar ℚ where
  ofNat n := n
  abs x := |x|
  lt a b := decide (a < b)
  le a b := decide (a ≤ b)
  isFinite _ := true
  epsilon := 2⁻¹ ^ 52

end CarrierSense
