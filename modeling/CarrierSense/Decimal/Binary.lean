/-!
# What a double stands for

A double is not a number, an infinity, a zero or `± m · 2 ^ q` with a positive natural `m`. The last
form is exact, so that all that is written about a double can be computed on natural numbers.
-/

namespace CarrierSense

/-- The value of a double. -/
inductive Binary where
  | nan
  | infinite (negative : Bool)
  | zero (negative : Bool)
  /-- `± significand · 2 ^ exponent`. The flag `narrow` says that the doubles below lie twice as
  close as those above. -/
  | finite (negative : Bool) (significand : Nat) (exponent : Int) (narrow : Bool)
  deriving DecidableEq, Repr

namespace Binary

/-- The weight of the bit before the fraction, `2 ^ 52`. -/
def unit : Nat := 4503599627370496

/-- The value of the double with the given 64 bits: a sign, 11 bits of exponent, 52 of fraction. -/
def ofBits (bits : Nat) : Binary :=
  let negative := bits >>> 63 % 2 == 1
  let biased : Nat := bits >>> 52 % 2048
  let fraction := bits % unit
  if biased = 2047 then if fraction = 0 then infinite negative else nan
  else if biased = 0 then
    if fraction = 0 then zero negative else finite negative fraction (-1074) false
  else finite negative (unit + fraction) ((biased : Int) - 1075) (fraction == 0 && biased != 1)

/-- The value of `x`. -/
def ofFloat (x : Float) : Binary := ofBits x.toBits.toNat

/-- The natural number nearest to a positive value, a half going up; nothing else has one. -/
def round? : Binary → Option Nat
  | finite false m q _ =>
    if 0 ≤ q then some (m <<< q.toNat)
    else some ((2 * m + 1 <<< (-q).toNat) >>> ((-q).toNat + 1))
  | _ => none

end Binary

end CarrierSense
