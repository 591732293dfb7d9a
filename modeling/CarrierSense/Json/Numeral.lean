/-!
# Number literals

A number literal is kept as it was written, because its spelling decides what it may be read as: only
a literal without fraction and exponent is an integer.
-/

namespace CarrierSense

/-- The value of a list of decimal digits that follow the value `start`. -/
def digitsValue (start : Nat) (digits : List Char) : Nat :=
  digits.foldl (fun n c => 10 * n + (c.toNat - '0'.toNat)) start

/-- A number literal: sign, digits before and after the point, and the power of ten behind them. -/
structure Numeral where
  negative : Bool
  whole : List Char
  fraction : List Char
  exponent : Option Int
  deriving DecidableEq, Repr

namespace Numeral

/-- Whether the literal is spelled as an integer. -/
def isInteger (n : Numeral) : Bool := n.fraction.isEmpty && n.exponent.isNone

/-- The natural number that an integer literal stands for, if it is at most `bound`. Minus zero is
not a natural number. -/
def toNat? (n : Numeral) (bound : Nat) : Option Nat :=
  let value := digitsValue 0 n.whole
  if n.isInteger && !n.negative && value ≤ bound then some value else none

/-- The largest number that a literal's leading digits may make up. -/
private def digitsLimit : Nat := 18446744073709551615

/-- Reads digits as long as the number stays within 64 bits: the number, how many digits it took,
and how many were left. -/
private def leading (start : Nat) : List Char → Nat × Nat × Nat
  | [] => (start, 0, 0)
  | c :: rest =>
    let next := 10 * start + (c.toNat - '0'.toNat)
    if next ≤ digitsLimit then
      let (value, taken, left) := leading next rest
      (value, taken + 1, left)
    else (start, 0, rest.length + 1)

/-- `x · 10 ^ power`, by one multiplication or division where the power is itself a double, and by
divisions by `10 ^ 308` before that. Nothing is returned beyond the largest double. -/
private def scale : Nat → Float → Int → Option Float
  | 0, _, _ => some 0
  | fuel + 1, x, power =>
    if power.natAbs ≤ 308 then
      let unit := Float.ofScientific 1 false power.natAbs
      if 0 ≤ power then
        let y := x * unit
        if y.isInf then none else some y
      else some (x / unit)
    else if x == 0 then some x
    else if 0 ≤ power then none
    -- only a power far below one takes another round
    else scale fuel (x / Float.ofScientific 1 false 308) (power + 308)

/-- The double that a literal stands for. An integer of at most 64 bits is rounded to the nearest
double. Any other literal is its leading digits times a power of ten, so that the last place of a
long one may differ from the nearest double. Nothing is returned beyond the largest double. -/
def toFloat? (n : Numeral) : Option Float :=
  let signed (x : Float) : Float := if n.negative then -x else x
  let (value, _, dropped) := leading 0 n.whole
  if n.isInteger && dropped == 0 then some (signed (Float.ofScientific value false 0))
  else
    let (value, places, _) := leading value n.fraction
    let power := (dropped : Int) - places + n.exponent.getD 0
    (scale 4 (Float.ofScientific value false 0) power).map signed

/-- The double nearest to a literal, without any loss; infinite beyond the largest double. -/
def nearest (n : Numeral) : Float :=
  let count := digitsValue 0 (n.whole ++ n.fraction)
  let power := n.exponent.getD 0 - n.fraction.length
  let magnitude := (Nat.toDigits 10 count).length + power
  let x : Float :=
    if count = 0 || magnitude < -400 then 0
    else if 400 < magnitude then Float.ofBits 0x7FF0000000000000
    else Float.ofScientific count (power < 0) power.natAbs
  if n.negative then -x else x

end Numeral

end CarrierSense
