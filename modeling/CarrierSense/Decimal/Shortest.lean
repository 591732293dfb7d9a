import CarrierSense.Decimal.Binary

/-!
# Shortest decimals

Among the decimals that read back as a given double there are some with the fewest digits, and of
these one or two lie nearest to it. `Decimal.shortest` finds it with exact arithmetic: on the grid of
decimals with one, two, and so on up to seventeen digits it tests the two neighbours of the value.
-/

namespace CarrierSense

/-- The positive decimal `0.d₁d₂…dₙ · 10 ^ point`, with neither end digit zero. -/
structure Decimal where
  digits : List Char
  point : Int
  deriving DecidableEq, Repr

/-- Which of two equally near neighbours is taken. -/
inductive Tie where
  | up
  | even
  deriving DecidableEq, Repr

namespace Decimal

/-- `count · 10 ^ power`. -/
def ofNat (count : Nat) (power : Int) : Decimal :=
  let digits := Nat.toDigits 10 count
  { digits := (digits.reverse.dropWhile (· == '0')).reverse, point := digits.length + power }

/-- `num / den`, as a pair, in units of `10 ^ power`. -/
private def inUnits (num den : Nat) (power : Int) : Nat × Nat :=
  (num * Nat.pow 10 (-power).toNat, den * Nat.pow 10 power.toNat)

/-- Whether `10 ^ power ≤ num / den`. -/
private def reaches (num den : Nat) (power : Int) : Bool :=
  let (n, d) := inUnits num den power
  d ≤ n

/-- The `point` with `10 ^ (point - 1) ≤ num / den < 10 ^ point`, where `guess` is off by one at
most. -/
private def pointNear (num den : Nat) (guess : Int) : Int :=
  if !reaches num den (guess - 1) then guess - 1
  else if reaches num den guess then guess + 1
  else guess

/-- The neighbour of `m · 2 ^ q` on the grid of the multiples of `10 ^ power` that reads back as
`m · 2 ^ q`, if there is one, the nearer if both do. Distances are taken in quarters of `2 ^ q`: half
a unit reaches the midpoint to the next double, and the midpoints belong to an even `m`. -/
private def onGrid? (tie : Tie) (m : Nat) (q : Int) (narrow : Bool) (power : Int) : Option Nat :=
  let (unit, grid) := inUnits (1 <<< (q - 2).toNat) (1 <<< (2 - q).toNat) power
  let below := 4 * m * unit / grid
  let low := (4 * m - if narrow then 1 else 2) * unit
  let high := (4 * m + 2) * unit
  let readsBack (c : Nat) : Bool :=
    if m % 2 = 0 then low ≤ c * grid && c * grid ≤ high else low < c * grid && c * grid < high
  match readsBack below, readsBack (below + 1) with
  | false, false => none
  | true, false => some below
  | false, true => some (below + 1)
  | true, true =>
    match compare (8 * m * unit) ((2 * below + 1) * grid), tie with
    | .lt, _ => some below
    | .gt, _ => some (below + 1)
    | .eq, .up => some (below + 1)
    | .eq, .even => some (if below % 2 = 0 then below else below + 1)

/-- The shortest decimal that reads back as the double `m · 2 ^ q`, and of these the nearest. -/
def shortest (tie : Tie) (m : Nat) (q : Int) (narrow : Bool) : Decimal :=
  -- `0.30103` is the decimal logarithm of two
  let guess := (m.log2 + q) * 30103 / 100000 + 1
  let point := pointNear (m <<< q.toNat) (1 <<< (-q).toNat) guess
  let attempt (n : Nat) : Option Decimal :=
    (onGrid? tie m q narrow (point - n)).map fun count => ofNat count (point - n)
  ((List.range' 1 17).findSome? attempt).getD ⟨['0'], 0⟩

/-- A natural number is written in digits. -/
theorem isDigit_of_mem_toString {n : Nat} {c : Char} (h : c ∈ (toString n).toList) : c.isDigit = true := by
  have hdigit : c ∈ Nat.toDigits 10 n := by simpa using h
  exact Nat.isDigit_of_mem_toDigits (by decide) (by decide) hdigit

end Decimal

end CarrierSense
