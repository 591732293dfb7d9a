import CarrierSense.Decimal.Shortest

/-!
# How doubles are written

Both ways of writing a double use the shortest digits that read back. In messages and names a double
stands in positional notation whatever its size; in JSON it has a fraction or an exponent, so that it
is told apart from an integer.
-/

namespace CarrierSense

/-- The decisions of one way to write doubles. -/
structure DecimalLayout where
  tie : Tie
  /-- Written behind a number without a fraction. -/
  wholeSuffix : String
  /-- Whether a number whose point lies at the given place is written without an exponent. -/
  positional : Int → Bool

namespace DecimalLayout

/-- Positional notation throughout, as messages and names have it. -/
def plain : DecimalLayout := { tie := .up, wholeSuffix := "", positional := fun _ => true }

/-- JSON numbers: an exponent from `10 ^ 16` on and below `10 ^ -5`, a fraction everywhere else. -/
def json : DecimalLayout :=
  { tie := .even, wholeSuffix := ".0", positional := fun point => -5 < point && point ≤ 16 }

/-- A decimal in positional notation. -/
private def writePositional (layout : DecimalLayout) (d : Decimal) : String :=
  if d.point ≤ 0 then
    "0." ++ String.ofList (List.replicate (-d.point).toNat '0' ++ d.digits)
  else
    let place := d.point.toNat
    if d.digits.length ≤ place then
      String.ofList (d.digits ++ List.replicate (place - d.digits.length) '0') ++ layout.wholeSuffix
    else String.ofList (d.digits.take place) ++ "." ++ String.ofList (d.digits.drop place)

/-- A decimal with an exponent: one digit before the point, and the sign always shown. -/
private def writeScientific (d : Decimal) : String :=
  let exponent := d.point - 1
  String.ofList (d.digits.take 1) ++
    (if d.digits.length ≤ 1 then "" else "." ++ String.ofList (d.digits.drop 1)) ++
    (if exponent < 0 then "e-" else "e+") ++ toString exponent.natAbs

/-- The text of a double. -/
def write (layout : DecimalLayout) (x : Float) : String :=
  let sign (negative : Bool) : String := if negative then "-" else ""
  match Binary.ofFloat x with
  | .nan => "NaN"
  | .infinite negative => sign negative ++ "inf"
  | .zero negative => sign negative ++ "0" ++ layout.wholeSuffix
  | .finite negative m q narrow =>
    let d := Decimal.shortest layout.tie m q narrow
    sign negative ++ if layout.positional d.point then layout.writePositional d
      else writeScientific d

/-- A text of digits, a few signs, and the suffix of numbers without a fraction. -/
def Spells (layout : DecimalLayout) (text : String) : Prop :=
  ∀ c ∈ text.toList, c.isDigit = true ∨ c ∈ layout.wholeSuffix.toList ∨ c ∈ "-+.einfNa".toList

section

variable {layout : DecimalLayout} {a b : String}

/-- Two texts of such characters have only such characters together. -/
theorem Spells.append (ha : layout.Spells a) (hb : layout.Spells b) : layout.Spells (a ++ b) := by
  intro c hc
  rw [String.toList_append, List.mem_append] at hc
  exact hc.elim (ha c) (hb c)

end

end DecimalLayout

/-- A double as messages and names have it. -/
def plainText (x : Float) : String := DecimalLayout.plain.write x

end CarrierSense
