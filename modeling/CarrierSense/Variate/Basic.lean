import CarrierSense.Clock
import CarrierSense.Decimal.Layout
import CarrierSense.Random.Draw

/-!
# Random variates

The delays of traffic are drawn from variates: one of four laws, and for a fixed sequence the place
that was reached in it. All owners of a variate share its place.
-/

namespace CarrierSense

/-- How a variate is distributed. -/
inductive Law where
  /-- Uniform from `min` up to but not including `max`. -/
  | uniform (min max : Float)
  | exponential (mean : Float)
  /-- The given values in turn, over and over. -/
  | sequence (values : Array Float)
  /-- Always the same value. -/
  | delta (value : Float)
  deriving Inhabited

/-- What is wrong with a law. -/
inductive LawFault where
  | uniform (min max : Float)
  | exponential (mean : Float)
  | emptySequence
  | negativeSequence
  | delta (value : Float)

def LawFault.message : LawFault → String
  | uniform min max =>
    "uniform variate needs 0 <= min <= max, got [" ++ plainText min ++ ", " ++ plainText max ++ ")"
  | exponential mean => "exponential variate needs a positive mean, got " ++ plainText mean
  | emptySequence => "sequence variate has no values"
  | negativeSequence => "sequence variate values must be non-negative"
  | delta value => "delta variate needs a non-negative value, got " ++ plainText value

/-- The fault of a law, if it has one: all parameters must be finite and not negative, a range must
not be inverted, a mean must be positive, and a sequence must have values. -/
def Law.check : Law → Except LawFault Unit
  | uniform min max =>
    if !min.isFinite || !max.isFinite || min < 0 || max < min then .error (.uniform min max)
    else .ok ()
  | exponential mean => if mean.isFinite && 0 < mean then .ok () else .error (.exponential mean)
  | sequence values =>
    if values.isEmpty then .error .emptySequence
    else if values.any fun v => !v.isFinite || v < 0 then .error .negativeSequence
    else .ok ()
  | delta value => if !value.isFinite || value < 0 then .error (.delta value) else .ok ()

/-- A law, and how many values of its sequence have been drawn. -/
structure Variate where
  law : Law
  cursor : Nat := 0
  deriving Inhabited

namespace Variate

/-- The count of draws after which the cursor starts again from zero. -/
def cursorLimit : Nat := 18446744073709551616

/-- The next value of a variate. An empty sequence yields zero. -/
def draw (v : Variate) (s : Stream) : Except Halt (Float × Variate × Stream) :=
  match v.law with
  | .uniform min max => do
    let (value, s) ← s.uniform min max
    return (value, v, s)
  | .exponential mean =>
    let (value, s) := s.exponential mean
    .ok (value, v, s)
  | .sequence values =>
    match values[v.cursor % values.size]? with
    | some value => .ok (value, { v with cursor := (v.cursor + 1) % cursorLimit }, s)
    | none => .ok (0, v, s)
  | .delta value => .ok (value, v, s)

/-- Turns a sequence back to its first value. -/
def rewind (v : Variate) : Variate := { v with cursor := 0 }

/-- The whole ticks of a drawn delay: the nearest number, a half going up, held at the last tick of
the clock; a delay that is not a positive number takes no time. -/
def ticks (delay : Float) : Nat := min ((Binary.ofFloat delay).round?.getD 0) Clock.last

end Variate

end CarrierSense
