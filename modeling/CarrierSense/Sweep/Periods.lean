import CarrierSense.Halt
import CarrierSense.Scalar

/-!
# Traffic periods of a sweep

A sweep visits evenly spaced periods, from the least to the greatest. The greatest is still visited
if rounding has carried the sum a little beyond it.
-/

namespace CarrierSense

/-- Evenly spaced periods. -/
structure Periods (κ : Type) where
  min : κ
  max : κ
  step : κ
  deriving Inhabited

/-- What is wrong with a range of periods. -/
inductive PeriodsFault (κ : Type) where
  | min (min : κ)
  | step (step : κ)
  | inverted (max min : κ)

namespace Periods

variable {κ : Type} [Scalar κ]

/-- The first fault of a range of periods, if it has one. -/
def check (p : Periods κ) : Except (PeriodsFault κ) Unit :=
  if !(Scalar.isFinite p.min && Scalar.le (Scalar.ofNat 0) p.min) then .error (.min p.min)
  else if !(Scalar.isFinite p.step && Scalar.lt (Scalar.ofNat 0) p.step) then .error (.step p.step)
  else if !Scalar.isFinite p.max || Scalar.lt p.max p.min then .error (.inverted p.max p.min)
  else .ok ()

/-- The period with a number. -/
def nth (p : Periods κ) (index : Nat) : κ := p.min + p.step * Scalar.ofNat index

/-- The greatest period that is still visited. -/
def limit (p : Periods κ) : κ :=
  let size := Scalar.abs p.max
  let one : κ := Scalar.ofNat 1
  p.max + Scalar.epsilon * if Scalar.lt size one then one else size

/-- How many periods can be numbered. -/
def countLimit : Nat := 4294967296

/-- The periods from a number on, behind those before it, which come last one first. -/
def visitFrom (p : Periods κ) (found : List κ) : Nat → Except Halt (List κ)
  | 0 => .error .overflow
  | left + 1 =>
    let period := p.nth (countLimit - (left + 1))
    if Scalar.lt p.limit period then .ok found.reverse else visitFrom p (period :: found) left

/-- Whether no period that can be numbered is greater than the limit. Periods are in order, so that the
first and the last tell of all. -/
def isUnending (p : Periods κ) : Bool :=
  !Scalar.lt p.limit (p.nth 0) && !Scalar.lt p.limit (p.nth (countLimit - 1))

/-- The periods that a sweep visits. A sweep of more periods than can be numbered halts, before any of
them is laid out. -/
def visited (p : Periods κ) : Except Halt (List κ) :=
  if p.isUnending then .error .overflow else p.visitFrom [] countLimit

end Periods

end CarrierSense
