import CarrierSense.Scalar

/-!
# Points of the plane

Nodes stand in a plane. The grid routing takes `y` for the row and `x` for the column.
-/

namespace CarrierSense

/-- A point of the plane. -/
structure Point (κ : Type) where
  x : κ
  y : κ
  deriving BEq, Inhabited

namespace Point

variable {κ : Type} [Scalar κ]

@[specialize] def distanceSquared (a b : Point κ) : κ :=
  let dx := a.x - b.x
  let dy := a.y - b.y
  dx * dx + dy * dy

/-- Whether `b` lies strictly inside the circle around `a`. -/
@[specialize] def inRange (a b : Point κ) (radius : κ) : Bool :=
  Scalar.lt (distanceSquared a b) (radius * radius)

/-- Whether two points lie on the same row of the grid. -/
@[specialize] def sameRow (a b : Point κ) : Bool :=
  Scalar.lt (Scalar.abs (a.y - b.y)) Scalar.epsilon

/-- Whether two points lie on the same column of the grid. -/
@[specialize] def sameColumn (a b : Point κ) : Bool :=
  Scalar.lt (Scalar.abs (a.x - b.x)) Scalar.epsilon

end Point

end CarrierSense
