import CarrierSense.Halt
import CarrierSense.Random.Stream
import CarrierSense.Random.Ziggurat

/-!
# Random draws

Numbers drawn from a random stream: integers and doubles from a range, and exponentially distributed
doubles. Draws by rejection are repeated until one is accepted; each repetition is refused with a
chance of at most one half, and after `attempts` refusals a draw settles for the lower end of its
range.
-/

namespace CarrierSense.Stream

/-- How often a draw is repeated at most. -/
def attempts : Nat := 4611686018427387904

/-- The number of leading zeros of a positive `n` in a word of `width` bits. -/
def leadingZeros (width n : Nat) : Nat := width - (n.log2 + 1)

/-- An integer from the `count` integers that start with `low`, by draws of words of `width` bits:
the high half of the product of a word and `count`, refused if the low half lies beyond the largest
shifted multiple of `count`. -/
def pick (width low count : Nat) (draw : Stream → Nat × Stream) :
    Nat → Stream → Nat × Stream
  | 0, s => (low, s)
  | fuel + 1, s =>
    let (word, s) := draw s
    let product := word * count
    if product % (1 <<< width) < count <<< leadingZeros width count then (low + product >>> width, s)
    else pick width low count draw fuel s

/-- An integer from `low` to `high`, by words of 32 bits. -/
def between32 (s : Stream) (low high : Nat) : Nat × Stream :=
  pick 32 low (high - low + 1) (fun s => let (word, s) := s.word; (word.toNat, s)) attempts s

/-- An integer from `low` to `high`, by words of 64 bits. -/
def between64 (s : Stream) (low high : Nat) : Nat × Stream :=
  pick 64 low (high - low + 1) (fun s => let (word, s) := s.doubleWord; (word.toNat, s)) attempts s

/-- The double `1 + f` whose fraction `f` is the high 52 bits of the next 64-bit word. -/
def oneToTwo (s : Stream) : Float × UInt64 × Stream :=
  let (word, s) := s.doubleWord
  (Float.ofBits ((word >>> 12) ||| 0x3FF0000000000000), word, s)

/-- The double `2 ^ -53`. -/
def unitStep : Float := Float.ofBits 0x3CA0000000000000

/-- A multiple of `2 ^ -53` from zero up to but not including one. -/
def unit (s : Stream) : Float × Stream :=
  let (word, s) := s.doubleWord
  ((word >>> 11).toFloat * unitStep, s)

/-- Repeats a uniform draw until rounding does not carry it up to `max`. -/
def uniformFrom (min max scale : Float) : Nat → Stream → Float × Stream
  | 0, s => (min, s)
  | fuel + 1, s =>
    let (x, _, s) := s.oneToTwo
    let value := (x - 1) * scale + min
    if value < max then (value, s) else uniformFrom min max scale fuel s

/-- A double from `min` up to but not including `max`. A range without an inside yields `min` and
draws nothing; a range that is not finite is impossible. -/
def uniform (s : Stream) (min max : Float) : Except Halt (Float × Stream) :=
  if max ≤ min then .ok (min, s)
  else if min.isFinite && max.isFinite && (max - min).isFinite then
    .ok (uniformFrom min max (max - min) attempts s)
  else .error .badRange

/-- Repeats a draw from the exponential distribution with mean one until it falls under the curve. A
layer is chosen, then a point in it: a point below the next layer lies under the curve, the tail is
drawn by inversion, and the rest is compared with the curve. -/
def exponentialFrom : Nat → Stream → Float × Stream
  | 0, s => (0, s)
  | fuel + 1, s =>
    let (x, word, s) := s.oneToTwo
    let layer := (word % 256).toNat
    let edge := Ziggurat.edges.get! layer
    let value := (x - (1 - unitStep)) * edge
    if value < Ziggurat.edges.get! (layer + 1) then (value, s)
    else
      let (f, s) := s.unit
      -- the lowest layer holds the tail
      if layer = 0 then (Ziggurat.tailStart - f.log, s)
      else
        let low := Ziggurat.heights.get! (layer + 1)
        let high := Ziggurat.heights.get! layer
        if low + (high - low) * f < (-value).exp then (value, s) else exponentialFrom fuel s

/-- A double from the exponential distribution with the given mean. A mean without a rate of at least
zero is returned as it is, and nothing is drawn. -/
def exponential (s : Stream) (mean : Float) : Float × Stream :=
  let rate := 1 / mean
  if 0 ≤ rate then
    let (value, s) := exponentialFrom attempts s
    (value * (1 / rate), s)
  else (mean, s)

end CarrierSense.Stream
