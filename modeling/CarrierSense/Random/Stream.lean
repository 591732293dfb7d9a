/-!
# The random stream

Random words come from the ChaCha stream cipher with twelve rounds. A seed is spread over the eight
key words; the blocks of the cipher, in the order of their 64-bit counter and with an all-zero nonce,
make one endless sequence of 32-bit words.
-/

namespace CarrierSense

namespace Random

/-- The sixteen words the cipher works on. -/
abbrev Block := Vector UInt32 16

/-- `x` rotated left by `n` bits, for `0 < n < 32`. -/
def rotateLeft (x n : UInt32) : UInt32 := (x <<< n) ||| (x >>> (32 - n))

/-- Mixes four words of a block. -/
def quarterRound (s : Block) (a b c d : Fin 16) : Block :=
  let s := s.set a (s[a] + s[b])
  let s := s.set d (rotateLeft (s[d] ^^^ s[a]) 16)
  let s := s.set c (s[c] + s[d])
  let s := s.set b (rotateLeft (s[b] ^^^ s[c]) 12)
  let s := s.set a (s[a] + s[b])
  let s := s.set d (rotateLeft (s[d] ^^^ s[a]) 8)
  let s := s.set c (s[c] + s[d])
  s.set b (rotateLeft (s[b] ^^^ s[c]) 7)

/-- One round over the columns of the block and one over its diagonals. -/
def doubleRound (s : Block) : Block :=
  let s := quarterRound s 0 4 8 12
  let s := quarterRound s 1 5 9 13
  let s := quarterRound s 2 6 10 14
  let s := quarterRound s 3 7 11 15
  let s := quarterRound s 0 5 10 15
  let s := quarterRound s 1 6 11 12
  let s := quarterRound s 2 7 8 13
  quarterRound s 3 4 9 14

/-- The block of a key and a counter before it is mixed. -/
def initialBlock (key : Vector UInt32 8) (counter : UInt64) : Block :=
  #v[0x61707865, 0x3320646e, 0x79622d32, 0x6b206574,
    key[0], key[1], key[2], key[3], key[4], key[5], key[6], key[7],
    counter.toUInt32, (counter >>> 32).toUInt32, 0, 0]

/-- The words that a key yields for a counter. -/
def block (key : Vector UInt32 8) (counter : UInt64) : Block :=
  let start := initialBlock key counter
  let mixed := doubleRound (doubleRound (doubleRound (doubleRound (doubleRound (doubleRound start)))))
  Vector.zipWith (· + ·) mixed start

/-- The step of the linear congruential generator that spreads a seed. -/
def seedStep (state : UInt64) : UInt64 :=
  state * 6364136223846793005 + 11634580027462260723

/-- The key word taken from a state of the spreading generator. -/
def seedWord (state : UInt64) : UInt32 :=
  let x := (((state >>> 18) ^^^ state) >>> 27).toUInt32
  let turn := (state >>> 59).toUInt32
  (x >>> turn) ||| (x <<< ((32 - turn) % 32))

/-- The key that a seed is spread over. -/
def seedKey (seed : UInt64) : Vector UInt32 8 :=
  let s₀ := seedStep seed
  let s₁ := seedStep s₀
  let s₂ := seedStep s₁
  let s₃ := seedStep s₂
  let s₄ := seedStep s₃
  let s₅ := seedStep s₄
  let s₆ := seedStep s₅
  let s₇ := seedStep s₆
  #v[seedWord s₀, seedWord s₁, seedWord s₂, seedWord s₃, seedWord s₄, seedWord s₅, seedWord s₆,
    seedWord s₇]

end Random

open CarrierSense.Random in
/-- A place in the sequence of random words of one key. -/
structure Stream where
  key : Vector UInt32 8
  counter : UInt64
  words : Block
  /-- How many words of the current block have been taken. -/
  used : Nat
  deriving DecidableEq, Repr

namespace Stream

/-- The start of the sequence of a seed. -/
def ofSeed (seed : UInt64) : Stream :=
  let key := Random.seedKey seed
  { key, counter := 0, words := Random.block key 0, used := 0 }

/-- The next 32-bit word. -/
def word (s : Stream) : UInt32 × Stream :=
  if h : s.used < 16 then (s.words[s.used], { s with used := s.used + 1 })
  else
    let counter := s.counter + 1
    let words := Random.block s.key counter
    (words[0], { s with counter, words, used := 1 })

/-- The next 64-bit word: two words, the low one first. -/
def doubleWord (s : Stream) : UInt64 × Stream :=
  let (low, s) := s.word
  let (high, s) := s.word
  ((high.toUInt64 <<< 32) ||| low.toUInt64, s)

end Stream

end CarrierSense
