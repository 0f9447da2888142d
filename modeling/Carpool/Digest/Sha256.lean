import Carpool.Octets

/-!
# The hash function SHA-256

A message is padded to whole blocks of sixty-four octets.  Each block is
expanded to sixty-four words, which are mixed into a state of eight words one
round after the other.
-/

namespace Carpool

namespace Sha256

/-- The eight words of the running hash. -/
structure State where
  a : UInt32
  b : UInt32
  c : UInt32
  d : UInt32
  e : UInt32
  f : UInt32
  g : UInt32
  h : UInt32
  deriving DecidableEq

def initial : State :=
  ⟨0x6a09e667, 0xbb67ae85, 0x3c6ef372, 0xa54ff53a,
    0x510e527f, 0x9b05688c, 0x1f83d9ab, 0x5be0cd19⟩

def roundConstants : List UInt32 :=
  [
   0x428a2f98, 0x71374491, 0xb5c0fbcf, 0xe9b5dba5,
   0x3956c25b, 0x59f111f1, 0x923f82a4, 0xab1c5ed5,
   0xd807aa98, 0x12835b01, 0x243185be, 0x550c7dc3,
   0x72be5d74, 0x80deb1fe, 0x9bdc06a7, 0xc19bf174,
   0xe49b69c1, 0xefbe4786, 0x0fc19dc6, 0x240ca1cc,
   0x2de92c6f, 0x4a7484aa, 0x5cb0a9dc, 0x76f988da,
   0x983e5152, 0xa831c66d, 0xb00327c8, 0xbf597fc7,
   0xc6e00bf3, 0xd5a79147, 0x06ca6351, 0x14292967,
   0x27b70a85, 0x2e1b2138, 0x4d2c6dfc, 0x53380d13,
   0x650a7354, 0x766a0abb, 0x81c2c92e, 0x92722c85,
   0xa2bfe8a1, 0xa81a664b, 0xc24b8b70, 0xc76c51a3,
   0xd192e819, 0xd6990624, 0xf40e3585, 0x106aa070,
   0x19a4c116, 0x1e376c08, 0x2748774c, 0x34b0bcb5,
   0x391c0cb3, 0x4ed8aa4a, 0x5b9cca4f, 0x682e6ff3,
   0x748f82ee, 0x78a5636f, 0x84c87814, 0x8cc70208,
   0x90befffa, 0xa4506ceb, 0xbef9a3f7, 0xc67178f2
  ]

def rotate (word : UInt32) (places : UInt32) : UInt32 :=
  (word >>> places) ||| (word <<< (32 - places))

/-- A number as octets, most significant first. -/
def bigEndian : (width : Nat) → Nat → Octets
  | 0, _ => []
  | width + 1, value => bigEndian width (value / 256) ++ [UInt8.ofNat value]

/-- A message with its padding: a one bit, zeros, and the length in bits. -/
def pad (message : Octets) : Octets :=
  let zeros := (119 - message.length % 64) % 64
  message ++ 0x80 :: (List.replicate zeros 0
    ++ bigEndian 8 (message.length * 8))

/-- The words that octets make up, four octets a word. -/
def words : Octets → List UInt32
  | first :: second :: third :: fourth :: rest =>
      UInt32.ofNat (first.toNat * 2 ^ 24 + second.toNat * 2 ^ 16
        + third.toNat * 2 ^ 8 + fourth.toNat) :: words rest
  | _ => []

/-- The next word of the expansion, from the words before it, last first. -/
def expandWord (before : List UInt32) : UInt32 :=
  let near := before.getD 1 0
  let far := before.getD 14 0
  let low := rotate far 7 ^^^ rotate far 18 ^^^ (far >>> 3)
  let high := rotate near 17 ^^^ rotate near 19 ^^^ (near >>> 10)
  before.getD 15 0 + low + before.getD 6 0 + high

/-- Put more words before the last ones. -/
def expandBy : (count : Nat) → List UInt32 → List UInt32
  | 0, before => before
  | count + 1, before => expandBy count (expandWord before :: before)

/-- The sixty-four words of a block of sixteen. -/
def schedule (block : List UInt32) : List UInt32 :=
  (expandBy 48 block.reverse).reverse

/-- One round, with its constant and word added up. -/
def round (state : State) (input : UInt32) : State :=
  let choice :=
    (state.e &&& state.f) ^^^ ((state.e ^^^ 0xffffffff) &&& state.g)
  let majority :=
    (state.a &&& state.b) ^^^ (state.a &&& state.c) ^^^ (state.b &&& state.c)
  let mixE := rotate state.e 6 ^^^ rotate state.e 11 ^^^ rotate state.e 25
  let mixA := rotate state.a 2 ^^^ rotate state.a 13 ^^^ rotate state.a 22
  let first := state.h + mixE + choice + input
  ⟨first + mixA + majority, state.a, state.b, state.c,
    state.d + first, state.e, state.f, state.g⟩

def State.add (left right : State) : State :=
  ⟨left.a + right.a, left.b + right.b, left.c + right.c, left.d + right.d,
    left.e + right.e, left.f + right.f, left.g + right.g, left.h + right.h⟩

/-- Mix a block of sixteen words into a state. -/
def mixBlock (state : State) (block : List UInt32) : State :=
  let inputs :=
    List.zipWith (fun constant word => constant + word) roundConstants
      (schedule block)
  state.add (inputs.foldl round state)

/-- Mix so many blocks of sixteen words into a state. -/
def mixBlocks : (count : Nat) → List UInt32 → State → State
  | 0, _, state => state
  | count + 1, words, state =>
      mixBlocks count (words.drop 16) (mixBlock state (words.take 16))

def State.octets (state : State) : Octets :=
  [state.a, state.b, state.c, state.d,
    state.e, state.f, state.g, state.h].flatMap fun word =>
      bigEndian 4 word.toNat

def hash (message : Octets) : Octets :=
  let words := words (pad message)
  (mixBlocks (words.length / 16) words initial).octets

end Sha256

end Carpool
