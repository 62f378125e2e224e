import Mathlib

/-!
# SHA-256

The hash of FIPS 180-4 on byte strings. A message is padded to whole blocks of 64
bytes, and a compression function folds each block into eight words of state.
-/

namespace Sha256

/-- The first 32 bits of the fractional parts of the cube roots of the first 64 primes. -/
def roundConstants : List UInt32 :=
  [0x428a2f98, 0x71374491, 0xb5c0fbcf, 0xe9b5dba5, 0x3956c25b, 0x59f111f1, 0x923f82a4, 0xab1c5ed5,
    0xd807aa98, 0x12835b01, 0x243185be, 0x550c7dc3, 0x72be5d74, 0x80deb1fe, 0x9bdc06a7, 0xc19bf174,
    0xe49b69c1, 0xefbe4786, 0x0fc19dc6, 0x240ca1cc, 0x2de92c6f, 0x4a7484aa, 0x5cb0a9dc, 0x76f988da,
    0x983e5152, 0xa831c66d, 0xb00327c8, 0xbf597fc7, 0xc6e00bf3, 0xd5a79147, 0x06ca6351, 0x14292967,
    0x27b70a85, 0x2e1b2138, 0x4d2c6dfc, 0x53380d13, 0x650a7354, 0x766a0abb, 0x81c2c92e, 0x92722c85,
    0xa2bfe8a1, 0xa81a664b, 0xc24b8b70, 0xc76c51a3, 0xd192e819, 0xd6990624, 0xf40e3585, 0x106aa070,
    0x19a4c116, 0x1e376c08, 0x2748774c, 0x34b0bcb5, 0x391c0cb3, 0x4ed8aa4a, 0x5b9cca4f, 0x682e6ff3,
    0x748f82ee, 0x78a5636f, 0x84c87814, 0x8cc70208, 0x90befffa, 0xa4506ceb, 0xbef9a3f7, 0xc67178f2]

/-- The eight working variables `a` to `h`. -/
structure State where
  a : UInt32
  b : UInt32
  c : UInt32
  d : UInt32
  e : UInt32
  f : UInt32
  g : UInt32
  h : UInt32

def State.initial : State where
  a := 0x6a09e667
  b := 0xbb67ae85
  c := 0x3c6ef372
  d := 0xa54ff53a
  e := 0x510e527f
  f := 0x9b05688c
  g := 0x1f83d9ab
  h := 0x5be0cd19

def rotateRight (word count : UInt32) : UInt32 := word >>> count ||| word <<< (32 - count)

def State.add (left right : State) : State where
  a := left.a + right.a
  b := left.b + right.b
  c := left.c + right.c
  d := left.d + right.d
  e := left.e + right.e
  f := left.f + right.f
  g := left.g + right.g
  h := left.h + right.h

/-- One round, with its constant and its word of the message schedule. -/
def State.round (state : State) (constant word : UInt32) : State :=
  let sum1 := rotateRight state.e 6 ^^^ rotateRight state.e 11 ^^^ rotateRight state.e 25
  let choice := (state.e &&& state.f) ^^^ (~~~state.e &&& state.g)
  let first := state.h + sum1 + choice + constant + word
  let sum0 := rotateRight state.a 2 ^^^ rotateRight state.a 13 ^^^ rotateRight state.a 22
  let majority := (state.a &&& state.b) ^^^ (state.a &&& state.c) ^^^ (state.b &&& state.c)
  { a := first + (sum0 + majority), b := state.a, c := state.b, d := state.c
    e := state.d + first, f := state.e, g := state.f, h := state.g }

/-- The rounds of one block. The window holds the next sixteen words of the message schedule,
and every round appends one more to it. -/
def rounds : List UInt32 → List UInt32 → State → State
  | [], _, state => state
  | constant :: constants, window, state =>
    let word := window.getD 0 0
    let early := window.getD 1 0
    let late := window.getD 14 0
    let sigma0 := rotateRight early 7 ^^^ rotateRight early 18 ^^^ early >>> 3
    let sigma1 := rotateRight late 17 ^^^ rotateRight late 19 ^^^ late >>> 10
    rounds constants (window.tail ++ [word + sigma0 + window.getD 9 0 + sigma1])
      (state.round constant word)

/-- Sixteen big-endian words. -/
def words (block : List UInt8) : List UInt32 :=
  (block.toChunks 4).map fun bytes =>
    bytes.foldl (fun word byte => word <<< 8 ||| byte.toUInt32) 0

def compress (state : State) (block : List UInt8) : State :=
  state.add (rounds roundConstants (words block) state)

/-- The big-endian bytes of a word. -/
def wordBytes (word : UInt32) : Vector UInt8 4 :=
  #v[(word >>> 24).toUInt8, (word >>> 16).toUInt8, (word >>> 8).toUInt8, word.toUInt8]

/-- A one bit, zeros, and the length in bits fill up the last block. -/
def pad (message : List UInt8) : { padded : List UInt8 // padded.length % 64 = 0 } :=
  let bits := UInt64.ofNat (8 * message.length)
  let zeros := List.replicate ((119 - message.length % 64) % 64) (0 : UInt8)
  let length := wordBytes (bits >>> 32).toUInt32 ++ wordBytes bits.toUInt32
  { val := message ++ 0x80 :: zeros ++ length.toList
    property := by
      simp only [zeros, List.length_append, List.length_cons, List.length_replicate,
        Vector.length_toList]
      omega }

def State.bytes (state : State) : Vector UInt8 32 :=
  wordBytes state.a ++ wordBytes state.b ++ wordBytes state.c ++ wordBytes state.d ++
    wordBytes state.e ++ wordBytes state.f ++ wordBytes state.g ++ wordBytes state.h

def digest (message : List UInt8) : Vector UInt8 32 :=
  (((pad message).val.toChunks 64).foldl compress State.initial).bytes

end Sha256
