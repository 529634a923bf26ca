/-!
# The digest of a connection string

`sha256` is the secure hash with 256 bits, over words of 32 bits; `connectionHash` writes that of a
text in hexadecimal.
-/

namespace Orm

namespace Sha256

/-- The constants of the 64 rounds. -/
def roundConstants : List UInt32 :=
  [0x428a2f98, 0x71374491, 0xb5c0fbcf, 0xe9b5dba5, 0x3956c25b, 0x59f111f1, 0x923f82a4, 0xab1c5ed5,
    0xd807aa98, 0x12835b01, 0x243185be, 0x550c7dc3, 0x72be5d74, 0x80deb1fe, 0x9bdc06a7, 0xc19bf174,
    0xe49b69c1, 0xefbe4786, 0x0fc19dc6, 0x240ca1cc, 0x2de92c6f, 0x4a7484aa, 0x5cb0a9dc, 0x76f988da,
    0x983e5152, 0xa831c66d, 0xb00327c8, 0xbf597fc7, 0xc6e00bf3, 0xd5a79147, 0x06ca6351, 0x14292967,
    0x27b70a85, 0x2e1b2138, 0x4d2c6dfc, 0x53380d13, 0x650a7354, 0x766a0abb, 0x81c2c92e, 0x92722c85,
    0xa2bfe8a1, 0xa81a664b, 0xc24b8b70, 0xc76c51a3, 0xd192e819, 0xd6990624, 0xf40e3585, 0x106aa070,
    0x19a4c116, 0x1e376c08, 0x2748774c, 0x34b0bcb5, 0x391c0cb3, 0x4ed8aa4a, 0x5b9cca4f, 0x682e6ff3,
    0x748f82ee, 0x78a5636f, 0x84c87814, 0x8cc70208, 0x90befffa, 0xa4506ceb, 0xbef9a3f7, 0xc67178f2]

/-- The eight words of a state. -/
structure State where
  a : UInt32
  b : UInt32
  c : UInt32
  d : UInt32
  e : UInt32
  f : UInt32
  g : UInt32
  h : UInt32

/-- The state before the first block. -/
def State.start : State :=
  ⟨0x6a09e667, 0xbb67ae85, 0x3c6ef372, 0xa54ff53a, 0x510e527f, 0x9b05688c, 0x1f83d9ab, 0x5be0cd19⟩

/-- A word rotated to the right. -/
def rotate (word : UInt32) (count : UInt32) : UInt32 :=
  word >>> count ||| word <<< (32 - count)

/-- One round with a constant and a word of the schedule. -/
def State.round (s : State) (constant word : UInt32) : State :=
  let sum1 := rotate s.e 6 ^^^ rotate s.e 11 ^^^ rotate s.e 25
  let choice := (s.e &&& s.f) ^^^ (~~~s.e &&& s.g)
  let first := s.h + sum1 + choice + constant + word
  let sum0 := rotate s.a 2 ^^^ rotate s.a 13 ^^^ rotate s.a 22
  let majority := (s.a &&& s.b) ^^^ (s.a &&& s.c) ^^^ (s.b &&& s.c)
  ⟨first + (sum0 + majority), s.a, s.b, s.c, s.d + first, s.e, s.f, s.g⟩

/-- The wordwise sum of two states. -/
def State.add (s t : State) : State :=
  ⟨s.a + t.a, s.b + t.b, s.c + t.c, s.d + t.d, s.e + t.e, s.f + t.f, s.g + t.g, s.h + t.h⟩

/-- The next word of a schedule, whose words so far are given last first. -/
def nextWord (words : List UInt32) : UInt32 :=
  let back (count : Nat) : UInt32 := words.getD (count - 1) 0
  let w15 := back 15
  let w2 := back 2
  let small0 := rotate w15 7 ^^^ rotate w15 18 ^^^ w15 >>> 3
  let small1 := rotate w2 17 ^^^ rotate w2 19 ^^^ w2 >>> 10
  back 16 + small0 + back 7 + small1

/-- A schedule, last word first, with some more words. -/
def extend : Nat → List UInt32 → List UInt32
  | 0, words => words
  | count + 1, words => extend count (nextWord words :: words)

/-- The state after a block of sixteen words. -/
def State.block (state : State) (words : List UInt32) : State :=
  let schedule := (extend 48 words.reverse).reverse
  ((roundConstants.zip schedule).foldl (fun s pair => s.round pair.1 pair.2) state).add state

/-- The words of some bytes, four to a word. -/
def wordsOf : List UInt8 → List UInt32
  | a :: b :: c :: d :: rest =>
      (a.toUInt32 <<< 24 ||| b.toUInt32 <<< 16 ||| c.toUInt32 <<< 8 ||| d.toUInt32) :: wordsOf rest
  | _ => []

/-- The bytes of a message with its end mark and its length in bits, filled up to whole blocks. -/
def padded (message : List UInt8) : List UInt8 :=
  let length := message.length
  -- The mark takes one byte and the length eight.
  let zeros := (119 - length % 64) % 64
  message ++ 0x80 :: List.replicate zeros 0 ++
    (List.range 8).map fun index => .ofNat (length * 8 / Nat.pow 256 (7 - index))

/-- The state after some blocks. -/
def blocks : Nat → State → List UInt32 → State
  | 0, state, _ => state
  | count + 1, state, words => blocks count (state.block (words.take 16)) (words.drop 16)

end Sha256

/-- The secure hash of a message as eight words. -/
def sha256 (message : List UInt8) : List UInt32 :=
  let words := Sha256.wordsOf (Sha256.padded message)
  let s := Sha256.blocks (words.length / 16) .start words
  [s.a, s.b, s.c, s.d, s.e, s.f, s.g, s.h]

/-- The eight lower-case hexadecimal digits of a word. -/
def hexWord (word : UInt32) : List Char :=
  let digits := Nat.toDigits 16 word.toNat
  List.replicate (8 - digits.length) '0' ++ digits

/-- The secure hash of a text in hexadecimal. -/
def connectionHash (text : String) : String :=
  String.ofList ((sha256 text.toUTF8.toList).flatMap hexWord)

end Orm
