/-
The hash function SHA-256.

Words are natural numbers below `2 ^ 32`.  All texts of bytes are hashed by this function; a module
is given the hash of a value as a parameter only where the text of the value is not modelled.
-/
import Zugfolge.Foundation.Text

namespace Zugfolge.Foundation

namespace Sha256

/-- How many words there are. -/
def wordSize : ℕ := 2 ^ 32

/-- The first 32 bits of the fractional parts of the cube roots of the first 64 primes. -/
def roundConstants : List ℕ :=
  [0x428a2f98, 0x71374491, 0xb5c0fbcf, 0xe9b5dba5, 0x3956c25b, 0x59f111f1, 0x923f82a4, 0xab1c5ed5,
   0xd807aa98, 0x12835b01, 0x243185be, 0x550c7dc3, 0x72be5d74, 0x80deb1fe, 0x9bdc06a7, 0xc19bf174,
   0xe49b69c1, 0xefbe4786, 0x0fc19dc6, 0x240ca1cc, 0x2de92c6f, 0x4a7484aa, 0x5cb0a9dc, 0x76f988da,
   0x983e5152, 0xa831c66d, 0xb00327c8, 0xbf597fc7, 0xc6e00bf3, 0xd5a79147, 0x06ca6351, 0x14292967,
   0x27b70a85, 0x2e1b2138, 0x4d2c6dfc, 0x53380d13, 0x650a7354, 0x766a0abb, 0x81c2c92e, 0x92722c85,
   0xa2bfe8a1, 0xa81a664b, 0xc24b8b70, 0xc76c51a3, 0xd192e819, 0xd6990624, 0xf40e3585, 0x106aa070,
   0x19a4c116, 0x1e376c08, 0x2748774c, 0x34b0bcb5, 0x391c0cb3, 0x4ed8aa4a, 0x5b9cca4f, 0x682e6ff3,
   0x748f82ee, 0x78a5636f, 0x84c87814, 0x8cc70208, 0x90befffa, 0xa4506ceb, 0xbef9a3f7, 0xc67178f2]

/-- The eight working words. -/
structure State where
  a : ℕ
  b : ℕ
  c : ℕ
  d : ℕ
  e : ℕ
  f : ℕ
  g : ℕ
  h : ℕ

/-- The first 32 bits of the fractional parts of the square roots of the first 8 primes. -/
def initial : State :=
  ⟨0x6a09e667, 0xbb67ae85, 0x3c6ef372, 0xa54ff53a, 0x510e527f, 0x9b05688c, 0x1f83d9ab, 0x5be0cd19⟩

/-- A word rotated to the right. -/
def rotate (count word : ℕ) : ℕ := (word >>> count) ||| ((word <<< (32 - count)) % wordSize)

/-- The message with a one bit, zeros up to a full block, and its length in bits. -/
def pad (message : List UInt8) : List UInt8 :=
  message ++ 0x80 :: List.replicate ((119 - message.length % 64) % 64) 0
    ++ beBytes 8 (8 * message.length)

/-- The words of a text of bytes. -/
def words : List UInt8 → List ℕ
  | a :: b :: c :: d :: rest =>
    (((a.toNat * 256 + b.toNat) * 256 + c.toNat) * 256 + d.toNat) :: words rest
  | _ => []

/-- The blocks of sixteen words of a text. -/
def blocks : ℕ → List ℕ → List (List ℕ)
  | 0, _ => []
  | count + 1, text => text.take 16 :: blocks count (text.drop 16)

/-- The next word of the schedule, whose words come newest first. -/
def nextWord (newest : List ℕ) : ℕ :=
  let x := newest.getD 14 0
  let y := newest.getD 1 0
  ((rotate 17 y ^^^ rotate 19 y ^^^ (y >>> 10)) + newest.getD 6 0
    + (rotate 7 x ^^^ rotate 18 x ^^^ (x >>> 3)) + newest.getD 15 0) % wordSize

/-- More words of the schedule, newest first. -/
def extend : ℕ → List ℕ → List ℕ
  | 0, newest => newest
  | count + 1, newest => extend count (nextWord newest :: newest)

/-- The 64 words for a block. -/
def schedule (block : List ℕ) : List ℕ := (extend 48 block.reverse).reverse

/-- One round with its constant and its word. -/
def round (s : State) (constant word : ℕ) : State :=
  let t := s.h + (rotate 6 s.e ^^^ rotate 11 s.e ^^^ rotate 25 s.e)
    + ((s.e &&& s.f) ^^^ ((wordSize - 1 - s.e) &&& s.g)) + constant + word
  let u := (rotate 2 s.a ^^^ rotate 13 s.a ^^^ rotate 22 s.a)
    + ((s.a &&& s.b) ^^^ (s.a &&& s.c) ^^^ (s.b &&& s.c))
  { a := (t + u) % wordSize, b := s.a, c := s.b, d := s.c,
    e := (s.d + t) % wordSize, f := s.e, g := s.f, h := s.g }

/-- The working words after a block. -/
def compress (s : State) (block : List ℕ) : State :=
  let r := (roundConstants.zip (schedule block)).foldl (fun r entry => round r entry.1 entry.2) s
  { a := (s.a + r.a) % wordSize, b := (s.b + r.b) % wordSize, c := (s.c + r.c) % wordSize,
    d := (s.d + r.d) % wordSize, e := (s.e + r.e) % wordSize, f := (s.f + r.f) % wordSize,
    g := (s.g + r.g) % wordSize, h := (s.h + r.h) % wordSize }

/-- The working words in their order. -/
def State.toList (s : State) : List ℕ := [s.a, s.b, s.c, s.d, s.e, s.f, s.g, s.h]

end Sha256

open Sha256 in
/-- The hash of a text of bytes. -/
def sha256 (message : List UInt8) : List UInt8 :=
  let padded := pad message
  let text := blocks (padded.length / 64) (words padded)
  (text.foldl compress initial).toList.flatMap (beBytes 4)

lemma length_sha256 (message : List UInt8) : (sha256 message).length = 32 := by
  simp [sha256, Sha256.State.toList, length_beBytes]

example : (sha256 (utf8 "abc")).take 8 = [0xba, 0x78, 0x16, 0xbf, 0x8f, 0x01, 0xcf, 0xea] := by
  decide +kernel

end Zugfolge.Foundation
