/-
Texts, their characters and their bytes.

The texts of a program are checked character by character: control characters, white space,
decimal and hexadecimal digits.  Numbers and texts are told apart by their bytes.
-/
import Mathlib.Algebra.Ring.Nat
import Mathlib.Tactic.Common

namespace Zugfolge.Foundation

/-- The last `width` bytes of a number, the most significant one first. -/
def beBytes : ℕ → ℕ → List UInt8
  | 0, _ => []
  | width + 1, n => beBytes width (n / 256) ++ [UInt8.ofNat n]

@[simp] lemma length_beBytes (width n : ℕ) : (beBytes width n).length = width := by
  induction width generalizing n with
  | zero => rfl
  | succ width ih => rw [beBytes, List.length_append, ih, List.length_singleton]

/-- The bytes tell a number that fits into them. -/
lemma beBytes_inj {width n m : ℕ} (hn : n < 256 ^ width) (hm : m < 256 ^ width)
    (h : beBytes width n = beBytes width m) : n = m := by
  induction width generalizing n m with
  | zero => omega
  | succ width ih =>
    rw [Nat.pow_succ] at hn hm
    obtain ⟨hhigh, hlow⟩ := List.append_inj h (by simp)
    have hdiv : n / 256 = m / 256 := ih (by omega) (by omega) hhigh
    have hmod : n % 256 = m % 256 := by
      have hbyte := congrArg UInt8.toNat (List.singleton_inj.mp hlow)
      simpa using hbyte
    calc n = 256 * (n / 256) + n % 256 := (Nat.div_add_mod n 256).symm
      _ = 256 * (m / 256) + m % 256 := by rw [hdiv, hmod]
      _ = m := Nat.div_add_mod m 256

/-- The bytes of a text. -/
def utf8 (text : String) : List UInt8 := text.toUTF8.data.toList

lemma utf8_inj {text text' : String} (h : utf8 text = utf8 text') : text = text' := by
  refine String.toByteArray_inj.mp (ByteArray.ext (Array.ext' h))

end Zugfolge.Foundation

namespace Zugfolge.Foundation.Text

/-- Control characters of the general category `Cc`. -/
def isControl (c : Char) : Bool := c.toNat < 0x20 || (0x7f ≤ c.toNat && c.toNat ≤ 0x9f)

/-- Characters with the Unicode property `White_Space`. -/
def isWhite (c : Char) : Bool :=
  let n := c.toNat
  (9 ≤ n && n ≤ 13) || n == 0x20 || n == 0x85 || n == 0xa0 || n == 0x1680
    || (0x2000 ≤ n && n ≤ 0x200a) || n == 0x2028 || n == 0x2029 || n == 0x202f || n == 0x205f
    || n == 0x3000

/-- Decimal digits of the ASCII block. -/
def isDigit (c : Char) : Bool := '0'.toNat ≤ c.toNat && c.toNat ≤ '9'.toNat

/-- Decimal digits and the letters `a` to `f`. -/
def isLowerHex (c : Char) : Bool := isDigit c || ('a'.toNat ≤ c.toNat && c.toNat ≤ 'f'.toNat)

/-- The text neither starts nor ends with white space. -/
def isTrimmed (s : String) : Bool :=
  !(s.toList.head?.any isWhite) && !(s.toList.getLast?.any isWhite)

/-- The text without the white space around it. -/
def trim (s : String) : String :=
  String.ofList (((s.toList.dropWhile isWhite).reverse.dropWhile isWhite).reverse)

/-- Nothing is left of the text without its white space. -/
def isBlank (s : String) : Bool := s.toList.all isWhite

/-- A hash in lower-case hexadecimal: 64 digits. -/
def isHash (s : String) : Bool := s.utf8ByteSize == 64 && s.toList.all isLowerHex

/-- The value of a list of decimal digits, most significant digit first. -/
def digitsValue (digits : List Char) : ℕ :=
  digits.foldl (fun acc c => acc * 10 + (c.toNat - '0'.toNat)) 0

end Zugfolge.Foundation.Text
