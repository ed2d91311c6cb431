/-
Whole numbers as texts.

A whole number of any size is written in decimal digits.  What is read may also have white space
around it, a sign or another base.

* `parseInteger_printInteger`: what was written is read back.
-/
import Zugfolge.Foundation.Blocks
import Zugfolge.Foundation.Text

namespace Zugfolge.Economy

open Foundation

/-- The digits of a whole number, with a sign before a negative one. -/
def printInteger (n : Int) : String := n.repr

/-- The value of a digit in a base of at most sixteen. -/
def digitOf (base : ℕ) (c : Char) : Option ℕ :=
  let value :=
    if '0'.toNat ≤ c.toNat && c.toNat ≤ '9'.toNat then c.toNat - '0'.toNat
    else if 'a'.toNat ≤ c.toNat && c.toNat ≤ 'f'.toNat then c.toNat - 'a'.toNat + 10
    else if 'A'.toNat ≤ c.toNat && c.toNat ≤ 'F'.toNat then c.toNat - 'A'.toNat + 10
    else base
  if value < base then some value else none

/-- Reads digits behind those that were read. -/
def readDigits (base acc : ℕ) : List Char → Option ℕ
  | [] => some acc
  | c :: digits => (digitOf base c).bind fun value => readDigits base (acc * base + value) digits

/-- Reads a number in a base; there has to be a digit. -/
def readNumber (base : ℕ) (digits : List Char) : Option ℕ :=
  if digits.isEmpty then none else readDigits base 0 digits

/-- White space, the byte order mark among it. -/
def isSpace (c : Char) : Bool := (Text.isWhite c && c.toNat != 0x85) || c.toNat == 0xfeff

/-- The characters without the white space around them. -/
def strip (text : List Char) : List Char :=
  ((text.dropWhile isSpace).reverse.dropWhile isSpace).reverse

/-- Reads a whole number; nothing is zero. -/
def parseInteger (text : String) : Option Int :=
  let text := strip text.toList
  let rest := text.drop 2
  if text.isEmpty then some 0
  else if text.take 2 == ['0', 'x'] || text.take 2 == ['0', 'X'] then
    (readNumber 16 rest).map Int.ofNat
  else if text.take 2 == ['0', 'o'] || text.take 2 == ['0', 'O'] then
    (readNumber 8 rest).map Int.ofNat
  else if text.take 2 == ['0', 'b'] || text.take 2 == ['0', 'B'] then
    (readNumber 2 rest).map Int.ofNat
  else if text.head? == some '-' then (readNumber 10 text.tail).map fun n : ℕ => -(n : Int)
  else if text.head? == some '+' then (readNumber 10 text.tail).map Int.ofNat
  else (readNumber 10 text).map Int.ofNat

/-! ### What was written is read back -/

lemma toNat_of_isDigit {c : Char} (h : c.isDigit = true) : 48 ≤ c.toNat ∧ c.toNat ≤ 57 := by
  rw [Char.isDigit, Bool.and_eq_true, decide_eq_true_eq, decide_eq_true_eq, ge_iff_le,
    UInt32.le_iff_toNat_le, UInt32.le_iff_toNat_le] at h
  exact h

lemma digitOf_of_isDigit {c : Char} (h : c.isDigit = true) :
    digitOf 10 c = some (c.toNat - '0'.toNat) := by
  obtain ⟨hlow, hhigh⟩ := toNat_of_isDigit h
  have hzero : '0'.toNat = 48 := rfl
  have hnine : '9'.toNat = 57 := rfl
  have hvalue : c.toNat - 48 < 10 := by omega
  simp [digitOf, hzero, hnine, hlow, hhigh, hvalue]

lemma isSpace_of_isDigit {c : Char} (h : c.isDigit = true) : isSpace c = false := by
  obtain ⟨hlow, hhigh⟩ := toNat_of_isDigit h
  have hwhite : Text.isWhite c = false := by
    simp only [Text.isWhite, Bool.or_eq_false_iff, Bool.and_eq_false_iff, decide_eq_false_iff_not,
      beq_eq_false_iff_ne]
    omega
  have hmark : c.toNat ≠ 0xfeff := by omega
  simp [isSpace, hwhite, hmark]

lemma readDigits_eq (acc : ℕ) {digits : List Char} (h : ∀ c ∈ digits, c.isDigit = true) :
    readDigits 10 acc digits = some (Nat.ofDigitChars 10 digits acc) := by
  induction digits generalizing acc with
  | nil => rfl
  | cons c digits ih =>
    obtain ⟨hfirst, hlater⟩ := List.forall_mem_cons.mp h
    rw [readDigits, digitOf_of_isDigit hfirst, Option.bind_some, ih _ hlater,
      Nat.ofDigitChars_cons, Nat.mul_comm acc 10]

lemma readNumber_toDigits (n : ℕ) : readNumber 10 (Nat.toDigits 10 n) = some n := by
  have hdigits : ∀ c ∈ Nat.toDigits 10 n, c.isDigit = true := fun c hc =>
    Nat.isDigit_of_mem_toDigits (by decide) (by decide) hc
  rw [readNumber, if_neg (by simp [Nat.toDigits_ne_nil]), readDigits_eq 0 hdigits,
    Nat.ofDigitChars_ten_toDigits]

lemma strip_eq {text : List Char} (hhead : ∀ c ∈ text.head?, isSpace c = false)
    (hlast : ∀ c ∈ text.getLast?, isSpace c = false) : strip text = text := by
  have hdrop : ∀ text : List Char, (∀ c ∈ text.head?, isSpace c = false) →
      text.dropWhile isSpace = text := by
    intro text h
    cases text with
    | nil => rfl
    | cons c later => rw [List.dropWhile_cons, h c rfl]; rfl
  rw [strip, hdrop text hhead, hdrop text.reverse (by rwa [List.head?_reverse]),
    List.reverse_reverse]

lemma take_two_ne {text : List Char} {letter : Char} (hletter : letter.isDigit = false)
    (hdigits : ∀ c ∈ text.tail, c.isDigit = true) : (text.take 2 == ['0', letter]) = false := by
  rw [beq_eq_false_iff_ne]
  intro heq
  match text, hdigits, heq with
  | [], _, heq => cases heq
  | [_], _, heq => cases heq
  | _ :: c :: _, hdigits, heq =>
    obtain rfl : c = letter := by simpa using (List.cons.inj heq).2
    rw [hdigits c List.mem_cons_self] at hletter
    cases hletter

/-- A text whose characters behind the first one are digits is read in decimal. -/
lemma parseInteger_decimal {text : String} {first : Char} {digits : List Char}
    (htext : text.toList = first :: digits) (hfirst : isSpace first = false)
    (hdigits : ∀ c ∈ digits, c.isDigit = true) :
    parseInteger text =
      if first = '-' then (readNumber 10 digits).map fun n : ℕ => -(n : Int)
      else if first = '+' then (readNumber 10 digits).map Int.ofNat
      else (readNumber 10 (first :: digits)).map Int.ofNat := by
  have hlast : ∀ c ∈ (first :: digits).getLast?, isSpace c = false := by
    intro c hc
    rcases List.mem_cons.mp (List.mem_of_mem_getLast? hc) with rfl | hin
    · exact hfirst
    · exact isSpace_of_isDigit (hdigits c hin)
  have hstrip : strip text.toList = first :: digits := by
    rw [htext]
    refine strip_eq (fun c hc => ?_) hlast
    cases hc
    exact hfirst
  have hbase : ∀ letter : Char, letter.isDigit = false →
      ((first :: digits).take 2 == ['0', letter]) = false :=
    fun letter hletter => take_two_ne hletter hdigits
  unfold parseInteger
  simp only [hstrip, hbase 'x' rfl, hbase 'X' rfl, hbase 'o' rfl, hbase 'O' rfl, hbase 'b' rfl,
    hbase 'B' rfl]
  simp

/-- What a whole number is written as, behind its sign, is read back in decimal. -/
lemma toList_printInteger (n : Int) : ∃ first digits, (printInteger n).toList = first :: digits ∧
    (first = '-' ∨ first.isDigit = true) ∧ (∀ c ∈ digits, c.isDigit = true) ∧
      (if first = '-' then (readNumber 10 digits).map fun n : ℕ => -(n : Int)
      else if first = '+' then (readNumber 10 digits).map Int.ofNat
      else (readNumber 10 (first :: digits)).map Int.ofNat) = some n := by
  have hdigits : ∀ m : ℕ, ∀ c ∈ Nat.toDigits 10 m, c.isDigit = true := fun m c hc =>
    Nat.isDigit_of_mem_toDigits (by decide) (by decide) hc
  cases n with
  | ofNat m =>
    obtain ⟨first, digits, heq⟩ := List.exists_cons_of_ne_nil (@Nat.toDigits_ne_nil m 10)
    have hfirst : first.isDigit = true := hdigits m first (heq ▸ List.mem_cons_self)
    have hsign : ∀ sign : Char, sign.isDigit = false → first ≠ sign := by
      rintro sign hsign rfl
      rw [hsign] at hfirst
      cases hfirst
    refine ⟨first, digits, (Nat.toList_repr (n := m)).trans heq, .inr hfirst,
      fun c hc => hdigits m c (heq ▸ List.mem_cons_of_mem first hc), ?_⟩
    rw [if_neg (hsign '-' rfl), if_neg (hsign '+' rfl), ← heq, readNumber_toDigits]
    rfl
  | negSucc m =>
    refine ⟨'-', Nat.toDigits 10 (m + 1), ?_, .inl rfl, hdigits (m + 1), ?_⟩
    · change ("-" ++ (m + 1).repr).toList = _
      rw [String.toList_append, Nat.toList_repr]
      rfl
    · rw [if_pos rfl, readNumber_toDigits]
      rfl

/-- **A whole number that was written is read back.** -/
theorem parseInteger_printInteger (n : Int) : parseInteger (printInteger n) = some n := by
  obtain ⟨first, digits, htext, hfirst, hdigits, hread⟩ := toList_printInteger n
  rw [parseInteger_decimal htext (hfirst.elim (fun h => h ▸ rfl) isSpace_of_isDigit) hdigits, hread]

/-! ### Names behind a colon -/

/-- A name with a number. -/
def numbered (name : String) (n : Int) : String := name ++ ":" ++ printInteger n

/-- There is no colon in the text. -/
def isColonFree (text : String) : Bool := !text.toList.contains ':'

lemma isColonFree_iff {text : String} : isColonFree text = true ↔ ':' ∉ text.toList := by
  rw [isColonFree, Bool.not_eq_true', Bool.eq_false_iff, Ne, List.contains_iff_mem]

lemma append_colon_inj {a b a' b' : String} (hb : isColonFree b = true)
    (hb' : isColonFree b' = true) (h : a ++ ":" ++ b = a' ++ ":" ++ b') : a = a' ∧ b = b' := by
  have hchars := congrArg (fun text => text.toList.reverse) h
  have hback : ∀ a b : String, (a ++ ":" ++ b).toList.reverse
      = b.toList.reverse ++ ':' :: a.toList.reverse := by
    intro a b
    simp [String.toList_append]
  simp only [hback] at hchars
  have hfree : ∀ {text : String}, isColonFree text = true → ':' ∉ text.toList.reverse :=
    fun htext hin => isColonFree_iff.mp htext (List.mem_reverse.mp hin)
  have hcut := append_mark_inj (hfree hb) (hfree hb') hchars
  exact ⟨String.toList_inj.mp (List.reverse_inj.mp hcut.2),
    String.toList_inj.mp (List.reverse_inj.mp hcut.1)⟩

lemma isColonFree_printInteger (n : Int) : isColonFree (printInteger n) = true := by
  obtain ⟨first, digits, htext, hfirst, hdigits, -⟩ := toList_printInteger n
  rw [isColonFree_iff, htext, List.mem_cons]
  rintro (rfl | hin)
  · rcases hfirst with hminus | hdigit
    · cases hminus
    · cases hdigit
  · cases hdigits _ hin

lemma numbered_inj {name name' : String} {n n' : Int} (h : numbered name n = numbered name' n') :
    name = name' ∧ n = n' := by
  obtain ⟨hname, hnumber⟩ := append_colon_inj (isColonFree_printInteger n)
    (isColonFree_printInteger n') h
  refine ⟨hname, ?_⟩
  have hread := congrArg parseInteger hnumber
  rw [parseInteger_printInteger, parseInteger_printInteger] at hread
  exact Option.some.inj hread

end Zugfolge.Economy
