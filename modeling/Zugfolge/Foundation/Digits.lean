/-
Numbers in a fixed number of digits.

A number with leading zeros has a given number of digits.  It is read back, and texts of
such numbers are in the order of the numbers.
-/
import Mathlib.Tactic.Linarith
import Mathlib.Tactic.Ring
import Zugfolge.Foundation.Text

namespace Zugfolge.Foundation

open Text

/-- The decimal digits of a number, with leading zeros up to a width. -/
def fixedDigits (width n : ℕ) : List Char :=
  List.replicate (width - (Nat.toDigits 10 n).length) '0' ++ Nat.toDigits 10 n

/-- A number that fits has as many digits as asked for. -/
lemma length_fixedDigits {width n : ℕ} (hwidth : 0 < width) (h : n < 10 ^ width) :
    (fixedDigits width n).length = width := by
  have hle : (Nat.toDigits 10 n).length ≤ width :=
    (Nat.length_toDigits_le_iff (by decide) hwidth).mpr h
  rw [fixedDigits, List.length_append, List.length_replicate, Nat.sub_add_cancel hle]

/-- A decimal digit lies between the codes of zero and nine. -/
lemma isDigit_iff {c : Char} : isDigit c = true ↔ 48 ≤ c.toNat ∧ c.toNat ≤ 57 := by
  have hzero : '0'.toNat = 48 := rfl
  have hnine : '9'.toNat = 57 := rfl
  rw [isDigit, hzero, hnine, Bool.and_eq_true, decide_eq_true_eq, decide_eq_true_eq]

lemma isDigit_of_mem_fixedDigits {width n : ℕ} {c : Char} (h : c ∈ fixedDigits width n) :
    isDigit c = true := by
  rw [fixedDigits, List.mem_append] at h
  rcases h with hzero | hdigit
  · rw [(List.mem_replicate.mp hzero).2]
    rfl
  · have hchar := Nat.isDigit_of_mem_toDigits (by decide) (by decide) hdigit
    rw [Char.isDigit, Bool.and_eq_true, decide_eq_true_eq, decide_eq_true_eq, ge_iff_le,
      UInt32.le_iff_toNat_le, UInt32.le_iff_toNat_le] at hchar
    exact isDigit_iff.mpr hchar

/-! ### Values -/

/-- Digits behind others are worth less by their number. -/
lemma foldl_digits (digits : List Char) (acc : ℕ) :
    digits.foldl (fun acc c => acc * 10 + (c.toNat - '0'.toNat)) acc
      = acc * 10 ^ digits.length + digitsValue digits := by
  induction digits generalizing acc with
  | nil => simp [digitsValue]
  | cons c digits ih =>
    rw [digitsValue, List.foldl_cons, List.foldl_cons, ih, ih (0 * 10 + _), List.length_cons]
    ring

lemma digitsValue_cons (c : Char) (digits : List Char) :
    digitsValue (c :: digits) = (c.toNat - 48) * 10 ^ digits.length + digitsValue digits := by
  rw [digitsValue, List.foldl_cons, foldl_digits, Nat.zero_mul, Nat.zero_add]
  rfl

/-- Leading zeros do not count. -/
lemma digitsValue_replicate_zero (n : ℕ) (digits : List Char) :
    digitsValue (List.replicate n '0' ++ digits) = digitsValue digits := by
  induction n with
  | zero => rfl
  | succ n ih =>
    rw [List.replicate_succ, List.cons_append, digitsValue_cons, ih]
    simp

/-- What was written with leading zeros is read back. -/
lemma digitsValue_fixedDigits (width n : ℕ) : digitsValue (fixedDigits width n) = n := by
  rw [fixedDigits, digitsValue_replicate_zero]
  have hfold : ∀ (digits : List Char) (acc : ℕ),
      digits.foldl (fun acc c => acc * 10 + (c.toNat - '0'.toNat)) acc
        = Nat.ofDigitChars 10 digits acc := by
    intro digits
    induction digits with
    | nil => exact fun _ => rfl
    | cons c digits ih =>
      intro acc
      rw [List.foldl_cons, ih, Nat.ofDigitChars_cons, Nat.mul_comm acc 10]
  rw [digitsValue, hfold, Nat.ofDigitChars_ten_toDigits]

/-- Digits say less than the next power of ten. -/
lemma digitsValue_lt {digits : List Char} (h : ∀ c ∈ digits, isDigit c = true) :
    digitsValue digits < 10 ^ digits.length := by
  induction digits with
  | nil => simp [digitsValue]
  | cons c digits ih =>
    obtain ⟨hfirst, hlater⟩ := List.forall_mem_cons.mp h
    have hdigit : c.toNat - 48 ≤ 9 := by
      have := (isDigit_iff.mp hfirst).2
      omega
    calc digitsValue (c :: digits)
        = (c.toNat - 48) * 10 ^ digits.length + digitsValue digits := digitsValue_cons c digits
      _ < 9 * 10 ^ digits.length + 10 ^ digits.length := by
          have := Nat.mul_le_mul_right (10 ^ digits.length) hdigit
          have := ih hlater
          omega
      _ = 10 ^ (c :: digits).length := by
          rw [List.length_cons]
          ring

/-! ### Order -/

/-- A text is before another one if they differ so within their first part. -/
lemma append_lt_append_of_lt {l l' : List Char} (hlength : l.length = l'.length) (h : l < l')
    (m m' : List Char) : l ++ m < l' ++ m' := by
  induction l generalizing l' with
  | nil =>
    obtain rfl := List.eq_nil_of_length_eq_zero hlength.symm
    exact absurd h (List.lt_irrefl [])
  | cons c l ih =>
    cases l' with
    | nil => cases hlength
    | cons c' l' =>
      rw [List.cons_append, List.cons_append, List.cons_lt_cons_iff]
      rcases List.cons_lt_cons_iff.mp h with hlt | ⟨heq, hrest⟩
      · exact .inl hlt
      · exact .inr ⟨heq, ih (Nat.succ.inj hlength) hrest⟩

lemma append_lt_append_left (l : List Char) {m m' : List Char} (h : m < m') :
    l ++ m < l ++ m' := by
  induction l with
  | nil => exact h
  | cons c l ih => exact List.cons_lt_cons_iff.mpr (.inr ⟨rfl, ih⟩)

/-- Equally many digits are in the order of their values. -/
lemma lt_of_digitsValue_lt {l l' : List Char} (hlength : l.length = l'.length)
    (hl : ∀ c ∈ l, isDigit c = true) (hl' : ∀ c ∈ l', isDigit c = true)
    (h : digitsValue l < digitsValue l') : l < l' := by
  induction l generalizing l' with
  | nil =>
    obtain rfl := List.eq_nil_of_length_eq_zero hlength.symm
    exact absurd h (lt_irrefl _)
  | cons c l ih =>
    cases l' with
    | nil => cases hlength
    | cons c' l' =>
      obtain ⟨hc, hrest⟩ := List.forall_mem_cons.mp hl
      obtain ⟨hc', hrest'⟩ := List.forall_mem_cons.mp hl'
      have hsame : l.length = l'.length := Nat.succ.inj hlength
      rw [isDigit_iff] at hc hc'
      rw [digitsValue_cons, digitsValue_cons, hsame] at h
      rw [List.cons_lt_cons_iff]
      rcases Nat.lt_trichotomy c.toNat c'.toNat with hlt | heq | hlt
      · exact .inl (Char.lt_def.mpr (UInt32.lt_iff_toNat_lt.mpr hlt))
      · refine .inr ⟨Char.ext (UInt32.toNat_inj.mp heq), ih hsame hrest hrest' ?_⟩
        rw [heq] at h
        omega
      · -- a greater first digit cannot be made up for
        have hvalue := digitsValue_lt hrest'
        have hmore := Nat.mul_le_mul_right (10 ^ l'.length)
          (show c'.toNat - 48 + 1 ≤ c.toNat - 48 by omega)
        rw [Nat.add_mul, Nat.one_mul] at hmore
        omega

end Zugfolge.Foundation
