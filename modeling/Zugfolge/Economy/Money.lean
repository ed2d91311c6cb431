/-
Refusals, whole numbers and amounts.

A function that throws gives the text of its error.  Numbers are whole; those that are read from
outside are checked to be exact.  Amounts are whole cents in 64 bits.
-/
import Zugfolge.Economy.Numerals
import Zugfolge.Foundation.Collect
import Zugfolge.Foundation.Machine

namespace Zugfolge.Economy

open Foundation

/-- A result, or the text of an error. -/
abbrev Outcome (α : Type) := Except String α

/-- Goes on only if the condition holds. -/
def require (condition : Bool) (message : String) : Outcome Unit :=
  if condition then .ok () else .error message

@[simp] lemma require_eq_ok {condition : Bool} {message : String} {u : Unit} :
    require condition message = .ok u ↔ condition = true := by
  unfold require
  split <;> simp_all

lemma require_bind_eq_ok {α : Type} {condition : Bool} {message : String} {f : Unit → Outcome α}
    {a : α} : (require condition message >>= f) = .ok a ↔ condition = true ∧ f () = .ok a := by
  rw [bind_eq_ok_iff]
  constructor
  · rintro ⟨u, hrequire, hf⟩
    exact ⟨require_eq_ok.mp hrequire, hf⟩
  · rintro ⟨hcondition, hf⟩
    exact ⟨(), require_eq_ok.mpr hcondition, hf⟩

/-- The value that is there, or the text of an error. -/
def orThrow {α : Type} (value : Option α) (message : String) : Outcome α :=
  value.elim (.error message) .ok

@[simp] lemma orThrow_eq_ok {α : Type} {value : Option α} {message : String} {a : α} :
    orThrow value message = .ok a ↔ value = some a := by
  cases value <;> simp [orThrow]

/-! ### Numbers and texts -/

/-- The largest whole number up to which all are exact. -/
def maxSafeInteger : Int := 2 ^ 53 - 1

/-- The number is exact. -/
def isSafeInteger (n : Int) : Bool := -maxSafeInteger ≤ n && n ≤ maxSafeInteger

/-- Nothing is left of the text without its white space. -/
def isBlankText (text : String) : Bool := (strip text.toList).isEmpty

/-! ### Amounts -/

/-- The amount fits into 64 bits. -/
def assertI64 (value : Int) (name : String) : Outcome Int := do
  require (i64Min ≤ value && value ≤ i64Max) (name ++ " ueberschreitet den i64-Wertebereich.")
  return value

/-- The amount is not negative and fits into 64 bits. -/
def assertNonnegativeI64 (value : Int) (name : String) : Outcome Int := do
  require (0 ≤ value) (name ++ " darf nicht negativ sein.")
  assertI64 value name

/-- The sum of two amounts. -/
def addI64 (left right : Int) (name : String) : Outcome Int := assertI64 (left + right) name

/-- The difference of two amounts. -/
def subtractI64 (left right : Int) (name : String) : Outcome Int := assertI64 (left - right) name

/-- The product of two amounts. -/
def multiplyNonnegativeI64 (left right : Int) (name : String) : Outcome Int := do
  let left ← assertNonnegativeI64 left name
  let right ← assertNonnegativeI64 right name
  assertNonnegativeI64 (left * right) name

def sumI64 (amounts : List Int) (name : String) : Outcome Int :=
  amounts.foldlM (fun sum amount => addI64 sum amount name) 0

lemma assertI64_eq_ok {value result : Int} {name : String} :
    assertI64 value name = .ok result ↔ (i64Min ≤ value ∧ value ≤ i64Max) ∧ result = value := by
  unfold assertI64
  rw [require_bind_eq_ok, Bool.and_eq_true, decide_eq_true_eq, decide_eq_true_eq]
  refine and_congr Iff.rfl ⟨fun h => ?_, fun h => ?_⟩
  · cases h
    rfl
  · rw [h]
    rfl

lemma assertNonnegativeI64_eq_ok {value result : Int} {name : String} :
    assertNonnegativeI64 value name = .ok result ↔
      0 ≤ value ∧ (i64Min ≤ value ∧ value ≤ i64Max) ∧ result = value := by
  unfold assertNonnegativeI64
  rw [require_bind_eq_ok, assertI64_eq_ok, decide_eq_true_eq]

lemma addI64_eq_ok {left right result : Int} {name : String} :
    addI64 left right name = .ok result ↔
      (i64Min ≤ left + right ∧ left + right ≤ i64Max) ∧ result = left + right := assertI64_eq_ok

lemma subtractI64_eq_ok {left right result : Int} {name : String} :
    subtractI64 left right name = .ok result ↔
      (i64Min ≤ left - right ∧ left - right ≤ i64Max) ∧ result = left - right := assertI64_eq_ok

/-- The amounts together. -/
def totalOf (amounts : List Int) : Int := amounts.foldr (· + ·) 0

@[simp] lemma totalOf_nil : totalOf [] = 0 := rfl

@[simp] lemma totalOf_cons (amount : Int) (amounts : List Int) :
    totalOf (amount :: amounts) = amount + totalOf amounts := rfl

lemma totalOf_append (amounts amounts' : List Int) :
    totalOf (amounts ++ amounts') = totalOf amounts + totalOf amounts' := by
  induction amounts with
  | nil => simp
  | cons amount amounts ih => rw [List.cons_append, totalOf_cons, totalOf_cons, ih, Int.add_assoc]

lemma totalOf_nonneg {amounts : List Int} (h : ∀ amount ∈ amounts, 0 ≤ amount) :
    0 ≤ totalOf amounts := by
  induction amounts with
  | nil => simp
  | cons amount amounts ih =>
    have hfirst := h amount List.mem_cons_self
    have hrest := ih fun other hother => h other (List.mem_cons_of_mem amount hother)
    rw [totalOf_cons]
    omega

lemma totalOf_sublist {part amounts : List Int} (hpart : part.Sublist amounts)
    (h : ∀ amount ∈ amounts, 0 ≤ amount) : totalOf part ≤ totalOf amounts := by
  induction hpart with
  | slnil => exact le_rfl
  | cons amount _ ih =>
    have hfirst := h amount List.mem_cons_self
    have hrest := ih fun other hother => h other (List.mem_cons_of_mem amount hother)
    rw [totalOf_cons]
    omega
  | cons_cons amount _ ih =>
    have hrest := ih fun other hother => h other (List.mem_cons_of_mem amount hother)
    rw [totalOf_cons, totalOf_cons]
    omega

lemma le_totalOf {amounts : List Int} (h : ∀ amount ∈ amounts, 0 ≤ amount) {amount : Int}
    (hin : amount ∈ amounts) : amount ≤ totalOf amounts := by
  have hle := totalOf_sublist (List.singleton_sublist.mpr hin) h
  rw [totalOf_cons, totalOf_nil] at hle
  omega

/-- Amounts that are not negative can be added one after the other if they fit together. -/
lemma foldlM_addI64 {name : String} {amounts : List Int} (h : ∀ amount ∈ amounts, 0 ≤ amount)
    {first : Int} (hfirst : 0 ≤ first) (hfits : first + totalOf amounts ≤ i64Max) :
    amounts.foldlM (fun sum amount => addI64 sum amount name) first
      = .ok (first + totalOf amounts) := by
  induction amounts generalizing first with
  | nil => simp [pure, Except.pure]
  | cons amount amounts ih =>
    have hamount := h amount List.mem_cons_self
    have hlater := fun other hother => h other (List.mem_cons_of_mem amount hother)
    have hrest := totalOf_nonneg hlater
    rw [totalOf_cons] at hfits ⊢
    have hmin : i64Min ≤ 0 := by decide
    have hadd : addI64 first amount name = .ok (first + amount) :=
      addI64_eq_ok.mpr ⟨⟨by omega, by omega⟩, rfl⟩
    rw [List.foldlM_cons, hadd]
    calc amounts.foldlM (fun sum amount => addI64 sum amount name) (first + amount)
        = .ok (first + amount + totalOf amounts) := ih hlater (by omega) (by omega)
      _ = .ok (first + (amount + totalOf amounts)) := by rw [Int.add_assoc]

lemma sumI64_eq_ok {name : String} {amounts : List Int} (h : ∀ amount ∈ amounts, 0 ≤ amount)
    (hfits : totalOf amounts ≤ i64Max) : sumI64 amounts name = .ok (totalOf amounts) := by
  have hsum := @foldlM_addI64 name amounts h 0 le_rfl (by omega)
  rwa [Int.zero_add] at hsum

lemma multiplyNonnegativeI64_eq_ok {left right result : Int} {name : String} :
    multiplyNonnegativeI64 left right name = .ok result ↔
      (0 ≤ left ∧ left ≤ i64Max) ∧ (0 ≤ right ∧ right ≤ i64Max) ∧ left * right ≤ i64Max ∧
        result = left * right := by
  have hmin : i64Min ≤ 0 := by decide
  unfold multiplyNonnegativeI64
  simp only [bind_eq_ok_iff, assertNonnegativeI64_eq_ok]
  constructor
  · rintro ⟨_, ⟨hl, ⟨-, hl'⟩, rfl⟩, _, ⟨hr, ⟨-, hr'⟩, rfl⟩, -, ⟨-, hfits⟩, rfl⟩
    exact ⟨⟨hl, hl'⟩, ⟨hr, hr'⟩, hfits, rfl⟩
  · rintro ⟨⟨hl, hl'⟩, ⟨hr, hr'⟩, hfits, rfl⟩
    have hproduct := Int.mul_nonneg hl hr
    exact ⟨left, ⟨hl, ⟨by omega, hl'⟩, rfl⟩, right, ⟨hr, ⟨by omega, hr'⟩, rfl⟩, hproduct,
      ⟨by omega, hfits⟩, rfl⟩

end Zugfolge.Economy
