/-
Working off a queue.

A system takes the next due entry of a queue, handles it and goes on until nothing is due.
Handling an entry puts out a list and may add entries; it may also fail, and the whole run
fails with it.

* `drain_invariant`: what every entry keeps holds at the end, of the state and of all that
  was put out;
* `AllHandled.imp`: a condition that follows from another one;
* `drain_done`: a measure that every entry lowers bounds the number of entries;
* `drain_map`: a view of the states that the queue and its handling respect.
-/
import Mathlib.Tactic.Common

namespace Zugfolge.Foundation

variable {σ ε κ : Type} {next : σ → Option ε} {handle : σ → ε → Option (σ × List κ)}

/-- Works off the queue; `fuel` bounds the number of entries. -/
def drain (next : σ → Option ε) (handle : σ → ε → Option (σ × List κ)) :
    ℕ → σ → Option (σ × List κ)
  | 0, s => some (s, [])
  | fuel + 1, s =>
    match next s with
    | none => some (s, [])
    | some e =>
      match handle s e with
      | none => none
      | some (t, out) => (drain next handle fuel t).map fun rest => (rest.1, out ++ rest.2)

/-- Every entry meets the condition in the state in which it is handled. -/
def AllHandled (next : σ → Option ε) (handle : σ → ε → Option (σ × List κ))
    (ok : σ → ε → Bool) : ℕ → σ → Bool
  | 0, _ => true
  | fuel + 1, s =>
    match next s with
    | none => true
    | some e =>
      ok s e &&
        match handle s e with
        | none => true
        | some (t, _) => AllHandled next handle ok fuel t

/-- What every entry that meets the condition keeps, holds when the queue is worked off. -/
theorem drain_invariant {ok : σ → ε → Bool} (Inv : σ → List κ → Prop)
    (hstep : ∀ s e t log out, Inv s log → next s = some e → ok s e = true →
      handle s e = some (t, out) → Inv t (log ++ out)) :
    ∀ {fuel : ℕ} {s t : σ} (log : List κ) {out : List κ}, Inv s log →
      AllHandled next handle ok fuel s = true → drain next handle fuel s = some (t, out) →
      Inv t (log ++ out) := by
  intro fuel
  induction fuel with
  | zero =>
    intro s t log out hs _ hdrain
    cases hdrain
    rwa [List.append_nil]
  | succ fuel ih =>
    intro s t log out hs hall hdrain
    rw [drain] at hdrain
    rw [AllHandled] at hall
    cases hnext : next s with
    | none =>
      rw [hnext] at hdrain
      cases hdrain
      rwa [List.append_nil]
    | some e =>
      simp only [hnext, Bool.and_eq_true] at hdrain hall
      obtain ⟨hok, hall⟩ := hall
      cases hhandle : handle s e with
      | none =>
        rw [hhandle] at hdrain
        cases hdrain
      | some result =>
        obtain ⟨u, first⟩ := result
        simp only [hhandle] at hdrain hall
        obtain ⟨rest, hrest, heq⟩ := Option.map_eq_some_iff.mp hdrain
        obtain ⟨rfl, rfl⟩ := Prod.mk.inj heq
        rw [← List.append_assoc]
        exact ih (log ++ first) (hstep s e u log first hs hnext hok hhandle) hall hrest

/-- A condition that follows from another one and from what every entry keeps. -/
theorem AllHandled.imp {ok ok' : σ → ε → Bool} (Inv : σ → Prop)
    (hstep : ∀ s e t out, Inv s → next s = some e → ok s e = true →
      handle s e = some (t, out) → Inv t)
    (himp : ∀ s e, Inv s → next s = some e → ok s e = true → ok' s e = true) :
    ∀ {fuel : ℕ} {s : σ}, Inv s → AllHandled next handle ok fuel s = true →
      AllHandled next handle ok' fuel s = true := by
  intro fuel
  induction fuel with
  | zero => exact fun _ _ => rfl
  | succ fuel ih =>
    intro s hs hall
    rw [AllHandled] at hall ⊢
    cases hnext : next s with
    | none => rfl
    | some e =>
      simp only [hnext, Bool.and_eq_true] at hall ⊢
      obtain ⟨hok, hall⟩ := hall
      refine ⟨himp s e hs hnext hok, ?_⟩
      cases hhandle : handle s e with
      | none => rfl
      | some result =>
        obtain ⟨u, first⟩ := result
        simp only [hhandle] at hall ⊢
        exact ih (hstep s e u first hs hnext hok hhandle) hall

lemma AllHandled.trivial (fuel : ℕ) (s : σ) :
    AllHandled next handle (fun _ _ => true) fuel s = true := by
  induction fuel generalizing s with
  | zero => rfl
  | succ fuel ih =>
    rw [AllHandled]
    cases next s with
    | none => rfl
    | some e =>
      cases hhandle : handle s e with
      | none => simp [hhandle]
      | some result => simp [hhandle, ih]

/-- The same without a condition and without a look at what is put out. -/
theorem drain_keeps (Inv : σ → Prop)
    (hstep : ∀ s e t out, Inv s → next s = some e → handle s e = some (t, out) → Inv t)
    {fuel : ℕ} {s t : σ} {out : List κ} (hs : Inv s)
    (hdrain : drain next handle fuel s = some (t, out)) : Inv t :=
  drain_invariant (fun s _ => Inv s)
    (fun s e t _ out hs hnext _ hhandle => hstep s e t out hs hnext hhandle) [] hs
    (AllHandled.trivial fuel s) hdrain

/-- If every entry lowers a measure, then as many entries as it says work off the queue. -/
theorem drain_done (Inv : σ → Prop) (measure : σ → ℕ)
    (hstep : ∀ s e t out, Inv s → next s = some e → handle s e = some (t, out) →
      Inv t ∧ measure t < measure s) :
    ∀ {fuel : ℕ} {s t : σ} {out : List κ}, Inv s → measure s < fuel →
      drain next handle fuel s = some (t, out) → next t = none := by
  intro fuel
  induction fuel with
  | zero => exact fun _ hfuel => absurd hfuel (Nat.not_lt_zero _)
  | succ fuel ih =>
    intro s t out hs hfuel hdrain
    rw [drain] at hdrain
    cases hnext : next s with
    | none =>
      rw [hnext] at hdrain
      cases hdrain
      exact hnext
    | some e =>
      simp only [hnext] at hdrain
      cases hhandle : handle s e with
      | none =>
        rw [hhandle] at hdrain
        cases hdrain
      | some result =>
        obtain ⟨u, first⟩ := result
        simp only [hhandle] at hdrain
        obtain ⟨rest, hrest, heq⟩ := Option.map_eq_some_iff.mp hdrain
        obtain ⟨rfl, -⟩ := Prod.mk.inj heq
        obtain ⟨hu, hlower⟩ := hstep s e u first hs hnext hhandle
        exact ih hu (by omega) hrest

/-- Working off the queue of a view of a state gives the view of working off its queue. -/
theorem drain_map (view : σ → σ) (hnext : ∀ s, next (view s) = next s)
    (hhandle : ∀ s e, handle (view s) e = (handle s e).map fun result => (view result.1, result.2))
    (fuel : ℕ) (s : σ) :
    drain next handle fuel (view s)
      = (drain next handle fuel s).map fun result => (view result.1, result.2) := by
  induction fuel generalizing s with
  | zero => rfl
  | succ fuel ih =>
    rw [drain, drain, hnext]
    cases next s with
    | none => rfl
    | some e =>
      simp only [hhandle]
      cases handle s e with
      | none => rfl
      | some result =>
        simp only [Option.map_some, ih, Option.map_map]
        rfl

end Zugfolge.Foundation
