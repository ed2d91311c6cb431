/-
Histories of commands.

A system is a step function from states and commands to states.  A history is a list of
commands, run one after another.

* `AllSteps.invariant`: what every such command keeps holds at the end of the history;
* `foldl_invariant`: the same without a condition;
* `AllSteps.iff_invariant`: a condition that says exactly when a command keeps a property
  says exactly which histories keep it in every state they reach;
* `runAll`, `AllRun`, `AllRun.invariant`: histories of commands that may fail and put
  something out.
-/
import Mathlib.Tactic.Common

namespace Zugfolge.Foundation

variable {σ α : Type} {step : σ → α → σ} {ok : σ → α → Bool} {Inv : σ → Prop}

/-- Every command of the history meets the condition in the state it finds. -/
def AllSteps (step : σ → α → σ) (ok : σ → α → Bool) : σ → List α → Bool
  | _, [] => true
  | s, a :: as => ok s a && AllSteps step ok (step s a) as

/-- What every command that meets the condition keeps, holds after every history of such
commands. -/
theorem AllSteps.invariant (hstep : ∀ s a, Inv s → ok s a = true → Inv (step s a)) :
    ∀ {s : σ} {as : List α}, Inv s → AllSteps step ok s as = true → Inv (as.foldl step s) := by
  intro s as
  induction as generalizing s with
  | nil => exact fun hs _ => hs
  | cons a as ih =>
    intro hs hall
    rw [AllSteps, Bool.and_eq_true] at hall
    exact ih (hstep s a hs hall.1) hall.2

/-- A history meets the condition if its first part does and the rest does behind it. -/
lemma AllSteps.append {s : σ} {past rest : List α} :
    AllSteps step ok s (past ++ rest) = true ↔
      AllSteps step ok s past = true ∧ AllSteps step ok (past.foldl step s) rest = true := by
  induction past generalizing s with
  | nil => simp [AllSteps]
  | cons a past ih =>
    rw [List.cons_append, AllSteps, AllSteps, Bool.and_eq_true, Bool.and_eq_true, ih,
      List.foldl_cons, and_assoc]

/-- A history meets the condition if every command of it does in the state it finds. -/
lemma AllSteps.iff_forall {s : σ} {as : List α} : AllSteps step ok s as = true ↔
    ∀ past a, past ++ [a] <+: as → ok (past.foldl step s) a = true := by
  constructor
  · rintro hall past a ⟨rest, rfl⟩
    rw [AllSteps.append, AllSteps.append] at hall
    simpa [AllSteps] using hall.1.2
  · intro h
    induction as generalizing s with
    | nil => rfl
    | cons a as ih =>
      rw [AllSteps, Bool.and_eq_true]
      refine ⟨h [] a (List.prefix_append [a] as), ih fun past b hpast => ?_⟩
      exact h (a :: past) b (List.prefix_cons_inj a |>.mpr hpast)

/-- What every command keeps, holds after every history. -/
theorem foldl_invariant (hstep : ∀ s a, Inv s → Inv (step s a)) {s : σ} (hs : Inv s)
    (as : List α) : Inv (as.foldl step s) := by
  induction as generalizing s with
  | nil => exact hs
  | cons a as ih => exact ih (hstep s a hs)

/-- If the condition says exactly when a command keeps a property, then a history meets it
at every command exactly when the property holds in every state the history reaches. -/
theorem AllSteps.iff_invariant (hstep : ∀ s a, Inv s → (Inv (step s a) ↔ ok s a = true)) :
    ∀ {s : σ} {as : List α}, Inv s →
      ((∀ past, past <+: as → Inv (past.foldl step s)) ↔ AllSteps step ok s as = true) := by
  intro s as
  induction as generalizing s with
  | nil =>
    intro hs
    refine ⟨fun _ => rfl, fun _ past hpast => ?_⟩
    rw [List.prefix_nil.mp hpast]
    exact hs
  | cons a as ih =>
    intro hs
    rw [AllSteps, Bool.and_eq_true]
    constructor
    · intro h
      have hnext : Inv (step s a) := h [a] (List.prefix_append [a] as)
      refine ⟨(hstep s a hs).mp hnext, (ih hnext).mp fun past hpast => ?_⟩
      exact h (a :: past) (List.prefix_cons_inj a |>.mpr hpast)
    · rintro ⟨hok, hall⟩ past hpast
      cases past with
      | nil => exact hs
      | cons b past =>
        obtain ⟨hfirst, hrest⟩ := List.cons_prefix_cons.mp hpast
        subst hfirst
        exact (ih ((hstep s b hs).mpr hok)).mpr hall past hrest

/-! ### Commands that may fail and put something out -/

variable {κ : Type} {emit : σ → α → Option (σ × List κ)}

/-- Runs commands one after another and collects what they put out. -/
def runAll (emit : σ → α → Option (σ × List κ)) : σ → List α → Option (σ × List κ)
  | s, [] => some (s, [])
  | s, a :: as =>
    match emit s a with
    | none => none
    | some (t, out) => (runAll emit t as).map fun rest => (rest.1, out ++ rest.2)

/-- Every command of the history meets the condition in the state it finds. -/
def AllRun (emit : σ → α → Option (σ × List κ)) (ok : σ → α → Bool) : σ → List α → Bool
  | _, [] => true
  | s, a :: as =>
    ok s a &&
      match emit s a with
      | none => true
      | some (t, _) => AllRun emit ok t as

lemma AllRun.trivial (emit : σ → α → Option (σ × List κ)) (s : σ) (as : List α) :
    AllRun emit (fun _ _ => true) s as = true := by
  induction as generalizing s with
  | nil => rfl
  | cons a as ih =>
    rw [AllRun, Bool.true_and]
    split
    · rfl
    · exact ih _

/-- What every command that meets the condition keeps of a state and of all that was put out,
holds at the end of a history. -/
theorem AllRun.invariant (Holds : σ → List κ → Prop)
    (hstep : ∀ s a t log out, Holds s log → ok s a = true → emit s a = some (t, out) →
      Holds t (log ++ out)) :
    ∀ {as : List α} {s t : σ} (log : List κ) {out : List κ}, Holds s log →
      AllRun emit ok s as = true → runAll emit s as = some (t, out) → Holds t (log ++ out) := by
  intro as
  induction as with
  | nil =>
    intro s t log out hs _ hrun
    cases hrun
    rwa [List.append_nil]
  | cons a as ih =>
    intro s t log out hs hall hrun
    rw [runAll] at hrun
    rw [AllRun, Bool.and_eq_true] at hall
    cases hemit : emit s a with
    | none =>
      rw [hemit] at hrun
      cases hrun
    | some result =>
      obtain ⟨u, first⟩ := result
      simp only [hemit] at hrun hall
      obtain ⟨rest, hrest, heq⟩ := Option.map_eq_some_iff.mp hrun
      obtain ⟨rfl, rfl⟩ := Prod.mk.inj heq
      rw [← List.append_assoc]
      exact ih (log ++ first) (hstep s a u log first hs hall.1 hemit) hall.2 hrest

/-- A condition that follows from another one and from what every command keeps. -/
theorem AllRun.imp {ok' : σ → α → Bool} (Inv : σ → Prop)
    (hstep : ∀ s a t out, Inv s → ok s a = true → emit s a = some (t, out) → Inv t)
    (himp : ∀ s a, Inv s → ok s a = true → ok' s a = true) :
    ∀ {as : List α} {s : σ}, Inv s → AllRun emit ok s as = true →
      AllRun emit ok' s as = true := by
  intro as
  induction as with
  | nil => exact fun _ _ => rfl
  | cons a as ih =>
    intro s hs hall
    rw [AllRun, Bool.and_eq_true] at hall ⊢
    refine ⟨himp s a hs hall.1, ?_⟩
    cases hemit : emit s a with
    | none => rfl
    | some result =>
      obtain ⟨u, first⟩ := result
      simp only [hemit] at hall ⊢
      exact ih (hstep s a u first hs hall.1 hemit) hall.2

/-- Two conditions on a history are one. -/
lemma AllRun.and {ok' : σ → α → Bool} :
    ∀ {as : List α} {s : σ}, AllRun emit ok s as = true → AllRun emit ok' s as = true →
      AllRun emit (fun s a => ok s a && ok' s a) s as = true := by
  intro as
  induction as with
  | nil => exact fun _ _ => rfl
  | cons a as ih =>
    intro s hfirst hsecond
    rw [AllRun, Bool.and_eq_true] at hfirst hsecond ⊢
    refine ⟨by rw [hfirst.1, hsecond.1, Bool.and_self], ?_⟩
    cases hemit : emit s a with
    | none => rfl
    | some result =>
      obtain ⟨u, first⟩ := result
      simp only [hemit] at hfirst hsecond ⊢
      exact ih hfirst.2 hsecond.2

/-- A condition on the commands themselves is one on the history. -/
lemma AllRun.of_forall {extra : α → Bool} :
    ∀ {as : List α} {s : σ}, (∀ a ∈ as, extra a = true) →
      AllRun emit (fun _ a => extra a) s as = true := by
  intro as
  induction as with
  | nil => exact fun _ => rfl
  | cons a as ih =>
    intro s hextra
    rw [List.forall_mem_cons] at hextra
    rw [AllRun, Bool.and_eq_true]
    refine ⟨hextra.1, ?_⟩
    cases emit s a with
    | none => rfl
    | some result => exact ih hextra.2

/-- A history can be cut into a first and a second part. -/
lemma runAll_append {past rest : List α} {s t : σ} {out : List κ}
    (h : runAll emit s (past ++ rest) = some (t, out)) :
    ∃ u first second, runAll emit s past = some (u, first) ∧
      runAll emit u rest = some (t, second) ∧ out = first ++ second := by
  induction past generalizing s out with
  | nil => exact ⟨s, [], out, rfl, h, rfl⟩
  | cons a past ih =>
    rw [List.cons_append, runAll] at h
    cases hemit : emit s a with
    | none =>
      rw [hemit] at h
      cases h
    | some result =>
      obtain ⟨v, start⟩ := result
      simp only [hemit] at h
      obtain ⟨⟨w, more⟩, hmore, heq⟩ := Option.map_eq_some_iff.mp h
      obtain ⟨rfl, rfl⟩ := Prod.mk.inj heq
      obtain ⟨u, first, second, hpast, hrest, rfl⟩ := ih hmore
      exact ⟨u, start ++ first, second, by simp only [runAll, hemit, hpast, Option.map_some],
        hrest, (List.append_assoc _ _ _).symm⟩

/-- A condition on a history is one on both parts of it. -/
lemma AllRun.append {past rest : List α} {s u : σ} {out : List κ}
    (hall : AllRun emit ok s (past ++ rest) = true) (hrun : runAll emit s past = some (u, out)) :
    AllRun emit ok s past = true ∧ AllRun emit ok u rest = true := by
  induction past generalizing s out with
  | nil =>
    cases hrun
    exact ⟨rfl, hall⟩
  | cons a past ih =>
    rw [List.cons_append, AllRun, Bool.and_eq_true] at hall
    rw [runAll] at hrun
    cases hemit : emit s a with
    | none =>
      rw [hemit] at hrun
      cases hrun
    | some result =>
      obtain ⟨v, start⟩ := result
      simp only [hemit] at hrun hall
      obtain ⟨more, hmore, heq⟩ := Option.map_eq_some_iff.mp hrun
      obtain ⟨rfl, -⟩ := Prod.mk.inj heq
      obtain ⟨hpast, hrest⟩ := ih hall.2 hmore
      exact ⟨by simp only [AllRun, hemit, hall.1, hpast, Bool.and_self], hrest⟩

end Zugfolge.Foundation
