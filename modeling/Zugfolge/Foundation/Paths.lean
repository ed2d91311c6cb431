/-
Paths of a labelled step relation, and the commands that follow them.

A step relation `Step d s vs d' s'` leads from state `s` to state `s'`, makes the visits
`vs`, and changes what the states owe: the debt `d`.  A debt names the parts of a state
that an invariant may not speak of yet, so that an invariant can hold at every step of
a command that writes its parts one after another.
-/
import Zugfolge.Foundation.Traced

namespace Zugfolge.Foundation

variable {ν σ ε α β δ : Type}

/-- Steps one after another, with all their visits. -/
inductive Path (Step : δ → σ → List ν → δ → σ → Prop) : δ → σ → List ν → δ → σ → Prop where
  | refl (d : δ) (s : σ) : Path Step d s [] d s
  | step {d d' d'' : δ} {s s' s'' : σ} {vs us : List ν} :
      Step d s vs d' s' → Path Step d' s' us d'' s'' → Path Step d s (vs ++ us) d'' s''

namespace Path

variable {Step : δ → σ → List ν → δ → σ → Prop} {d d' d'' : δ} {s s' s'' : σ} {vs us : List ν}

lemma single (h : Step d s vs d' s') : Path Step d s vs d' s' := by
  simpa using Path.step h (Path.refl d' s')

lemma trans (h : Path Step d s vs d' s') (k : Path Step d' s' us d'' s'') :
    Path Step d s (vs ++ us) d'' s'' := by
  induction h with
  | refl => exact k
  | step hstep _ ih =>
    rw [List.append_assoc]
    exact Path.step hstep (ih k)

/-- What every step keeps, under a condition on its visits, a path keeps. -/
theorem preserves {P : δ → σ → Prop} {ok : ν → Prop}
    (hstep : ∀ {d d' : δ} {s s' : σ} {vs : List ν},
      Step d s vs d' s' → (∀ v ∈ vs, ok v) → P d s → P d' s')
    (h : Path Step d s vs d' s') (hok : ∀ v ∈ vs, ok v) (hs : P d s) : P d' s' := by
  induction h with
  | refl => exact hs
  | step hfirst _ ih =>
    refine ih (fun v hv => hok v (List.mem_append_right _ hv)) ?_
    exact hstep hfirst (fun v hv => hok v (List.mem_append_left _ hv)) hs

end Path

/-- A command `m` in state `s`, written ahead of a path that has come to `s₀` with debt
`d₀` and has noted the visits `vs₀` since, ends on a path to debt `d` if it succeeds. -/
def Reaches (Step : δ → σ → List ν → δ → σ → Prop) (d₀ : δ) (s₀ : σ) (vs₀ : List ν) (s : σ)
    (m : TracedM ν σ ε α) (d : δ) : Prop :=
  ∀ a, (m s).result = .ok a → Path Step d₀ s₀ (vs₀ ++ (m s).visits) d (m s).state

/-- A command follows a path from debt `d` to debt `d'`, wherever it starts. -/
def Follows (Step : δ → σ → List ν → δ → σ → Prop) (d : δ) (m : TracedM ν σ ε α) (d' : δ) : Prop :=
  ∀ s, Reaches Step d s [] s m d'

namespace Reaches

open TracedM

variable {Step : δ → σ → List ν → δ → σ → Prop} {d₀ d d' : δ} {s₀ s : σ} {vs₀ : List ν}

variable {f : α → TracedM ν σ ε β} {m : TracedM ν σ ε α}

/-- The writes so far are one step of the path. -/
lemma settle (hstep : Step d₀ s₀ vs₀ d s)
    (hm : Reaches Step d s [] s m d') : Reaches Step d₀ s₀ vs₀ s m d' := by
  intro a ha
  exact Path.step hstep (by simpa using hm a ha)

/-- The writes so far are a path. -/
lemma along (hpath : Path Step d₀ s₀ vs₀ d s)
    (hm : Reaches Step d s [] s m d') : Reaches Step d₀ s₀ vs₀ s m d' := by
  intro a ha
  exact hpath.trans (by simpa using hm a ha)

/-- The last command is a command with nothing behind it. -/
lemma last (h : Reaches Step d₀ s₀ vs₀ s (m >>= pure) d') :
    Reaches Step d₀ s₀ vs₀ s m d' := by
  intro a ha
  have hm := h a
  rw [bind_pure_apply] at hm
  exact hm ha

lemma of_pure (a : α) : Reaches Step d s [] s (pure a : TracedM ν σ ε α) d := by
  intro _ _
  exact Path.refl d s

lemma of_fail (e : ε) : Reaches Step d₀ s₀ vs₀ s (fail e : TracedM ν σ ε α) d' := by
  intro a ha
  cases ha

lemma read {f : σ → TracedM ν σ ε β} (h : Reaches Step d₀ s₀ vs₀ s (f s) d') :
    Reaches Step d₀ s₀ vs₀ s (read >>= f) d' := by
  intro b hb
  rw [bind_of_ok f (a := s) rfl] at hb ⊢
  exact h b hb

lemma lift {r : Except ε α} (h : ∀ a, r = .ok a → Reaches Step d₀ s₀ vs₀ s (f a) d') :
    Reaches Step d₀ s₀ vs₀ s (lift r >>= f) d' := by
  cases r with
  | error e =>
    intro b hb
    rw [bind_of_error f (e := e) rfl] at hb
    cases hb
  | ok a =>
    intro b hb
    rw [bind_of_ok f (a := a) rfl] at hb ⊢
    exact h a rfl b hb

lemma modify {g : σ → σ} {f : Unit → TracedM ν σ ε β}
    (h : Reaches Step d₀ s₀ vs₀ (g s) (f ()) d') :
    Reaches Step d₀ s₀ vs₀ s (modify g >>= f) d' := by
  intro b hb
  rw [bind_of_ok f (a := ()) rfl] at hb ⊢
  exact h b hb

lemma note {v : σ → ν} {f : Unit → TracedM ν σ ε β}
    (h : Reaches Step d₀ s₀ (vs₀ ++ [v s]) s (f ()) d') :
    Reaches Step d₀ s₀ vs₀ s (note v >>= f) d' := by
  intro b hb
  rw [bind_of_ok f (a := ()) rfl] at hb ⊢
  have hp := h b hb
  rwa [List.append_assoc] at hp

/-- A command that ends on a path, behind which the rest goes on. -/
lemma call (hm : Reaches Step d₀ s₀ vs₀ s m d) (hf : ∀ a, (m s).result = .ok a →
      Reaches Step d (m s).state [] (m s).state (f a) d') :
    Reaches Step d₀ s₀ vs₀ s (m >>= f) d' := by
  intro b hb
  obtain ⟨a, ha, hfa⟩ := ok_of_bind hb
  rw [bind_of_ok f ha]
  have h1 := hm a ha
  have h2 := hf a ha b hfa
  simp only [List.nil_append] at h2
  have h := h1.trans h2
  rwa [List.append_assoc] at h

/-- The rest goes on behind the last of two commands. -/
lemma assoc {γ : Type} {g : β → TracedM ν σ ε γ}
    (h : Reaches Step d₀ s₀ vs₀ s (m >>= fun a => f a >>= g) d') :
    Reaches Step d₀ s₀ vs₀ s ((m >>= f) >>= g) d' := by
  intro c hc
  rw [bind_assoc_apply] at hc ⊢
  exact h c hc

/-- A command without visits, whose writes the next step settles too. -/
lemma carry (hv : (m s).visits = [])
    (hf : ∀ a, (m s).result = .ok a → Reaches Step d₀ s₀ vs₀ (m s).state (f a) d') :
    Reaches Step d₀ s₀ vs₀ s (m >>= f) d' := by
  intro b hb
  obtain ⟨a, ha, hfa⟩ := ok_of_bind hb
  rw [bind_of_ok f ha, hv]
  exact hf a ha b hfa

lemma staged (h : Reaches Step d₀ s₀ vs₀ s m d') :
    Reaches Step d₀ s₀ vs₀ s (staged m) d' := by
  intro a ha
  unfold TracedM.staged at ha ⊢
  cases hm : (m s).result with
  | error e =>
    rw [hm] at ha
    cases ha
  | ok b =>
    exact h b hm

/-- A command whose failure is inspected: both results lead on. -/
lemma attempt {f : Except ε α → TracedM ν σ ε β} (hok : Reaches Step d s [] s m d₀)
    (hf : ∀ a, (m s).result = .ok a →
      Reaches Step d₀ (m s).state [] (m s).state (f (.ok a)) d')
    (herr : ∀ e, (m s).result = .error e →
      Reaches Step d s (m s).visits (m s).state (f (.error e)) d') :
    Reaches Step d s [] s (TracedM.attempt m >>= f) d' := by
  intro b hb
  have hr : ((TracedM.attempt m) s).result = .ok (m s).result := rfl
  rw [bind_of_ok f hr] at hb ⊢
  change Path Step d s ([] ++ ((m s).visits ++ _)) d' _
  change (f (m s).result (m s).state).result = .ok b at hb
  change Path Step d s ([] ++ ((m s).visits ++ (f (m s).result (m s).state).visits)) d'
    (f (m s).result (m s).state).state
  cases h : (m s).result with
  | error e =>
    rw [h] at hb
    simpa using herr e h b hb
  | ok a =>
    rw [h] at hb
    have h1 := hok a h
    have h2 := hf a h b hb
    simp only [List.nil_append] at h1 h2 ⊢
    exact h1.trans h2

end Reaches

namespace Follows

open TracedM

variable {Step : δ → σ → List ν → δ → σ → Prop} {d d₁ d' : δ}

lemma of_pure (a : α) : Follows Step d (pure a : TracedM ν σ ε α) d := fun _ => .of_pure a

lemma bind {m : TracedM ν σ ε α} {f : α → TracedM ν σ ε β} (hm : Follows Step d m d₁)
    (hf : ∀ a, Follows Step d₁ (f a) d') : Follows Step d (m >>= f) d' :=
  fun s => .call (hm s) fun a _ => hf a _

lemma staged {m : TracedM ν σ ε α} (h : Follows Step d m d') : Follows Step d (staged m) d' :=
  fun s => .staged (h s)

lemma repeatFrom (e : ε) {m : β → TracedM ν σ ε (Bool × β)} (hm : ∀ b, Follows Step d (m b) d)
    (n : ℕ) (b : β) : Follows Step d (repeatFrom e m n b) d := by
  induction n generalizing b with
  | zero => exact fun s => .of_fail e
  | succ n ih =>
    refine bind (hm b) fun r => ?_
    obtain ⟨again, b'⟩ := r
    cases again
    · exact of_pure b'
    · exact ih b'

lemma forEach {f : α → TracedM ν σ ε Unit} (hf : ∀ a, Follows Step d (f a) d) (as : List α) :
    Follows Step d (forEach f as) d := by
  induction as with
  | nil => exact of_pure ()
  | cons a as ih => exact bind (hf a) fun _ => ih

lemma collect {f : α → TracedM ν σ ε (Option β)} (hf : ∀ a, Follows Step d (f a) d)
    (as : List α) : Follows Step d (collect f as) d := by
  induction as with
  | nil => exact of_pure []
  | cons a as ih => exact bind (hf a) fun _ => bind ih fun _ => of_pure _

/-- A command that always keeps a relation which is one step follows that step. -/
lemma of_always {R : σ → List ν → σ → Prop} {m : TracedM ν σ ε α} (hm : Always R m)
    (hR : ∀ {s s' : σ} {vs : List ν}, R s vs s' → Step d s vs d' s') : Follows Step d m d' := by
  intro s a _
  exact Path.single (hR (hm s))

end Follows

end Zugfolge.Foundation
