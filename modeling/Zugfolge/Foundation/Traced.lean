/-
State-passing commands that keep their writes when they fail.

A `TracedM` command maps a state to a result (a value or a failure), the state it
leaves behind and the list of visits it made.  A failing command leaves whatever it
had written before the failure; rolling back is an explicit combinator.  A visit is
a ghost record: a command notes the state it is in together with a label, and the
visits of a run let a statement speak about the inner steps of that run.
-/
import Mathlib.Tactic.Common

namespace Zugfolge.Foundation

/-- What a command leaves behind: its result, the state and the visits it made. -/
structure Traced (ν σ ε α : Type) where
  result : Except ε α
  state : σ
  visits : List ν

/-- Commands over states `σ` with failures `ε` and visits `ν`. -/
def TracedM (ν σ ε α : Type) : Type := σ → Traced ν σ ε α

namespace TracedM

variable {ν σ ε α β : Type}

instance : Monad (TracedM ν σ ε) where
  pure a := fun s => ⟨.ok a, s, []⟩
  bind m f := fun s =>
    match m s with
    | ⟨.ok a, s', vs⟩ => ⟨(f a s').result, (f a s').state, vs ++ (f a s').visits⟩
    | ⟨.error e, s', vs⟩ => ⟨.error e, s', vs⟩

/-- The current state. -/
def read : TracedM ν σ ε σ := fun s => ⟨.ok s, s, []⟩

/-- Replaces the state. -/
def write (s : σ) : TracedM ν σ ε Unit := fun _ => ⟨.ok (), s, []⟩

/-- Applies a pure update to the state. -/
def modify (f : σ → σ) : TracedM ν σ ε Unit := fun s => ⟨.ok (), f s, []⟩

/-- Fails and keeps the state. -/
def fail (e : ε) : TracedM ν σ ε α := fun s => ⟨.error e, s, []⟩

/-- Records a visit built from the current state. -/
def note (v : σ → ν) : TracedM ν σ ε Unit := fun s => ⟨.ok (), s, [v s]⟩

/-- Lifts a pure computation that may fail. -/
def lift (r : Except ε α) : TracedM ν σ ε α := fun s => ⟨r, s, []⟩

/-- Runs a command and hands its result to the caller; the state and the visits stay. -/
def attempt (m : TracedM ν σ ε α) : TracedM ν σ ε (Except ε α) :=
  fun s => ⟨.ok (m s).result, (m s).state, (m s).visits⟩

/-- Runs a command on a copy of the state: a failure drops everything it wrote. -/
def staged (m : TracedM ν σ ε α) : TracedM ν σ ε α := fun s =>
  match (m s).result with
  | .ok a => ⟨.ok a, (m s).state, (m s).visits⟩
  | .error e => ⟨.error e, s, []⟩

/-- Repeats a command on a growing value as long as it answers `true`, at most `n`
times; a loop that needs more rounds fails with `e`. -/
def repeatFrom (e : ε) (m : β → TracedM ν σ ε (Bool × β)) : ℕ → β → TracedM ν σ ε β
  | 0, _ => fail e
  | n + 1, b => m b >>= fun r => if r.1 then repeatFrom e m n r.2 else pure r.2

/-- Runs a command for every element of a list, in order. -/
def forEach (f : α → TracedM ν σ ε Unit) : List α → TracedM ν σ ε Unit
  | [] => pure ()
  | a :: as => f a >>= fun _ => forEach f as

/-- Runs a command for every element of a list and collects its answers, in order. -/
def collect (f : α → TracedM ν σ ε (Option β)) : List α → TracedM ν σ ε (List β)
  | [] => pure []
  | a :: as => f a >>= fun b => collect f as >>= fun bs => pure (b.toList ++ bs)

/-! ### Evaluation -/

@[simp] lemma pure_apply (a : α) (s : σ) :
    (pure a : TracedM ν σ ε α) s = ⟨.ok a, s, []⟩ := rfl

@[simp] lemma read_apply (s : σ) : (read : TracedM ν σ ε σ) s = ⟨.ok s, s, []⟩ := rfl

@[simp] lemma write_apply (s t : σ) : (write t : TracedM ν σ ε Unit) s = ⟨.ok (), t, []⟩ := rfl

@[simp] lemma modify_apply (f : σ → σ) (s : σ) :
    (modify f : TracedM ν σ ε Unit) s = ⟨.ok (), f s, []⟩ := rfl

@[simp] lemma fail_apply (e : ε) (s : σ) :
    (fail e : TracedM ν σ ε α) s = ⟨.error e, s, []⟩ := rfl

@[simp] lemma note_apply (v : σ → ν) (s : σ) :
    (note v : TracedM ν σ ε Unit) s = ⟨.ok (), s, [v s]⟩ := rfl

@[simp] lemma lift_apply (r : Except ε α) (s : σ) :
    (lift r : TracedM ν σ ε α) s = ⟨r, s, []⟩ := rfl

variable {m : TracedM ν σ ε α} {s : σ}

/-- A bind that succeeds runs its first command and its continuation. -/
lemma bind_of_ok {a : α} (f : α → TracedM ν σ ε β) (h : (m s).result = .ok a) :
    (m >>= f) s = ⟨(f a (m s).state).result, (f a (m s).state).state,
      (m s).visits ++ (f a (m s).state).visits⟩ := by
  change (match m s with
    | ⟨.ok a, s', vs⟩ => _
    | ⟨.error e, s', vs⟩ => _) = _
  rcases hm : m s with ⟨r, s', vs⟩
  rw [hm] at h
  subst h
  rfl

/-- A bind whose first command fails keeps that failure. -/
lemma bind_of_error {e : ε} (f : α → TracedM ν σ ε β) (h : (m s).result = .error e) :
    (m >>= f) s = ⟨.error e, (m s).state, (m s).visits⟩ := by
  change (match m s with
    | ⟨.ok a, s', vs⟩ => _
    | ⟨.error e, s', vs⟩ => _) = _
  rcases hm : m s with ⟨r, s', vs⟩
  rw [hm] at h
  subst h
  rfl

/-- A successful bind splits into its two successful parts. -/
lemma ok_of_bind {f : α → TracedM ν σ ε β} {b : β} (h : ((m >>= f) s).result = .ok b) :
    ∃ a, (m s).result = .ok a ∧ (f a (m s).state).result = .ok b := by
  cases hm : (m s).result with
  | error e =>
    rw [bind_of_error f hm] at h
    exact absurd h (by simp)
  | ok a =>
    rw [bind_of_ok f hm] at h
    exact ⟨a, rfl, h⟩

lemma bind_pure_apply (m : TracedM ν σ ε α) (s : σ) : (m >>= pure) s = m s := by
  cases h : (m s).result with
  | error e =>
    rw [bind_of_error pure h, ← h]
  | ok a =>
    rw [bind_of_ok pure h]
    simp [← h]

/-- Nested commands run one after another. -/
lemma bind_assoc_apply {γ : Type} (m : TracedM ν σ ε α) (f : α → TracedM ν σ ε β)
    (g : β → TracedM ν σ ε γ) (s : σ) :
    ((m >>= f) >>= g) s = (m >>= fun a => f a >>= g) s := by
  cases hm : (m s).result with
  | error e =>
    rw [bind_of_error _ hm, bind_of_error (e := e) g (by rw [bind_of_error f hm]),
      bind_of_error f hm]
  | ok a =>
    rw [bind_of_ok _ hm]
    cases hf : (f a (m s).state).result with
    | error e =>
      rw [bind_of_error (e := e) g (by rw [bind_of_ok f hm, hf]), bind_of_ok f hm,
        bind_of_error g hf]
    | ok b =>
      rw [bind_of_ok (a := b) g (by rw [bind_of_ok f hm, hf]), bind_of_ok f hm,
        bind_of_ok g hf]
      simp only [List.append_assoc]

/-- A loop that ends has had a last round, behind which nothing is changed. -/
lemma repeatFrom_ok {e : ε} {m : β → TracedM ν σ ε (Bool × β)} {n : ℕ} {b c : β}
    (h : (repeatFrom e m n b s).result = .ok c) :
    ∃ b' s', (m b' s').result = .ok (false, c)
      ∧ (m b' s').state = (repeatFrom e m n b s).state := by
  induction n generalizing b s with
  | zero => cases h
  | succ n ih =>
    obtain ⟨⟨again, b'⟩, hr, hrest⟩ := ok_of_bind h
    have hstate := congrArg Traced.state (bind_of_ok
      (fun r : Bool × β => if r.1 then repeatFrom e m n r.2 else pure r.2) hr)
    unfold repeatFrom
    rw [hstate]
    cases again
    · cases hrest
      exact ⟨b, s, hr, rfl⟩
    · exact ih hrest

/-! ### What a successful command ensures -/

/-- After `m` has succeeded in state `s`, its answer and its last state satisfy `Q`. -/
def Ensures (Q : α → σ → Prop) (m : TracedM ν σ ε α) (s : σ) : Prop :=
  ∀ a, (m s).result = .ok a → Q a (m s).state

namespace Ensures

variable {Q : α → σ → Prop} {P : β → σ → Prop} {s : σ}

lemma of_pure {a : α} (h : Q a s) : Ensures Q (pure a : TracedM ν σ ε α) s := by
  intro _ hb
  cases hb
  exact h

lemma of_fail (e : ε) : Ensures Q (fail e : TracedM ν σ ε α) s := by
  intro _ ha
  cases ha

variable {f : β → TracedM ν σ ε α} {m : TracedM ν σ ε β}

lemma call (hm : Ensures P m s)
    (hf : ∀ b s', P b s' → Ensures Q (f b) s') : Ensures Q (m >>= f) s := by
  intro a ha
  obtain ⟨b, hb, hfb⟩ := ok_of_bind ha
  rw [bind_of_ok f hb]
  exact hf b _ (hm b hb) a hfb

/-- Nothing is asked of the first command. -/
lemma skip (hf : ∀ b s', Ensures Q (f b) s') :
    Ensures Q (m >>= f) s :=
  call (P := fun _ _ => True) (fun _ _ => trivial) fun b s' _ => hf b s'

lemma read {f : σ → TracedM ν σ ε α} (h : Ensures Q (f s) s) : Ensures Q (read >>= f) s := h

lemma lift {r : Except ε β}
    (h : ∀ b, r = .ok b → Ensures Q (f b) s) : Ensures Q (lift r >>= f) s := by
  cases r with
  | error e =>
    intro a ha
    cases ha
  | ok b => exact h b rfl

lemma modify {g : σ → σ} {f : Unit → TracedM ν σ ε α} (h : Ensures Q (f ()) (g s)) :
    Ensures Q (modify g >>= f) s := h

lemma note {v : σ → ν} {f : Unit → TracedM ν σ ε α} (h : Ensures Q (f ()) s) :
    Ensures Q (note v >>= f) s := h

lemma staged {m : TracedM ν σ ε α} (h : Ensures Q m s) : Ensures Q (staged m) s := by
  intro a ha
  unfold TracedM.staged at ha ⊢
  cases hm : (m s).result with
  | error e =>
    rw [hm] at ha
    cases ha
  | ok b =>
    rw [hm] at ha
    cases ha
    exact h _ hm

/-- A command whose result is handed to the caller. -/
lemma attempt {f : Except ε β → TracedM ν σ ε α} (h : Ensures Q (f (m s).result) (m s).state) :
    Ensures Q (TracedM.attempt m >>= f) s := h

end Ensures

/-! ### Relations kept on every path -/

/-- A relation between two states and the visits between them that every command built
from such commands keeps. -/
structure Composes (R : σ → List ν → σ → Prop) : Prop where
  refl : ∀ s, R s [] s
  trans : ∀ {a b c : σ} {vs us : List ν}, R a vs b → R b us c → R a (vs ++ us) c

/-- The relation `R` holds between the first and the last state of `m` and its visits,
whether `m` succeeds or fails. -/
def Always (R : σ → List ν → σ → Prop) (m : TracedM ν σ ε α) : Prop :=
  ∀ s, R s (m s).visits (m s).state

namespace Always

variable {R : σ → List ν → σ → Prop} (hR : Composes R)

include hR

lemma of_pure (a : α) : Always R (pure a : TracedM ν σ ε α) := fun s => hR.refl s

lemma of_fail (e : ε) : Always R (fail e : TracedM ν σ ε α) := fun s => hR.refl s

lemma of_read : Always R (read : TracedM ν σ ε σ) := fun s => hR.refl s

lemma of_lift (r : Except ε α) : Always R (lift r : TracedM ν σ ε α) := fun s => hR.refl s

lemma bind {m : TracedM ν σ ε α} {f : α → TracedM ν σ ε β} (hm : Always R m)
    (hf : ∀ a, Always R (f a)) : Always R (m >>= f) := by
  intro s
  cases h : (m s).result with
  | error e =>
    rw [bind_of_error f h]
    exact hm s
  | ok a =>
    rw [bind_of_ok f h]
    exact hR.trans (hm s) (hf a _)

lemma forEach {f : α → TracedM ν σ ε Unit} (hf : ∀ a, Always R (f a)) (as : List α) :
    Always R (forEach f as) := by
  induction as with
  | nil => exact of_pure hR ()
  | cons a as ih => exact bind hR (hf a) fun _ => ih

omit hR

lemma of_note {v : σ → ν} (h : ∀ s, R s [v s] s) : Always R (note v : TracedM ν σ ε Unit) :=
  fun s => h s

lemma of_modify {f : σ → σ} (h : ∀ s, R s [] (f s)) :
    Always R (modify f : TracedM ν σ ε Unit) := fun s => h s

end Always

/-! ### What successful commands keep -/

/-- Whenever `m` succeeds, what held before still holds. -/
def Preserves (I : σ → Prop) (m : TracedM ν σ ε α) : Prop :=
  ∀ s, I s → Ensures (fun _ s' => I s') m s

namespace Preserves

variable {I : σ → Prop}

lemma of_pure (a : α) : Preserves I (pure a : TracedM ν σ ε α) := fun _ hs => .of_pure hs

lemma of_fail (e : ε) : Preserves I (fail e : TracedM ν σ ε α) := fun _ _ => .of_fail e

lemma of_read : Preserves I (TracedM.read : TracedM ν σ ε σ) := by
  intro s hs a _
  exact hs

lemma of_lift (r : Except ε α) : Preserves I (TracedM.lift r : TracedM ν σ ε α) := by
  intro s hs a _
  exact hs

lemma of_note (v : σ → ν) : Preserves I (TracedM.note v : TracedM ν σ ε Unit) := by
  intro s hs a _
  exact hs

lemma of_modify {f : σ → σ} (h : ∀ s, I s → I (f s)) :
    Preserves I (TracedM.modify f : TracedM ν σ ε Unit) := by
  intro s hs a _
  exact h s hs

lemma bind {m : TracedM ν σ ε α} {f : α → TracedM ν σ ε β} (hm : Preserves I m)
    (hf : ∀ a, Preserves I (f a)) : Preserves I (m >>= f) := fun s hs =>
  .call (hm s hs) fun a s' hs' => hf a s' hs'

lemma repeatFrom (e : ε) {m : β → TracedM ν σ ε (Bool × β)} (hm : ∀ b, Preserves I (m b)) (n : ℕ)
    (b : β) : Preserves I (TracedM.repeatFrom e m n b) := by
  induction n generalizing b with
  | zero => exact of_fail e
  | succ n ih =>
    refine bind (hm b) fun r => ?_
    obtain ⟨again, b'⟩ := r
    cases again
    · exact of_pure b'
    · exact ih b'

lemma forEach {f : α → TracedM ν σ ε Unit} (hf : ∀ a, Preserves I (f a)) (as : List α) :
    Preserves I (TracedM.forEach f as) := by
  induction as with
  | nil => exact of_pure ()
  | cons a as ih => exact bind (hf a) fun _ => ih

/-- A command whose failure is handled: the handler has to know what is left behind. -/
lemma attempt {m : TracedM ν σ ε α} {f : Except ε α → TracedM ν σ ε β}
    (hm : Preserves I m) (hok : ∀ a, Preserves I (f (.ok a)))
    (herror : ∀ s e, I s → (m s).result = .error e →
      Ensures (fun _ s' => I s') (f (.error e)) (m s).state) :
    Preserves I (TracedM.attempt m >>= f) := by
  refine fun s hs => Ensures.attempt ?_
  cases hr : (m s).result with
  | ok a => exact hok a _ (hm s hs a hr)
  | error e => exact herror s e hs hr

end Preserves

/-! ### Passes over candidates -/

/-- A pass that succeeds answers its first candidate and goes on with the others. -/
lemma collect_cons_ok {f : α → TracedM ν σ ε (Option β)} {a : α} {as : List α} {s : σ}
    {out : List β} (h : (collect f (a :: as) s).result = .ok out) :
    ∃ b bs, (f a s).result = .ok b ∧ (collect f as (f a s).state).result = .ok bs
      ∧ out = b.toList ++ bs
      ∧ (collect f (a :: as) s).state = (collect f as (f a s).state).state := by
  obtain ⟨b, hb, hrest⟩ := ok_of_bind h
  obtain ⟨bs, hbs, hlast⟩ := ok_of_bind hrest
  refine ⟨b, bs, hb, hbs, (Except.ok.inj hlast).symm, ?_⟩
  change ((f a >>= fun b => collect f as >>= fun bs => pure (b.toList ++ bs)) s).state = _
  rw [bind_of_ok _ hb]
  dsimp only
  rw [bind_of_ok _ hbs]
  rfl

/-- **One pass over the candidates leaves none behind.**  Let `f` answer a candidate or
refuse it.  If a refusal stays right whatever the rest of the pass does, then a candidate
that gave no answer is still refused in the last state.  `other` holds of the answers that
are not given by the candidate `a`. -/
lemma collect_refuses {f : α → TracedM ν σ ε (Option β)} {I refused : σ → Prop}
    {other : β → Prop} {a : α}
    (hkeeps : ∀ c s b, I s → (f c s).result = .ok b → (∀ x ∈ b, other x) → I (f c s).state)
    (hrefused : ∀ s b, I s → (f a s).result = .ok b → (∀ x ∈ b, other x) →
      refused (f a s).state)
    (hstays : ∀ c s b, I s → refused s → (f c s).result = .ok b → (∀ x ∈ b, other x) →
      refused (f c s).state)
    {as : List α} {s : σ} {out : List β} (hs : I s) (h : a ∈ as ∨ refused s)
    (hok : (collect f as s).result = .ok out) (hout : ∀ x ∈ out, other x) :
    refused (collect f as s).state := by
  induction as generalizing s out with
  | nil =>
    obtain hin | h := h
    · cases hin
    · exact h
  | cons c as ih =>
    obtain ⟨b, bs, hb, hbs, rfl, hstate⟩ := collect_cons_ok hok
    have hfirst : ∀ x ∈ b, other x := fun x hx =>
      hout x (List.mem_append_left bs (Option.mem_toList.mpr hx))
    rw [hstate]
    refine ih (hkeeps c s b hs hb hfirst) ?_ hbs fun x hx =>
      hout x (List.mem_append_right b.toList hx)
    obtain hin | h := h
    · rcases List.mem_cons.mp hin with rfl | hin
      · exact .inr (hrefused s b hs hb hfirst)
      · exact .inl hin
    · exact .inr (hstays c s b hs h hb hfirst)

end TracedM

end Zugfolge.Foundation
