/-
Differences between registries and logs of them.

Objects that carry their own key are filed under it.  A difference between two registries lists
the objects that are new or have changed and the keys that are gone; applied to the first
registry it gives the second.  A log numbers the deltas that are put into it and keeps the last
ones of them.  Whoever has followed the log up to a number asks for everything after it: the
log answers with all later deltas, or not at all if it has dropped one of them.

* `Registry.patch_difference`: the difference leads from the first registry to the second;
* `after_eq_none_iff`, `numbers_after`: when there is no answer, and the numbers of an answer.
-/
import Mathlib.Data.List.Nodup
import Mathlib.Data.List.Range
import Zugfolge.Foundation.Registry

namespace Zugfolge.Foundation.Registry

open Std

variable {κ α : Type} [Ord κ] [TransOrd κ] (key : α → κ)

/-- Files the objects of a list over a registry; a later one replaces an earlier one. -/
def file (m : Registry κ α) (objects : List α) : Registry κ α :=
  objects.foldl (fun filed a => filed.insert (key a) a) m

/-- The objects of a list under their own keys. -/
def index (objects : List α) : Registry κ α := file key .empty objects

/-- Every object stands under its own key. -/
def Indexed (m : Registry κ α) : Prop := ∀ (k : κ) (a : α), m[k]? = some a → key a = k

/-- The objects of the new registry that do not stand in the old one in the same way. -/
def changed [DecidableEq α] (old new : Registry κ α) : List α :=
  (new.toList.filter fun entry => old[entry.1]? != some entry.2).map Prod.snd

/-- The keys of the old registry that the new one has no more. -/
def removed (old new : Registry κ α) : List κ :=
  (old.toList.map Prod.fst).filter fun k => !new.contains k

/-- Files what has changed and erases what is gone. -/
def patch (m : Registry κ α) (changed : List α) (removed : List κ) : Registry κ α :=
  eraseAll (file key m changed) removed

section Lemmas

variable [LawfulEqOrd κ] [DecidableEq κ] {key}

omit [DecidableEq κ] in
lemma nodup_keys (m : Registry κ α) : (m.toList.map Prod.fst).Nodup :=
  List.pairwise_map.mpr <|
    (ExtTreeMap.distinct_keys_toList (t := m)).imp fun hne heq => hne (compare_eq_iff_eq.mpr heq)

/-- What stands under a key was filed there last, or it stood there before. -/
lemma getElem?_file (key : α → κ) (m : Registry κ α) (objects : List α) (k : κ) :
    (∃ a ∈ objects, key a = k ∧ (file key m objects)[k]? = some a) ∨
      (∀ a ∈ objects, key a ≠ k) ∧ (file key m objects)[k]? = m[k]? := by
  induction objects generalizing m with
  | nil => exact .inr ⟨(fun a ha => nomatch ha), rfl⟩
  | cons b objects ih =>
    have hcons : file key m (b :: objects) = file key (m.insert (key b) b) objects := rfl
    rw [hcons]
    rcases ih (m.insert (key b) b) with ⟨a, hin, hkey, hfiled⟩ | ⟨hnone, hfiled⟩
    · exact .inl ⟨a, List.mem_cons_of_mem b hin, hkey, hfiled⟩
    · rw [hfiled, getElem?_insert]
      by_cases hk : k = key b
      · exact .inl ⟨b, List.mem_cons_self, hk.symm, if_pos hk⟩
      · refine .inr ⟨fun a ha => ?_, if_neg hk⟩
        rcases List.mem_cons.mp ha with rfl | ha
        · exact Ne.symm hk
        · exact hnone a ha

lemma indexed_index (objects : List α) : Indexed key (index key objects) := by
  intro k a ha
  rcases getElem?_file key .empty objects k with ⟨b, -, hkey, hfiled⟩ | ⟨-, hfiled⟩
  · rw [index, hfiled] at ha
    cases ha
    exact hkey
  · rw [index, hfiled] at ha
    simp at ha

lemma getElem?_patch (key : α → κ) (m : Registry κ α) (objects : List α) (gone : List κ) (k : κ) :
    (patch key m objects gone)[k]? = if k ∈ gone then none else (file key m objects)[k]? :=
  getElem?_eraseAll _ _ _

omit [LawfulEqOrd κ] [DecidableEq κ] in
lemma indexed_empty (key : α → κ) : Indexed key (.empty : Registry κ α) := by
  intro k a ha
  simp at ha

/-- A patched registry has the keys that were filed or were there before and were not taken
out. -/
lemma contains_patch (key : α → κ) (m : Registry κ α) (objects : List α) (gone : List κ) (k : κ) :
    (patch key m objects gone).contains k = true ↔
      k ∉ gone ∧ (k ∈ objects.map key ∨ m.contains k = true) := by
  rw [contains_iff, contains_iff, getElem?_patch]
  split
  next hgone => simp [hgone]
  next hkept =>
    rw [and_iff_right hkept, List.mem_map]
    rcases getElem?_file key m objects k with ⟨a, hin, hkey, hfiled⟩ | ⟨hnone, hfiled⟩
    · exact iff_of_true ⟨a, hfiled⟩ (.inl ⟨a, hin, hkey⟩)
    · rw [hfiled]
      refine ⟨.inr, fun h => h.resolve_left ?_⟩
      rintro ⟨a, hin, hkey⟩
      exact hnone a hin hkey

variable {a : α} {m new old : Registry κ α}

/-- An object of a patched registry was filed, or it stood there under a key that was neither filed
nor taken out. -/
lemma mem_values_patch (h : Indexed key m) {objects : List α} {gone : List κ}
    (ha : a ∈ values (patch key m objects gone)) :
    a ∈ objects ∨ a ∈ values m ∧ key a ∉ objects.map key ∧ key a ∉ gone := by
  obtain ⟨k, hk⟩ := mem_values.mp ha
  rw [getElem?_patch] at hk
  split at hk
  next => cases hk
  next hkept =>
    rcases getElem?_file key m objects k with ⟨b, hin, -, hfiled⟩ | ⟨hnone, hfiled⟩
    · rw [hfiled] at hk
      cases hk
      exact .inl hin
    · rw [hfiled] at hk
      have hkey := h k a hk
      refine .inr ⟨mem_values.mpr ⟨k, hk⟩, ?_, hkey ▸ hkept⟩
      intro hmem
      obtain ⟨b, hin, hb⟩ := List.mem_map.mp hmem
      exact hnone b hin (hb.trans hkey)

/-- Patching keeps every object under its own key. -/
lemma Indexed.patch (h : Indexed key m) (objects : List α) (gone : List κ) :
    Indexed key (patch key m objects gone) := by
  intro k a ha
  rw [getElem?_patch] at ha
  split at ha
  · cases ha
  · rcases getElem?_file key m objects k with ⟨b, -, hkey, hfiled⟩ | ⟨-, hfiled⟩
    · rw [hfiled] at ha
      cases ha
      exact hkey
    · rw [hfiled] at ha
      exact h k a ha

/-- Objects with different keys all stand in their registry. -/
lemma getElem?_index_iff {objects : List α} (hdistinct : (objects.map key).Nodup) {k : κ} :
    (index key objects)[k]? = some a ↔ a ∈ objects ∧ key a = k := by
  rcases getElem?_file key .empty objects k with ⟨b, hin, hkey, hfiled⟩ | ⟨hnone, hfiled⟩
  · rw [index, hfiled, Option.some.injEq]
    constructor
    · rintro rfl
      exact ⟨hin, hkey⟩
    · rintro ⟨ha, rfl⟩
      exact List.inj_on_of_nodup_map hdistinct hin ha hkey
  · rw [index, hfiled]
    refine iff_of_false (by simp) ?_
    rintro ⟨ha, hkey⟩
    exact hnone a ha hkey

/-- The values of a registry lead back to it. -/
lemma index_values (h : Indexed key m) : index key (values m) = m := by
  have hkeys : (values m).map key = m.toList.map Prod.fst := by
    rw [values, List.map_map]
    refine List.map_congr_left fun entry hentry => ?_
    exact h entry.1 entry.2 (mem_toList.mp hentry)
  have hdistinct : ((values m).map key).Nodup := hkeys ▸ nodup_keys m
  refine ExtTreeMap.ext_getElem? fun k => Option.ext fun a => ?_
  rw [getElem?_index_iff hdistinct, mem_values]
  constructor
  · rintro ⟨⟨j, hj⟩, rfl⟩
    rw [h j a hj]
    exact hj
  · exact fun ha => ⟨⟨k, ha⟩, h k a ha⟩

variable [DecidableEq α]

omit [DecidableEq κ] in
lemma mem_changed :
    a ∈ changed old new ↔ ∃ k : κ, new[k]? = some a ∧ old[k]? ≠ some a := by
  rw [changed, List.mem_map]
  constructor
  · rintro ⟨⟨k, b⟩, hin, rfl⟩
    obtain ⟨hthere, hdiffers⟩ := List.mem_filter.mp hin
    exact ⟨k, mem_toList.mp hthere, bne_iff_ne.mp hdiffers⟩
  · rintro ⟨k, hthere, hdiffers⟩
    exact ⟨(k, a), List.mem_filter.mpr ⟨mem_toList.mpr hthere, bne_iff_ne.mpr hdiffers⟩, rfl⟩

omit [DecidableEq κ] [DecidableEq α] in
lemma mem_removed {k : κ} :
    k ∈ removed old new ↔ (∃ a, old[k]? = some a) ∧ new[k]? = none := by
  rw [removed, List.mem_filter, List.mem_map, Bool.not_eq_true', contains_eq_false]
  refine and_congr_left fun _ => ?_
  constructor
  · rintro ⟨⟨j, a⟩, hin, rfl⟩
    exact ⟨a, mem_toList.mp hin⟩
  · rintro ⟨a, ha⟩
    exact ⟨(k, a), mem_toList.mpr ha, rfl⟩

/-- **Differences.**  Applied to the first registry, the difference gives the second one. -/
theorem patch_difference (hnew : Indexed key new) :
    patch key old (changed old new) (removed old new) = new := by
  refine ExtTreeMap.ext_getElem? fun k => ?_
  rw [patch, getElem?_eraseAll]
  have hfile := getElem?_file key old (changed old new) k
  cases hnow : new[k]? with
  | none =>
    by_cases hgone : k ∈ removed old new
    · rw [if_pos hgone]
    · rw [if_neg hgone]
      have hold : old[k]? = none := by
        refine Option.eq_none_iff_forall_ne_some.mpr fun a ha => ?_
        exact hgone (mem_removed.mpr ⟨⟨a, ha⟩, hnow⟩)
      rcases hfile with ⟨a, hin, hkey, -⟩ | ⟨-, hfiled⟩
      · obtain ⟨j, hj, -⟩ := mem_changed.mp hin
        rw [← hnew j a hj, hkey, hnow] at hj
        cases hj
      · rw [hfiled, hold]
  | some a =>
    have hkept : k ∉ removed old new := fun hin => by
      rw [(mem_removed.mp hin).2] at hnow
      cases hnow
    rw [if_neg hkept]
    rcases hfile with ⟨b, hin, hkey, hfiled⟩ | ⟨hnone, hfiled⟩
    · obtain ⟨j, hj, -⟩ := mem_changed.mp hin
      rw [← hnew j b hj, hkey, hnow] at hj
      rw [hfiled, hj]
    · rw [hfiled]
      by_contra hdiffers
      exact hnone a (mem_changed.mpr ⟨k, hnow, hdiffers⟩) (hnew k a hnow)

end Lemmas

end Zugfolge.Foundation.Registry

namespace Zugfolge.Foundation

variable {δ : Type} {number : δ → ℕ}

/-- A log of the deltas of the last numbers. -/
structure DeltaLog (δ : Type) (number : δ → ℕ) where
  limit : ℕ
  sequence : ℕ
  history : List δ
  short : history.length ≤ sequence
  numbered : history.map number = List.range' (sequence + 1 - history.length) history.length

namespace DeltaLog

/-- Nothing has been put into the log. -/
def empty (limit : ℕ) : DeltaLog δ number := ⟨limit, 0, [], Nat.le_refl 0, rfl⟩

/-- The deltas that are kept once a delta was put behind them. -/
def keep (limit : ℕ) (history : List δ) (d : δ) : List δ :=
  if limit < (history ++ [d]).length then (history ++ [d]).tail else history ++ [d]

lemma length_keep_le (limit : ℕ) (history : List δ) (d : δ) :
    (keep limit history d).length ≤ history.length + 1 := by
  unfold keep
  split
  · simp
  · simp

lemma numbered_append {sequence : ℕ} {history : List δ} {d : δ} (hshort : history.length ≤ sequence)
    (hnumbered :
      history.map number = List.range' (sequence + 1 - history.length) history.length)
    (hd : number d = sequence + 1) :
    (history ++ [d]).map number
      = List.range' (sequence + 1 - history.length) (history.length + 1) := by
  have hlast : sequence + 1 - history.length + history.length = number d := by omega
  rw [List.map_append, hnumbered, List.map_singleton, List.range'_1_concat, hlast]

lemma numbered_keep {sequence : ℕ} {history : List δ} {d : δ} (limit : ℕ)
    (hshort : history.length ≤ sequence)
    (hnumbered :
      history.map number = List.range' (sequence + 1 - history.length) history.length)
    (hd : number d = sequence + 1) :
    (keep limit history d).map number = List.range'
      (sequence + 1 + 1 - (keep limit history d).length) (keep limit history d).length := by
  have hall := numbered_append hshort hnumbered hd
  unfold keep
  split
  · have hlength : (history ++ [d]).tail.length = history.length := by simp
    have hstart : sequence + 1 + 1 - history.length = sequence + 1 - history.length + 1 := by omega
    rw [List.map_tail, hall, hlength, hstart, List.range'_succ, List.tail_cons]
  · have hlength : (history ++ [d]).length = history.length + 1 := by simp
    have hstart : sequence + 1 + 1 - (history.length + 1) = sequence + 1 - history.length := by
      omega
    rw [hall, hlength, hstart]

/-- Puts the delta of the next number into the log; the oldest one goes if there are too many. -/
def push (log : DeltaLog δ number) (make : ℕ → δ) (hmake : ∀ n, number (make n) = n) :
    DeltaLog δ number where
  limit := log.limit
  sequence := log.sequence + 1
  history := keep log.limit log.history (make (log.sequence + 1))
  short := Nat.le_trans (length_keep_le _ _ _) (Nat.succ_le_succ log.short)
  numbered := numbered_keep log.limit log.short log.numbered (hmake _)

/-- The first number that is kept, or the next one if nothing is. -/
def firstAvailable (log : DeltaLog δ number) : ℕ :=
  (log.history.head?.map number).getD (log.sequence + 1)

/-- The deltas after a number; `none` if the log does not reach back to it. -/
def after (log : DeltaLog δ number) (cursor : ℕ) : Option (List δ) :=
  if log.sequence < cursor then none
  else if cursor = log.sequence then some []
  else if cursor + 1 < log.firstAvailable then none
  else some (log.history.filter fun d => decide (cursor < number d))

lemma firstAvailable_eq (log : DeltaLog δ number) :
    log.firstAvailable = log.sequence + 1 - log.history.length := by
  have hnumbered := log.numbered
  unfold firstAvailable
  cases hhistory : log.history with
  | nil => simp
  | cons d rest =>
    rw [hhistory, List.map_cons, List.length_cons, List.range'_succ, List.cons.injEq] at hnumbered
    rw [List.head?_cons, Option.map_some, Option.getD_some, List.length_cons]
    exact hnumbered.1

/-- There is no answer exactly if the number lies ahead or one of the later deltas is gone. -/
theorem after_eq_none_iff (log : DeltaLog δ number) (cursor : ℕ) :
    log.after cursor = none ↔
      log.sequence < cursor ∨ cursor + log.history.length < log.sequence := by
  have hshort := log.short
  unfold after
  rw [firstAvailable_eq]
  split
  next hahead => exact iff_of_true rfl (.inl hahead)
  next hahead =>
    split
    next hsame =>
      refine iff_of_false (by simp) ?_
      omega
    next hsame =>
      split
      next hgone => exact iff_of_true rfl (.inr (by omega))
      next hreach =>
        refine iff_of_false (by simp) ?_
        omega

variable {cursor : ℕ} {ds : List δ} {log : DeltaLog δ number}

/-- The answer is what is kept of the later deltas. -/
lemma eq_filter_of_after (h : log.after cursor = some ds) :
    ds = log.history.filter fun d => decide (cursor < number d) := by
  unfold after at h
  split at h
  · cases h
  · split at h
    next hsame =>
      cases h
      refine (List.filter_eq_nil_iff.mpr fun d hd => ?_).symm
      have hin : number d ∈ log.history.map number := List.mem_map_of_mem hd
      rw [log.numbered, List.mem_range'_1] at hin
      have hshort := log.short
      rw [decide_eq_true_eq]
      omega
    · split at h
      · cases h
      · exact (Option.some.inj h).symm

/-- The deltas of the answer have all numbers after the given one, each once and in order. -/
theorem numbers_after (h : log.after cursor = some ds) :
    ds.map number = List.range' (cursor + 1) (log.sequence - cursor) := by
  have hreach : ¬ (log.sequence < cursor ∨ cursor + log.history.length < log.sequence) := by
    rw [← after_eq_none_iff, h]
    simp
  have hshort := log.short
  have hmap : (log.history.filter fun d => decide (cursor < number d)).map number
      = (log.history.map number).filter fun n => decide (cursor < n) := by
    rw [List.filter_map]
    rfl
  rw [eq_filter_of_after h, hmap, log.numbered]
  have hsplit : List.range' (log.sequence + 1 - log.history.length) log.history.length
      = List.range' (log.sequence + 1 - log.history.length)
          (log.history.length - (log.sequence - cursor))
        ++ List.range' (cursor + 1) (log.sequence - cursor) := by
    rw [List.range'_eq_append_iff]
    refine ⟨log.history.length - (log.sequence - cursor), by omega, rfl, ?_⟩
    congr 1
    · omega
    · omega
  rw [hsplit, List.filter_append, List.filter_eq_nil_iff.mpr, List.filter_eq_self.mpr,
    List.nil_append]
  · intro n hn
    rw [List.mem_range'_1] at hn
    rw [decide_eq_true_eq]
    omega
  · intro n hn
    rw [List.mem_range'_1] at hn
    rw [decide_eq_true_eq]
    omega

/-- An answer after a new delta is an earlier answer and the new delta. -/
lemma after_push {make : ℕ → δ} {hmake : ∀ n, number (make n) = n} (hcursor : cursor ≤ log.sequence)
    (h : (log.push make hmake).after cursor = some ds) :
    ∃ earlier, log.after cursor = some earlier ∧ ds = earlier ++ [make (log.sequence + 1)] := by
  have hreach : ¬ (log.sequence + 1 < cursor
      ∨ cursor + (keep log.limit log.history (make (log.sequence + 1))).length
          < log.sequence + 1) := by
    change ¬ ((log.push make hmake).sequence < cursor
      ∨ cursor + (log.push make hmake).history.length < (log.push make hmake).sequence)
    rw [← after_eq_none_iff, h]
    simp
  have hlength := length_keep_le log.limit log.history (make (log.sequence + 1))
  obtain ⟨earlier, hearlier⟩ : ∃ earlier, log.after cursor = some earlier := by
    refine Option.ne_none_iff_exists'.mp fun hnone => ?_
    rw [after_eq_none_iff] at hnone
    omega
  refine ⟨earlier, hearlier, ?_⟩
  have hnew : decide (cursor < number (make (log.sequence + 1))) = true := by
    rw [hmake, decide_eq_true_eq]
    omega
  have hlast : [make (log.sequence + 1)].filter (fun d => decide (cursor < number d))
      = [make (log.sequence + 1)] := List.filter_cons_of_pos hnew
  rw [eq_filter_of_after h, eq_filter_of_after hearlier]
  change (keep log.limit log.history (make (log.sequence + 1))).filter _ = _
  unfold keep at hreach ⊢
  split
  next hfull =>
    rw [if_pos hfull] at hreach
    -- the delta that is dropped has a number the cursor has passed
    cases hhistory : log.history with
    | nil =>
      rw [hhistory] at hreach
      simp only [List.nil_append, List.tail_cons, List.length_nil] at hreach
      omega
    | cons oldest rest =>
      have hnumbered := log.numbered
      rw [hhistory] at hreach hnumbered
      rw [List.map_cons, List.length_cons, List.range'_succ, List.cons.injEq] at hnumbered
      simp only [List.cons_append, List.tail_cons, List.length_append, List.length_cons,
        List.length_nil] at hreach
      have hold : (oldest :: rest).filter (fun d => decide (cursor < number d))
          = rest.filter fun d => decide (cursor < number d) := by
        refine List.filter_cons_of_neg ?_
        rw [decide_eq_true_eq]
        omega
      rw [List.cons_append, List.tail_cons, List.filter_append, hlast, hold]
  next hroom => rw [List.filter_append, hlast]

/-! ### Replicas -/

variable {σ : Type} (apply : σ → δ → σ)

/-- What the log answers brings the replica at the cursor up to date. -/
def Behind (log : DeltaLog δ number) (current : σ) (cursor : ℕ) (replica : σ) : Prop :=
  cursor ≤ log.sequence ∧
    ∀ ds, log.after cursor = some ds → ds.foldl apply replica = current

variable {apply}

/-- A copy of the current state is such a replica. -/
lemma Behind.refl (log : DeltaLog δ number) (current : σ) :
    Behind apply log current log.sequence current := by
  refine ⟨Nat.le_refl _, fun ds hds => ?_⟩
  unfold after at hds
  rw [if_neg (Nat.lt_irrefl _), if_pos rfl] at hds
  cases hds
  rfl

/-- A replica stays one when a delta is put into the log and applied to the current state. -/
lemma Behind.push {current replica : σ} (h : Behind apply log current cursor replica) (make : ℕ → δ)
    (hmake : ∀ n, number (make n) = n) :
    Behind apply (log.push make hmake) (apply current (make (log.sequence + 1))) cursor
      replica := by
  refine ⟨Nat.le_succ_of_le h.1, fun ds hds => ?_⟩
  obtain ⟨earlier, hearlier, rfl⟩ := after_push h.1 hds
  rw [List.foldl_append, h.2 earlier hearlier, List.foldl_cons, List.foldl_nil]

end DeltaLog

end Zugfolge.Foundation
