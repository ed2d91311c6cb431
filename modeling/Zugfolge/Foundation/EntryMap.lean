/-
Maps that remember the order of their entries.

Such a map is a list of entries with distinct keys.  A new key is put at the end, and a key that is
there keeps its place.
-/
import Mathlib.Data.List.Nodup

namespace Zugfolge.Foundation

variable {κ ν : Type} [DecidableEq κ]

/-- A map that remembers the order of its entries. -/
structure EntryMap (κ ν : Type) where
  entries : List (κ × ν)
  nodup : (entries.map Prod.fst).Nodup

namespace EntryMap

/-- No entries. -/
def empty : EntryMap κ ν := ⟨[], List.nodup_nil⟩

/-- The keys in their order. -/
def keys (m : EntryMap κ ν) : List κ := m.entries.map Prod.fst

/-- The values in the order of their keys. -/
def values (m : EntryMap κ ν) : List ν := m.entries.map Prod.snd

/-- The value of a key. -/
def get? (m : EntryMap κ ν) (k : κ) : Option ν := m.entries.lookup k

/-- Whether a key is there. -/
def has (m : EntryMap κ ν) (k : κ) : Bool := (m.get? k).isSome

variable {k k' : κ} {m : EntryMap κ ν} {v : ν}

lemma get?_eq_some_iff :
    m.get? k = some v ↔ (k, v) ∈ m.entries := by
  obtain ⟨entries, hnodup⟩ := m
  change entries.lookup k = some v ↔ (k, v) ∈ entries
  induction entries with
  | nil => simp
  | cons entry entries ih =>
    rw [List.map_cons, List.nodup_cons] at hnodup
    obtain ⟨hnew, hnodup⟩ := hnodup
    rw [List.lookup_cons, List.mem_cons]
    by_cases hkey : k = entry.1
    · rw [beq_iff_eq.mpr hkey]
      simp only [Option.some.injEq, hkey]
      constructor
      · rintro rfl
        exact .inl rfl
      · rintro (heq | hin)
        · exact (congrArg Prod.snd heq).symm
        · exact absurd (List.mem_map.mpr ⟨_, hin, rfl⟩) hnew
    · rw [beq_eq_false_iff_ne.mpr hkey]
      rw [ih hnodup]
      constructor
      · exact .inr
      · rintro (heq | hin)
        · exact absurd (congrArg Prod.fst heq) hkey
        · exact hin

lemma get?_eq_none_iff : m.get? k = none ↔ k ∉ m.keys := by
  rw [Option.eq_none_iff_forall_ne_some, keys, List.mem_map]
  constructor
  · rintro hnone ⟨⟨k', v⟩, hin, rfl⟩
    exact hnone v (get?_eq_some_iff.mpr hin)
  · rintro hnot v heq
    exact hnot ⟨(k, v), get?_eq_some_iff.mp heq, rfl⟩

lemma has_iff : m.has k = true ↔ k ∈ m.keys := by
  rw [has, Option.isSome_iff_ne_none, Ne, get?_eq_none_iff, not_not]

lemma has_eq_false_iff : m.has k = false ↔ m.get? k = none := by
  rw [has, Option.isSome_eq_false_iff, Option.isNone_iff_eq_none]

@[simp] lemma get?_empty (k : κ) : (empty : EntryMap κ ν).get? k = none := rfl

/-! ### Changes -/

/-- The entry with the new value, if it has the key. -/
def renew (k : κ) (v : ν) (entry : κ × ν) : κ × ν := if entry.1 = k then (k, v) else entry

lemma renew_fst (k : κ) (v : ν) (entry : κ × ν) : (renew k v entry).1 = entry.1 := by
  unfold renew
  split
  · rename_i heq
    exact heq.symm
  · rfl

/-- The entries after a value was set. -/
def setEntries (m : EntryMap κ ν) (k : κ) (v : ν) : List (κ × ν) :=
  if m.has k then m.entries.map (renew k v) else m.entries ++ [(k, v)]

lemma nodup_setEntries (m : EntryMap κ ν) (k : κ) (v : ν) :
    ((m.setEntries k v).map Prod.fst).Nodup := by
  unfold setEntries
  split
  · rw [List.map_map]
    have hsame : Prod.fst ∘ renew k v = Prod.fst := funext (renew_fst k v)
    rw [hsame]
    exact m.nodup
  · rename_i hnot
    rw [List.map_append, List.nodup_append']
    refine ⟨m.nodup, by simp, ?_⟩
    have hnew : k ∉ m.entries.map Prod.fst := fun hin => hnot (has_iff.mpr hin)
    simpa using hnew

/-- Sets the value of a key. -/
def set (m : EntryMap κ ν) (k : κ) (v : ν) : EntryMap κ ν :=
  ⟨m.setEntries k v, m.nodup_setEntries k v⟩

/-- Takes a key out. -/
def delete (m : EntryMap κ ν) (k : κ) : EntryMap κ ν :=
  ⟨m.entries.filter fun entry => entry.1 ≠ k,
    m.nodup.sublist (List.filter_sublist.map Prod.fst)⟩

/-- The entries in the order of their keys. -/
def sortKeys (m : EntryMap κ ν) (le : κ → κ → Bool) : EntryMap κ ν :=
  ⟨m.entries.mergeSort fun left right => le left.1 right.1,
    ((List.mergeSort_perm _ _).map Prod.fst).nodup_iff.mpr m.nodup⟩

/-- The entries whose values pass a test. -/
def filterValues (m : EntryMap κ ν) (test : ν → Bool) : EntryMap κ ν :=
  ⟨m.entries.filter fun entry => test entry.2, m.nodup.sublist (List.filter_sublist.map Prod.fst)⟩

/-- The map of some entries; of two entries with one key the later one counts. -/
def ofEntries (entries : List (κ × ν)) : EntryMap κ ν :=
  entries.foldl (fun m entry => m.set entry.1 entry.2) empty

/-- What is found after a value was set. -/
lemma get?_set (m : EntryMap κ ν) (k : κ) (v : ν) (k' : κ) :
    (m.set k v).get? k' = if k' = k then some v else m.get? k' := by
  apply Option.ext
  intro v'
  rw [get?_eq_some_iff]
  change (k', v') ∈ m.setEntries k v ↔ _
  unfold setEntries
  by_cases hkey : k' = k
  · subst hkey
    rw [if_pos rfl, Option.some.injEq]
    split
    · rename_i hhas
      rw [List.mem_map]
      constructor
      · rintro ⟨entry, -, heq⟩
        unfold renew at heq
        split at heq
        · exact congrArg Prod.snd heq
        · rename_i hne
          exact absurd (congrArg Prod.fst heq) hne
      · rintro rfl
        obtain ⟨old, hold⟩ := Option.isSome_iff_exists.mp hhas
        exact ⟨(k', old), get?_eq_some_iff.mp hold, if_pos rfl⟩
    · rename_i hnot
      rw [List.mem_append, List.mem_singleton]
      constructor
      · rintro (hin | heq)
        · exact absurd (has_iff.mpr (List.mem_map.mpr ⟨_, hin, rfl⟩)) hnot
        · exact (congrArg Prod.snd heq).symm
      · rintro rfl
        exact .inr rfl
  · rw [if_neg hkey, get?_eq_some_iff]
    split
    · rw [List.mem_map]
      constructor
      · rintro ⟨entry, hin, heq⟩
        unfold renew at heq
        split at heq
        · exact absurd (congrArg Prod.fst heq).symm hkey
        · exact heq ▸ hin
      · exact fun hin => ⟨(k', v'), hin, if_neg hkey⟩
    · rw [List.mem_append, List.mem_singleton]
      constructor
      · rintro (hin | heq)
        · exact hin
        · exact absurd (congrArg Prod.fst heq) hkey
      · exact .inl

@[simp] lemma get?_set_self (m : EntryMap κ ν) (k : κ) (v : ν) : (m.set k v).get? k = some v := by
  rw [get?_set, if_pos rfl]

lemma get?_set_ne (m : EntryMap κ ν) (v : ν) (h : k' ≠ k) :
    (m.set k v).get? k' = m.get? k' := by
  rw [get?_set, if_neg h]

lemma get?_delete (m : EntryMap κ ν) (k k' : κ) :
    (m.delete k).get? k' = if k' = k then none else m.get? k' := by
  apply Option.ext
  intro v
  rw [get?_eq_some_iff]
  change (k', v) ∈ m.entries.filter _ ↔ _
  rw [List.mem_filter, decide_eq_true_eq]
  by_cases hkey : k' = k
  · simp [hkey]
  · rw [if_neg hkey, get?_eq_some_iff]
    exact and_iff_left hkey

/-- What is found among the entries whose values pass a test. -/
lemma get?_filterValues (m : EntryMap κ ν) (test : ν → Bool) (k : κ) :
    (m.filterValues test).get? k = (m.get? k).filter test := by
  apply Option.ext
  intro v
  rw [get?_eq_some_iff, Option.filter_eq_some_iff, get?_eq_some_iff]
  exact List.mem_filter

lemma get?_of_delete (h : (m.delete k).get? k' = some v) :
    m.get? k' = some v := by
  rw [get?_delete] at h
  split at h
  · cases h
  · exact h

lemma has_set (m : EntryMap κ ν) (k : κ) (v : ν) (k' : κ) :
    (m.set k v).has k' = true ↔ k' = k ∨ m.has k' = true := by
  unfold has
  rw [get?_set]
  split
  · rename_i heq
    simp [heq]
  · rename_i hne
    simp [hne]

lemma has_of_delete (h : (m.delete k).has k' = true) :
    k' ≠ k ∧ m.has k' = true := by
  unfold has at h ⊢
  rw [get?_delete] at h
  split at h
  · cases h
  · rename_i hne
    exact ⟨hne, h⟩

/-- What is found after some keys were taken out was there, under another key. -/
lemma get?_foldl_delete {α : Type} {key : α → κ} {objects : List α}
    (h : (objects.foldl (fun m a => m.delete (key a)) m).get? k = some v) :
    m.get? k = some v ∧ ∀ a ∈ objects, key a ≠ k := by
  induction objects generalizing m with
  | nil => exact ⟨h, by simp⟩
  | cons a objects ih =>
    rw [List.foldl_cons] at h
    obtain ⟨hfound, hrest⟩ := ih h
    refine ⟨get?_of_delete hfound, ?_⟩
    rintro b hb rfl
    rcases List.mem_cons.mp hb with rfl | hb
    · rw [get?_delete, if_pos rfl] at hfound
      cases hfound
    · exact hrest b hb rfl

/-- The keys after some values were set. -/
lemma has_foldl_set {α : Type} {key : α → κ} {value : α → ν} {objects : List α}
    (h : (objects.foldl (fun m a => m.set (key a) (value a)) m).has k = true) :
    m.has k = true ∨ ∃ a ∈ objects, key a = k := by
  induction objects generalizing m with
  | nil => exact .inl h
  | cons a objects ih =>
    rcases ih h with hset | ⟨b, hb, heq⟩
    · rcases (has_set m _ _ k).mp hset with rfl | hold
      · exact .inr ⟨a, List.mem_cons_self, rfl⟩
      · exact .inl hold
    · exact .inr ⟨b, List.mem_cons_of_mem a hb, heq⟩

/-- What is found in a map that was built from entries is the last one of a key. -/
lemma get?_foldl_set (entries : List (κ × ν)) (m : EntryMap κ ν) (k : κ) :
    (entries.foldl (fun m entry => m.set entry.1 entry.2) m).get? k =
      ((entries.reverse.find? fun entry => entry.1 = k).map Prod.snd).or (m.get? k) := by
  induction entries generalizing m with
  | nil => rfl
  | cons entry entries ih =>
    rw [List.foldl_cons, ih, List.reverse_cons, List.find?_append]
    cases entries.reverse.find? fun entry => entry.1 = k with
    | some later => rfl
    | none =>
      rw [get?_set]
      by_cases hkey : k = entry.1
      · simp [hkey]
      · simp [hkey, Ne.symm hkey]

lemma mem_of_get?_ofEntries {entries : List (κ × ν)}
    (h : (ofEntries entries).get? k = some v) : (k, v) ∈ entries := by
  rw [ofEntries, get?_foldl_set, get?_empty, Option.or_none] at h
  obtain ⟨entry, hfound, rfl⟩ := Option.map_eq_some_iff.mp h
  have hin := List.mem_reverse.mp (List.mem_of_find?_eq_some hfound)
  have hkey : decide (entry.1 = k) = true :=
    List.find?_some (p := fun entry : κ × ν => decide (entry.1 = k)) hfound
  rw [← of_decide_eq_true hkey]
  exact hin

end EntryMap

end Zugfolge.Foundation
