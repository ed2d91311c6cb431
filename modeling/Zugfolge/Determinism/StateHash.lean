/-
The canonical hash of a state.

A hasher is fed with a schema and then with named values of several types.  Each of them is written
as a tag, the length of its name, its name, the length of its value and its value.  At the end
stands the number of entries.

* `HashInput.fed_ne`: different inputs feed different bytes.
-/
import Zugfolge.Foundation.Blocks
import Zugfolge.Foundation.Sha256

namespace Zugfolge.Determinism

open Foundation

/-- Tells hashes of states from any other use of the hash function. -/
def stateDomain : List UInt8 := utf8 "zugfolge/state/v1"

def tagSchema : UInt8 := 1
/-- The tag of a signed number. -/
def tagInt : UInt8 := 2
/-- The tag of an unsigned number. -/
def tagUint : UInt8 := 3
/-- The tag of a truth value. -/
def tagFlag : UInt8 := 4
def tagText : UInt8 := 5
def tagBytes : UInt8 := 6
/-- The tag of the length of a sequence. -/
def tagSeq : UInt8 := 7
/-- The tag of a hash that is part of a state. -/
def tagHash : UInt8 := 8
/-- The tag behind the last entry. -/
def tagEnd : UInt8 := 255

/-- The value of a hash. -/
abbrev StateHash := Vector UInt8 32

/-- Builds the canonical hash of a state: the bytes fed to the hash function, and how many entries
they hold. -/
structure StateHasher where
  inner : List UInt8
  fields : ℕ

def entryBytes (tag : UInt8) (name : String) (value : List UInt8) : List UInt8 :=
  [tag] ++ beBytes 4 (utf8 name).length ++ utf8 name ++ beBytes 4 value.length ++ value

namespace StateHasher

variable (h : StateHasher)

/-- Writes an entry.  A name or a value whose length does not fit into 32 bits panics. -/
def writeEntry (tag : UInt8) (name : String) (value : List UInt8) :
    Option StateHasher :=
  if (utf8 name).length < 2 ^ 32 && value.length < 2 ^ 32 then
    some { inner := h.inner ++ entryBytes tag name value
           fields := min (h.fields + 1) (2 ^ 64 - 1) }
  else none

/-- Begins a hash for a schema. -/
def new (schema : String) : Option StateHasher :=
  writeEntry { inner := stateDomain, fields := 0 } tagSchema "schema" (utf8 schema)

/-- Feeds a signed number. -/
def int (name : String) (value : Int64) : Option StateHasher :=
  h.writeEntry tagInt name (beBytes 8 value.toUInt64.toNat)

/-- Feeds an unsigned number. -/
def uint (name : String) (value : UInt64) : Option StateHasher :=
  h.writeEntry tagUint name (beBytes 8 value.toNat)

/-- Feeds a truth value. -/
def flag (name : String) (value : Bool) : Option StateHasher :=
  h.writeEntry tagFlag name [if value then 1 else 0]

def text (name value : String) : Option StateHasher :=
  h.writeEntry tagText name (utf8 value)

/-- Feeds raw bytes. -/
def bytes (name : String) (value : List UInt8) : Option StateHasher :=
  h.writeEntry tagBytes name value

/-- Begins a sequence and feeds its length. -/
def seq (name : String) (len : UInt64) : Option StateHasher :=
  h.writeEntry tagSeq name (beBytes 8 len.toNat)

/-- Feeds a hash that is already there. -/
def hash (name : String) (value : StateHash) : Option StateHasher :=
  h.writeEntry tagHash name value.toList

/-- Writes the number of the entries behind them. -/
def close : Option StateHasher := h.writeEntry tagEnd "" (beBytes 8 h.fields)

/-- Closes the hash. -/
def finish : Option StateHash :=
  h.close.map fun h => ⟨(sha256 h.inner).toArray, by rw [List.size_toArray, length_sha256]⟩

end StateHasher

/-- An entry that a caller feeds to a hasher. -/
inductive HashEntry where
  | int (name : String) (value : Int64)
  | uint (name : String) (value : UInt64)
  | flag (name : String) (value : Bool)
  | text (name value : String)
  | bytes (name : String) (value : List UInt8)
  | seq (name : String) (len : UInt64)
  | hash (name : String) (value : StateHash)
  deriving DecidableEq

namespace HashEntry

/-- Feeds the entry to a hasher. -/
def feed (h : StateHasher) : HashEntry → Option StateHasher
  | .int name value => h.int name value
  | .uint name value => h.uint name value
  | .flag name value => h.flag name value
  | .text name value => h.text name value
  | .bytes name value => h.bytes name value
  | .seq name len => h.seq name len
  | .hash name value => h.hash name value

/-- The tag under which an entry is written. -/
def tag : HashEntry → UInt8
  | .int .. => tagInt
  | .uint .. => tagUint
  | .flag .. => tagFlag
  | .text .. => tagText
  | .bytes .. => tagBytes
  | .seq .. => tagSeq
  | .hash .. => tagHash

def name : HashEntry → String
  | .int name _ => name
  | .uint name _ => name
  | .flag name _ => name
  | .text name _ => name
  | .bytes name _ => name
  | .seq name _ => name
  | .hash name _ => name

/-- The bytes of the value of an entry. -/
def value : HashEntry → List UInt8
  | .int _ value => beBytes 8 value.toUInt64.toNat
  | .uint _ value => beBytes 8 value.toNat
  | .flag _ value => [if value then 1 else 0]
  | .text _ value => utf8 value
  | .bytes _ value => value
  | .seq _ len => beBytes 8 len.toNat
  | .hash _ value => value.toList

/-- The bytes of an entry. -/
def code (e : HashEntry) : List UInt8 := entryBytes e.tag e.name e.value

lemma feed_eq (h : StateHasher) (e : HashEntry) :
    e.feed h = h.writeEntry e.tag e.name e.value := by cases e <;> rfl

end HashEntry

/-- What is hashed: a schema and the entries of a state. -/
structure HashInput where
  schema : String
  entries : List HashEntry
  deriving DecidableEq

/-- Feeds entries one after another. -/
def feedAll (h : StateHasher) : List HashEntry → Option StateHasher
  | [] => some h
  | e :: entries => do feedAll (← e.feed h) entries

/-- The bytes that an input feeds to the hash function. -/
def HashInput.fed (input : HashInput) : Option (List UInt8) := do
  let h ← StateHasher.new input.schema
  let h ← feedAll h input.entries
  return (← h.close).inner

def HashInput.stateHash (input : HashInput) : Option StateHash := do
  let h ← StateHasher.new input.schema
  let h ← feedAll h input.entries
  h.finish

/-! ### One entry -/

/-- The lengths of an entry fit into 32 bits. -/
def Fits (name : String) (value : List UInt8) : Prop :=
  (utf8 name).length < 2 ^ 32 ∧ value.length < 2 ^ 32

lemma StateHasher.writeEntry_some {h h' : StateHasher} {tag : UInt8} {name : String}
    {value : List UInt8} (hw : h.writeEntry tag name value = some h') :
    Fits name value ∧ h'.inner = h.inner ++ entryBytes tag name value := by
  unfold StateHasher.writeEntry at hw
  split at hw
  · rename_i hfits
    rw [Bool.and_eq_true, decide_eq_true_eq, decide_eq_true_eq] at hfits
    cases hw
    exact ⟨hfits, rfl⟩
  · cases hw

/-- No entry is the beginning of another one: the lengths say where its parts end. -/
lemma entryBytes_inj {tag tag' : UInt8} {name name' : String} {value value' : List UInt8}
    (hfits : Fits name value) (hfits' : Fits name' value') {more more' : List UInt8}
    (h : entryBytes tag name value ++ more = entryBytes tag' name' value' ++ more') :
    tag = tag' ∧ name = name' ∧ value = value' := by
  simp only [entryBytes, List.append_assoc] at h
  obtain ⟨htag, h⟩ := List.append_inj h rfl
  obtain ⟨hnameLength, h⟩ := List.append_inj h (by simp)
  have hname : (utf8 name).length = (utf8 name').length :=
    beBytes_inj (by simpa using hfits.1) (by simpa using hfits'.1) hnameLength
  obtain ⟨hname, h⟩ := List.append_inj h hname
  obtain ⟨hvalueLength, h⟩ := List.append_inj h (by simp)
  have hvalue : value.length = value'.length :=
    beBytes_inj (by simpa using hfits.2) (by simpa using hfits'.2) hvalueLength
  obtain ⟨hvalue, -⟩ := List.append_inj h hvalue
  exact ⟨List.singleton_inj.mp htag, utf8_inj hname, hvalue⟩

lemma beBytes_toNat_inj {n m : UInt64} (h : beBytes 8 n.toNat = beBytes 8 m.toNat) : n = m :=
  UInt64.toNat_inj.mp (beBytes_inj n.toNat_lt m.toNat_lt h)

lemma int64_inj {n m : Int64} (h : n.toUInt64 = m.toUInt64) : n = m := by
  cases n
  cases m
  exact congrArg Int64.ofUInt64 h

namespace HashEntry

lemma eq_of_parts {e e' : HashEntry} (htag : e.tag = e'.tag) (hname : e.name = e'.name)
    (hvalue : e.value = e'.value) : e = e' := by
  cases e <;> cases e' <;>
    simp [tag, tagInt, tagUint, tagFlag, tagText, tagBytes, tagSeq, tagHash] at htag
  all_goals cases hname
  case int.int.refl => exact congrArg _ (int64_inj (beBytes_toNat_inj hvalue))
  case uint.uint.refl => exact congrArg _ (beBytes_toNat_inj hvalue)
  case flag.flag.refl value value' =>
      cases value <;> cases value' <;> first | rfl | simp [HashEntry.value] at hvalue
  case text.text.refl => exact congrArg _ (utf8_inj hvalue)
  case bytes.bytes.refl => exact congrArg _ hvalue
  case seq.seq.refl => exact congrArg _ (beBytes_toNat_inj hvalue)
  case hash.hash.refl => exact congrArg _ (Vector.toList_inj.mp hvalue)

lemma tag_ne_end (e : HashEntry) : e.tag ≠ tagEnd := by
  cases e <;>
    simp [tag, tagInt, tagUint, tagFlag, tagText, tagBytes, tagSeq, tagHash, tagEnd]

end HashEntry

/-! ### All entries -/

/-- The entries of an input that was fed fit, and their bytes stand behind those of the hasher. -/
lemma feedAll_some {entries : List HashEntry} {h h' : StateHasher}
    (hfed : feedAll h entries = some h') :
    (∀ e ∈ entries, Fits e.name e.value) ∧ h'.inner
    = h.inner ++ entries.flatMap HashEntry.code := by
  induction entries generalizing h with
  | nil =>
    cases hfed
    exact ⟨List.forall_mem_nil _, (List.append_nil _).symm⟩
  | cons e entries ih =>
    obtain ⟨next, hnext, hrest⟩ := Option.bind_eq_some_iff.mp hfed
    rw [HashEntry.feed_eq] at hnext
    obtain ⟨hfits, hinner⟩ := StateHasher.writeEntry_some hnext
    obtain ⟨hall, hafter⟩ := ih hrest
    refine ⟨List.forall_mem_cons.mpr ⟨hfits, hall⟩, ?_⟩
    rw [hafter, hinner, List.append_assoc, List.flatMap_cons]
    rfl

/-- What an input feeds: the domain, the schema, the entries and their number. -/
lemma HashInput.fed_some {input : HashInput} {fed : List UInt8} (hfed : input.fed = some fed) :
    Fits "schema" (utf8 input.schema) ∧ (∀ e ∈ input.entries, Fits e.name e.value) ∧
      ∃ fields, Fits "" (beBytes 8 fields) ∧
        fed = stateDomain ++ (entryBytes tagSchema "schema" (utf8 input.schema) ++
          (input.entries.flatMap HashEntry.code ++ entryBytes tagEnd "" (beBytes 8 fields))) := by
  obtain ⟨h, hnew, hfed⟩ := Option.bind_eq_some_iff.mp hfed
  obtain ⟨h', hall, hfed⟩ := Option.bind_eq_some_iff.mp hfed
  obtain ⟨h'', hclose, hfed⟩ := Option.bind_eq_some_iff.mp hfed
  obtain ⟨hschema, hfirst⟩ := StateHasher.writeEntry_some hnew
  obtain ⟨hentries, hsecond⟩ := feedAll_some hall
  obtain ⟨hend, hthird⟩ := StateHasher.writeEntry_some hclose
  refine ⟨hschema, hentries, h'.fields, hend, ?_⟩
  cases hfed
  rw [hthird, hsecond, hfirst]
  simp only [List.append_assoc]

/-- The bytes that are fed tell the schema and the entries. -/
theorem HashInput.fed_inj {input input' : HashInput} {fed : List UInt8}
    (hfed : input.fed = some fed) (hfed' : input'.fed = some fed) : input = input' := by
  obtain ⟨hschema, hentries, fields, hend, heq⟩ := fed_some hfed
  obtain ⟨hschema', hentries', fields', hend', heq'⟩ := fed_some hfed'
  rw [heq] at heq'
  have hbytes := List.append_cancel_left heq'
  obtain ⟨-, -, hutf8⟩ := entryBytes_inj hschema hschema' hbytes
  have hsame : input.schema = input'.schema := utf8_inj hutf8
  rw [hsame] at hbytes
  -- an entry does not begin like the number behind the entries
  have hapart : ∀ (e : HashEntry), Fits e.name e.value → ∀ fields, Fits "" (beBytes 8 fields) →
      ∀ more, e.code ++ more ≠ entryBytes tagEnd "" (beBytes 8 fields) := by
    intro e hfits fields hend more h
    rw [← List.append_nil (entryBytes tagEnd "" (beBytes 8 fields))] at h
    exact e.tag_ne_end (entryBytes_inj hfits hend h).1
  obtain ⟨hall, -⟩ := codes_inj id (fun _ _ heq => congrArg HashEntry.code heq)
    (fun e he e' he' more more' h => by
      obtain ⟨htag, hname, hvalue⟩ := entryBytes_inj (hentries e he) (hentries' e' he') h
      exact HashEntry.eq_of_parts htag hname hvalue)
    (fun e' he' more => hapart e' (hentries' e' he') fields hend more)
    (fun e he more => hapart e (hentries e he) fields' hend' more)
    (List.append_cancel_left hbytes)
  rw [List.map_id, List.map_id] at hall
  cases input
  cases input'
  exact congrArg₂ HashInput.mk hsame hall

/-- **Different inputs feed different bytes to the hash function.** -/
theorem HashInput.fed_ne {input input' : HashInput} (hne : input ≠ input') {fed fed' : List UInt8}
    (hfed : input.fed = some fed) (hfed' : input'.fed = some fed') : fed ≠ fed' := by
  rintro rfl
  exact hne (fed_inj hfed hfed')

/-- A name and a text that were divided elsewhere. -/
theorem HashInput.fed_ne_divided :
    (HashInput.mk "test/v1" [.text "ab" "c"]).fed
      ≠ (HashInput.mk "test/v1" [.text "a" "bc"]).fed := by
  have hfed : (HashInput.mk "test/v1" [.text "ab" "c"]).fed.isSome := by decide +kernel
  have hfed' : (HashInput.mk "test/v1" [.text "a" "bc"]).fed.isSome := by decide +kernel
  obtain ⟨fed, hfed⟩ := Option.isSome_iff_exists.mp hfed
  obtain ⟨fed', hfed'⟩ := Option.isSome_iff_exists.mp hfed'
  rw [hfed, hfed']
  exact fun heq => fed_ne (by decide) hfed hfed' (Option.some.inj heq)

end Zugfolge.Determinism
