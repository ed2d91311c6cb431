/-
The codec of the stored state.

A stored value has no whole numbers of any size, no maps and no sets.  They are written as records
with a tag.  A record of the state itself is written as it is, whatever its members are called.

* `decode_encode_iff`: exactly the values without such a record are read back;
* `codec_faithful_iff`: exactly among them the written values tell the values.
-/
import Mathlib.Data.List.Forall2
import Mathlib.Data.Rat.Defs
import Mathlib.Data.Set.Function
import Zugfolge.Economy.Numerals

namespace Zugfolge.Economy

/-! ### Values -/

/-- A finite number.  Zero comes with two signs. -/
inductive Number where
  | negativeZero
  | finite (value : ℚ)
  deriving DecidableEq

/-- The number as a key: the two zeros are one. -/
def Number.asKey : Number → Number
  | .negativeZero => .finite 0
  | .finite value => .finite value

/-- A value of the state.  The members of an object are listed in the order of its properties, the
entries of a map and the values of a set as they were put in. -/
inductive Value where
  | null
  | bool (value : Bool)
  | number (value : Number)
  | string (value : String)
  | bigint (value : Int)
  | array (items : List Value)
  | object (members : List (String × Value))
  | map (entries : List (Value × Value))
  | set (values : List Value)

namespace Value

/-- The value as it becomes a key. -/
def asKey : Value → Value
  | .number value => .number value.asKey
  | value => value

/-- Two keys are one.  Arrays, objects, maps and sets are told apart by what they are, not by what
they hold, so that two of them are never one. -/
def sameKey : Value → Value → Bool
  | .null, .null => true
  | .bool value, .bool value' => value == value'
  | .number value, .number value' => value.asKey == value'.asKey
  | .string value, .string value' => value == value'
  | .bigint value, .bigint value' => value == value'
  | _, _ => false

end Value

/-- Puts an entry into a map.  A key that is there gets the new value in its place. -/
def putEntry (entries : List (Value × Value)) (entry : Value × Value) : List (Value × Value) :=
  if entries.any fun other => other.1.sameKey entry.1 then
    entries.map fun other => if other.1.sameKey entry.1 then (other.1, entry.2) else other
  else entries ++ [(entry.1.asKey, entry.2)]

def newMap (entries : List (Value × Value)) : List (Value × Value) := entries.foldl putEntry []

/-- Puts a value into a set. -/
def putValue (values : List Value) (value : Value) : List Value :=
  if values.any fun other => other.sameKey value then values else values ++ [value.asKey]

def newSet (values : List Value) : List Value := values.foldl putValue []

mutual

/-- A value that can be built: no name stands twice in an object, a map and a set hold every key
once. -/
def Value.WellFormed : Value → Prop
  | .array items => eachWellFormed items
  | .object members => (members.map Prod.fst).Nodup ∧ membersWellFormed members
  | .map entries => newMap entries = entries ∧ entriesWellFormed entries
  | .set values => newSet values = values ∧ eachWellFormed values
  | .null | .bool _ | .number _ | .string _ | .bigint _ => True

/-- All values of a list can be built. -/
def eachWellFormed : List Value → Prop
  | [] => True
  | value :: values => value.WellFormed ∧ eachWellFormed values

/-- All members of an object can be built. -/
def membersWellFormed : List (String × Value) → Prop
  | [] => True
  | (_, value) :: members => value.WellFormed ∧ membersWellFormed members

/-- All keys and values of a map can be built. -/
def entriesWellFormed : List (Value × Value) → Prop
  | [] => True
  | (key, value) :: entries =>
    key.WellFormed ∧ value.WellFormed ∧ entriesWellFormed entries

end

/-- A value that can be built. -/
abbrev EconomyValue := { value : Value // value.WellFormed }

/-! ### Writing -/

/-- The name of the member that holds a tag. -/
def typeTag : String := "$zugfolgeType"

mutual

def encodeEconomyValue : Value → Value
  | .bigint value =>
    .object [(typeTag, .string "bigint"), ("value", .string (printInteger value))]
  | .map entries => .object [(typeTag, .string "map"), ("entries", .array (encodeEntries entries))]
  | .set values => .object [(typeTag, .string "set"), ("values", .array (encodeEach values))]
  | .array items => .array (encodeEach items)
  | .object members => .object (encodeMembers members)
  | .null => .null
  | .bool value => .bool value
  | .number value => .number value
  | .string value => .string value

/-- Writes the values of a list. -/
def encodeEach : List Value → List Value
  | [] => []
  | value :: values => encodeEconomyValue value :: encodeEach values

/-- Writes the members of an object. -/
def encodeMembers : List (String × Value) → List (String × Value)
  | [] => []
  | (name, value) :: members => (name, encodeEconomyValue value) :: encodeMembers members

/-- Writes the entries of a map as pairs. -/
def encodeEntries : List (Value × Value) → List Value
  | [] => []
  | (key, value) :: entries =>
    .array [encodeEconomyValue key, encodeEconomyValue value] :: encodeEntries entries

end

/-! ### Reading -/

def member (members : List (String × Value)) (name : String) : Option Value := members.lookup name

def Value.isText (text : String) : Value → Bool
  | .string value => value == text
  | _ => false

def Value.text? : Value → Option String
  | .string value => some value
  | _ => none

def Value.isArray : Value → Bool
  | .array _ => true
  | _ => false

def hasTag (members : List (String × Value)) (tag : String) : Bool :=
  (member members typeTag).any fun value => value.isText tag

mutual

/-- Reads a value; `none` where this throws. -/
def decodeEconomyValue : Value → Option Value
  | .array items => (decodeEach items).map .array
  | .object members =>
    if hasTag members "bigint" && ((member members "value").bind Value.text?).isSome then
      (((member members "value").bind Value.text?).bind parseInteger).map .bigint
    else if hasTag members "map" && (member members "entries").any Value.isArray then
      (decodeMemberEntries "entries" members).map fun entries => .map (newMap entries)
    else if hasTag members "set" && (member members "values").any Value.isArray then
      (decodeMemberValues "values" members).map fun values => .set (newSet values)
    else (decodeMembers members).map .object
  | .null => some .null
  | .bool value => some (.bool value)
  | .number value => some (.number value)
  | .string value => some (.string value)
  | .bigint value => some (.bigint value)
  | .map _ => some (.object [])
  | .set _ => some (.object [])

/-- Reads the values of a list. -/
def decodeEach : List Value → Option (List Value)
  | [] => some []
  | value :: values => do return (← decodeEconomyValue value) :: (← decodeEach values)

/-- Reads the members of an object. -/
def decodeMembers : List (String × Value) → Option (List (String × Value))
  | [] => some []
  | (name, value) :: members => do
    return (name, ← decodeEconomyValue value) :: (← decodeMembers members)

/-- Reads the pairs in a list. -/
def decodeEntries : List Value → Option (List (Value × Value))
  | [] => some []
  | .array [key, value] :: entries => do
    return (← decodeEconomyValue key, ← decodeEconomyValue value) :: (← decodeEntries entries)
  | _ :: _ => none

/-- Reads the pairs in a member of a record. -/
def decodeMemberEntries (name : String) : List (String × Value) → Option (List (Value × Value))
  | [] => some []
  | (other, value) :: members =>
    if other = name then decodeArrayEntries value else decodeMemberEntries name members

/-- Reads the pairs in an array. -/
def decodeArrayEntries : Value → Option (List (Value × Value))
  | .array items => decodeEntries items
  | _ => none

/-- Reads the values in a member of a record. -/
def decodeMemberValues (name : String) : List (String × Value) → Option (List Value)
  | [] => some []
  | (other, value) :: members =>
    if other = name then decodeArrayValues value else decodeMemberValues name members

def decodeArrayValues : Value → Option (List Value)
  | .array items => decodeEach items
  | _ => none

end

/-! ### Records that look like written values -/

/-- The record has the tag of a whole number, a map or a set, and the member that goes with it. -/
def carriesTag (members : List (String × Value)) : Bool :=
  (hasTag members "bigint" && ((member members "value").bind Value.text?).isSome) ||
    (hasTag members "map" && (member members "entries").any Value.isArray) ||
    (hasTag members "set" && (member members "values").any Value.isArray)

mutual

/-- No record in the value looks like a written value. -/
def Value.isPlain : Value → Bool
  | .array items => eachPlain items
  | .object members => !carriesTag members && membersPlain members
  | .map entries => entriesPlain entries
  | .set values => eachPlain values
  | .null | .bool _ | .number _ | .string _ | .bigint _ => true

/-- No record in the values looks like a written value. -/
def eachPlain : List Value → Bool
  | [] => true
  | value :: values => value.isPlain && eachPlain values

/-- No record in the members looks like a written value. -/
def membersPlain : List (String × Value) → Bool
  | [] => true
  | (_, value) :: members => value.isPlain && membersPlain members

/-- No record in the entries looks like a written value. -/
def entriesPlain : List (Value × Value) → Bool
  | [] => true
  | (key, value) :: entries => key.isPlain && value.isPlain && entriesPlain entries

end

/-! ### What writing keeps -/

variable (members : List (String × Value))

lemma member_encodeMembers (name : String) :
    member (encodeMembers members) name = (member members name).map encodeEconomyValue := by
  induction members with
  | nil => rfl
  | cons entry members ih =>
    rw [encodeMembers, member, member, List.lookup_cons, List.lookup_cons]
    cases name == entry.1 with
    | true => rfl
    | false => exact ih

@[simp] lemma text?_encode (value : Value) : (encodeEconomyValue value).text? = value.text? := by
  cases value <;> simp [encodeEconomyValue, Value.text?]

@[simp] lemma isText_encode (text : String) (value : Value) :
    (encodeEconomyValue value).isText text = value.isText text := by
  cases value <;> simp [encodeEconomyValue, Value.isText]

@[simp] lemma isArray_encode (value : Value) :
    (encodeEconomyValue value).isArray = value.isArray := by
  cases value <;> simp [encodeEconomyValue, Value.isArray]

@[simp] lemma hasTag_encodeMembers (tag : String) :
    hasTag (encodeMembers members) tag = hasTag members tag := by
  rw [hasTag, hasTag, member_encodeMembers]
  cases member members typeTag <;> simp

@[simp] lemma text?_member_encodeMembers (name : String) :
    (member (encodeMembers members) name).bind Value.text? =
      (member members name).bind Value.text? := by
  rw [member_encodeMembers]
  cases member members name <;> simp

@[simp] lemma isArray_member_encodeMembers (name : String) :
    (member (encodeMembers members) name).any Value.isArray =
      (member members name).any Value.isArray := by
  rw [member_encodeMembers]
  cases member members name <;> simp

/-! ### Reading what was written -/

lemma decode_bigint (value : Int) :
    decodeEconomyValue (encodeEconomyValue (.bigint value)) = some (.bigint value) := by
  simp [encodeEconomyValue, decodeEconomyValue, hasTag, member, List.lookup_cons, typeTag,
    Value.isText, Value.text?, parseInteger_printInteger]

lemma decode_map (entries : List (Value × Value)) :
    decodeEconomyValue (encodeEconomyValue (.map entries)) =
      (decodeEntries (encodeEntries entries)).map fun entries => .map (newMap entries) := by
  simp [encodeEconomyValue, decodeEconomyValue, hasTag, member, List.lookup_cons, typeTag,
    Value.isText, Value.isArray, decodeMemberEntries, decodeArrayEntries]

lemma decode_set (values : List Value) :
    decodeEconomyValue (encodeEconomyValue (.set values)) =
      (decodeEach (encodeEach values)).map fun values => .set (newSet values) := by
  simp [encodeEconomyValue, decodeEconomyValue, hasTag, member, List.lookup_cons, typeTag,
    Value.isText, Value.isArray, decodeMemberValues, decodeArrayValues]

lemma decode_object {members : List (String × Value)} (h : carriesTag members = false) :
    decodeEconomyValue (encodeEconomyValue (.object members)) =
      (decodeMembers (encodeMembers members)).map .object := by
  simp only [carriesTag, Bool.or_eq_false_iff] at h
  obtain ⟨⟨hbigint, hmap⟩, hset⟩ := h
  simp [encodeEconomyValue, decodeEconomyValue, hbigint, hmap, hset]

/-- A record that looks like a written value is not read as a record. -/
lemma decode_object_ne {members : List (String × Value)} (h : carriesTag members = true)
    (members' : List (String × Value)) :
    decodeEconomyValue (encodeEconomyValue (.object members)) ≠ some (.object members') := by
  simp only [carriesTag, Bool.or_eq_true] at h
  intro hread
  simp only [encodeEconomyValue, decodeEconomyValue, hasTag_encodeMembers,
    text?_member_encodeMembers, isArray_member_encodeMembers] at hread
  split at hread
  · obtain ⟨value, -, heq⟩ := Option.map_eq_some_iff.mp hread
    cases heq
  rename_i hbigint
  split at hread
  · obtain ⟨value, -, heq⟩ := Option.map_eq_some_iff.mp hread
    cases heq
  rename_i hmap
  split at hread
  · obtain ⟨value, -, heq⟩ := Option.map_eq_some_iff.mp hread
    cases heq
  rename_i hset
  rcases h with (h | h) | h
  · exact hbigint h
  · exact hmap h
  · exact hset h

/-- What goes from the parts of a value to the value holds of all values. -/
lemma Value.induct {P : Value → Prop} (hnull : P .null) (hbool : ∀ value, P (.bool value))
    (hnumber : ∀ value, P (.number value)) (hstring : ∀ value, P (.string value))
    (hbigint : ∀ value, P (.bigint value))
    (harray : ∀ items, (∀ value ∈ items, P value) → P (.array items))
    (hobject : ∀ members, (∀ member ∈ members, P member.2) → P (.object members))
    (hmap : ∀ entries, (∀ entry ∈ entries, P entry.1 ∧ P entry.2) → P (.map entries))
    (hset : ∀ values, (∀ value ∈ values, P value) → P (.set values)) (value : Value) : P value :=
  @Value.rec P (fun values => ∀ value ∈ values, P value)
    (fun members => ∀ member ∈ members, P member.2)
    (fun entries => ∀ entry ∈ entries, P entry.1 ∧ P entry.2)
    (fun member => P member.2) (fun entry => P entry.1 ∧ P entry.2)
    hnull hbool hnumber hstring hbigint harray hobject hmap hset
    (fun _ h => nomatch h) (fun _ _ hhead htail => List.forall_mem_cons.mpr ⟨hhead, htail⟩)
    (fun _ h => nomatch h) (fun _ _ hhead htail => List.forall_mem_cons.mpr ⟨hhead, htail⟩)
    (fun _ h => nomatch h) (fun _ _ hhead htail => List.forall_mem_cons.mpr ⟨hhead, htail⟩)
    (fun _ _ hvalue => hvalue) (fun _ _ hkey hvalue => ⟨hkey, hvalue⟩) value

/-- A value that can be built is read back if none of its records looks like a written value. -/
def ReadBack (value : Value) : Prop := value.WellFormed → value.isPlain = true →
  decodeEconomyValue (encodeEconomyValue value) = some value

lemma decodeEach_encode {values : List Value} (ih : ∀ value ∈ values, ReadBack value)
    (hwell : eachWellFormed values) (hplain : eachPlain values = true) :
    decodeEach (encodeEach values) = some values := by
  induction values with
  | nil => rfl
  | cons value values later =>
    obtain ⟨hvalue, ih⟩ := List.forall_mem_cons.mp ih
    obtain ⟨hfirst, hlater⟩ := Bool.and_eq_true_iff.mp hplain
    rw [encodeEach, decodeEach, hvalue hwell.1 hfirst, later ih hwell.2 hlater]
    rfl

lemma decodeMembers_encode {members : List (String × Value)}
    (ih : ∀ member ∈ members, ReadBack member.2) (hwell : membersWellFormed members)
    (hplain : membersPlain members = true) :
    decodeMembers (encodeMembers members) = some members := by
  induction members with
  | nil => rfl
  | cons member members later =>
    obtain ⟨hvalue, ih⟩ := List.forall_mem_cons.mp ih
    obtain ⟨hfirst, hlater⟩ := Bool.and_eq_true_iff.mp hplain
    rw [encodeMembers, decodeMembers, hvalue hwell.1 hfirst, later ih hwell.2 hlater]
    rfl

lemma decodeEntries_encode {entries : List (Value × Value)}
    (ih : ∀ entry ∈ entries, ReadBack entry.1 ∧ ReadBack entry.2)
    (hwell : entriesWellFormed entries) (hplain : entriesPlain entries = true) :
    decodeEntries (encodeEntries entries) = some entries := by
  induction entries with
  | nil => rfl
  | cons entry entries later =>
    obtain ⟨⟨hkey, hvalue⟩, ih⟩ := List.forall_mem_cons.mp ih
    obtain ⟨hentry, hlater⟩ := Bool.and_eq_true_iff.mp hplain
    obtain ⟨hplainKey, hplainValue⟩ := Bool.and_eq_true_iff.mp hentry
    rw [encodeEntries, decodeEntries, hkey hwell.1 hplainKey, hvalue hwell.2.1 hplainValue,
      later ih hwell.2.2 hlater]
    rfl

lemma decode_encode (value : Value) : ReadBack value := by
  induction value using Value.induct with
  | harray items ih =>
    intro hwell hplain
    rw [encodeEconomyValue, decodeEconomyValue, decodeEach_encode ih hwell hplain]
    rfl
  | hobject members ih =>
    intro hwell hplain
    obtain ⟨htag, hmembers⟩ := Bool.and_eq_true_iff.mp hplain
    rw [decode_object (Bool.not_eq_true' _ ▸ htag), decodeMembers_encode ih hwell.2 hmembers]
    rfl
  | hmap entries ih =>
    intro hwell hplain
    rw [decode_map, decodeEntries_encode ih hwell.2 hplain, Option.map_some, hwell.1]
  | hset values ih =>
    intro hwell hplain
    rw [decode_set, decodeEach_encode ih hwell.2 hplain, Option.map_some, hwell.1]
  | hbigint value => exact fun _ _ => decode_bigint value
  | hnull | hbool | hnumber | hstring => exact fun _ _ => rfl

/-! ### Keys that were put in -/

/-- What is put in one by one, where some of it may be there already: if nothing was there, all of
it stands behind the rest. -/
lemma foldl_put_eq {α β : Type} {put : List β → α → List β} {entry : α → β}
    (hput : ∀ acc a, put acc a = acc ++ [entry a] ∨ (put acc a).length = acc.length)
    (items : List α) (acc : List β) :
    (items.foldl put acc).length ≤ acc.length + items.length ∧
      ((items.foldl put acc).length = acc.length + items.length →
        items.foldl put acc = acc ++ items.map entry) := by
  induction items generalizing acc with
  | nil => simp
  | cons a items ih =>
    obtain ⟨hle, heq⟩ := ih (put acc a)
    rcases hput acc a with happend | hlength
    · have hgrown : (put acc a).length = acc.length + 1 := by simp [happend]
      rw [List.foldl_cons, List.length_cons]
      refine ⟨by omega, fun hfull => ?_⟩
      rw [heq (by omega), happend, List.append_assoc, List.map_cons, List.singleton_append]
    · rw [List.foldl_cons, List.length_cons]
      exact ⟨by omega, fun hfull => by omega⟩

lemma newMap_eq {entries : List (Value × Value)} (h : (newMap entries).length = entries.length) :
    newMap entries = entries.map fun entry => (entry.1.asKey, entry.2) := by
  have hput : ∀ (acc : List (Value × Value)) entry,
      putEntry acc entry = acc ++ [(entry.1.asKey, entry.2)] ∨
        (putEntry acc entry).length = acc.length := by
    intro acc entry
    unfold putEntry
    split
    · exact .inr (List.length_map _)
    · exact .inl rfl
  exact (foldl_put_eq hput entries []).2 (h.trans (Nat.zero_add _).symm)

lemma newSet_eq {values : List Value} (h : (newSet values).length = values.length) :
    newSet values = values.map Value.asKey := by
  have hput : ∀ (acc : List Value) value,
      putValue acc value = acc ++ [value.asKey] ∨ (putValue acc value).length = acc.length := by
    intro acc value
    unfold putValue
    split
    · exact .inr rfl
    · exact .inl rfl
  exact (foldl_put_eq hput values []).2 (h.trans (Nat.zero_add _).symm)

/-- No record is read as a number. -/
lemma decode_object_ne_number (members : List (String × Value)) (number : Number) :
    decodeEconomyValue (.object members) ≠ some (.number number) := by
  intro hread
  rw [decodeEconomyValue] at hread
  split at hread
  · obtain ⟨value, -, heq⟩ := Option.map_eq_some_iff.mp hread
    cases heq
  split at hread
  · obtain ⟨value, -, heq⟩ := Option.map_eq_some_iff.mp hread
    cases heq
  split at hread
  · obtain ⟨value, -, heq⟩ := Option.map_eq_some_iff.mp hread
    cases heq
  · obtain ⟨value, -, heq⟩ := Option.map_eq_some_iff.mp hread
    cases heq

lemma eq_of_decode_number {value : Value} {number : Number}
    (h : decodeEconomyValue (encodeEconomyValue value) = some (.number number)) :
    value = .number number := by
  cases value with
  | number other => exact Option.some.inj h
  | array items =>
    obtain ⟨read, -, heq⟩ := Option.map_eq_some_iff.mp h
    cases heq
  | object members | bigint value | map entries | set values =>
    exact absurd h (decode_object_ne_number _ _)
  | null | bool value | string value => cases h

/-- What is read is the value, or becomes the value as a key. -/
def ReadAs (value read : Value) : Prop := value = read ∨ value = read.asKey

lemma ReadAs.eq {value read : Value} (hread : ReadAs value read)
    (h : decodeEconomyValue (encodeEconomyValue value) = some read) : read = value := by
  rcases hread with heq | hkey
  · exact heq.symm
  · cases read with
    | number number => exact (eq_of_decode_number h).symm
    | _ => exact hkey.symm

lemma forall₂_readAs (read : List Value) : List.Forall₂ ReadAs read read :=
  List.forall₂_same.mpr fun _ _ => .inl rfl

lemma length_decodeEach {values read : List Value}
    (h : decodeEach (encodeEach values) = some read) : read.length = values.length := by
  induction values generalizing read with
  | nil => cases h; rfl
  | cons value values ih =>
    obtain ⟨first, -, h⟩ := Option.bind_eq_some_iff.mp h
    obtain ⟨later, hlater, h⟩ := Option.bind_eq_some_iff.mp h
    cases h
    exact congrArg (· + 1) (ih hlater)

lemma length_decodeEntries {entries read : List (Value × Value)}
    (h : decodeEntries (encodeEntries entries) = some read) : read.length = entries.length := by
  induction entries generalizing read with
  | nil => cases h; rfl
  | cons entry entries ih =>
    rw [encodeEntries, decodeEntries] at h
    obtain ⟨key, -, h⟩ := Option.bind_eq_some_iff.mp h
    obtain ⟨value, -, h⟩ := Option.bind_eq_some_iff.mp h
    obtain ⟨later, hlater, h⟩ := Option.bind_eq_some_iff.mp h
    cases h
    exact congrArg (· + 1) (ih hlater)

/-- A value that is read back has no record that looks like a written value. -/
def PlainIfRead (value : Value) : Prop :=
  decodeEconomyValue (encodeEconomyValue value) = some value → value.isPlain = true

lemma eachPlain_of_decode {values read : List Value} (ih : ∀ value ∈ values, PlainIfRead value)
    (h : decodeEach (encodeEach values) = some read) (hread : List.Forall₂ ReadAs values read) :
    eachPlain values = true := by
  induction values generalizing read with
  | nil => rfl
  | cons value values later =>
    obtain ⟨hplain, ih⟩ := List.forall_mem_cons.mp ih
    obtain ⟨first, hfirst, h⟩ := Option.bind_eq_some_iff.mp h
    obtain ⟨rest, hrest, h⟩ := Option.bind_eq_some_iff.mp h
    cases h
    obtain ⟨hvalue, hvalues⟩ := List.forall₂_cons.mp hread
    rw [hvalue.eq hfirst] at hfirst
    rw [eachPlain, hplain hfirst, later ih hrest hvalues]
    rfl

lemma membersPlain_of_decode {members : List (String × Value)}
    (ih : ∀ member ∈ members, PlainIfRead member.2)
    (h : decodeMembers (encodeMembers members) = some members) : membersPlain members = true := by
  induction members with
  | nil => rfl
  | cons member members later =>
    obtain ⟨name, value⟩ := member
    obtain ⟨hplain, ih⟩ := List.forall_mem_cons.mp ih
    obtain ⟨first, hfirst, h⟩ := Option.bind_eq_some_iff.mp h
    obtain ⟨rest, hrest, h⟩ := Option.bind_eq_some_iff.mp h
    cases h
    rw [membersPlain, hplain hfirst, later ih hrest]
    rfl

lemma entriesPlain_of_decode {entries read : List (Value × Value)}
    (ih : ∀ entry ∈ entries, PlainIfRead entry.1 ∧ PlainIfRead entry.2)
    (h : decodeEntries (encodeEntries entries) = some read)
    (hread : List.Forall₂ (fun entry other => ReadAs entry.1 other.1 ∧ entry.2 = other.2)
      entries read) : entriesPlain entries = true := by
  induction entries generalizing read with
  | nil => rfl
  | cons entry entries later =>
    obtain ⟨⟨hplainKey, hplainValue⟩, ih⟩ := List.forall_mem_cons.mp ih
    rw [encodeEntries, decodeEntries] at h
    obtain ⟨first, hfirst, h⟩ := Option.bind_eq_some_iff.mp h
    obtain ⟨second, hsecond, h⟩ := Option.bind_eq_some_iff.mp h
    obtain ⟨rest, hrest, h⟩ := Option.bind_eq_some_iff.mp h
    cases h
    obtain ⟨⟨hkey, hvalue⟩, hentries⟩ := List.forall₂_cons.mp hread
    have hkey : ReadAs entry.1 first := hkey
    rw [hkey.eq hfirst] at hfirst
    rw [← show entry.2 = second from hvalue] at hsecond
    rw [entriesPlain, hplainKey hfirst, hplainValue hsecond, later ih hrest hentries]
    rfl

lemma isPlain_of_decode (value : Value) : PlainIfRead value := by
  induction value using Value.induct with
  | harray items ih =>
    intro h
    obtain ⟨read, hread, heq⟩ := Option.map_eq_some_iff.mp h
    cases heq
    exact eachPlain_of_decode ih hread (forall₂_readAs items)
  | hobject members ih =>
    intro h
    cases htag : carriesTag members with
    | true => exact absurd h (decode_object_ne htag members)
    | false =>
      rw [decode_object htag] at h
      obtain ⟨read, hread, heq⟩ := Option.map_eq_some_iff.mp h
      cases heq
      rw [Value.isPlain, htag, membersPlain_of_decode ih hread]
      rfl
  | hmap entries ih =>
    intro h
    rw [decode_map] at h
    obtain ⟨read, hread, heq⟩ := Option.map_eq_some_iff.mp h
    have hentries : newMap read = entries := by injection heq
    refine entriesPlain_of_decode ih hread ?_
    have hlength : (newMap read).length = read.length :=
      (congrArg List.length hentries).trans (length_decodeEntries hread).symm
    rw [← hentries, newMap_eq hlength, List.forall₂_map_left_iff, List.forall₂_same]
    exact fun _ _ => ⟨.inr rfl, rfl⟩
  | hset values ih =>
    intro h
    rw [decode_set] at h
    obtain ⟨read, hread, heq⟩ := Option.map_eq_some_iff.mp h
    have hvalues : newSet read = values := by injection heq
    refine eachPlain_of_decode ih hread ?_
    have hlength : (newSet read).length = read.length :=
      (congrArg List.length hvalues).trans (length_decodeEach hread).symm
    rw [← hvalues, newSet_eq hlength, List.forall₂_map_left_iff, List.forall₂_same]
    exact fun _ _ => .inr rfl
  | hnull | hbool | hnumber | hstring | hbigint => exact fun _ => rfl

/-- **A value is read back exactly if none of its records looks like a written value.** -/
theorem decode_encode_iff (value : EconomyValue) :
    decodeEconomyValue (encodeEconomyValue value.1) = some value.1 ↔ value.1.isPlain = true :=
  ⟨isPlain_of_decode value.1, decode_encode value.1 value.2⟩

/-- **Writing is faithful on a set of values, and different values of it are written differently,
exactly if no record in these values looks like a written value.** -/
theorem codec_faithful_iff (values : Set EconomyValue) :
    ((∀ value ∈ values, decodeEconomyValue (encodeEconomyValue value.1) = some value.1) ∧
        values.InjOn fun value => encodeEconomyValue value.1) ↔
      ∀ value ∈ values, value.1.isPlain = true := by
  constructor
  · intro h value hin
    exact (decode_encode_iff value).mp (h.1 value hin)
  · intro h
    have hread : ∀ value ∈ values,
        decodeEconomyValue (encodeEconomyValue value.1) = some value.1 := fun value hin =>
      (decode_encode_iff value).mpr (h value hin)
    refine ⟨hread, fun value hin other hother heq => Subtype.ext (Option.some.inj ?_)⟩
    calc some value.1 = decodeEconomyValue (encodeEconomyValue value.1) := (hread value hin).symm
      _ = decodeEconomyValue (encodeEconomyValue other.1) := congrArg decodeEconomyValue heq
      _ = some other.1 := hread other hother

/-- A record of a player whose members are called like those of a written number. -/
def taggedRecord : Value := .object [(typeTag, .string "bigint"), ("value", .string "1")]

/-- The record is read as a number, and the number is written like the record. -/
theorem taggedRecord_not_faithful :
    taggedRecord.WellFormed ∧
      decodeEconomyValue (encodeEconomyValue taggedRecord) = some (.bigint 1) ∧
      ¬ (∀ value : EconomyValue,
        decodeEconomyValue (encodeEconomyValue value.1) = some value.1) ∧
      ¬ Function.Injective fun value : EconomyValue => encodeEconomyValue value.1 := by
  have hwell : taggedRecord.WellFormed := by
    simp [taggedRecord, Value.WellFormed, membersWellFormed, typeTag]
  have hread : decodeEconomyValue (encodeEconomyValue taggedRecord) = some (.bigint 1) :=
    decode_bigint 1
  refine ⟨hwell, hread, fun hall => ?_, fun hinj => ?_⟩
  · have hown := hall ⟨taggedRecord, hwell⟩
    rw [hread] at hown
    cases hown
  · have hone : (Value.bigint 1).WellFormed := trivial
    have heq := @hinj ⟨taggedRecord, hwell⟩ ⟨.bigint 1, hone⟩ rfl
    cases congrArg Subtype.val heq

end Zugfolge.Economy
