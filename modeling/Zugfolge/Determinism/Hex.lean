/-
Hashes as texts.

A hash is written as two hexadecimal digits for each of its bytes.  To read it back, the white
space around a text is dropped, and each pair of its bytes goes through the library's reader of
numbers, which lets a sign stand before the digits.

* `StateHash.parseHex_right_iff`: when exactly hashes in hexadecimal digits are read.
-/
import Zugfolge.Determinism.StateHash

namespace Zugfolge.Determinism

open Foundation

/-! ### Writing and reading -/

/-- Why a text is no hash. -/
inductive StateHashError where
  | length (len : ℕ)
  | digit (pair : String)

/-- The digits that are written. -/
def ziffern : List Char := "0123456789abcdef".toList

/-- The two digits of a byte. -/
def hexPair (byte : UInt8) : List Char :=
  [ziffern.getD (byte >>> 4).toNat '0', ziffern.getD (byte &&& 0x0f).toNat '0']

/-- The value of a hexadecimal digit. -/
def toDigit16 (c : Char) : Option ℕ :=
  if '0' ≤ c ∧ c ≤ '9' then some (c.toNat - '0'.toNat)
  else if 'a' ≤ c ∧ c ≤ 'f' then some (c.toNat - 'a'.toNat + 10)
  else if 'A' ≤ c ∧ c ≤ 'F' then some (c.toNat - 'A'.toNat + 10)
  else none

/-- The digits of a number without the sign before them. -/
def unsigned : List Char → List Char
  | '+' :: digits => digits
  | digits => digits

/-- A number of one byte in hexadecimal digits, as the library reads it. -/
def fromStrRadix16 (text : List Char) : Option UInt8 :=
  if (unsigned text).isEmpty then none
  else ((unsigned text).foldlM (fun value c => do
    let digit ← toDigit16 c
    if value * 16 + digit < 256 then some (value * 16 + digit) else none) 0).map UInt8.ofNat

/-- The characters that make up the first bytes of a text, and those behind them. -/
def getBytes : List Char → ℕ → Option (List Char × List Char)
  | text, 0 => some ([], text)
  | [], _ + 1 => none
  | c :: text, count + 1 =>
    if c.utf8Size ≤ count + 1 then
      (getBytes text (count + 1 - c.utf8Size)).map fun found => (c :: found.1, found.2)
    else none

/-- Reads bytes, one pair after another. -/
def parsePairs (len : ℕ) :
    (count : ℕ) → List Char → Except StateHashError { bytes : List UInt8 // bytes.length = count }
  | 0, _ => .ok ⟨[], rfl⟩
  | count + 1, text =>
    match getBytes text 2 with
    | none => .error (.length len)
    | some (pair, rest) =>
      match fromStrRadix16 pair with
      | none => .error (.digit (String.ofList pair))
      | some byte =>
        (parsePairs len count rest).map fun bytes => ⟨byte :: bytes.1, by simp [bytes.2]⟩

namespace StateHash

/-- The hash in lower-case digits. -/
def toHex (hash : StateHash) : String := String.ofList (hash.toList.flatMap hexPair)

/-- Reads a hash. -/
def parseHex (text : String) : Except StateHashError StateHash :=
  let text := Text.trim text
  if text.utf8ByteSize ≠ 64 then .error (.length text.utf8ByteSize)
  else (parsePairs text.utf8ByteSize 32 text.toList).map fun bytes => ⟨bytes.1.toArray, bytes.2⟩

end StateHash

/-! ### Pairs of digits -/

/-- Decimal digits and the letters from A to F. -/
def isHexDigit (c : Char) : Bool := (toDigit16 c).isSome

lemma toDigit16_lt {c : Char} {digit : ℕ} (h : toDigit16 c = some digit) : digit < 16 := by
  unfold toDigit16 at h
  simp only [Char.le_def, UInt32.le_iff_toNat_le] at h
  have hbounds : '9'.val.toNat = 57 ∧ 'f'.val.toNat = 102 ∧ 'F'.val.toNat = 70 ∧ '0'.toNat = 48 ∧
      'a'.toNat = 97 ∧ 'A'.toNat = 65 := by decide
  have hc : c.toNat = c.val.toNat := rfl
  split_ifs at h <;> cases h <;> omega

lemma utf8Size_of_isHexDigit {c : Char} (h : isHexDigit c = true) : c.utf8Size = 1 := by
  rw [Char.utf8Size_eq_one_iff, UInt32.le_iff_toNat_le]
  unfold isHexDigit toDigit16 at h
  simp only [Char.le_def, UInt32.le_iff_toNat_le] at h
  have hbounds : '9'.val.toNat = 57 ∧ 'f'.val.toNat = 102 ∧ 'F'.val.toNat = 70 ∧
      (127 : UInt32).toNat = 127 := by decide
  split_ifs at h <;> first | omega | cases h

/-- The pair is read as the byte: two digits, or a plus sign and a digit. -/
def IsPair (c d : Char) (byte : UInt8) : Prop :=
  ∃ low, toDigit16 d = some low ∧
    (c = '+' ∧ byte = UInt8.ofNat low ∨
      ∃ high, toDigit16 c = some high ∧ byte = UInt8.ofNat (high * 16 + low))

lemma fromStrRadix16_eq_some {c d : Char} {byte : UInt8} :
    fromStrRadix16 [c, d] = some byte ↔ IsPair c d byte := by
  by_cases hplus : c = '+'
  · subst hplus
    have hnone : toDigit16 '+' = none := by decide
    cases hlow : toDigit16 d with
    | none => simp [fromStrRadix16, unsigned, IsPair, hlow]
    | some low =>
      have hlt := toDigit16_lt hlow
      simp [fromStrRadix16, unsigned, IsPair, hlow, hnone, show low < 256 by omega, eq_comm]
  · have hunsigned : unsigned [c, d] = [c, d] := by
      unfold unsigned
      split
      · rename_i heq
        exact absurd (List.cons.inj heq).1 hplus
      · rfl
    cases hhigh : toDigit16 c with
    | none => simp [fromStrRadix16, hunsigned, IsPair, hhigh, hplus]
    | some high =>
      have hlt := toDigit16_lt hhigh
      cases hlow : toDigit16 d with
      | none => simp [fromStrRadix16, hunsigned, IsPair, hhigh, hlow, show high < 256 by omega]
      | some low =>
        have hlt' := toDigit16_lt hlow
        simp [fromStrRadix16, hunsigned, IsPair, hhigh, hlow, hplus, show high < 256 by omega,
          show high * 16 + low < 256 by omega, eq_comm]

/-- A text that is read as some bytes. -/
inductive Spells : List Char → List UInt8 → Prop where
  | nil : Spells [] []
  | cons {c d : Char} {byte : UInt8} {text : List Char} {bytes : List UInt8}
      (pair : IsPair c d byte) (rest : Spells text bytes) : Spells (c :: d :: text) (byte :: bytes)

/-- How many bytes characters take. -/
def sizeOf (text : List Char) : ℕ := (text.map Char.utf8Size).sum

lemma utf8ByteSize_ofList (text : List Char) : (String.ofList text).utf8ByteSize = sizeOf text := by
  induction text with
  | nil => rfl
  | cons c text ih =>
    rw [String.ofList_cons, String.utf8ByteSize_append, String.utf8ByteSize_singleton, ih]
    rfl

lemma isPair_sizes {c d : Char} {byte : UInt8} (h : IsPair c d byte) :
    c.utf8Size = 1 ∧ d.utf8Size = 1 := by
  obtain ⟨low, hlow, hfirst⟩ := h
  refine ⟨?_, utf8Size_of_isHexDigit (by rw [isHexDigit, hlow]; rfl)⟩
  rcases hfirst with ⟨rfl, -⟩ | ⟨high, hhigh, -⟩
  · rfl
  · exact utf8Size_of_isHexDigit (by rw [isHexDigit, hhigh]; rfl)

lemma Spells.length {text : List Char} {bytes : List UInt8} (h : Spells text bytes) :
    text.length = 2 * bytes.length ∧ sizeOf text = text.length := by
  induction h with
  | nil => exact ⟨rfl, rfl⟩
  | cons pair rest ih =>
    obtain ⟨hfirst, hsecond⟩ := isPair_sizes pair
    simp only [sizeOf, List.map_cons, List.sum_cons, hfirst, hsecond, List.length_cons] at ih ⊢
    omega

/-- Two bytes of a text that are read as a number are two characters. -/
lemma getBytes_of_read {text pair rest : List Char} {byte : UInt8}
    (hget : getBytes text 2 = some (pair, rest)) (hread : fromStrRadix16 pair = some byte) :
    ∃ c d, text = c :: d :: rest ∧ IsPair c d byte := by
  cases text with
  | nil => cases hget
  | cons c text =>
    rw [getBytes] at hget
    split at hget
    case isFalse => cases hget
    rename_i hle
    obtain ⟨⟨first, behind⟩, hrest, heq⟩ := Option.map_eq_some_iff.mp hget
    obtain ⟨rfl, rfl⟩ := Prod.mk.inj heq
    have hpos := c.utf8Size_pos
    obtain hone | htwo : c.utf8Size = 1 ∨ c.utf8Size = 2 := by omega
    · rw [hone] at hrest
      cases text with
      | nil => cases hrest
      | cons d text =>
        rw [getBytes] at hrest
        split at hrest
        case isFalse => cases hrest
        rename_i hle
        obtain ⟨⟨second, last⟩, hlast, heq⟩ := Option.map_eq_some_iff.mp hrest
        obtain ⟨rfl, rfl⟩ := Prod.mk.inj heq
        have hdone : 0 + 1 - d.utf8Size = 0 := by
          have hpos := d.utf8Size_pos
          omega
        simp only [hdone, getBytes] at hlast
        cases hlast
        exact ⟨c, d, rfl, fromStrRadix16_eq_some.mp hread⟩
    · -- a character of two bytes is no digit
      rw [htwo, getBytes] at hrest
      cases hrest
      have hdigit : toDigit16 c = none := by
        by_contra hsome
        have hsize := utf8Size_of_isHexDigit (Option.isSome_iff_ne_none.mpr hsome)
        omega
      have hunsigned : unsigned [c] = [c] := by
        unfold unsigned
        split
        · rename_i heq
          obtain rfl := (List.cons.inj heq).1
          cases htwo
        · rfl
      simp [fromStrRadix16, hunsigned, hdigit] at hread

/-- What is read is what the text spells. -/
lemma parsePairs_eq_ok {len count : ℕ} {text : List Char}
    {bytes : { bytes : List UInt8 // bytes.length = count }} :
    parsePairs len count text = .ok bytes ↔
      ∃ first rest, text = first ++ rest ∧ Spells first bytes.1 := by
  induction count generalizing text with
  | zero =>
    obtain ⟨bytes, hlength⟩ := bytes
    obtain rfl := List.length_eq_zero_iff.mp hlength
    exact ⟨fun _ => ⟨[], text, rfl, .nil⟩, fun _ => rfl⟩
  | succ count ih =>
    rw [parsePairs]
    constructor
    · intro h
      split at h
      case h_1 => cases h
      rename_i pair rest hget
      split at h
      case h_1 => cases h
      rename_i byte hread
      cases hparsed : parsePairs len count rest with
      | error error => rw [hparsed] at h; cases h
      | ok parsed =>
        rw [hparsed] at h
        cases h
        obtain ⟨c, d, rfl, hpair⟩ := getBytes_of_read hget hread
        obtain ⟨first, last, rfl, hspells⟩ := ih.mp hparsed
        exact ⟨c :: d :: first, last, rfl, .cons hpair hspells⟩
    · obtain ⟨bytes, hlength⟩ := bytes
      rintro ⟨first, rest, rfl, hspells⟩
      cases hspells with
      | nil => cases hlength
      | @cons c d byte first bytes pair behind =>
        obtain ⟨hc, hd⟩ := isPair_sizes pair
        have hget : getBytes (c :: d :: first ++ rest) 2 = some ([c, d], first ++ rest) := by
          simp [getBytes, hc, hd]
        have hparsed : parsePairs len count (first ++ rest)
            = .ok ⟨bytes, Nat.succ.inj hlength⟩ := ih.mpr ⟨first, rest, rfl, behind⟩
        simp only [hget, fromStrRadix16_eq_some.mpr pair, hparsed]
        rfl

/-! ### Which texts are hashes -/

/-- Pairs of hexadecimal digits; a plus sign may stand in the place of a first digit. -/
def pairsOk : List Char → Bool
  | [] => true
  | [_] => false
  | c :: d :: text => (c == '+' || isHexDigit c) && isHexDigit d && pairsOk text

lemma exists_spells_iff {text : List Char} : (∃ bytes, Spells text bytes) ↔ pairsOk text
    = true := by
  fun_induction pairsOk text with
  | case1 => exact ⟨fun _ => rfl, fun _ => ⟨[], .nil⟩⟩
  | case2 c =>
    refine ⟨?_, fun h => by cases h⟩
    rintro ⟨bytes, hspells⟩
    cases hspells
  | case3 c d text ih =>
    rw [Bool.and_eq_true, Bool.and_eq_true, Bool.or_eq_true, beq_iff_eq, ← ih, isHexDigit,
      isHexDigit, Option.isSome_iff_exists, Option.isSome_iff_exists]
    constructor
    · rintro ⟨bytes, hspells⟩
      cases hspells with
      | cons pair rest =>
        obtain ⟨low, hlow, hfirst⟩ := pair
        exact ⟨⟨hfirst.imp And.left fun ⟨high, hhigh, _⟩ => ⟨high, hhigh⟩, low, hlow⟩, _, rest⟩
    · rintro ⟨⟨hplus | ⟨high, hhigh⟩, low, hlow⟩, bytes, hspells⟩
      · exact ⟨_, .cons ⟨low, hlow, .inl ⟨hplus, rfl⟩⟩ hspells⟩
      · exact ⟨_, .cons ⟨low, hlow, .inr ⟨high, hhigh, rfl⟩⟩ hspells⟩

lemma isPair_hexPair (byte : UInt8) : ∃ c d, hexPair byte = [c, d] ∧ IsPair c d byte ∧
    Text.isWhite c = false ∧ Text.isWhite d = false := by
  have hall : ∀ n < 256, fromStrRadix16 (hexPair (UInt8.ofNat n)) = some (UInt8.ofNat n) ∧
      (hexPair (UInt8.ofNat n)).all (fun c => !Text.isWhite c) = true := by
    decide +kernel
  obtain ⟨hread, hwhite⟩ := hall byte.toNat byte.toNat_lt
  rw [UInt8.ofNat_toNat] at hread hwhite
  rw [hexPair, List.all_cons, List.all_cons, Bool.and_eq_true, Bool.and_eq_true, Bool.not_eq_true',
    Bool.not_eq_true'] at hwhite
  exact ⟨_, _, rfl, fromStrRadix16_eq_some.mp hread, hwhite.1, hwhite.2.1⟩

lemma ziffern_of_toDigit16 {c : Char} {digit : ℕ} (h : toDigit16 c = some digit) :
    ziffern.getD digit '0' = c.toLower := by
  have hall : ∀ n < 128, (toDigit16 (Char.ofNat n)).all
      (fun digit => ziffern.getD digit '0' == (Char.ofNat n).toLower) = true := by
    decide +kernel
  have hsize := utf8Size_of_isHexDigit (c := c) (by rw [isHexDigit, h]; rfl)
  rw [Char.utf8Size_eq_one_iff, UInt32.le_iff_toNat_le] at hsize
  have hdigit := hall c.toNat (Nat.lt_succ_of_le hsize)
  rw [Char.ofNat_toNat, h] at hdigit
  exact beq_iff_eq.mp hdigit

/-- What is read without a sign is written in lower case. -/
lemma Spells.written {text : List Char} {bytes : List UInt8} (h : Spells text bytes)
    (hplus : '+' ∉ text) :
    bytes.flatMap hexPair = text.map Char.toLower ∧ ∀ c ∈ text, isHexDigit c = true := by
  have hall : ∀ high < 16, ∀ low < 16, hexPair (UInt8.ofNat (high * 16 + low))
      = [ziffern.getD high '0', ziffern.getD low '0'] := by
    decide +kernel
  induction h with
  | nil => exact ⟨rfl, by simp⟩
  | @cons c d byte text bytes pair rest ih =>
    rw [List.mem_cons, List.mem_cons, not_or, not_or] at hplus
    obtain ⟨hwritten, hdigits⟩ := ih hplus.2.2
    obtain ⟨low, hlow, ⟨rfl, -⟩ | ⟨high, hhigh, rfl⟩⟩ := pair
    · exact absurd rfl hplus.1
    · refine ⟨?_, ?_⟩
      · rw [List.flatMap_cons, hall high (toDigit16_lt hhigh) low (toDigit16_lt hlow), hwritten,
          ziffern_of_toDigit16 hhigh, ziffern_of_toDigit16 hlow]
        rfl
      · simp only [List.forall_mem_cons, isHexDigit, hhigh, hlow, Option.isSome_some, true_and]
        exact hdigits

lemma pairsOk_of_digits {text : List Char} (hdigits : ∀ c ∈ text, isHexDigit c = true)
    (heven : text.length % 2 = 0) : pairsOk text = true := by
  fun_induction pairsOk text with
  | case1 => rfl
  | case2 c => cases heven
  | case3 c d text ih =>
    rw [List.forall_mem_cons, List.forall_mem_cons] at hdigits
    rw [List.length_cons, List.length_cons] at heven
    rw [hdigits.1, hdigits.2.1, ih hdigits.2.2 (by omega)]
    simp

namespace StateHash

/-- What is read of a text. -/
lemma parseHex_eq_ok {text : String} {hash : StateHash} : parseHex text = .ok hash ↔
    (Text.trim text).toList.length = 64 ∧ Spells (Text.trim text).toList hash.toList := by
  have hsize := utf8ByteSize_ofList (Text.trim text).toList
  rw [String.ofList_toList] at hsize
  obtain ⟨⟨bytes⟩, hlength⟩ := hash
  rw [parseHex]
  constructor
  · intro h
    split at h
    case isTrue => cases h
    rename_i hfits
    rw [not_not] at hfits
    cases hparsed : parsePairs (Text.trim text).utf8ByteSize 32 (Text.trim text).toList with
    | error error => rw [hparsed] at h; cases h
    | ok parsed =>
      rw [hparsed] at h
      cases h
      obtain ⟨first, rest, htext, hspells⟩ := parsePairs_eq_ok.mp hparsed
      have hfirst := hspells.length
      rw [hfits, htext, sizeOf, List.map_append, List.sum_append] at hsize
      -- the pairs take all of the bytes, and so nothing is left behind them
      cases rest with
      | nil =>
        rw [htext, List.append_nil]
        refine ⟨?_, hspells⟩
        rw [hfirst.1, parsed.2]
      | cons c rest =>
        have hpos := c.utf8Size_pos
        have hlength := parsed.2
        rw [← sizeOf, hfirst.2, hfirst.1, hlength, List.map_cons, List.sum_cons] at hsize
        omega
  · rintro ⟨hlength', hspells⟩
    rw [if_neg (by rw [hsize, hspells.length.2, hlength']; simp)]
    have hparsed : parsePairs (Text.trim text).utf8ByteSize 32 (Text.trim text).toList
        = .ok ⟨bytes, hlength⟩ :=
      parsePairs_eq_ok.mpr ⟨(Text.trim text).toList, [], (List.append_nil _).symm, hspells⟩
    rw [hparsed]
    rfl

/-- What is written is read back. -/
lemma parseHex_toHex (hash : StateHash) : parseHex (toHex hash) = .ok hash := by
  obtain ⟨⟨bytes⟩, hlength⟩ := hash
  have hpairs : ∀ bytes : List UInt8, Spells (bytes.flatMap hexPair) bytes ∧
      ∀ c ∈ bytes.flatMap hexPair, Text.isWhite c = false := by
    intro bytes
    induction bytes with
    | nil => exact ⟨.nil, by simp⟩
    | cons byte bytes ih =>
      obtain ⟨c, d, hpair, hread, hc, hd⟩ := isPair_hexPair byte
      rw [List.flatMap_cons, hpair]
      exact ⟨.cons hread ih.1, by simpa [hc, hd] using ih.2⟩
  obtain ⟨hspells, hwhite⟩ := hpairs bytes
  have htrim : Text.trim (String.ofList (bytes.flatMap hexPair))
      = String.ofList (bytes.flatMap hexPair) := by
    have hkept : ∀ cs : List Char, (∀ c ∈ cs, Text.isWhite c = false) →
        cs.dropWhile Text.isWhite = cs := by
      intro cs hcs
      cases cs with
      | nil => rfl
      | cons c cs => rw [List.dropWhile_cons, hcs c List.mem_cons_self]; rfl
    rw [Text.trim, String.toList_ofList, hkept _ hwhite, hkept, List.reverse_reverse]
    exact fun c hin => hwhite c (List.mem_reverse.mp hin)
  have htoHex : toHex ⟨⟨bytes⟩, hlength⟩ = String.ofList (bytes.flatMap hexPair) := rfl
  rw [parseHex_eq_ok, htoHex, htrim, String.toList_ofList, hspells.length.1]
  exact ⟨by rw [show bytes.length = 32 from hlength], hspells⟩

/-- The text is a hash in 64 hexadecimal digits. -/
def IsHex (text : String) : Prop :=
  (Text.trim text).toList.length = 64 ∧ ∀ c ∈ (Text.trim text).toList, isHexDigit c = true

/-- Exactly hashes in hexadecimal digits are read, and their digits are written again. -/
def ReadsHex (text : String) : Prop :=
  ((∃ hash, parseHex text = .ok hash) ↔ IsHex text) ∧ ∀ hash, parseHex text = .ok hash →
    toHex hash = String.ofList ((Text.trim text).toList.map Char.toLower)

/-- The text is made of 32 pairs, and in at least one of them a plus sign stands before a digit. -/
def signed (text : String) : Bool :=
  (Text.trim text).toList.length == 64 && pairsOk (Text.trim text).toList &&
    (Text.trim text).toList.contains '+'

/-- **Hashes in hexadecimal digits.**  Every hash that is written is read back, and what is read is
right exactly where no pair holds a sign. -/
theorem parseHex_right_iff (hash : StateHash) (text : String) :
    parseHex (toHex hash) = .ok hash ∧ (ReadsHex text ↔ signed text = false) := by
  refine ⟨parseHex_toHex hash, ?_⟩
  have hparses : (∃ hash, parseHex text = .ok hash) ↔
      (Text.trim text).toList.length = 64 ∧ pairsOk (Text.trim text).toList = true := by
    rw [← exists_spells_iff]
    constructor
    · rintro ⟨hash, hparsed⟩
      exact (parseHex_eq_ok.mp hparsed).imp_right fun hspells => ⟨_, hspells⟩
    · rintro ⟨hlength, bytes, hspells⟩
      have hbytes := hspells.length.1
      exact ⟨⟨bytes.toArray, by rw [List.size_toArray]; omega⟩,
        parseHex_eq_ok.mpr ⟨hlength, hspells⟩⟩
  rw [ReadsHex, hparses, signed, Bool.and_eq_false_iff, Bool.and_eq_false_iff, beq_eq_false_iff_ne]
  constructor
  · rintro ⟨hright, -⟩
    by_contra hsigned
    simp only [not_or, not_not, Bool.not_eq_false] at hsigned
    obtain ⟨⟨hlength, hpairs⟩, hplus⟩ := hsigned
    have hdigit := (hright.mp ⟨hlength, hpairs⟩).2 '+' (List.contains_iff_mem.mp hplus)
    exact absurd hdigit (by decide)
  · intro hunsigned
    have hplus : ∀ {bytes}, Spells (Text.trim text).toList bytes →
        (Text.trim text).toList.length = 64 → '+' ∉ (Text.trim text).toList := by
      intro bytes hspells hlength hplus
      rcases hunsigned with (hshort | hodd) | hnone
      · exact hshort hlength
      · rw [exists_spells_iff.mp ⟨bytes, hspells⟩] at hodd
        cases hodd
      · rw [List.contains_iff_mem.mpr hplus] at hnone
        cases hnone
    refine ⟨⟨?_, ?_⟩, ?_⟩
    · rintro ⟨hlength, hpairs⟩
      obtain ⟨bytes, hspells⟩ := exists_spells_iff.mpr hpairs
      exact ⟨hlength, (hspells.written (hplus hspells hlength)).2⟩
    · rintro ⟨hlength, hdigits⟩
      exact ⟨hlength, pairsOk_of_digits hdigits (by rw [hlength])⟩
    · intro hash hparsed
      obtain ⟨hlength, hspells⟩ := parseHex_eq_ok.mp hparsed
      rw [toHex, (hspells.written (hplus hspells hlength)).1]

/-- Signs before zeros. -/
def signs : String := String.ofList (List.replicate 32 ['+', '0']).flatten

/-- They are read as a hash. -/
theorem signs_read : ¬ ∀ text : String, (∃ hash, parseHex text = .ok hash) → IsHex text := by
  intro hclaim
  have hread : (parseHex signs).isOk = true := by decide +kernel
  cases hparsed : parseHex signs with
  | error error => rw [hparsed] at hread; cases hread
  | ok hash =>
    have hplus : '+' ∈ (Text.trim signs).toList := by decide +kernel
    exact absurd ((hclaim signs ⟨hash, hparsed⟩).2 '+' hplus) (by decide)

end StateHash

end Zugfolge.Determinism
