/-
The streams of the economy are the streams of the world.

The economy draws its chance in masked whole numbers, the other crates in machine words.  Both draw
the same numbers, shuffle alike and begin at the hash of the same bytes.

* `streams_agree`: every sequence of calls, and the bytes that are hashed.
-/
import Zugfolge.Determinism.Rng
import Zugfolge.Economy.Calendar

namespace Zugfolge.Economy

open Foundation Determinism

variable {α : Type}

/-! ### Sequences of calls -/

/-- A call on a stream: a number below a bound, or a list to shuffle. -/
inductive Call (α : Type) where
  | below (bound : ℕ)
  | shuffle (items : List α)

/-- What a call gives. -/
inductive Drawn (α : Type) where
  | number (n : ℕ)
  | shuffled (items : List α)

/-- Both streams can represent the bound, or the places of the list. -/
def Call.isRepresentable : Call α → Bool
  | .below bound => 0 < bound && bound < 2 ^ 64
  | .shuffle items => items.length < 2 ^ 64

variable (rng : Rng)

/-- One call on the stream in machine words. -/
def Call.onRng : Call α → Option (Drawn α × Rng)
  | .below bound => (rng.below (UInt64.ofNat bound)).map fun r => (.number r.1.toNat, r.2)
  | .shuffle items => (rng.shuffle items).map fun r => (.shuffled r.1, r.2)

/-- One call on the stream in whole numbers. -/
def Call.onCanonical (rng : CanonicalRng) : Call α → Outcome (Drawn α × CanonicalRng)
  | .below bound => (rng.below bound).map fun r => (.number r.1, r.2)
  | .shuffle items => (rng.shuffle items).map fun r => (.shuffled r.1, r.2)

/-- The calls one after the other on the stream in machine words. -/
def runRng : Rng → List (Call α) → Option (List (Drawn α) × Rng)
  | rng, [] => some ([], rng)
  | rng, call :: calls => do
    let first ← call.onRng rng
    let rest ← runRng first.2 calls
    return (first.1 :: rest.1, rest.2)

/-- The calls one after the other on the stream in whole numbers. -/
def runCanonical : CanonicalRng → List (Call α) → Outcome (List (Drawn α) × CanonicalRng)
  | rng, [] => .ok ([], rng)
  | rng, call :: calls => do
    let first ← call.onCanonical rng
    let rest ← runCanonical first.2 calls
    return (first.1 :: rest.1, rest.2)

/-- The same stream in whole numbers. -/
def canonical : CanonicalRng := ⟨rng.state.toNat⟩

/-! ### One word -/

lemma advance_canonical : (canonical rng).advance = canonical rng.nextU64.2 := by
  rw [CanonicalRng.advance, canonical, canonical, Rng.nextU64, UInt64.toNat_add]
  rfl

lemma output_canonical : (canonical rng).output = (mixed rng.state).toNat := by
  have hword := (mixed rng.state).toNat_lt
  have hvalue : (canonical rng).output = (mixed rng.state).toNat % 2 ^ 64 := by
    simp only [CanonicalRng.output, canonical, mixed, UInt64.toNat_xor, UInt64.toNat_mul,
      UInt64.toNat_shiftRight]
    rfl
  rw [hvalue, Nat.mod_eq_of_lt hword]

lemma nextU64_canonical :
    (canonical rng).nextU64 = (rng.nextU64.1.toNat, canonical rng.nextU64.2) := by
  rw [CanonicalRng.nextU64, advance_canonical, output_canonical]
  rfl

/-! ### Numbers below a bound -/

/-- Whoever draws again long enough keeps the same product. -/
lemma redraw_canonical (bound : UInt64) (draws : ℕ) (rng : Rng) (product : BitVec 128)
    (hdraws : rng.left bound product ≤ draws) :
    CanonicalRng.redraw bound.toNat (threshold bound).toNat draws product.toNat (canonical rng) =
      ((rng.redraw bound product).1.toNat, canonical (rng.redraw bound product).2) := by
  induction draws generalizing rng product with
  | zero =>
    have hhigh : ¬ lowHalf product < threshold bound := fun hlow => by
      rw [Rng.left, if_pos hlow] at hdraws
      omega
    rw [CanonicalRng.redraw, Rng.redraw, if_neg hhigh]
  | succ draws ih =>
    have hlow_iff : product.toNat % range64 < (threshold bound).toNat ↔
        lowHalf product < threshold bound := by
      rw [UInt64.lt_iff_toNat_lt, toNat_lowHalf]
      rfl
    rw [CanonicalRng.redraw, Rng.redraw]
    by_cases hlow : lowHalf product < threshold bound
    · have hleft := rng.left_nextU64 bound
      rw [Rng.left, if_pos hlow] at hdraws
      rw [if_pos (hlow_iff.mpr hlow), if_pos hlow, nextU64_canonical, ← toNat_wideProduct]
      exact ih rng.nextU64.2 _ (by omega)
    · rw [if_neg (fun h => hlow (hlow_iff.mp h)), if_neg hlow]

lemma left_le (bound : UInt64) (product : BitVec 128) :
    rng.left bound product ≤ range64 := by
  have hwait := rng.wait.toNat_lt
  rw [Rng.left, range64]
  split <;> omega

lemma toNat_threshold {bound : UInt64} (hbound : 0 < bound.toNat) :
    (threshold bound).toNat = (range64 - bound.toNat) % bound.toNat := by
  have hsize : UInt64.size - bound.toNat < UInt64.size := Nat.sub_lt (by decide) hbound
  rw [threshold, UInt64.toNat_mod, UInt64.toNat_neg, Nat.mod_eq_of_lt hsize]
  rfl

lemma redraw_zero (bound draws product : ℕ) (rng : CanonicalRng) :
    CanonicalRng.redraw bound 0 draws product rng = (product, rng) := by
  cases draws with
  | zero => rfl
  | succ draws => rw [CanonicalRng.redraw, if_neg (Nat.not_lt_zero _)]

/-- Both streams keep the same product. -/
lemma kept_canonical {bound : UInt64} (hbound : 0 < bound.toNat) (product : BitVec 128) :
    CanonicalRng.redraw bound.toNat
        (if product.toNat % range64 < bound.toNat then (range64 - bound.toNat) % bound.toNat
          else 0) range64 product.toNat (canonical rng) =
      ((if lowHalf product < bound then rng.redraw bound product else (product, rng)).1.toNat,
        canonical
          (if lowHalf product < bound then rng.redraw bound product else (product, rng)).2) := by
  have hlow_iff : product.toNat % range64 < bound.toNat ↔ lowHalf product < bound := by
    rw [UInt64.lt_iff_toNat_lt, toNat_lowHalf]
    rfl
  by_cases hlow : lowHalf product < bound
  · rw [if_pos (hlow_iff.mpr hlow), if_pos hlow, ← toNat_threshold hbound]
    exact redraw_canonical bound range64 rng product (left_le rng bound product)
  · rw [if_neg (fun h => hlow (hlow_iff.mp h)), if_neg hlow, redraw_zero]

/-- Both streams give the same number below a bound that both can represent. -/
lemma below_canonical {bound : ℕ} (hpos : 0 < bound) (hbound : bound < 2 ^ 64) :
    ∃ (n : UInt64) (next : Rng), rng.below (UInt64.ofNat bound) = some (n, next) ∧
      (canonical rng).below bound = .ok (n.toNat, canonical next) := by
  have hsize : (UInt64.ofNat bound).toNat = bound := UInt64.toNat_ofNat_of_lt' hbound
  have hword : 0 < UInt64.ofNat bound := by
    rw [UInt64.lt_iff_toNat_lt, hsize]
    exact hpos
  refine ⟨_, _, by rw [Rng.below, if_pos hword], ?_⟩
  have hkept := kept_canonical rng.nextU64.2 (hsize.symm ▸ hpos)
    (wideProduct rng.nextU64.1 (UInt64.ofNat bound))
  rw [toNat_wideProduct, hsize] at hkept
  rw [CanonicalRng.below, require_bind_eq_ok, nextU64_canonical, Int.toNat_natCast]
  refine ⟨?_, ?_⟩
  · rw [Bool.and_eq_true, decide_eq_true_eq, decide_eq_true_eq]
    exact ⟨by omega, by exact_mod_cast hbound⟩
  · rw [toNat_highHalf]
    exact congrArg (fun drawn : ℕ × CanonicalRng => (Except.ok (drawn.1 / range64, drawn.2) :
      Outcome (ℕ × CanonicalRng))) hkept

/-! ### Shuffles -/

lemma swap_eq_exchange {items : List α} {index other : ℕ} (hindex : index < items.length)
    (hother : other < items.length) :
    Rng.swap items index other = some (CanonicalRng.exchange items index other) := by
  simp [Rng.swap, CanonicalRng.exchange, List.getElem?_eq_getElem hindex,
    List.getElem?_eq_getElem hother]

lemma length_exchange (items : List α) (index other : ℕ) :
    (CanonicalRng.exchange items index other).length = items.length := by
  rw [CanonicalRng.exchange]
  cases items[index]? with
  | none => rfl
  | some a => cases items[other]? <;> simp

/-- Both streams exchange the places from one on down alike. -/
lemma shuffleFrom_canonical {index : ℕ} {items : List α} (rng : Rng)
    (hindex : index ≤ items.length - 1) (hlength : items.length < 2 ^ 64) :
    ∃ (shuffled : List α) (next : Rng),
      Rng.shuffleFrom index items rng = some (shuffled, next) ∧
      CanonicalRng.shuffleFrom index items (canonical rng) = .ok (shuffled, canonical next) := by
  induction index generalizing items rng with
  | zero => exact ⟨items, rng, rfl, rfl⟩
  | succ index ih =>
    have hbound : index + 2 < 2 ^ 64 := by omega
    obtain ⟨n, next, hrng, hcanonical⟩ := below_canonical rng (Nat.succ_pos (index + 1)) hbound
    have hother : n.toNat < index + 2 := by
      have hlt := UInt64.lt_iff_toNat_lt.mp (Rng.below_lt hrng)
      rwa [UInt64.toNat_ofNat_of_lt' hbound] at hlt
    have hswap : Rng.swap items (index + 1) n.toNat
        = some (CanonicalRng.exchange items (index + 1) n.toNat) :=
      swap_eq_exchange (by omega) (by omega)
    have hkeeps := length_exchange items (index + 1) n.toNat
    obtain ⟨shuffled, last, hrest, hcanonicalRest⟩ :=
      @ih (CanonicalRng.exchange items (index + 1) n.toNat) next (by omega) (by omega)
    refine ⟨shuffled, last, ?_, ?_⟩
    · rw [Rng.shuffleFrom, if_pos hbound, hrng]
      simp only [Option.bind_eq_bind, Option.bind_some, hswap]
      exact hrest
    · rw [CanonicalRng.shuffleFrom, bind_eq_ok_iff]
      exact ⟨_, hcanonical, hcanonicalRest⟩

/-! ### Runs -/

/-- One call gives the same on both streams. -/
lemma onCanonical_eq {call : Call α} (hcall : call.isRepresentable = true) :
    ∃ (drawn : Drawn α) (next : Rng), call.onRng rng = some (drawn, next) ∧
      call.onCanonical (canonical rng) = .ok (drawn, canonical next) := by
  cases call with
  | below bound =>
    rw [Call.isRepresentable, Bool.and_eq_true, decide_eq_true_eq, decide_eq_true_eq] at hcall
    obtain ⟨n, next, hrng, hcanonical⟩ := below_canonical rng hcall.1 hcall.2
    refine ⟨.number n.toNat, next, ?_, ?_⟩
    · rw [Call.onRng, hrng]
      rfl
    · rw [Call.onCanonical, hcanonical]
      rfl
  | shuffle items =>
    rw [Call.isRepresentable, decide_eq_true_eq] at hcall
    obtain ⟨shuffled, next, hrng, hcanonical⟩ := shuffleFrom_canonical rng le_rfl hcall
    refine ⟨.shuffled shuffled, next, ?_, ?_⟩
    · rw [Call.onRng, Rng.shuffle, hrng]
      rfl
    · rw [Call.onCanonical, CanonicalRng.shuffle, hcanonical]
      rfl

/-- The calls of a sequence give the same on both streams. -/
lemma runCanonical_eq {calls : List (Call α)} (rng : Rng)
    (hcalls : calls.all Call.isRepresentable = true) :
    ∃ (drawn : List (Drawn α)) (next : Rng), runRng rng calls = some (drawn, next) ∧
      runCanonical (canonical rng) calls = .ok (drawn, canonical next) := by
  induction calls generalizing rng with
  | nil => exact ⟨[], rng, rfl, rfl⟩
  | cons call calls ih =>
    obtain ⟨hfirst, hlater⟩ := (List.all_cons ▸ Bool.and_eq_true _ _).mp hcalls
    obtain ⟨drawn, next, hrng, hcanonical⟩ := onCanonical_eq rng hfirst
    obtain ⟨rest, last, hrngRest, hcanonicalRest⟩ := ih next hlater
    refine ⟨drawn :: rest, last, ?_, ?_⟩
    · rw [runRng, hrng]
      simp only [Option.bind_eq_bind, Option.bind_some, hrngRest]
      rfl
    · rw [runCanonical, bind_eq_ok_iff]
      refine ⟨_, hcanonical, bind_eq_ok_iff.mpr ⟨_, hcanonicalRest, rfl⟩⟩

/-! ### Where the streams begin -/

/-- The stream of the world that is a stream of the economy. -/
def EconomySubstream.substream : EconomySubstream → Substream
  | .tenderRelease => .tenderRelease
  | .tenderProfile => .tenderProfile

/-- The bytes that the economy hashes for a stream. -/
def canonicalSubstreamInput (worldSeed period : Int) (stream : EconomySubstream) : List UInt8 :=
  utf8 "zugfolge/substream/v1" ++ beBytes 8 worldSeed.toNat ++ beBytes 4 period.toNat
    ++ beBytes 8 (utf8 stream.name).length ++ utf8 stream.name

lemma foldl_bytes_lt (bytes : List UInt8) (start : ℕ) :
    bytes.foldl (fun value byte => value * 256 + byte.toNat) start <
      (start + 1) * 256 ^ bytes.length := by
  induction bytes generalizing start with
  | nil => simp
  | cons byte bytes ih =>
    have hbyte := byte.toNat_lt
    rw [List.foldl_cons, List.length_cons, Nat.pow_succ']
    calc bytes.foldl (fun value byte => value * 256 + byte.toNat) (start * 256 + byte.toNat)
        < (start * 256 + byte.toNat + 1) * 256 ^ bytes.length := ih _
      _ ≤ ((start + 1) * 256) * 256 ^ bytes.length := Nat.mul_le_mul_right _ (by omega)
      _ = (start + 1) * (256 * 256 ^ bytes.length) := Nat.mul_assoc _ _ _

/-- The economy hashes these bytes, and its stream begins with the first eight bytes of the hash. -/
lemma canonicalSubstreamState_eq_ok {worldSeed period : Int} {stream : EconomySubstream}
    (hworld : 0 ≤ worldSeed ∧ worldSeed < range64) (hperiod : 0 ≤ period ∧ period ≤ 0xffffffff) :
    canonicalSubstreamState worldSeed period stream =
      .ok (((sha256 (canonicalSubstreamInput worldSeed period stream)).take 8).foldl
        (fun value byte => value * 256 + byte.toNat) 0) := by
  have hsafe : isSafeInteger period = true := by
    rw [isSafeInteger, maxSafeInteger, Bool.and_eq_true, decide_eq_true_eq, decide_eq_true_eq]
    omega
  rw [canonicalSubstreamState, require_bind_eq_ok, require_bind_eq_ok]
  refine ⟨?_, ?_, rfl⟩
  · simp [hworld]
  · simp [hperiod, hsafe]

/-- **The streams of the economy are the streams of the world.**  From every state every sequence of
calls gives the same on both and leaves the same state, and for the same seed, period and name both
hash the same bytes and begin with the same state. -/
theorem streams_agree (state : UInt64) (calls : List (Call α))
    (hcalls : calls.all Call.isRepresentable = true) (seed : WorldSeed)
    (stream : EconomySubstream) :
    (∃ (drawn : List (Drawn α)) (next : UInt64),
      runRng ⟨state⟩ calls = some (drawn, ⟨next⟩) ∧
        runCanonical ⟨state.toNat⟩ calls = .ok (drawn, ⟨next.toNat⟩)) ∧
    canonicalSubstreamInput seed.world.toNat seed.period.toNat stream =
      seed.substreamInput stream.substream.name ∧
    canonicalSubstreamState seed.world.toNat seed.period.toNat stream =
      .ok (seed.substream stream.substream).state.toNat := by
  have hworld := seed.world.toNat_lt
  have hperiod := seed.period.toNat_lt
  have hinput : canonicalSubstreamInput seed.world.toNat seed.period.toNat stream =
      seed.substreamInput stream.substream.name := by
    cases stream <;> rfl
  refine ⟨?_, hinput, ?_⟩
  · obtain ⟨drawn, next, hrng, hcanonical⟩ := runCanonical_eq ⟨state⟩ hcalls
    exact ⟨drawn, next.state, hrng, hcanonical⟩
  · rw [canonicalSubstreamState_eq_ok ⟨by omega, by rw [range64]; omega⟩ ⟨by omega, by omega⟩,
      hinput, WorldSeed.substream, WorldSeed.namedSubstream, UInt64.toNat_ofNat_of_lt']
    refine lt_of_lt_of_le (foldl_bytes_lt _ 0) ?_
    calc (0 + 1) * 256 ^ ((sha256 (seed.substreamInput stream.substream.name)).take 8).length
        ≤ 256 ^ 8 := by
          rw [Nat.zero_add, Nat.one_mul]
          exact Nat.pow_le_pow_right (by decide) (List.length_take_le _ _)
      _ = UInt64.size := by decide

/-- A list is shuffled and a number is drawn below a bound that refuses nearly half of the words. -/
theorem streams_agree_shuffled :
    ∃ (drawn : List (Drawn String)) (next : UInt64),
      runRng ⟨0x0123456789abcdef⟩ [.shuffle ["a", "b", "c"], .below (2 ^ 63 + 1)] =
          some (drawn, ⟨next⟩) ∧
        runCanonical ⟨0x0123456789abcdef⟩ [.shuffle ["a", "b", "c"], .below (2 ^ 63 + 1)] =
          .ok (drawn, ⟨next.toNat⟩) :=
  (streams_agree 0x0123456789abcdef _ (by decide) ⟨42, 0⟩ .tenderRelease).1

end Zugfolge.Economy
