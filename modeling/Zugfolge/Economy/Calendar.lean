/-
The profile of a world and its calendar of tenders.

The calendar spreads the lots over windows.  Chance comes from a stream that belongs to the seed of
the world, the period and the name of the stream.
-/
import Zugfolge.Economy.Tender
import Zugfolge.Foundation.Sha256

namespace Zugfolge.Economy

open Foundation

/-! ### Profiles -/

/-- How many months a world runs. -/
inductive DurationMonths where
  | six | twelve | eighteen | unlimited

structure WorldProfile where
  durationMonths : DurationMonths
  periodWeeks : Int
  contractPeriods : Int
  tenderLeadPeriods : Int
  totalPeriods : Option Int

def deriveWorldProfile : DurationMonths → WorldProfile
  | .unlimited => ⟨.unlimited, 8, 4, 1, none⟩
  | .six => ⟨.six, 3, 2, 1, some 8⟩
  | .twelve => ⟨.twelve, 5, 3, 1, some 10⟩
  | .eighteen => ⟨.eighteen, 7, 3, 1, some 11⟩

/-! ### Chance -/

inductive EconomySubstream where
  | tenderRelease | tenderProfile

def EconomySubstream.name : EconomySubstream → String
  | .tenderRelease => "tender_release"
  | .tenderProfile => "tender_profile"

/-- How many numbers 64 bits hold. -/
def range64 : ℕ := 2 ^ 64

/-- The first state of a stream. -/
def canonicalSubstreamState (worldSeed period : Int) (stream : EconomySubstream) : Outcome ℕ := do
  require (0 ≤ worldSeed && worldSeed < range64) "Weltseed liegt außerhalb u64."
  require (isSafeInteger period && 0 ≤ period && period ≤ 0xffffffff)
    "Periode liegt außerhalb u32."
  let name := utf8 stream.name
  let digest := sha256 (utf8 "zugfolge/substream/v1" ++ beBytes 8 worldSeed.toNat
    ++ beBytes 4 period.toNat ++ beBytes 8 name.length ++ name)
  return (digest.take 8).foldl (fun value byte => value * 256 + byte.toNat) 0

/-- A generator of chance. -/
structure CanonicalRng where
  state : ℕ

namespace CanonicalRng

/-- The next state. -/
def advance (rng : CanonicalRng) : CanonicalRng := ⟨(rng.state + 0x9e3779b97f4a7c15) % range64⟩

/-- The number that belongs to a state. -/
def output (rng : CanonicalRng) : ℕ :=
  let value := ((rng.state ^^^ (rng.state >>> 30)) * 0xbf58476d1ce4e5b9) % range64
  let value := ((value ^^^ (value >>> 27)) * 0x94d049bb133111eb) % range64
  (value ^^^ (value >>> 31)) % range64

/-- The next number and the generator behind it. -/
def nextU64 (rng : CanonicalRng) : ℕ × CanonicalRng := (rng.advance.output, rng.advance)

/-- Draws again while the low half of the product lies below the threshold. -/
def redraw (bound threshold : ℕ) : ℕ → ℕ → CanonicalRng → ℕ × CanonicalRng
  | 0, product, rng => (product, rng)
  | draws + 1, product, rng =>
    if product % range64 < threshold then
      redraw bound threshold draws (rng.nextU64.1 * bound) rng.nextU64.2
    else (product, rng)

/-- A number below a bound.  Among `range64` draws every number comes once, so there is one that is
kept. -/
def below (rng : CanonicalRng) (bound : Int) : Outcome (ℕ × CanonicalRng) := do
  require (0 < bound && bound < range64) "Zufallsgrenze liegt außerhalb u64."
  let size := bound.toNat
  let product := rng.nextU64.1 * size
  let threshold := if product % range64 < size then (range64 - size) % size else 0
  let drawn := redraw size threshold range64 product rng.nextU64.2
  return (drawn.1 / range64, drawn.2)

example : ((canonicalSubstreamState 42 0 .tenderRelease).toOption.map fun state =>
    (nextU64 ⟨state⟩).1) = some 15648887706766360790 := by
  decide +kernel

/-- Two places of a list exchanged. -/
def exchange {α : Type} (items : List α) (index other : ℕ) : List α :=
  (items[index]?.bind fun a => items[other]?.map fun b => (items.set index b).set other a).getD
    items

/-- Exchanges every place from the last one down to the second with one before it. -/
def shuffleFrom {α : Type} : ℕ → List α → CanonicalRng → Outcome (List α × CanonicalRng)
  | 0, items, rng => .ok (items, rng)
  | index + 1, items, rng => do
    let drawn ← rng.below (index + 2)
    shuffleFrom index (exchange items (index + 1) drawn.1) drawn.2

def shuffle {α : Type} (rng : CanonicalRng) (items : List α) : Outcome (List α × CanonicalRng) :=
  shuffleFrom (items.length - 1) items rng

end CanonicalRng

/-! ### The calendar -/

structure Lot where
  id : String
  size : Int
  attractiveness : Int

/-- When a lot is tendered. -/
structure TenderCalendarEntry where
  lotId : String
  announcementPeriod : Int
  tenderPeriod : Int
  initialOperator : String

/-- The order of lots: larger and more attractive ones first, then by name. -/
def Lot.order (a b : Lot) : Ordering :=
  (compare (b.size + b.attractiveness) (a.size + a.attractiveness)).then (compare a.id b.id)

/-- The order of entries: earlier ones first, then by name. -/
def TenderCalendarEntry.order (a b : TenderCalendarEntry) : Ordering :=
  (compare a.tenderPeriod b.tenderPeriod).then (compare a.lotId b.lotId)

/-- The entries of the windows from one on, whose lots are shuffled one window after the other. -/
def windowEntries (profile : WorldProfile) :
    ℕ → List (List Lot) → CanonicalRng → Outcome (List TenderCalendarEntry)
  | _, [], _ => .ok []
  | window, bucket :: buckets, rng => do
    let named := bucket.insertionSort fun a b => (compare a.id b.id).isLE = true
    let shuffled ← rng.shuffle named
    let rest ← windowEntries profile (window + 1) buckets shuffled.2
    return shuffled.1.map (fun lot =>
      { lotId := lot.id
        announcementPeriod := window
        tenderPeriod := window + profile.tenderLeadPeriods
        initialOperator := "public" }) ++ rest

def createTenderCalendar (profile : WorldProfile) (lots : List Lot) (worldSeed : Int)
    (period : Int) : Outcome (List TenderCalendarEntry) := do
  require (!lots.isEmpty) "Vergabekalender braucht Lose."
  let half := profile.totalPeriods.elim (max 4 (profile.contractPeriods * 2)) (Int.fdiv · 2)
  let windows := (min half lots.length).toNat
  let sorted := lots.insertionSort fun a b => (a.order b).isLE = true
  let buckets := (List.range windows).map fun window =>
    (sorted.zipIdx.filter fun entry => entry.2 % windows == window).map Prod.fst
  let state ← canonicalSubstreamState worldSeed period .tenderRelease
  let entries ← windowEntries profile 0 buckets ⟨state⟩
  return entries.insertionSort fun a b => (a.order b).isLE = true

/-- The tender profiles of a period in the order in which the lots take them. -/
def deterministicProfileOrder (profiles : List TenderProfile) (worldSeed period : Int) :
    Outcome (List TenderProfile) := do
  let ordered := profiles.insertionSort fun a b => (compare a.id b.id).isLE = true
  let state ← canonicalSubstreamState worldSeed period .tenderProfile
  let shuffled ← CanonicalRng.shuffle ⟨state⟩ ordered
  return shuffled.1

end Zugfolge.Economy
