/-
Conflict resources and what excludes what.

Two train runs compete for block sections, whole tracks, interlocking routes and
facilities.  Two different routes of one station head may exclude each other; which ones
do is known to the interlocking, not to the resource.
-/
import Zugfolge.Foundation.Registry

namespace Zugfolge.Conflict

open Foundation Std

/-! ### Resources -/

abbrev TrackId : Type := ℕ

abbrev OperatingPointId : Type := ℕ

abbrev InterlockingRouteId : Type := ℕ

abbrev FacilityId : Type := ℕ

/-- Something two train runs can compete for. -/
inductive ConflictResource where
  | block (track : TrackId) (ordinal : ℕ)
  | track (track : TrackId)
  | route (point : OperatingPointId) (route : InterlockingRouteId)
  | facility (facility : FacilityId)
  deriving DecidableEq

namespace ConflictResource

/-- The place of the kind of a resource in the stable order. -/
def rank : ConflictResource → ℕ
  | block _ _ => 0
  | track _ => 1
  | route _ _ => 2
  | facility _ => 3

/-- The first number of a resource. -/
def major : ConflictResource → ℕ
  | block trackId _ => trackId
  | track trackId => trackId
  | route point _ => point
  | facility facilityId => facilityId

/-- The second number of a resource. -/
def minor : ConflictResource → ℕ
  | block _ ordinal => ordinal
  | track _ => 0
  | route _ routeId => routeId
  | facility _ => 0

instance : Ord ConflictResource where
  compare := compareLex (compareOn rank) (compareLex (compareOn major) (compareOn minor))

instance : TransOrd ConflictResource :=
  inferInstanceAs (TransCmp (compareLex (compareOn rank)
    (compareLex (compareOn major) (compareOn minor))))

instance : LawfulEqOrd ConflictResource where
  eq_of_compare {a b} h := by
    have h' : compareLex (compareOn rank) (compareLex (compareOn major) (compareOn minor)) a b
      = .eq := h
    simp only [compareLex_eq_eq, compareOn, Std.compare_eq_iff_eq] at h'
    obtain ⟨hrank, hmajor, hminor⟩ := h'
    cases a <;> cases b <;> simp_all [rank, major, minor]

end ConflictResource

/-! ### Exclusions -/

/-- An interlocking route with the routes that must not be set together with it. -/
structure InterlockingRoute where
  id : InterlockingRouteId
  excludes : KeySet InterlockingRouteId

/-- The routes of the head of one operating point. -/
structure InterlockingPlan where
  operatingPoint : OperatingPointId
  routes : Registry InterlockingRouteId InterlockingRoute

/-- The exclusion set of every route, for each operating point. -/
structure ResourceExclusions where
  perPoint : Registry OperatingPointId (Registry InterlockingRouteId (KeySet InterlockingRouteId))

namespace ResourceExclusions

/-- No known exclusions. -/
def new : ResourceExclusions := ⟨∅⟩

/-- Takes over the exclusion sets of a station head. -/
def withPlan (exclusions : ResourceExclusions) (plan : InterlockingPlan) : ResourceExclusions :=
  let entry := (exclusions.perPoint[plan.operatingPoint]?).getD ∅
  ⟨exclusions.perPoint.insert plan.operatingPoint
    ((Registry.values plan.routes).foldl (fun sets route => sets.insert route.id route.excludes)
      entry)⟩

/-- The first resource excludes the second one, although they differ. -/
def excludes (exclusions : ResourceExclusions) : ConflictResource → ConflictResource → Bool
  | .route firstPoint first, .route secondPoint second =>
    if firstPoint ≠ secondPoint then false
    else ((exclusions.perPoint[firstPoint]?).bind fun routes => routes[first]?).any
      fun excluded => excluded.contains second
  | _, _ => false

/-- All resources that a resource excludes. -/
def excludedBy (exclusions : ResourceExclusions) : ConflictResource → List ConflictResource
  | .route point route =>
    (((exclusions.perPoint[point]?).bind fun routes => routes[route]?).map
      fun excluded => excluded.toList.map fun other => .route point other).getD []
  | _ => []

variable {a b : ConflictResource} {exclusions : ResourceExclusions}

/-- The list of the excluded resources holds exactly the resources that are excluded. -/
lemma mem_excludedBy :
    b ∈ exclusions.excludedBy a ↔ exclusions.excludes a b = true := by
  cases a with
  | route point route =>
    rw [excludedBy]
    cases hsets : (exclusions.perPoint[point]?).bind fun routes => routes[route]? with
    | none => cases b <;> simp [excludes, hsets]
    | some excluded =>
      cases b with
      | route point' route' =>
        by_cases hpoint : point = point'
        · subst hpoint
          simp [excludes, hsets]
        · simp [excludes, hpoint]
      | _ => simp [excludes]
  | _ => cases b <;> simp [excludedBy, excludes]

/-- Each of the two resources excludes the other one. -/
def MutuallyExclusive (exclusions : ResourceExclusions) (a b : ConflictResource) : Prop :=
  exclusions.excludes a b = true ∧ exclusions.excludes b a = true

instance (exclusions : ResourceExclusions) (a b : ConflictResource) :
    Decidable (exclusions.MutuallyExclusive a b) :=
  inferInstanceAs (Decidable (_ ∧ _))

/-- The relation is symmetric, as an interlocking derives it. -/
def Symmetric (exclusions : ResourceExclusions) : Prop :=
  ∀ a b, exclusions.excludes a b = true → exclusions.excludes b a = true

/-- Whether the relation is symmetric, asked of every exclusion set. -/
def symmetricCheck (exclusions : ResourceExclusions) : Bool :=
  exclusions.perPoint.toList.all fun head => head.2.toList.all fun set =>
    set.2.toList.all fun other => exclusions.excludes (.route head.1 other) (.route head.1 set.1)

/-- The check over all exclusion sets speaks for all resources. -/
lemma symmetric_of_check (h : exclusions.symmetricCheck = true) : exclusions.Symmetric := by
  intro a b hab
  cases a with
  | route point first =>
    cases b with
    | route point' second =>
      rw [excludes] at hab
      split at hab
      · cases hab
      next hpoint =>
        obtain rfl : point = point' := not_not.mp hpoint
        obtain ⟨excluded, hsets, hsecond⟩ := (Option.any_eq_true _ _).mp hab
        obtain ⟨routes, hroutes, hexcluded⟩ := Option.bind_eq_some_iff.mp hsets
        simp only [symmetricCheck, List.all_eq_true] at h
        exact h (point, routes) (Registry.mem_toList.mpr hroutes) (first, excluded)
          (Registry.mem_toList.mpr hexcluded) second (by simpa using hsecond)
    | _ => simp [excludes] at hab
  | _ => cases b <;> simp [excludes] at hab

/-- Two runs must not hold the two resources at the same time. -/
def Shares (exclusions : ResourceExclusions) (a b : ConflictResource) : Prop :=
  a = b ∨ exclusions.MutuallyExclusive a b

lemma MutuallyExclusive.symm
    (h : exclusions.MutuallyExclusive a b) : exclusions.MutuallyExclusive b a := ⟨h.2, h.1⟩

lemma Shares.symm (h : exclusions.Shares a b) : exclusions.Shares b a := by
  rcases h with rfl | h
  · exact .inl rfl
  · exact .inr h.symm

lemma Symmetric.mutuallyExclusive (h : exclusions.Symmetric)
    (hab : exclusions.excludes a b = true) :
    exclusions.MutuallyExclusive a b := ⟨hab, h a b hab⟩

end ResourceExclusions

/-! ### A station head with two routes -/

namespace StationHead

/-- The head of operating point 3: its routes 1 and 2 share a switch. -/
def plan : InterlockingPlan where
  operatingPoint := 3
  routes := ExtTreeMap.ofList [(1, ⟨1, ExtTreeSet.ofList [2] compare⟩),
    (2, ⟨2, ExtTreeSet.ofList [1] compare⟩)] compare

/-- What the head excludes. -/
def exclusions : ResourceExclusions := ResourceExclusions.new.withPlan plan

lemma symmetric : exclusions.Symmetric :=
  ResourceExclusions.symmetric_of_check (by decide +kernel)

end StationHead

end Zugfolge.Conflict
