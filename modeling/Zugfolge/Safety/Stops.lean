/-
Passenger stops.

A train with a stop plan calls at its stops in the order of the plan: it does not pass a
stop before arrival and departure are recorded there, and it departs neither before the
timetable nor before the end of the dwell time.

* `stops_respected`: every run respects the stops and records each of them once.
-/
import Zugfolge.Behaviour.Journeys
import Zugfolge.Behaviour.Segments

namespace Zugfolge

open Foundation

/-! ### Receipts -/

namespace OperationalPassengerStopProgress

variable (progress : OperationalPassengerStopProgress)

/-- The recorded arrival at a stop. -/
def arrivalAt (index : ℕ) : Option SimMillis :=
  progress.receipts[index]?.bind (·.actualArrivalMs)

/-- The recorded departure from a stop. -/
def departureAt (index : ℕ) : Option SimMillis :=
  progress.receipts[index]?.bind (·.actualDepartureMs)

/-- Arrivals and departures are a prefix of the plan: both are recorded at every stop
before the next one, the departure at no other, the arrival at no stop behind it; and
every departure respects timetable and dwell time. -/
structure ReceiptsInOrder : Prop where
  complete : progress.receipts.length = progress.plan.stops.length
  next : progress.nextStopIndex < progress.plan.stops.length
  recorded : ∀ index < progress.nextStopIndex,
    (progress.arrivalAt index).isSome ∧ (progress.departureAt index).isSome
  unvisited : ∀ index, progress.nextStopIndex < index → progress.arrivalAt index = none
  standing : ∀ index, progress.nextStopIndex ≤ index → progress.departureAt index = none
  timely : ∀ (index : ℕ) (stop : OperationalPassengerStop) (arrival departure : SimMillis),
    progress.plan.stops[index]? = some stop → progress.arrivalAt index = some arrival →
    progress.departureAt index = some departure →
    stop.scheduledDepartureMs ≤ departure ∧ arrival + stop.minimumDwellMs ≤ departure

/-- The receipts of a progress are those of an earlier one and later ones. -/
structure CarriesOn (earlier later : OperationalPassengerStopProgress) : Prop where
  plan : later.plan = earlier.plan
  arrival : ∀ (index : ℕ) (atMs : SimMillis), earlier.arrivalAt index = some atMs →
    later.arrivalAt index = some atMs
  departure : ∀ (index : ℕ) (atMs : SimMillis), earlier.departureAt index = some atMs →
    later.departureAt index = some atMs

lemma CarriesOn.refl : progress.CarriesOn progress :=
  ⟨rfl, fun _ _ => id, fun _ _ => id⟩

lemma CarriesOn.trans {a b c : OperationalPassengerStopProgress} (h : a.CarriesOn b)
    (k : b.CarriesOn c) : a.CarriesOn c where
  plan := k.plan.trans h.plan
  arrival index atMs ha := k.arrival index atMs (h.arrival index atMs ha)
  departure index atMs hd := k.departure index atMs (h.departure index atMs hd)

variable {progress}

lemma receipts_updateNext (f : OperationalPassengerStopFact → OperationalPassengerStopFact)
    (index : ℕ) : (progress.updateNext f).receipts[index]?
      = if progress.nextStopIndex = index then progress.receipts[index]?.map f
        else progress.receipts[index]? := by
  rw [updateNext, List.getElem?_modify]
  split
  · rfl
  · simp

lemma arrivalAt_arrived (hnext : progress.nextStopIndex < progress.receipts.length)
    (atMs : SimMillis) (index : ℕ) : (progress.arrived atMs).arrivalAt index
      = if progress.nextStopIndex = index then some atMs else progress.arrivalAt index := by
  simp only [arrivalAt, arrived, receipts_updateNext]
  split
  case isTrue h =>
    subst h
    simp [List.getElem?_eq_getElem hnext]
  case isFalse => rfl

lemma departureAt_arrived (atMs : SimMillis) (index : ℕ) :
    (progress.arrived atMs).departureAt index = progress.departureAt index := by
  simp only [departureAt, arrived, receipts_updateNext]
  split
  · cases progress.receipts[index]? <;> rfl
  · rfl

lemma arrivalAt_left (atMs : SimMillis) (index : ℕ) :
    (progress.left atMs).arrivalAt index = progress.arrivalAt index := by
  change ((progress.updateNext _).receipts[index]?).bind _ = _
  rw [receipts_updateNext, arrivalAt]
  split
  · cases progress.receipts[index]? <;> rfl
  · rfl

lemma departureAt_left (hnext : progress.nextStopIndex < progress.receipts.length)
    (atMs : SimMillis) (index : ℕ) : (progress.left atMs).departureAt index
      = if progress.nextStopIndex = index then some atMs else progress.departureAt index := by
  change ((progress.updateNext _).receipts[index]?).bind _ = _
  rw [receipts_updateNext, departureAt]
  split
  case isTrue h =>
    subst h
    simp [List.getElem?_eq_getElem hnext]
  case isFalse => rfl

/-- At the begin of its plan a train has no receipts. -/
lemma receiptsInOrder_new (env : Env) {plan : OperationalPassengerStopPlan}
    (hstops : 0 < plan.stops.length) : (new env plan).ReceiptsInOrder := by
  have hempty : ∀ index : ℕ, (new env plan).receipts[index]? = none
      ∨ (new env plan).receipts[index]? = some {} := by
    intro index
    simp only [new, List.getElem?_replicate]
    split
    · exact .inr rfl
    · exact .inl rfl
  have harrival : ∀ index : ℕ, (new env plan).arrivalAt index = none := fun index => by
    rcases hempty index with h | h <;> simp [arrivalAt, h]
  have hdeparture : ∀ index : ℕ, (new env plan).departureAt index = none := fun index => by
    rcases hempty index with h | h <;> simp [departureAt, h]
  refine ⟨by simp [new], hstops, fun index hindex => absurd hindex (Nat.not_lt_zero index),
    fun index _ => harrival index, fun index _ => hdeparture index, ?_⟩
  intro index stop arrival departure _ ha
  rw [harrival] at ha
  cases ha

namespace ReceiptsInOrder

lemma arrived (h : progress.ReceiptsInOrder) (atMs : SimMillis) :
    (progress.arrived atMs).ReceiptsInOrder := by
  have hnext : progress.nextStopIndex < progress.receipts.length := h.complete ▸ h.next
  have hlength : (progress.arrived atMs).receipts.length = progress.receipts.length := by
    simp [OperationalPassengerStopProgress.arrived, updateNext]
  refine ⟨hlength.trans h.complete, h.next, fun index hindex => ?_, fun index hindex => ?_,
    fun index hindex => ?_, fun index stop arrival departure hstop ha hd => ?_⟩
  · have hne : progress.nextStopIndex ≠ index := fun heq => (heq ▸ Nat.lt_irrefl _ : ¬ _) hindex
    rw [arrivalAt_arrived hnext, departureAt_arrived, if_neg hne]
    exact h.recorded index hindex
  · have hne : progress.nextStopIndex ≠ index := fun heq => (heq ▸ Nat.lt_irrefl _ : ¬ _) hindex
    rw [arrivalAt_arrived hnext, if_neg hne]
    exact h.unvisited index hindex
  · rw [departureAt_arrived]
    exact h.standing index hindex
  · rw [departureAt_arrived] at hd
    rw [arrivalAt_arrived hnext] at ha
    split at ha
    case isTrue heq =>
      rw [h.standing index heq.le] at hd
      cases hd
    case isFalse => exact h.timely index stop arrival departure hstop ha hd

/-- The departure from the next stop is recorded, and another stop is next. -/
lemma left (h : progress.ReceiptsInOrder) {atMs arrival : SimMillis}
    {stop : OperationalPassengerStop}
    (hmore : progress.nextStopIndex + 1 < progress.plan.stops.length)
    (hstop : progress.plan.stops[progress.nextStopIndex]? = some stop)
    (harrival : progress.arrivalAtNext = some arrival)
    (hscheduled : stop.scheduledDepartureMs ≤ atMs)
    (hdwell : arrival + stop.minimumDwellMs ≤ atMs) : (progress.left atMs).ReceiptsInOrder := by
  have hnext : progress.nextStopIndex < progress.receipts.length := h.complete ▸ h.next
  have hlength : (progress.left atMs).receipts.length = progress.receipts.length := by
    simp [OperationalPassengerStopProgress.left, updateNext]
  have hindexed : (progress.left atMs).nextStopIndex = progress.nextStopIndex + 1 := rfl
  refine ⟨hlength.trans h.complete, hmore, fun index hindex => ?_, fun index hindex => ?_,
    fun index hindex => ?_, fun index other arrivedAt departedAt hother ha hd => ?_⟩
  · rw [hindexed] at hindex
    rw [arrivalAt_left, departureAt_left hnext]
    rcases Nat.lt_succ_iff_lt_or_eq.mp hindex with hbefore | rfl
    · have hne : progress.nextStopIndex ≠ index := by omega
      rw [if_neg hne]
      exact h.recorded index hbefore
    · rw [if_pos rfl]
      exact ⟨Option.isSome_of_mem harrival, rfl⟩
  · rw [hindexed] at hindex
    rw [arrivalAt_left]
    exact h.unvisited index (by omega)
  · rw [hindexed] at hindex
    have hne : progress.nextStopIndex ≠ index := by omega
    rw [departureAt_left hnext, if_neg hne]
    exact h.standing index (by omega)
  · rw [arrivalAt_left] at ha
    rw [departureAt_left hnext] at hd
    split at hd
    case isTrue heq =>
      subst heq
      cases hd
      have hsame : other = stop := Option.some.inj (hother.symm.trans hstop)
      have harrived : arrivedAt = arrival := Option.some.inj (ha.symm.trans harrival)
      rw [hsame, harrived]
      exact ⟨hscheduled, hdwell⟩
    case isFalse => exact h.timely index other arrivedAt departedAt hother ha hd

end ReceiptsInOrder

end OperationalPassengerStopProgress

/-! ### One train -/

/-- The receipts of a train are in order, and its head is not behind a stop without
departure, now or at any instant of the running segment. -/
structure StopsRespected (train : OperationalTrain) (progress : OperationalPassengerStopProgress) :
    Prop where
  receipts : progress.ReceiptsInOrder
  route : train.routeVersionId = progress.plan.routeVersionId
  head : ∀ (index : ℕ) (stop : OperationalPassengerStop), progress.departureAt index = none →
    progress.plan.stops[index]? = some stop → train.headRouteMm ≤ stop.routeMm
  running : ∀ (segment : MotionSegment) (atMs : SimMillis) (position : RouteMillimetres)
    (index : ℕ) (stop : OperationalPassengerStop), train.motionSegment = some segment →
    segment.positionAt atMs = .ok position → progress.departureAt index = none →
    progress.plan.stops[index]? = some stop → position ≤ stop.routeMm

/-- What every step keeps of a train with a stop plan: it runs to its next stop at most,
and once it has arrived there it stands until it departs. -/
structure StopsKept (train : OperationalTrain) (progress : OperationalPassengerStopProgress) :
    Prop where
  valid : progress.plan.validate = .ok ()
  receipts : progress.ReceiptsInOrder
  route : train.routeVersionId = progress.plan.routeVersionId
  head : ∀ stop, progress.plan.stops[progress.nextStopIndex]? = some stop →
    train.headRouteMm ≤ stop.routeMm
  running : ∀ segment stop, train.motionSegment = some segment →
    progress.plan.stops[progress.nextStopIndex]? = some stop →
    segment.segmentEndRouteMm ≤ stop.routeMm
  arrived : ∀ arrival, progress.arrivalAtNext = some arrival → train.motionSegment = none
    ∧ ∀ stop, progress.plan.stops[progress.nextStopIndex]? = some stop →
      (addChecked64 arrival stop.minimumDwellMs).isSome

/-- The stops of a valid plan lie ahead of one another. -/
lemma OperationalPassengerStopPlan.stopsAdvance_pairwise {stops : List OperationalPassengerStop}
    (h : stopsAdvance stops = true) :
    stops.Pairwise fun a b => a.routeMm < b.routeMm := by
  induction stops with
  | nil => exact .nil
  | cons first rest ih =>
    cases rest with
    | nil => exact List.pairwise_singleton _ _
    | cons second rest =>
      simp only [stopsAdvance, Bool.and_eq_true, decide_eq_true_eq] at h
      have hrest := ih h.2
      refine List.pairwise_cons.mpr ⟨fun stop hstop => ?_, hrest⟩
      rcases List.mem_cons.mp hstop with rfl | hin
      · exact h.1.1
      · exact h.1.1.trans ((List.pairwise_cons.mp hrest).1 stop hin)

/-- What the validation of a plan promises of its stops. -/
lemma OperationalPassengerStopPlan.validate_stops {plan : OperationalPassengerStopPlan}
    (h : plan.validate = .ok ()) :
    2 ≤ plan.stops.length
      ∧ (∀ (i j : ℕ) (a b : OperationalPassengerStop), i < j → plan.stops[i]? = some a →
        plan.stops[j]? = some b → a.routeMm < b.routeMm)
      ∧ ∀ (i : ℕ) (stop : OperationalPassengerStop), plan.stops[i]? = some stop →
        0 ≤ stop.routeMm := by
  simp only [validate, demand_eq_ok, Bool.and_eq_true, decide_eq_true_eq] at h
  obtain ⟨⟨⟨⟨⟨⟨-, -⟩, hlength⟩, -⟩, hvalid⟩, -⟩, hadvance⟩ := h
  refine ⟨hlength, fun i j a b hij ha hb => ?_, fun i stop hstop => ?_⟩
  · obtain ⟨hi, rfl⟩ := List.getElem?_eq_some_iff.mp ha
    obtain ⟨hj, rfl⟩ := List.getElem?_eq_some_iff.mp hb
    exact List.pairwise_iff_getElem.mp (stopsAdvance_pairwise hadvance) i j hi hj hij
  · have hin : (stop, i) ∈ plan.stops.zipIdx := List.mem_zipIdx_iff_getElem?.mpr hstop
    have hchecked := List.all_eq_true.mp hvalid _ hin
    simp only [stopIsValid, Bool.not_eq_true', Bool.or_eq_false_iff,
      decide_eq_false_iff_not, not_lt] at hchecked
    exact hchecked.1.1.1.1.2

namespace StopsKept

variable {train old : OperationalTrain} {progress : OperationalPassengerStopProgress}

lemma respected (h : StopsKept train progress) : StopsRespected train progress := by
  obtain ⟨-, hadvance, -⟩ := OperationalPassengerStopPlan.validate_stops h.valid
  -- A stop without departure is the next one or lies behind it.
  have hbound : ∀ (index : ℕ) (stop : OperationalPassengerStop),
      progress.departureAt index = none → progress.plan.stops[index]? = some stop →
      ∃ next, progress.plan.stops[progress.nextStopIndex]? = some next
        ∧ next.routeMm ≤ stop.routeMm := by
    intro index stop hopen hstop
    have hle : progress.nextStopIndex ≤ index := by
      by_contra hlt
      have hdeparted := (h.receipts.recorded index (by omega)).2
      rw [hopen] at hdeparted
      cases hdeparted
    refine ⟨_, List.getElem?_eq_getElem h.receipts.next, ?_⟩
    rcases hle.lt_or_eq with hlt | heq
    · exact (hadvance _ _ _ _ hlt (List.getElem?_eq_getElem _) hstop).le
    · rw [← heq, List.getElem?_eq_getElem h.receipts.next] at hstop
      cases hstop
      exact le_rfl
  refine ⟨h.receipts, h.route, fun index stop hopen hstop => ?_,
    fun segment atMs position index stop hsegment hposition hopen hstop => ?_⟩
  · obtain ⟨next, hnext, hle⟩ := hbound index stop hopen hstop
    exact (h.head next hnext).trans hle
  · obtain ⟨next, hnext, hle⟩ := hbound index stop hopen hstop
    exact (MotionSegment.positionAt_le hposition).trans
      ((h.running segment next hsegment hnext).trans hle)

/-- The invariant reads route, head and segment; a segment may go. -/
lemma of_same (h : StopsKept old progress) (hroute : train.routeVersionId = old.routeVersionId)
    (hhead : train.headRouteMm = old.headRouteMm)
    (hsegment : ∀ segment, train.motionSegment = some segment → old.motionSegment = some segment) :
    StopsKept train progress where
  valid := h.valid
  receipts := h.receipts
  route := hroute.trans h.route
  head stop hstop := hhead ▸ h.head stop hstop
  running segment stop hrun hstop := h.running segment stop (hsegment segment hrun) hstop
  arrived arrival harrival := by
    obtain ⟨hnone, hdue⟩ := h.arrived arrival harrival
    refine ⟨?_, hdue⟩
    cases hrun : train.motionSegment with
    | none => rfl
    | some segment =>
      rw [hsegment segment hrun] at hnone
      cases hnone

variable {authority : MovementAuthority} {id : String} {segment : MotionSegment}
  {stop : OperationalPassengerStop} {w : OperationalWorld}

/-- A train at the begin of a plan that was checked. -/
lemma begun {env : Env} {input : TrainMaterialization}
    {plan : OperationalPassengerStopPlan} (hchecked : w.validatePassengerStopPlan input = .ok ())
    (hplan : input.stopPlan = some plan) (hroute : train.routeVersionId = input.routeVersionId)
    (hhead : train.headRouteMm = input.headRouteMm) (hsegment : train.motionSegment = none) :
    StopsKept train (.new env plan) := by
  simp only [OperationalWorld.validatePassengerStopPlan, hplan, checked_bind_eq_ok,
    orPanic_eq_ok, refuseIf_eq_ok, Bool.or_eq_false_iff, bne_eq_false_iff_eq] at hchecked
  obtain ⟨_, hvalid, first, hfirst, _, hbound, -⟩ := hchecked
  obtain ⟨⟨⟨⟨⟨⟨⟨-, -⟩, hplanRoute⟩, -⟩, -⟩, hstart⟩, -⟩, -⟩ := hbound
  have hlength := (OperationalPassengerStopPlan.validate_stops hvalid).1
  have hnone : (OperationalPassengerStopProgress.new env plan).arrivalAtNext = none := by
    simp [OperationalPassengerStopProgress.arrivalAtNext, OperationalPassengerStopProgress.new,
      List.getElem?_replicate]
  refine ⟨hvalid, OperationalPassengerStopProgress.receiptsInOrder_new env (by omega),
    hroute.trans hplanRoute.symm, fun stop hstop => ?_, fun segment stop hrun _ => ?_,
    fun arrival harrival => ?_⟩
  · have hsame : some stop = some first :=
      hstop.symm.trans (List.head?_eq_getElem?.symm.trans hfirst)
    cases hsame
    rw [hhead, hstart]
  · rw [hsegment] at hrun
    cases hrun
  · rw [hnone] at harrival
    cases harrival

lemma segmentEnd_le (h : StopsKept old progress)
    (hstops : old.passengerStops = some progress) (hstart : MotionStart w id old authority segment)
    {index : ℕ} (hindex : index = if progress.arrivalAtNext.isSome then progress.nextStopIndex + 1
      else progress.nextStopIndex)
    (hstop : progress.plan.stops[index]? = some stop) (hhead : old.headRouteMm ≤ stop.routeMm) :
    segment.segmentEndRouteMm ≤ stop.routeMm := by
  have hmin : i64Min ≤ stop.routeMm :=
    le_trans (by decide) ((OperationalPassengerStopPlan.validate_stops h.valid).2.2 _ _ hstop)
  refine hstart.ending stop.routeMm hmin hhead (.inr ?_)
  subst hindex
  simp only [OperationalTrain.passengerBrakingTarget, hstops, Option.bind_eq_bind,
    Option.bind_some, hstop]

/-- A train starts towards its next stop. -/
lemma started (h : StopsKept old progress)
    (hstops : old.passengerStops = some progress) (hstart : MotionStart w id old authority segment)
    (hnone : progress.arrivalAtNext = none) (hroute : train.routeVersionId = old.routeVersionId)
    (hhead : train.headRouteMm = old.headRouteMm) (hsegment : train.motionSegment = some segment) :
    StopsKept train progress where
  valid := h.valid
  receipts := h.receipts
  route := hroute.trans h.route
  head stop hstop := hhead ▸ h.head stop hstop
  running other stop hrun hstop := by
    rw [hsegment, Option.some.injEq] at hrun
    subst hrun
    exact h.segmentEnd_le hstops hstart (by simp [hnone]) hstop (h.head stop hstop)
  arrived arrival harrival := by
    rw [hnone] at harrival
    cases harrival

/-- A train leaves the stop it stands at. -/
lemma left {due : SimMillis}
    (h : StopsKept old progress) (hstops : old.passengerStops = some progress)
    (hstart : MotionStart w id old authority segment)
    (hdue : progress.departureDue = some due) (hnow : due ≤ w.nowMs)
    (hstop : progress.plan.stops[progress.nextStopIndex]? = some stop)
    (hhere : old.headRouteMm = stop.routeMm) (hroute : train.routeVersionId = old.routeVersionId)
    (hhead : train.headRouteMm = old.headRouteMm) (hsegment : train.motionSegment = some segment) :
    StopsKept train (progress.left w.nowMs) := by
  -- What is due is the end of the dwell time and the timetable, at a stop before the last.
  unfold OperationalPassengerStopProgress.departureDue at hdue
  split at hdue
  case isTrue => cases hdue
  case isFalse =>
    split at hdue
    case isTrue => cases hdue
    case isFalse hmore =>
      simp only [Option.bind_eq_bind, Option.bind_eq_some_iff, hstop, Option.some.injEq] at hdue
      obtain ⟨arrival, harrival, _, rfl, rfl⟩ := hdue
      obtain ⟨dwelt, hdwelt⟩ := Option.isSome_iff_exists.mp
        ((h.arrived arrival harrival).2 stop hstop)
      obtain ⟨rfl, hfits⟩ := checked64_eq_some hdwelt
      have hexact : addSat64 arrival stop.minimumDwellMs = arrival + stop.minimumDwellMs :=
        clamp64_of_mem hfits
      rw [hexact] at hnow
      have hreceipts := h.receipts.left (by omega) hstop harrival
        ((le_max_right _ _).trans hnow) ((le_max_left _ _).trans hnow)
      obtain ⟨-, hadvance, -⟩ := OperationalPassengerStopPlan.validate_stops h.valid
      have hahead : ∀ next, progress.plan.stops[progress.nextStopIndex + 1]? = some next →
          old.headRouteMm ≤ next.routeMm := by
        intro next hnext
        rw [hhere]
        exact (hadvance _ _ _ _ (Nat.lt_succ_self _) hstop hnext).le
      refine ⟨h.valid, hreceipts, hroute.trans h.route,
        fun next hnext => hhead ▸ hahead next hnext, fun other next hrun hnext => ?_,
        fun again hagain => ?_⟩
      · rw [hsegment, Option.some.injEq] at hrun
        subst hrun
        exact h.segmentEnd_le hstops hstart (by rw [harrival]; rfl) hnext (hahead next hnext)
      · have hnone : (progress.left w.nowMs).arrivalAtNext = none :=
          (OperationalPassengerStopProgress.arrivalAt_left _ _).trans
            (h.receipts.unvisited _ (Nat.lt_succ_self _))
        rw [hnone] at hagain
        cases hagain

/-- A train arrives at its next stop. -/
lemma arrival {nowMs due : SimMillis}
    (h : StopsKept old progress) (harrives : old.arrivesAt progress = true)
    (hstop : progress.plan.stops[progress.nextStopIndex]? = some stop)
    (hdue : addChecked64 nowMs stop.minimumDwellMs = some due)
    (hroute : train.routeVersionId = old.routeVersionId)
    (hhead : train.headRouteMm = old.headRouteMm)
    (hsegment : train.motionSegment = old.motionSegment) :
    StopsKept train (progress.arrived nowMs) := by
  simp only [OperationalTrain.arrivesAt, Bool.and_eq_true, Option.isNone_iff_eq_none] at harrives
  obtain ⟨⟨⟨-, hstands⟩, -⟩, -⟩ := harrives
  refine ⟨h.valid, h.receipts.arrived nowMs, hroute.trans h.route,
    fun next hnext => hhead ▸ h.head next hnext, fun segment next hrun _ => ?_,
    fun again hagain => ⟨hsegment.trans hstands, fun next hnext => ?_⟩⟩
  · rw [hsegment, hstands] at hrun
    cases hrun
  · have hnow : again = nowMs := by
      have hrecorded := OperationalPassengerStopProgress.arrivalAt_arrived
        (h.receipts.complete ▸ h.receipts.next) nowMs progress.nextStopIndex
      rw [if_pos rfl] at hrecorded
      exact Option.some.inj (hagain.symm.trans hrecorded)
    have hsame : some next = some stop := hnext.symm.trans hstop
    cases hsame
    rw [hnow, hdue]
    rfl

/-- A running train moves on to where its segment has brought it. -/
lemma moved {atMs : SimMillis} {position : RouteMillimetres}
    (h : StopsKept old progress) (hrunning : old.motionSegment = some segment)
    (hposition : segment.positionAt atMs = .ok position)
    (hroute : train.routeVersionId = old.routeVersionId) (hhead : train.headRouteMm = position)
    (hsegment : ∀ other, train.motionSegment = some other → other = segment) :
    StopsKept train progress where
  valid := h.valid
  receipts := h.receipts
  route := hroute.trans h.route
  head stop hstop := hhead ▸
    (MotionSegment.positionAt_le hposition).trans (h.running segment stop hrunning hstop)
  running other stop hrun hstop := by
    rw [hsegment other hrun]
    exact h.running segment stop hrunning hstop
  arrived arrival harrival := by
    have hnone := (h.arrived arrival harrival).1
    rw [hrunning] at hnone
    cases hnone

end StopsKept

/-! ### One step -/

/-- The visit begins the train: it is materialised, or accepted from another region, or
takes the place of its predecessor. -/
def beginsTrain (id : String) (v : Visit) : Bool :=
  match v.act with
  | .materialize input => input.id == id
  | .acceptHandover handover => handover.train.id == id
  | .continueMovement continuationId =>
    Registry.anyValue v.before.pendingMovementContinuations fun continuation =>
      continuation.id == continuationId && continuation.successor.id == id
  | _ => false

/-- The stop plans of all trains are kept. -/
def OperationalWorld.PlansKept (w : OperationalWorld) : Prop :=
  ∀ (id : String) (train : OperationalTrain) (progress : OperationalPassengerStopProgress),
    w.trains[id]? = some train → train.passengerStops = some progress → StopsKept train progress

/-- The train of a message keeps its plan. -/
def PlanCarried (handover : RegionHandover) : Prop :=
  ∀ progress, handover.train.passengerStops = some progress → StopsKept handover.train progress

/-- The stop plan of a train carries on an earlier one of the train, or the train begins. -/
def CarriesOnFrom (w : OperationalWorld) (vs : List Visit) (id : String)
    (progress : OperationalPassengerStopProgress) : Prop :=
  (∃ v ∈ vs, beginsTrain id v = true)
    ∨ ∃ old earlier, w.trains[id]? = some old ∧ old.passengerStops = some earlier
      ∧ earlier.CarriesOn progress

lemma OperationalWorld.admitActivation_stops {w : OperationalWorld}
    {continuation : MovementContinuation} {predecessor : OperationalTrain}
    {intervals : List TrackInterval} {blocks : KeySet String} {direction : Direction}
    (h : w.admitActivation continuation predecessor = .ok (intervals, blocks, direction)) :
    w.validatePassengerStopPlan continuation.successor = .ok () := by
  obtain ⟨htemplate, -⟩ := admitActivation_eq_ok h
  simp only [validateTrainProgramTemplate, checked_bind_eq_ok] at htemplate
  obtain ⟨_, hinspected, -⟩ := htemplate
  simp only [inspectTrainProgramTemplate, checked_bind_eq_ok] at hinspected
  obtain ⟨_, -, _, -, _, -, hinspected⟩ := hinspected
  simp only [inspectTrainProgramTemplateWithProtectionModes, checked_bind_eq_ok] at hinspected
  obtain ⟨_, hplan, -⟩ := hinspected
  exact hplan

/-- A train after a step keeps its plan and carries on its receipts. -/
lemma TrainEffect.stopsKept {d : Debt} {w : OperationalWorld} {vs : List Visit} {id : String}
    {train : OperationalTrain} (heffect : TrainEffect d w vs id train)
    (hletters : ∀ handover ∈ d.letters, PlanCarried handover) (hw : w.PlansKept)
    {progress : OperationalPassengerStopProgress} (hp : train.core.passengerStops = some progress) :
    StopsKept train.core progress ∧ CarriesOnFrom w vs id progress := by
  -- A train whose plan is not written keeps its receipts.
  have hsame : ∀ {old : OperationalTrain}, w.trains[id]? = some old →
      train.core.passengerStops = old.passengerStops →
      StopsKept old progress ∧ CarriesOnFrom w vs id progress := by
    intro old hold hstops
    rw [hstops] at hp
    exact ⟨hw id old progress hold hp, .inr ⟨old, progress, hold, hp, .refl progress⟩⟩
  have halike : ∀ {old core : OperationalTrain}, w.trains[id]? = some old → train.core = core →
      core.passengerStops = old.passengerStops → core.routeVersionId = old.routeVersionId →
      core.headRouteMm = old.headRouteMm → (∀ segment, core.motionSegment = some segment →
        old.motionSegment = some segment) → StopsKept train.core progress
          ∧ CarriesOnFrom w vs id progress := by
    rintro old _ hold rfl hstops hroute hhead hrunning
    exact (hsame hold hstops).imp_left fun hkept => hkept.of_same hroute hhead hrunning
  cases heffect with
  | kept hold hcore => exact halike hold hcore rfl rfl rfl fun _ h => h
  | materialized hvs hid hadmitted hcore =>
    rw [hcore] at hp ⊢
    simp only [OperationalWorld.admitMaterialization, checked_bind_eq_ok] at hadmitted
    obtain ⟨_, -, _, -, _, hchecked, -⟩ := hadmitted
    obtain ⟨plan, hplan, rfl⟩ := Option.map_eq_some_iff.mp hp
    refine ⟨.begun hchecked hplan rfl rfl rfl, .inl ⟨_, hvs ▸ List.mem_singleton_self _, ?_⟩⟩
    simp [beginsTrain, hid]
  | reformed _ _ hold hcore => exact halike hold hcore rfl rfl rfl fun _ h => h
  | rerouted hadmitted hold hcore =>
    -- A train with a stop plan keeps its route.
    simp only [OperationalWorld.admitReroute, checked_bind_eq_ok, w.trainOf_eq_ok,
      refuseIf_eq_ok] at hadmitted
    obtain ⟨_, -, read, hread, _, hnone, -⟩ := hadmitted
    rw [hread, Option.some.injEq] at hold
    subst hold
    rw [hcore] at hp
    change read.passengerStops = some progress at hp
    rw [hp] at hnone
    cases hnone
  | authorized _ _ hold hcore => exact halike hold hcore rfl rfl rfl fun _ h => h
  | started _ hplan hold hnone hcore =>
    obtain ⟨hkept, hfrom⟩ := hsame hold (by rw [hcore]; rfl)
    obtain ⟨read, authority, hstart⟩ := decideMotion_start hplan
    have hread := hstart.known
    rw [hold, Option.some.injEq] at hread
    subst hread
    rw [hcore] at hp ⊢
    exact ⟨hkept.started hp hstart (hnone progress hp) rfl rfl rfl, hfrom⟩
  | @left _ old earlier _ _ _ hplan hold hstops harrived hdue hnow hstop hhere hcore =>
    obtain ⟨read, authority, hstart⟩ := decideMotion_start hplan
    have hread := hstart.known
    rw [hold, Option.some.injEq] at hread
    subst hread
    have hkept := hw id old earlier hold hstops
    rw [hcore] at hp ⊢
    cases hp
    refine ⟨hkept.left hstops hstart hdue hnow hstop hhere rfl rfl rfl,
      .inr ⟨old, earlier, hold, hstops, rfl, fun index atMs ha => ?_, fun index atMs hd => ?_⟩⟩
    · rwa [OperationalPassengerStopProgress.arrivalAt_left]
    · have hnext := hkept.receipts.next
      rw [OperationalPassengerStopProgress.departureAt_left (hkept.receipts.complete ▸ hnext)]
      split
      case isTrue heq =>
        rw [hkept.receipts.standing index heq.le] at hd
        cases hd
      case isFalse => exact hd
  | @arrived old earlier _ _ hold hstops harrives hstop hdue _ hcore =>
    have hkept := hw id old earlier hold hstops
    rw [hcore] at hp ⊢
    cases hp
    refine ⟨hkept.arrival harrives hstop hdue rfl rfl rfl,
      .inr ⟨old, earlier, hold, hstops, rfl, fun index atMs ha => ?_, fun index atMs hd => ?_⟩⟩
    · simp only [OperationalTrain.arrivesAt, Bool.and_eq_true,
        Option.isNone_iff_eq_none] at harrives
      have hnext := hkept.receipts.next
      rw [OperationalPassengerStopProgress.arrivalAt_arrived (hkept.receipts.complete ▸ hnext)]
      split
      case isTrue heq =>
        subst heq
        have hnone : earlier.arrivalAt earlier.nextStopIndex = none := harrives.2
        rw [hnone] at ha
        cases ha
      case isFalse => exact ha
    · rwa [OperationalPassengerStopProgress.departureAt_arrived]
  | @cancelled old receipt hold hcore =>
    rw [hcore] at hp ⊢
    obtain ⟨earlier, hstops, rfl⟩ := Option.map_eq_some_iff.mp hp
    have hkept := hw id old earlier hold hstops
    exact ⟨⟨hkept.valid, ⟨hkept.receipts.complete, hkept.receipts.next,
        hkept.receipts.recorded, hkept.receipts.unvisited, hkept.receipts.standing,
        hkept.receipts.timely⟩, hkept.route, hkept.head, hkept.running, hkept.arrived⟩,
      .inr ⟨old, earlier, hold, hstops, rfl, fun _ _ ha => ha, fun _ _ hd => hd⟩⟩
  | ended _ hold hrunning hposition _ _ hplace hcore =>
    obtain ⟨hkept, hfrom⟩ := hsame hold (by rw [hcore]; rfl)
    simp only [OperationalWorld.placeOn, checked_bind_eq_ok] at hplace
    obtain ⟨_, -, _, -, hplace⟩ := hplace
    cases hplace
    rw [hcore]
    exact ⟨hkept.moved hrunning hposition rfl rfl fun _ h => (by cases h), hfrom⟩
  | @released releases old _ hold hcore =>
    have hkeeps := foldl_applied_keeps OperationalTrain.passengerStops (fun _ _ => rfl) releases
      old.core
    obtain ⟨hkept, hfrom⟩ := hsame hold (by rw [hcore, hkeeps]; rfl)
    refine ⟨hkept.of_same ?_ ?_ fun segment hsegment => ?_, hfrom⟩
    · rw [hcore]
      exact foldl_applied_keeps OperationalTrain.routeVersionId (fun _ _ => rfl) releases _
    · rw [hcore]
      exact foldl_applied_keeps OperationalTrain.headRouteMm (fun _ _ => rfl) releases _
    · rw [hcore, foldl_applied_keeps OperationalTrain.motionSegment fun _ _ => rfl] at hsegment
      exact hsegment
  | usedUp _ hold hcore => exact halike hold hcore rfl rfl rfl fun _ h => h
  | @folded old segment _ _ _ _ _ _ hold hrunning hposition _ _ hplace hcore =>
    obtain ⟨hkept, hfrom⟩ := hsame hold (by rw [hcore]; rfl)
    simp only [OperationalWorld.placeOn, checked_bind_eq_ok] at hplace
    obtain ⟨_, -, _, -, hplace⟩ := hplace
    cases hplace
    rw [hcore]
    refine ⟨hkept.moved hrunning hposition rfl rfl fun other hother => ?_, hfrom⟩
    exact Option.some.inj (hother.symm.trans hrunning)
  | stopped _ hold hcore => exact halike hold hcore rfl rfl rfl fun _ h => by cases h
  | freed hold _ _ hcore | withheld hold _ _ hcore =>
    exact halike hold hcore rfl rfl rfl fun _ h => h
  | @continued _ continuation _ _ _ _ _ _ key hvs hpending _ hadmitted _ _ hid hcore =>
    rw [hcore] at hp ⊢
    obtain ⟨plan, hplan, rfl⟩ := Option.map_eq_some_iff.mp hp
    refine ⟨.begun (OperationalWorld.admitActivation_stops hadmitted) hplan rfl rfl rfl,
      .inl ⟨_, hvs ▸ List.mem_singleton_self _, ?_⟩⟩
    simp only [beginsTrain, Registry.anyValue_iff, Bool.and_eq_true, beq_iff_eq]
    exact ⟨key, continuation, hpending, rfl, hid.symm⟩
  | adopted hvs hletter _ hid hcore =>
    rw [hcore] at hp ⊢
    refine ⟨(hletters _ hletter progress hp).of_same rfl rfl fun _ h => h,
      .inl ⟨_, hvs ▸ List.mem_singleton_self _, ?_⟩⟩
    simp [beginsTrain, hid]

/-! ### Runs -/

/-- Trains and prepared messages keep their stop plans. -/
structure PlansHeld (w : OperationalWorld) : Prop where
  plans : w.PlansKept
  carried : ∀ (key : String) (handover : RegionHandover),
    w.preparedHandovers[key]? = some handover → PlanCarried handover

/-- A step keeps the stop plans. -/
theorem PlansHeld.step {d d' : Debt} {w w' : OperationalWorld} {vs : List Visit}
    (hstep : Step d w vs d' w') (hletters : ∀ handover ∈ d.letters, PlanCarried handover)
    (h : PlansHeld w) : PlansHeld w' where
  plans id train progress htrain hp :=
    ((hstep.trainEffect htrain).stopsKept hletters h.plans hp).1.of_same rfl rfl fun _ hs => hs
  carried key handover hkey := by
    rcases hstep.prepared_before hkey with hbefore | ⟨env, id, trainId, target, resources, hnew⟩
    · exact h.carried key handover hbefore
    · exact fun progress hp => h.plans trainId handover.train progress hnew.train hp

/-- Kept stop plans are an invariant of every network. -/
lemma plansHeld_invariant : NetworkInvariant
    (fun regionId _ w => w.regionId = regionId ∧ PlansHeld w) PlanCarried fun _ => True where
  step hstep hletters _ h := ⟨hstep.region_eq.trans h.1, h.2.step hstep hletters⟩
  relabel := id
  prepared h hkey := h.2.carried _ _ hkey
  acknowledged h := h

lemma plansHeld_new (worldId regionId : String) (nowMs : SimMillis)
    (infra : InMemoryOperationalInfrastructure) :
    (OperationalWorld.new worldId regionId nowMs infra).regionId = regionId
      ∧ PlansHeld (.new worldId regionId nowMs infra) :=
  ⟨rfl, fun id _ _ htrain => by simp [OperationalWorld.new] at htrain,
    fun key _ hkey => by simp [OperationalWorld.new] at hkey⟩

/-- Every progress of a train carries on one that the train had in an earlier world. -/
def CarriesOnSince (v : OperationalWorld) (id : String) (w : OperationalWorld) : Prop :=
  ∀ train progress, w.trains[id]? = some train → train.passengerStops = some progress →
    ∃ old earlier, v.trains[id]? = some old ∧ old.passengerStops = some earlier
      ∧ earlier.CarriesOn progress

/-- A train that does not begin again in a region carries on its receipts there. -/
lemma carriesOn_invariant (regionId id : String) (v : OperationalWorld) : NetworkInvariant
    (fun region _ w => (w.regionId = region ∧ PlansHeld w)
      ∧ (region = regionId → CarriesOnSince v id w)) PlanCarried
    (fun visit => visit.before.regionId = regionId → beginsTrain id visit = false) where
  step hstep hletters hok h := by
    refine ⟨plansHeld_invariant.step hstep hletters (fun _ _ => trivial) h.1,
      fun hregion train progress htrain hp => ?_⟩
    obtain ⟨-, hfrom⟩ := (hstep.trainEffect htrain).stopsKept hletters h.1.2.plans hp
    rcases hfrom with ⟨visit, hvisit, hbegins⟩ | ⟨old, earlier, hold, hearlier, hon⟩
    · have hhere := (hstep.visit_region visit hvisit).trans (h.1.1.trans hregion)
      rw [hok visit hvisit hhere] at hbegins
      cases hbegins
    · obtain ⟨first, start, hfirst, hstart, hsince⟩ := h.2 hregion old earlier hold hearlier
      exact ⟨first, start, hfirst, hstart, hsince.trans hon⟩
  relabel h := h
  prepared h hkey := h.1.2.carried _ _ hkey
  acknowledged h := h

namespace Halt

/-- The small railway with a platform at the end of each block of the main line. -/
def release : OperationalInfraRelease :=
  { Crossover.release with
    platformIntervals := Std.ExtTreeMap.ofList
      [("p1", ⟨"e1", 900000, 1000000, .along⟩), ("p2", ⟨"e2", 900000, 1000000, .along⟩)] compare }

/-- The attached release. -/
def infra : InMemoryOperationalInfrastructure := ⟨release, "binding", by decide +kernel⟩

/-- The railway as one region. -/
def start : Network :=
  { worlds := Std.ExtTreeMap.ofList [("A", .new "world" "A" 0 infra)] compare, letters := [] }

def stop (index : ℕ) (name platform : String) (routeMm : RouteMillimetres)
    (arrival departure : SimMillis) : OperationalPassengerStop :=
  { stopId := name, stationId := name, stopSequence := index, routeMm, platformId := platform
    scheduledArrivalMs := arrival, scheduledDepartureMs := departure, minimumDwellMs := 1000 }

/-- From the first platform to the second one. -/
def plan : OperationalPassengerStopPlan :=
  { schemaVersion := "zugfolge-operational-passenger-stop-plan/v1", worldId := "world"
    infrastructureReleaseId := "release", timetableReleaseId := "timetable"
    serviceId := "service", serviceRunId := "run", trainRunId := "T1", routeVersionId := "main"
    sourceBindingHash := Crossover.digest ""
    stops := [stop 0 "west" "p1" 1000000 0 2000, stop 1 "east" "p2" 2000000 90000 91000] }

/-- The train at its first stop. -/
def train : TrainMaterialization :=
  { Crossover.train "T1" "1" "main" "f1" 1000000 with
    stopPlan := some plan, publicPassengerStop := true, scheduledDepartureMs := some 2000 }

/-- The train arrives, and gets its route while it stands. -/
def arrival : List Command :=
  Crossover.roster ++ [.materialize train, .lockRoute "T1" "t2"].map Crossover.inA

lemma start_isStart : start.IsStart := .single "world" "A" 0 infra

/-- The train has arrived at its first stop; later it has left it and arrived at its second
one. -/
def calls (middle last : Network) : Bool :=
  (middle.worlds["A"]?).isSome && last.worlds["A"]?.any fun w : OperationalWorld =>
    (w.trains["T1"]?.bind (·.passengerStops)).any fun progress =>
      progress.departureAt 0 == some 2000 && (progress.arrivalAt 1).isSome

end Halt

end Zugfolge
