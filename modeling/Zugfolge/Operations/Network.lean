/-
Regions that work side by side and exchange trains.

* `Operation.run`: what an operation does to its world.
-/
import Zugfolge.Operations.Handover

namespace Zugfolge

open Foundation

/-! ### Operations -/

/-- The operations of a regional world. -/
inductive Operation where
  | configureServiceOutcomes (policy : ServiceOutcomePolicy)
  | configureServiceDays (policy : ServiceDayPolicyV1)
  | openServiceDay (dayIndex : ℕ)
  | setFareControlPolicy (policy : FareControlPolicyV1)
  | requestFareControlHold (input : RequestFareControlHoldInputV1)
  | resolveFareControlHold (input : ResolveFareControlHoldInputV1)
  | registerVehicleType (kind : VehicleType) (powered : Bool)
  | registerVehicle (vehicle : PhysicalVehicle)
  | createFormation (id : String) (predecessorId : Option String) (vehicleIds : List String)
  | materialize (input : TrainMaterialization)
  | retireTrain (trainId : String)
  | changeFormation (trainId newFormationId : String) (vehicleIds : List String)
  | rerouteTrain (trainId routeVersionId : String)
  | lockRoute (trainId templateId : String)
  | dispatch (requests : List DispatchRequest)
  | submitDispatchRequests (requests : List DispatchRequest)
  | executeShuntingOrder (trainId templateId : String)
  | executeAutomaticShunting (need : AutomaticShuntingNeed)
  | planMotion (trainId : String)
  | advanceTo (targetMs : SimMillis)
  | safeStop (trainId reason : String)
  | cancelPassengerStopPlan (input : CancelPassengerStopPlanInputV1)
  | queueMovementContinuation (continuation : MovementContinuation)
  | activateDisruption (disruptionId : String) (effect : OperationalDisruption)
  | clearDisruption (disruptionId releaseReference : String)
  | beginHandover (id trainId targetRegionId : String) (protectedResources : KeySet String)
  | acceptHandover (handover : RegionHandover)
  | finishHandover (handover : RegionHandover)
  | commitRuntimeCommand
  | drainEvents

/-- Closes one command of the runtime: its events belong to one commit. -/
def commitRuntimeCommand : M Unit := do
  let w ← M.world
  M.check (refuseIf (decide (u64Max ≤ w.commitSequence)) .arithmeticOverflow)
  M.update fun w => { w with
    commitSequence := w.commitSequence + 1
    events := w.events.map fun event => { event with commitSequence := w.commitSequence + 1 } }

/-- Hands the waiting events to the runtime. -/
def drainEvents : M Unit := M.update fun w => { w with events := [] }

/-- Runs a command and forgets its answer. -/
def silently {α : Type} (m : M α) : M (Option RegionHandover) := do
  let _ ← m
  pure none

/-- What an operation does to its world; a handover answers with its message. -/
def Operation.run (env : Env) : Operation → M (Option RegionHandover)
  | .configureServiceOutcomes policy => silently (Zugfolge.configureServiceOutcomes policy)
  | .configureServiceDays policy => silently (Zugfolge.configureServiceDays policy)
  | .openServiceDay dayIndex => silently (Zugfolge.openServiceDay env dayIndex)
  | .setFareControlPolicy policy => silently (Zugfolge.setFareControlPolicy env policy)
  | .requestFareControlHold input => silently (Zugfolge.requestFareControlHold env input)
  | .resolveFareControlHold input => silently (Zugfolge.resolveFareControlHold env input)
  | .registerVehicleType kind powered => silently (Zugfolge.registerVehicleType kind powered)
  | .registerVehicle vehicle => silently (Zugfolge.registerVehicle vehicle)
  | .createFormation id predecessorId vehicleIds =>
    silently (Zugfolge.createFormation id predecessorId vehicleIds)
  | .materialize input => silently (Zugfolge.materialize env input)
  | .retireTrain trainId => silently (Zugfolge.retireTrain env trainId)
  | .changeFormation trainId newFormationId vehicleIds =>
    silently (Zugfolge.changeFormation env trainId newFormationId vehicleIds)
  | .rerouteTrain trainId routeVersionId =>
    silently (Zugfolge.rerouteTrain env trainId routeVersionId)
  | .lockRoute trainId templateId => silently (Zugfolge.lockRoute trainId templateId)
  | .dispatch requests => silently (Zugfolge.dispatch requests)
  | .submitDispatchRequests requests =>
    silently (Zugfolge.submitDispatchRequests env requests)
  | .executeShuntingOrder trainId templateId =>
    silently (Zugfolge.executeShuntingOrder env trainId templateId)
  | .executeAutomaticShunting need => silently (Zugfolge.executeAutomaticShunting env need)
  | .planMotion trainId => silently (Zugfolge.planMotion env trainId)
  | .advanceTo targetMs => silently (Zugfolge.advanceTo env targetMs)
  | .safeStop trainId reason => silently (Zugfolge.safeStop trainId reason)
  | .cancelPassengerStopPlan input => silently (Zugfolge.cancelPassengerStopPlan env input)
  | .queueMovementContinuation continuation =>
    silently (Zugfolge.queueMovementContinuation env continuation)
  | .activateDisruption disruptionId effect =>
    silently (Zugfolge.activateDisruption env disruptionId effect)
  | .clearDisruption disruptionId releaseReference =>
    silently (Zugfolge.clearDisruption env disruptionId releaseReference)
  | .beginHandover id trainId targetRegionId protectedResources => do
    let handover ←
      Zugfolge.beginHandover env id trainId targetRegionId protectedResources
    pure (some handover)
  | .acceptHandover handover => do
    let acknowledged ← Zugfolge.acceptHandover env handover
    pure (some acknowledged)
  | .finishHandover handover => silently (Zugfolge.finishHandover env handover)
  | .commitRuntimeCommand => silently Zugfolge.commitRuntimeCommand
  | .drainEvents => silently Zugfolge.drainEvents

/-- The message an operation delivers to its region. -/
def Operation.delivered : Operation → Option RegionHandover
  | .acceptHandover handover => some handover
  | .finishHandover handover => some handover
  | _ => none

/-! ### Networks -/

/-- The worlds of several regions, by region, and all messages ever sent between them:
a message may be delivered late, more than once, or never. -/
structure Network where
  worlds : Registry String OperationalWorld
  letters : List RegionHandover

/-- An operation of one region. -/
structure Command where
  regionId : String
  operation : Operation

namespace Network

/-- A network in which nothing has happened yet. -/
def IsStart (network : Network) : Prop :=
  network.letters = [] ∧ ∀ regionId w, network.worlds[regionId]? = some w →
    ∃ worldId nowMs infra, w = OperationalWorld.new worldId regionId nowMs infra

lemma IsStart.single (worldId region : String) (nowMs : SimMillis)
    (infra : InMemoryOperationalInfrastructure) :
    ({ worlds := Std.ExtTreeMap.ofList [(region, .new worldId region nowMs infra)] compare,
       letters := [] } : Network).IsStart := by
  refine ⟨rfl, fun regionId w hw => ?_⟩
  change ((∅ : Registry String OperationalWorld).insert region
    (.new worldId region nowMs infra))[regionId]? = some w at hw
  rw [Registry.getElem?_insert] at hw
  split at hw
  case isTrue hregion =>
    cases hw
    exact ⟨worldId, nowMs, infra, by rw [hregion]⟩
  case isFalse => simp at hw

/-- An operation delivers only a message that was sent. -/
def mayDeliver (network : Network) (operation : Operation) : Bool :=
  operation.delivered.all fun handover => decide (handover ∈ network.letters)

/-- The network with the world of one region replaced and an answer sent. -/
def settle (network : Network) (regionId : String) (w : OperationalWorld)
    (answer : Option RegionHandover) : Network :=
  { worlds := network.worlds.insert regionId w, letters := answer.toList ++ network.letters }

/-- The network after a successful operation, with the visits the operation made. -/
def perform (env : Env) (network : Network) (command : Command) :
    Option (Network × List Visit) := do
  let w ← network.worlds[command.regionId]?
  if network.mayDeliver command.operation then
    match command.operation.run env w with
    | ⟨.ok answer, w', visits⟩ => some (network.settle command.regionId w' answer, visits)
    | ⟨.error _, _, _⟩ => none
  else none

/-- What a successful operation has found and done. -/
lemma performed {env : Env} {network last : Network} {command : Command} {visits : List Visit}
    (h : network.perform env command = some (last, visits)) :
    ∃ w w' answer, network.worlds[command.regionId]? = some w
      ∧ (∀ handover, command.operation.delivered = some handover → handover ∈ network.letters)
      ∧ command.operation.run env w = ⟨.ok answer, w', visits⟩
      ∧ last = network.settle command.regionId w' answer := by
  simp only [perform, Option.bind_eq_bind, Option.bind_eq_some_iff] at h
  obtain ⟨w, hw, h⟩ := h
  split at h
  case isFalse => cases h
  case isTrue hdeliver =>
    split at h
    case h_2 => cases h
    case h_1 answer w' visits' hrun =>
      cases h
      refine ⟨w, w', answer, hw, fun handover hsome => ?_, hrun, rfl⟩
      unfold mayDeliver at hdeliver
      simpa [hsome] using hdeliver

/-- The network after several successful operations. -/
def performAll (env : Env) : Network → List Command → Option (Network × List Visit)
  | network, [] => some (network, [])
  | network, command :: rest => do
    let (next, visits) ← network.perform env command
    let (last, more) ← performAll env next rest
    some (last, visits ++ more)

/-- The runs of a network: successful operations of its regions in any order, with all
visits they made. -/
inductive Run (env : Env) : Network → List Visit → Network → Prop where
  | nil (network : Network) : Run env network [] network
  | snoc {first network last : Network} {visits more : List Visit} {command : Command} :
      Run env first visits network → network.perform env command = some (last, more) →
      Run env first (visits ++ more) last

/-- Operations performed one after another are a run. -/
lemma Run.append_performAll {env : Env} {first network last : Network}
    {visits more : List Visit} {commands : List Command} (hrun : Run env first visits network)
    (h : network.performAll env commands = some (last, more)) :
    Run env first (visits ++ more) last := by
  induction commands generalizing network visits more with
  | nil =>
    simp only [performAll, Option.some.injEq, Prod.mk.injEq] at h
    obtain ⟨rfl, rfl⟩ := h
    simpa using hrun
  | cons command rest ih =>
    simp only [performAll, Option.bind_eq_bind, Option.bind_eq_some_iff, Prod.exists,
      Option.some.injEq, Prod.mk.injEq] at h
    obtain ⟨next, visits', hstep, last', more', hrest, rfl, rfl⟩ := h
    have h1 := ih (hrun.snoc hstep) hrest
    rwa [List.append_assoc] at h1

/-- Commands that can be performed give a run; what is found out about its network and
its visits holds of the run. -/
lemma exists_run (env : Env) (first : Network) (commands : List Command) (p : Network → Bool)
    (q : Visit → Bool)
    (h : (first.performAll env commands).any (fun r => p r.1 && r.2.all q) = true) :
    ∃ visits last, Run env first visits last ∧ p last = true ∧ ∀ v ∈ visits, q v = true := by
  rw [Option.any_eq_true] at h
  obtain ⟨⟨last, visits⟩, hperform, hfound⟩ := h
  rw [Bool.and_eq_true, List.all_eq_true] at hfound
  refine ⟨visits, last, ?_, hfound⟩
  simpa using (Run.nil first).append_performAll hperform

/-- Commands that can be performed one after another give a run and a second run behind
it. -/
lemma exists_two_runs (env : Env) (first : Network) (commands more : List Command)
    (p : Network → Network → Bool) (q : Visit → Bool)
    (h : ((first.performAll env commands).any fun r =>
      (r.1.performAll env more).any fun s => p r.1 s.1 && s.2.all q) = true) :
    ∃ visits middle later last, Run env first visits middle ∧ Run env middle later last
      ∧ p middle last = true ∧ ∀ v ∈ later, q v = true := by
  rw [Option.any_eq_true] at h
  obtain ⟨⟨middle, visits⟩, hperform, hmore⟩ := h
  obtain ⟨later, last, hlater, hfound, hok⟩ := exists_run env middle more (p middle) q hmore
  refine ⟨visits, middle, later, last, ?_, hlater, hfound, hok⟩
  simpa using (Run.nil first).append_performAll hperform

end Network

/-! ### A small railway -/

namespace Crossover

def leg (edgeId : String) (startMm : RouteMillimetres) (blockId : String) : RouteLeg :=
  { edgeId, direction := .along, edgeEntryMm := 0, edgeExitMm := 1000000
    routeStartMm := startMm, blockIds := Std.ExtTreeSet.ofList [blockId] compare
    speedLimitMmps := 20000, gradientPerMille := 0, availableProtectionSystems := ["pzb"]
    simultaneouslyRequiredProtectionSystems := [] }

/-- The train route over the leg that begins at the given position. -/
def template (id routeTemplateId signalId : String) (startMm releaseMm : RouteMillimetres)
    (path overlap flank : String) (switchPositions : List (String × String)) :
    InterlockingRouteTemplate :=
  { id, routeTemplateId, signalId, movementKind := .train
    authorityStartRouteMm := startMm, authorityEndRouteMm := startMm + 1000000
    pathResources := Std.ExtTreeSet.ofList [path] compare
    overlapResources := Std.ExtTreeSet.ofList [overlap] compare
    flankResources := Std.ExtTreeSet.ofList [flank] compare
    switchPositions := Std.ExtTreeMap.ofList switchPositions compare
    releaseAfterTailRouteMm := releaseMm }

/-- A route version without a predecessor. -/
def route (id templateId : String) (legs : List RouteLeg) : RouteVersion :=
  { id, templateId, predecessorId := none, transitionRouteMm := none, legs }

/-- A straight edge of one kilometre. -/
def geometry : List EdgeGeometryPoint := [⟨0, 0, 0, some 0⟩, ⟨1000000, 1, 1, none⟩]

/-- Two lines with one switch in common: the main line over two blocks and a siding over
one.  The second block of the main line has its first block as flank protection. -/
def release : OperationalInfraRelease :=
  { id := "release", rzueLayoutId := "layout"
    directedEdges := Std.ExtTreeMap.ofList
      [("e1", 1000000), ("e2", 1000000), ("e3", 1000000)] compare
    edgeGeometries := Std.ExtTreeMap.ofList
      [("e1", geometry), ("e2", geometry), ("e3", geometry)] compare
    routeVersions := Std.ExtTreeMap.ofList
      [("main", route "main" "main" [leg "e1" 0 "b1", leg "e2" 1000000 "b2"]),
        ("siding", route "siding" "siding" [leg "e3" 0 "b3"])] compare
    interlockingRoutes := Std.ExtTreeMap.ofList
      [("t1", template "t1" "main" "s1" 0 1000000 "b1" "o1" "f1" [("w1", "left")]),
        ("t2", template "t2" "main" "s2" 1000000 1990000 "b2" "o2" "b1" []),
        ("t3", template "t3" "siding" "s3" 0 1000000 "b3" "o3" "f3" [("w1", "right")])] compare
    signals := Std.ExtTreeSet.ofList ["s1", "s2", "s3"] compare
    switches := Std.ExtTreeSet.ofList ["w1"] compare
    blockResources := Std.ExtTreeSet.ofList
      ["b1", "b2", "b3", "o1", "o2", "o3", "f1", "f3"] compare
    platformIntervals := ∅, regionBoundaries := ∅ }

/-- The attached release. -/
def infra : InMemoryOperationalInfrastructure :=
  ⟨release, "binding", by decide +kernel⟩

/-- A digest of 64 characters that tells texts of few characters apart. -/
def digest (text : String) : String :=
  String.ofList (text.toList.flatMap (fun c => (Nat.toDigits 16 (c.toNat % 256)))
    ++ List.replicate 64 '0' |>.take 64)

/-- Loops of at most eight rounds, and digests of names. -/
def env : Env :=
  { fuel := 8, stopPlanHash := fun _ => digest "", stopReceiptId := fun _ _ _ _ _ => digest ""
    continuationHash := fun continuation => digest continuation.id
    fareControlPolicyDigest := fun _ => digest ""
    fareControlHoldId := fun _ trainId => digest trainId
    measurementHash := fun _ _ => digest "", serviceReceiptHash := fun _ _ => digest ""
    serviceDayId := fun _ _ _ => digest "", stateHash := fun w => digest w.regionId
    handoverDigest := fun handover => digest handover.id }

/-- A railcar of twenty metres. -/
def railcar : VehicleType :=
  { id := "railcar", role := none, controlStands := none, traction := none
    electricSystems := none, rawFormationDynamics := none, lengthMm := 20000, massKg := 50000
    maximumSpeedMmps := 30000, powerWatts := 1000000, startingTractiveForceNewtons := 100000
    maximumAccelerationMmps2 := 1000, serviceBrakeMmps2 := 800, emergencyBrakeMmps2 := 1200
    protectionSystems := Std.ExtTreeSet.ofList ["pzb"] compare }

/-- A railcar with the given name. -/
def vehicle (id : String) : PhysicalVehicle :=
  { id, typeId := "railcar", powered := true, orientation := .along, restrictions := ∅
    history := [] }

/-- A train with its head at the given position. -/
def train (id number routeVersionId formationVersionId : String) (head : RouteMillimetres) :
    TrainMaterialization :=
  { stopPlan := none, serviceOutcome := none, id, trainNumber := number, operatorId := "operator"
    movementKind := .train, routeVersionId, formationVersionId, headRouteMm := head
    scheduledDepartureMs := none, publicPassengerStop := false }

/-- The railway as one region. -/
def start : Network :=
  { worlds := Std.ExtTreeMap.ofList [("A", .new "world" "A" 0 infra)] compare, letters := [] }

/-- An operation of the region. -/
def inA (operation : Operation) : Command := ⟨"A", operation⟩

/-- Three railcars, two of them formations of their own. -/
def roster : List Command :=
  [.registerVehicleType railcar true, .registerVehicle (vehicle "v1"),
    .registerVehicle (vehicle "v2"), .registerVehicle (vehicle "v3"),
    .createFormation "f1" none ["v1"], .createFormation "f2" none ["v2"]].map inA

/-- A train at the begin of each line. -/
def trains : List Command :=
  [.materialize (train "T1" "1" "main" "f1" 0), .materialize (train "T2" "2" "siding" "f2" 0)].map
    inA

lemma start_isStart : start.IsStart := .single "world" "A" 0 infra

end Crossover

end Zugfolge
