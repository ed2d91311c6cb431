/-
The disruption runtime and its hash.

The runtime of a world holds the active policy, a policy that waits for the date of the timetable,
and the events recorded so far.  Its hash is taken over some of that.

* `DisruptionRuntime.AgreesBeside`, `answers_eq_iff`: what the hash leaves out, and that runtimes
  with the same hash answer alike exactly when they agree in it.
-/
import Zugfolge.Disruption.Policy
import Zugfolge.Foundation.Blocks
import Zugfolge.Foundation.Collect

namespace Zugfolge.Disruption

open Foundation Conflict

/-! ### Changes of the policy -/

/-- A change of the policy at the date of the timetable. -/
structure PolicyChange where
  worldId : ℕ
  requestedAt : SimTime
  effectiveAt : SimTime
  requestedBy : String
  reason : String
  plannedWorksMode : DisruptionMode
  operationalIncidentMode : DisruptionMode
  providerSetId : Option String
  simulationProfile : SimulationProfile
  rulesetVersion : String

/-- The record of a change. -/
structure PolicyAudit where
  worldId : ℕ
  previousVersion : ℕ
  nextVersion : ℕ
  actorId : String
  reason : String
  effectiveAt : SimTime
  deriving DecidableEq

/-! ### Events -/

/-- The publication of planned works. -/
structure ConstructionNotice where
  worldId : ℕ
  id : String
  publishedAt : SimTime
  startsAt : SimTime
  remainingCapacity : ℕ

/-- How long before they start the works are published. -/
def ConstructionNotice.leadTimeSeconds (notice : ConstructionNotice) : Int :=
  subSat64 notice.startsAt notice.publishedAt

structure ProviderFailure where
  worldId : ℕ
  providerSetId : String
  failedAt : SimTime
  reason : String

/-- An operational decision that followed from a disruption. -/
structure DecisionRecord where
  worldId : ℕ
  decisionId : String
  operatorId : ℕ
  movementId : String
  time : SimTime
  action : String
  causeCode : ℕ
  affectedResource : String
  explanation : String

/-- What is recorded. -/
inductive RuntimeCommand where
  | publishConstruction (notice : ConstructionNotice)
  | recordProviderFailure (failure : ProviderFailure)
  | recordDecision (decision : DecisionRecord)

structure RuntimeEvent where
  worldId : ℕ
  sequence : ℕ
  time : SimTime
  eventType : String
  subjectId : String
  explanation : String
  operatorId : Option ℕ
  causeCode : Option ℕ
  affectedResource : Option String
  deriving DecidableEq

def RuntimeCommand.toEvent (sequence : ℕ) : RuntimeCommand → RuntimeEvent
  | .publishConstruction notice =>
    { worldId := notice.worldId
      sequence := sequence
      time := notice.publishedAt
      eventType := "disruption.construction-published/v1"
      subjectId := notice.id
      explanation := "Baustelle mit " ++ toString notice.leadTimeSeconds
        ++ " Sekunden Vorlauf und Restkapazität " ++ toString notice.remainingCapacity
      operatorId := none
      causeCode := none
      affectedResource := none }
  | .recordProviderFailure failure =>
    { worldId := failure.worldId
      sequence := sequence
      time := failure.failedAt
      eventType := "disruption.provider-failed/v1"
      subjectId := failure.providerSetId
      explanation := "Provider ausgefallen; letzter sicherer Stand bleibt sichtbar: "
        ++ failure.reason
      operatorId := none
      causeCode := none
      affectedResource := none }
  | .recordDecision decision =>
    { worldId := decision.worldId
      sequence := sequence
      time := decision.time
      eventType := "disruption.decision/v1"
      subjectId := decision.decisionId
      explanation := decision.action ++ " für Bewegung " ++ decision.movementId ++ ": "
        ++ decision.explanation
      operatorId := some decision.operatorId
      causeCode := some decision.causeCode
      affectedResource := some decision.affectedResource }

/-! ### Fields of a hash -/

/-- A named value that goes into a hash. -/
inductive HashField where
  | int (name : String) (value : Int)
  | uint (name : String) (value : ℕ)
  | text (name value : String)
  | seq (name : String) (len : ℕ)
  deriving DecidableEq

def RuntimeEvent.hashFields (event : RuntimeEvent) : List HashField :=
  [.uint "sequence" event.sequence, .int "at" event.time, .text "event_type" event.eventType,
    .text "subject_id" event.subjectId, .text "explanation" event.explanation,
    .uint "operator_id" (event.operatorId.getD 0), .uint "cause_code" (event.causeCode.getD 0),
    .text "affected_resource" (event.affectedResource.getD "")]

lemma RuntimeCommand.toEvent_sequence (command : RuntimeCommand) (sequence : ℕ) :
    (command.toEvent sequence).sequence = sequence := by
  cases command <;> rfl

lemma RuntimeCommand.toEvent_optional (command : RuntimeCommand) (sequence : ℕ) :
    let event := command.toEvent sequence
    (event.eventType ≠ "disruption.decision/v1" ∧ event.operatorId = none
      ∧ event.causeCode = none ∧ event.affectedResource = none) ∨
    (event.eventType = "disruption.decision/v1" ∧ event.operatorId.isSome = true
      ∧ event.causeCode.isSome = true ∧ event.affectedResource.isSome = true) := by
  cases command with
  | publishConstruction notice | recordProviderFailure failure | recordDecision decision =>
    simp [toEvent]

lemma eq_of_getD {α : Type} {x y : Option α} {a : α} (hx : x.isSome = true)
    (hy : y.isSome = true) (h : x.getD a = y.getD a) : x = y := by
  obtain ⟨u, rfl⟩ := Option.isSome_iff_exists.mp hx
  obtain ⟨v, rfl⟩ := Option.isSome_iff_exists.mp hy
  exact congrArg some h

/-- A recorded event of a world is told by its fields. -/
lemma RuntimeEvent.eq_of_hashFields {event event' : RuntimeEvent}
    (hworld : event.worldId = event'.worldId)
    (hcommand : ∃ command : RuntimeCommand, event = command.toEvent event.sequence)
    (hcommand' : ∃ command : RuntimeCommand, event' = command.toEvent event'.sequence)
    (h : event.hashFields = event'.hashFields) : event = event' := by
  obtain ⟨command, heq⟩ := hcommand
  obtain ⟨command', heq'⟩ := hcommand'
  have hoptional := command.toEvent_optional event.sequence
  have hoptional' := command'.toEvent_optional event'.sequence
  rw [← heq] at hoptional
  rw [← heq'] at hoptional'
  simp only [hashFields, List.cons.injEq, HashField.uint.injEq, HashField.int.injEq,
    HashField.text.injEq, true_and, and_true] at h
  obtain ⟨hsequence, htime, htype, hsubject, hexplanation, hoperator, hcause, hresource⟩ := h
  have hvalues : event.operatorId = event'.operatorId ∧ event.causeCode = event'.causeCode
      ∧ event.affectedResource = event'.affectedResource := by
    rcases hoptional with ⟨hother, ho, hc, hr⟩ | ⟨hdecision, ho, hc, hr⟩ <;>
      rcases hoptional' with ⟨hother', ho', hc', hr'⟩ | ⟨hdecision', ho', hc', hr'⟩
    · exact ⟨ho.trans ho'.symm, hc.trans hc'.symm, hr.trans hr'.symm⟩
    · exact absurd (htype.trans hdecision') hother
    · exact absurd (htype.symm.trans hdecision) hother'
    · exact ⟨eq_of_getD ho ho' hoperator, eq_of_getD hc hc' hcause, eq_of_getD hr hr' hresource⟩
  obtain ⟨hoperator, hcause, hresource⟩ := hvalues
  cases event
  cases event'
  simp only at *
  subst_vars
  rfl

/-! ### The runtime -/

/-- The state of a world.  The waiting policy and all events are those of the world, and every
event records a command. -/
structure DisruptionRuntime where
  policy : DisruptionPolicy
  scheduleBoundary : SimTime
  pendingPolicy : Option DisruptionPolicy
  events : List RuntimeEvent
  pendingHome : ∀ next ∈ pendingPolicy, next.worldId = policy.worldId
  recorded : ∀ event ∈ events, event.worldId = policy.worldId
    ∧ ∃ command : RuntimeCommand, event = command.toEvent event.sequence

inductive RuntimeCall where
  | schedulePolicyChange (change : PolicyChange)
  | advancePolicy (time : SimTime)
  | apply (command : RuntimeCommand)

namespace DisruptionRuntime

/-- A runtime without events. -/
def new (policy : DisruptionPolicy) (scheduleBoundary : SimTime) :
    Except DisruptionError DisruptionRuntime :=
  if scheduleBoundary ≤ policy.validFrom then .error .invalidScheduleBoundary
  else .ok ⟨policy, scheduleBoundary, none, [], by simp, by simp⟩

variable (runtime : DisruptionRuntime)

/-- The policy a change asks for. -/
def requested (change : PolicyChange) : DisruptionPolicy where
  worldId := runtime.policy.worldId
  version := min (runtime.policy.version + 1) u32Max
  plannedWorksMode := change.plannedWorksMode
  operationalIncidentMode := change.operationalIncidentMode
  providerSetId := change.providerSetId
  simulationProfile := change.simulationProfile
  rulesetVersion := change.rulesetVersion
  validFrom := change.effectiveAt
  validUntil := none

/-- What a change is refused for before its policy is built. -/
def refusal (change : PolicyChange) : Option DisruptionError :=
  if change.worldId ≠ runtime.policy.worldId then some .wrongWorld
  else if change.effectiveAt ≠ runtime.scheduleBoundary
      || change.effectiveAt ≤ change.requestedAt then
    some .invalidScheduleBoundary
  else if Text.isBlank change.requestedBy || (Text.trim change.reason).utf8ByteSize < 8 then
    some .invalidAudit
  else none

/-- The record of a change that is taken. -/
def audit (change : PolicyChange) : PolicyAudit where
  worldId := runtime.policy.worldId
  previousVersion := runtime.policy.version
  nextVersion := min (runtime.policy.version + 1) u32Max
  actorId := change.requestedBy
  reason := change.reason
  effectiveAt := change.effectiveAt

/-- Lets the policy of a change wait for the date of the timetable. -/
def schedulePolicyChange (change : PolicyChange) :
    DisruptionRuntime × Except DisruptionError PolicyAudit :=
  match runtime.refusal change with
  | some error => (runtime, .error error)
  | none =>
    match (runtime.requested change).new with
    | .error error => (runtime, .error error)
    | .ok _ =>
      ({ runtime with
          pendingPolicy := some (runtime.requested change)
          pendingHome := by
            rintro next hnext
            cases hnext
            rfl }, .ok (runtime.audit change))

/-- The policy that is active from the date of the timetable on. -/
def successor : DisruptionPolicy := runtime.pendingPolicy.getD runtime.policy

lemma successor_worldId : runtime.successor.worldId = runtime.policy.worldId := by
  unfold successor
  cases hpending : runtime.pendingPolicy with
  | none => rfl
  | some next => exact runtime.pendingHome next hpending

/-- Activates the waiting policy, not before the date of the timetable. -/
def advancePolicy (time : SimTime) : DisruptionRuntime :=
  if runtime.scheduleBoundary ≤ time then
    { runtime with
      policy := runtime.successor
      pendingPolicy := none
      pendingHome := by simp
      recorded := by
        rw [successor_worldId]
        exact runtime.recorded }
  else runtime

/-- The event that a command is recorded as. -/
def eventOf (command : RuntimeCommand) : RuntimeEvent :=
  command.toEvent (min (runtime.events.length + 1) u64Max)

lemma eventOf_eq (command : RuntimeCommand) :
    runtime.eventOf command = command.toEvent (runtime.eventOf command).sequence := by
  unfold eventOf
  rw [command.toEvent_sequence]

/-- Records a command. -/
def apply (command : RuntimeCommand) : DisruptionRuntime × Except DisruptionError Unit :=
  if hworld : (runtime.eventOf command).worldId ≠ runtime.policy.worldId then
    (runtime, .error .wrongWorld)
  else if u64Max < runtime.events.length then (runtime, .error .overflow)
  else
    ({ runtime with
        events := runtime.events ++ [runtime.eventOf command]
        recorded := by
          intro event hevent
          rcases List.mem_append.mp hevent with hold | hnew
          · exact runtime.recorded event hold
          · obtain rfl := List.mem_singleton.mp hnew
            exact ⟨not_not.mp hworld, command, runtime.eventOf_eq command⟩ }, .ok ())

/-- Records commands up to the first error. -/
def applyAll (runtime : DisruptionRuntime) :
    List RuntimeCommand → Except DisruptionError DisruptionRuntime
  | [] => .ok runtime
  | command :: commands =>
    match runtime.apply command with
    | (_, .error error) => .error error
    | (next, .ok ()) => next.applyAll commands

/-- The runtime that the log of the commands gives. -/
def replay (policy : DisruptionPolicy) (scheduleBoundary : SimTime)
    (commands : List RuntimeCommand) : Except DisruptionError DisruptionRuntime := do
  (← new policy scheduleBoundary).applyAll commands

/-- The runtime after a call, and what the call gives. -/
def perform : RuntimeCall → DisruptionRuntime × Except DisruptionError (Option PolicyAudit)
  | .schedulePolicyChange change =>
    ((runtime.schedulePolicyChange change).1, (runtime.schedulePolicyChange change).2.map some)
  | .advancePolicy time => (runtime.advancePolicy time, .ok none)
  | .apply command => ((runtime.apply command).1, (runtime.apply command).2.map fun _ => none)

/-! ### The hash -/

/-- What goes into the hash of a runtime. -/
def hashFields : List HashField :=
  [.uint "world_id" runtime.policy.worldId, .uint "policy_version" runtime.policy.version,
    .text "ruleset_version" runtime.policy.rulesetVersion,
    .text "simulation_profile" runtime.policy.simulationProfile.id,
    .seq "events" runtime.events.length] ++ runtime.events.flatMap RuntimeEvent.hashFields

variable {runtime} {a b : DisruptionRuntime}

lemma flatMap_hashFields_inj {events events' : List RuntimeEvent}
    (h : events.flatMap RuntimeEvent.hashFields = events'.flatMap RuntimeEvent.hashFields) :
    events.map RuntimeEvent.hashFields = events'.map RuntimeEvent.hashFields := by
  have hlength : ∀ event : RuntimeEvent, event.hashFields.length = 8 := fun _ => rfl
  have hbegins : ∀ event : RuntimeEvent, ∃ field ∈ event.hashFields.head?, True :=
    fun _ => ⟨_, rfl, trivial⟩
  have hnothing : ∀ field ∈ ([] : List HashField).head?, ¬ True := fun _ hin => nomatch hin
  exact (blocks_inj (fun _ => True) hlength hbegins hnothing hnothing
    (congrArg (· ++ []) h)).1

/-- Recorded events of one world with the same fields are the same. -/
lemma events_eq_of_fields : ∀ {events events' : List RuntimeEvent} {worldId : ℕ},
    (∀ event ∈ events, event.worldId = worldId
      ∧ ∃ command : RuntimeCommand, event = command.toEvent event.sequence) →
    (∀ event ∈ events', event.worldId = worldId
      ∧ ∃ command : RuntimeCommand, event = command.toEvent event.sequence) →
    events.map RuntimeEvent.hashFields = events'.map RuntimeEvent.hashFields → events = events'
  | [], [], _, _, _, _ => rfl
  | [], _ :: _, _, _, _, h => nomatch h
  | _ :: _, [], _, _, _, h => nomatch h
  | event :: events, event' :: events', worldId, hall, hall', h => by
      rw [List.map_cons, List.map_cons, List.cons.injEq] at h
      obtain ⟨⟨hworld, hcommand⟩, hrest⟩ := List.forall_mem_cons.mp hall
      obtain ⟨⟨hworld', hcommand'⟩, hrest'⟩ := List.forall_mem_cons.mp hall'
      rw [RuntimeEvent.eq_of_hashFields (hworld.trans hworld'.symm) hcommand hcommand' h.1,
        events_eq_of_fields hrest hrest' h.2]

/-- Equal fields say the same of the world, of the version and the rules of the policy, of the name
of its profile and of all events. -/
theorem hashFields_inj (h : a.hashFields = b.hashFields) :
    a.policy.worldId = b.policy.worldId ∧ a.policy.version = b.policy.version
      ∧ a.policy.rulesetVersion = b.policy.rulesetVersion
      ∧ a.policy.simulationProfile.id = b.policy.simulationProfile.id ∧ a.events = b.events := by
  obtain ⟨hhead, hbody⟩ := List.append_inj h rfl
  simp only [List.cons.injEq, HashField.uint.injEq, HashField.text.injEq, HashField.seq.injEq,
    true_and, and_true] at hhead
  obtain ⟨hworld, hversion, hrules, hprofile, -⟩ := hhead
  refine ⟨hworld, hversion, hrules, hprofile, ?_⟩
  exact events_eq_of_fields a.recorded (hworld ▸ b.recorded) (flatMap_hashFields_inj hbody)

/-! ### Answers -/

/-- What calls give one after another. -/
def results (runtime : DisruptionRuntime) :
    List RuntimeCall → List (Except DisruptionError (Option PolicyAudit))
  | [] => []
  | call :: calls => (runtime.perform call).2 :: (runtime.perform call).1.results calls

/-- The runtime after calls. -/
def after (runtime : DisruptionRuntime) (calls : List RuntimeCall) : DisruptionRuntime :=
  calls.foldl (fun runtime call => (runtime.perform call).1) runtime

/-- What calls give, and the active policy and the events behind them. -/
def answers (runtime : DisruptionRuntime) (calls : List RuntimeCall) :
    List (Except DisruptionError (Option PolicyAudit)) × DisruptionPolicy × List RuntimeEvent :=
  (runtime.results calls, (runtime.after calls).policy, (runtime.after calls).events)

/-- Two runtimes agree in what calls can see: the active policy, the date of the timetable, the
policy that is active from then on, and the events. -/
structure SameFacts (a b : DisruptionRuntime) : Prop where
  policy : a.policy = b.policy
  scheduleBoundary : a.scheduleBoundary = b.scheduleBoundary
  successor : a.successor = b.successor
  events : a.events = b.events

namespace SameFacts

/-- A change of the policy gives the same and leaves the same facts. -/
lemma schedulePolicyChange (h : SameFacts a b) (change : PolicyChange) :
    (a.schedulePolicyChange change).2 = (b.schedulePolicyChange change).2
      ∧ SameFacts (a.schedulePolicyChange change).1 (b.schedulePolicyChange change).1 := by
  have hrefusal : a.refusal change = b.refusal change := by
    simp only [refusal, h.policy, h.scheduleBoundary]
  have hrequested : a.requested change = b.requested change := by
    simp only [requested, h.policy]
  have haudit : a.audit change = b.audit change := by simp only [audit, h.policy]
  have hnew : (a.requested change).new = (b.requested change).new := by rw [hrequested]
  unfold DisruptionRuntime.schedulePolicyChange
  rw [hrefusal, hnew]
  cases b.refusal change with
  | some error => exact ⟨rfl, h⟩
  | none =>
    cases (b.requested change).new with
    | error error => exact ⟨rfl, h⟩
    | ok next =>
      refine ⟨congrArg Except.ok haudit, h.policy, h.scheduleBoundary, ?_, h.events⟩
      exact hrequested

lemma advancePolicy (h : SameFacts a b) (time : SimTime) :
    SameFacts (a.advancePolicy time) (b.advancePolicy time) := by
  unfold DisruptionRuntime.advancePolicy
  rw [h.scheduleBoundary]
  split
  · exact ⟨h.successor, rfl, h.successor, h.events⟩
  · exact h

/-- A recorded command gives the same and leaves the same facts. -/
lemma apply (h : SameFacts a b) (command : RuntimeCommand) :
    (a.apply command).2 = (b.apply command).2
      ∧ SameFacts (a.apply command).1 (b.apply command).1 := by
  have hevent : a.eventOf command = b.eventOf command := by simp only [eventOf, h.events]
  unfold DisruptionRuntime.apply
  by_cases hworld : (b.eventOf command).worldId ≠ b.policy.worldId
  · simp [hevent, h.policy, hworld, h]
  · by_cases hmany : u64Max < b.events.length
    · simp [hevent, h.policy, h.events, hworld, hmany, h]
    · have hworld' : ¬ (a.eventOf command).worldId ≠ a.policy.worldId := by
        rwa [hevent, h.policy]
      have hmany' : ¬ u64Max < a.events.length := by rwa [h.events]
      rw [dif_neg hworld, dif_neg hworld', if_neg hmany, if_neg hmany']
      refine ⟨rfl, h.policy, h.scheduleBoundary, h.successor, ?_⟩
      exact congrArg₂ (fun events event => events ++ [event]) h.events hevent

lemma perform (h : SameFacts a b) (call : RuntimeCall) :
    (a.perform call).2 = (b.perform call).2
      ∧ SameFacts (a.perform call).1 (b.perform call).1 := by
  cases call with
  | schedulePolicyChange change =>
    obtain ⟨hresult, hfacts⟩ := h.schedulePolicyChange change
    exact ⟨congrArg (Except.map some) hresult, hfacts⟩
  | advancePolicy time => exact ⟨rfl, h.advancePolicy time⟩
  | apply command =>
    obtain ⟨hresult, hfacts⟩ := h.apply command
    exact ⟨congrArg (Except.map fun _ => none) hresult, hfacts⟩

lemma answers (h : SameFacts a b) (calls : List RuntimeCall) : a.answers calls
    = b.answers calls := by
  have hrun : a.results calls = b.results calls ∧ SameFacts (a.after calls) (b.after calls) := by
    induction calls generalizing a b with
    | nil => exact ⟨rfl, h⟩
    | cons call calls ih =>
      obtain ⟨hresult, hfacts⟩ := h.perform call
      obtain ⟨hresults, hafter⟩ := ih hfacts
      exact ⟨congrArg₂ List.cons hresult hresults, hafter⟩
  obtain ⟨hresults, hafter⟩ := hrun
  unfold DisruptionRuntime.answers
  rw [hresults, hafter.policy, hafter.events]

end SameFacts

/-! ### What the hash leaves out -/

/-- Two runtimes agree in what does not go into the hash and further calls can see: the rest of the
active policy, the date of the timetable, and the policy that is active from then on. -/
structure AgreesBeside (a b : DisruptionRuntime) : Prop where
  plannedWorksMode : a.policy.plannedWorksMode = b.policy.plannedWorksMode
  operationalIncidentMode : a.policy.operationalIncidentMode = b.policy.operationalIncidentMode
  providerSetId : a.policy.providerSetId = b.policy.providerSetId
  simulationProfile : a.policy.simulationProfile = b.policy.simulationProfile
  validFrom : a.policy.validFrom = b.policy.validFrom
  validUntil : a.policy.validUntil = b.policy.validUntil
  scheduleBoundary : a.scheduleBoundary = b.scheduleBoundary
  successor : a.successor = b.successor

/-- The fields of the hash and what is left out are all that calls can see. -/
lemma AgreesBeside.sameFacts (h : a.hashFields = b.hashFields) (hbeside : a.AgreesBeside b) :
    SameFacts a b := by
  obtain ⟨hworld, hversion, hrules, -, hevents⟩ := hashFields_inj h
  refine ⟨?_, hbeside.scheduleBoundary, hbeside.successor, hevents⟩
  have hplanned := hbeside.plannedWorksMode
  have hincident := hbeside.operationalIncidentMode
  have hprovider := hbeside.providerSetId
  have hprofile := hbeside.simulationProfile
  have hfrom := hbeside.validFrom
  have huntil := hbeside.validUntil
  generalize a.policy = policy at *
  generalize b.policy = policy' at *
  cases policy
  cases policy'
  simp only at *
  subst_vars
  rfl

/-- A change for the date of a runtime's own timetable, without a name of who asks for it. -/
def unsigned (runtime : DisruptionRuntime) : PolicyChange where
  worldId := runtime.policy.worldId
  requestedAt := runtime.scheduleBoundary - 1
  effectiveAt := runtime.scheduleBoundary
  requestedBy := ""
  reason := ""
  plannedWorksMode := .manual
  operationalIncidentMode := .manual
  providerSetId := none
  simulationProfile := runtime.policy.simulationProfile
  rulesetVersion := ""

/-- The change is refused for its missing name only where the date is that of the timetable. -/
lemma unsigned_refused (hworld : a.policy.worldId = b.policy.worldId) :
    (b.perform (.schedulePolicyChange a.unsigned)).2 = .error .invalidAudit
      ↔ a.scheduleBoundary = b.scheduleBoundary := by
  by_cases hdate : a.scheduleBoundary = b.scheduleBoundary
  · simp [perform, schedulePolicyChange, refusal, unsigned, hworld, hdate, Text.isBlank, Except.map]
  · simp [perform, schedulePolicyChange, refusal, unsigned, hworld, hdate, Except.map]

lemma sameFacts_of_answers (h : ∀ calls, a.answers calls = b.answers calls) : SameFacts a b := by
  have hnow := h []
  simp only [answers, results, after, List.foldl_nil, Prod.mk.injEq, true_and] at hnow
  obtain ⟨hpolicy, hevents⟩ := hnow
  have hboundary : a.scheduleBoundary = b.scheduleBoundary := by
    have hresults := congrArg Prod.fst (h [.schedulePolicyChange a.unsigned])
    simp only [answers, results, List.cons.injEq, and_true] at hresults
    refine (unsigned_refused (congrArg _ hpolicy)).mp ?_
    rw [← hresults]
    exact (unsigned_refused rfl).mpr rfl
  refine ⟨hpolicy, hboundary, ?_, hevents⟩
  have hlater := congrArg (fun answer => answer.2.1) (h [.advancePolicy a.scheduleBoundary])
  simpa [answers, after, perform, advancePolicy, hboundary] using hlater

/-- **What the hash leaves out.**  Two runtimes whose hashes are taken over the same fields give the
same results, the same active policy and the same events after all further calls, if and only if
they agree in what does not go into the hash: the modes, the providers, the profile and the
validity of the active policy, the date of the timetable, and the policy that is active from then
on. -/
theorem answers_eq_iff (h : a.hashFields = b.hashFields) :
    (∀ calls, a.answers calls = b.answers calls) ↔ a.AgreesBeside b := by
  constructor
  · intro hanswers
    obtain ⟨hpolicy, hboundary, hsuccessor, -⟩ := sameFacts_of_answers hanswers
    exact ⟨by rw [hpolicy], by rw [hpolicy], by rw [hpolicy], by rw [hpolicy], by rw [hpolicy],
      by rw [hpolicy], hboundary, hsuccessor⟩
  · exact fun hbeside => (hbeside.sameFacts h).answers

end DisruptionRuntime

/-! ### A world that is restored -/

namespace PilotWorld

/-- The profile of the pilot world. -/
def profile : SimulationProfile where
  id := "pilot"
  eventsPerPeriod := 6
  minimumSeverityBasisPoints := 1000
  maximumSeverityBasisPoints := 8000
  minimumDurationSeconds := 1800
  maximumDurationSeconds := 1814400
  minimumNoticeSeconds := 604800
  maximumNoticeSeconds := 1814400
  dailyRestrictionsPerDay := 4
  infrastructureIncidentsPer100Days := 303
  vehicleIncidentsPer10000TrainRuns := 22
  dwellIncidentsPer10000Stops := 40

/-- The policy of the pilot world. -/
def policy : DisruptionPolicy where
  worldId := 7
  version := 1
  plannedWorksMode := .simulated
  operationalIncidentMode := .simulated
  providerSetId := none
  simulationProfile := profile
  rulesetVersion := "disruption-rules/v1"
  validFrom := 0
  validUntil := none

/-- A change to manual incidents. -/
def change : PolicyChange where
  worldId := 7
  requestedAt := 100
  effectiveAt := 1000
  requestedBy := "admin"
  reason := "Umstellung"
  plannedWorksMode := .manual
  operationalIncidentMode := .manual
  providerSetId := none
  simulationProfile := profile
  rulesetVersion := "disruption-rules/v2"

/-- A provider that fails. -/
def failed : RuntimeCommand := .recordProviderFailure ⟨7, "provider", 50, "Zeitablauf"⟩

/-- The runtime before any call. -/
def idle : DisruptionRuntime := ⟨policy, 1000, none, [], by simp, by simp⟩

/-- The runtime that took the change and recorded the failure. -/
def live : DisruptionRuntime := idle.after [.schedulePolicyChange change, .apply failed]

/-- The runtime that the log of the commands gives. -/
def restored : DisruptionRuntime := idle.after [.apply failed]

/-- The log gives a runtime with the same fields, and at the date of the timetable the live one
changes its policy and the restored one does not. -/
theorem restored_answers_differ :
    DisruptionRuntime.new policy 1000 = .ok idle
      ∧ DisruptionRuntime.replay policy 1000 [failed] = .ok restored
      ∧ live.hashFields = restored.hashFields
      ∧ live.answers [.advancePolicy 1000] ≠ restored.answers [.advancePolicy 1000] :=
  ⟨rfl, rfl, by decide +kernel, by decide +kernel⟩

/-- The live runtime waits for another policy than the restored one, so some calls tell the two
apart. -/
theorem restored_told_apart : ∃ calls, live.answers calls ≠ restored.answers calls := by
  by_contra! hsame
  have hbeside := (DisruptionRuntime.answers_eq_iff (by decide +kernel)).mp hsame
  exact absurd hbeside.successor (by decide +kernel)

end PilotWorld

end Zugfolge.Disruption
