/-
Trains between the regions of a network.

A region prepares a handover and keeps the train; the target region takes the train from the
message and answers with a confirmation; the source region drops the train when it gets that.
Messages stay in flight: each one may come late, out of order, several times or never.

* `Confirmation`, `Network`, `Network.Step`, `Network.run`: regions, messages, steps and runs.
-/
import Zugfolge.Foundation.Custody
import Zugfolge.Sim.Journeys

namespace Zugfolge.Sim

open Foundation
open Std (ExtTreeMap ExtTreeSet)

/-- The confirmation of a handover, on its way to the source region. -/
structure Confirmation where
  sourceRegion : RegionId
  token : UInt64
  targetRegion : RegionId
  deriving DecidableEq

/-- Regions and the messages between them. -/
structure Network (δ : Type) where
  regions : Registry RegionId (Simulation δ)
  envelopes : List HandoverEnvelope
  confirmations : List Confirmation

/-- The commands that neither take a train in nor drop one. -/
def Command.staysHere : Command → Bool
  | .advanceTo _ | .addDelay _ _ | .applyDisruption _ | .dispatch _ _ _ _ => true
  | .materialize _ | .confirmHandover _ _ => false

namespace Network

variable {δ P : Type} {net last : Network δ} {elsewhere : Custody P} {id : TrainRunId}
  {r : RegionId} {s t : Simulation δ}

/-- What happens next in a network. -/
inductive Step where
  /-- a region prepares a handover -/
  | prepare (region : RegionId) (trainRunId : TrainRunId) (targetRegion : RegionId)
      (resources : List String)
  /-- the content of a handover reaches a region -/
  | accept (region : RegionId) (envelope : HandoverEnvelope)
  /-- a confirmation reaches its source region -/
  | confirm (confirmation : Confirmation)
  /-- a region does its own work -/
  | work (region : RegionId) (command : Command)

/-- Writes a region. -/
def put (net : Network δ) (r : RegionId) (s : Simulation δ) : Network δ :=
  { net with regions := net.regions.insert r s }

/-- A region prepares a handover, and its content is on its way. -/
def prepare (net : Network δ) (r : RegionId) (id : TrainRunId) (targetRegion : RegionId)
    (resources : List String) : Option (Network δ) :=
  match net.regions[r]? with
  | none => some net
  | some s => (s.prepareHandover id targetRegion resources).map fun reply =>
    { net.put r reply.2 with
      envelopes := (reply.1.toOption.map Prod.fst).toList ++ net.envelopes }

/-- The content of a handover reaches a region; if the region takes the train in, then the
confirmation is on its way. -/
def accept (net : Network δ) (r : RegionId) (envelope : HandoverEnvelope) : Option (Network δ) :=
  match net.regions[r]? with
  | none => some net
  | some s => (s.acceptHandover envelope).map fun reply =>
    { net.put r reply.2 with
      confirmations :=
        if reply.1.toOption.isSome then
          ⟨envelope.sourceRegion, envelope.token, r⟩ :: net.confirmations
        else net.confirmations }

section Stepping

variable [Dispatcher δ]

/-- A region applies a command. -/
def command (net : Network δ) (r : RegionId) (command : Command) : Option (Network δ) :=
  match net.regions[r]? with
  | none => some net
  | some s => (s.apply command).map fun reply => net.put r reply.2

/-- One step; a message that is not in flight does not arrive. -/
def step (net : Network δ) : Step → Option (Network δ)
  | .prepare r id targetRegion resources => net.prepare r id targetRegion resources
  | .accept r envelope => if envelope ∈ net.envelopes then net.accept r envelope else some net
  | .confirm confirmation =>
    if confirmation ∈ net.confirmations then
      net.command confirmation.sourceRegion
        (.confirmHandover confirmation.token confirmation.targetRegion)
    else some net
  | .work r command => if command.staysHere then net.command r command else some net

/-- One step after another. -/
def emit (net : Network δ) (next : Step) : Option (Network δ × List Unit) :=
  (net.step next).map fun later => (later, [])

def run (net : Network δ) (steps : List Step) : Option (Network δ) :=
  (runAll emit net steps).map Prod.fst

end Stepping

/-! ### Who holds a train -/

/-- The region holds the train. -/
def Holds (net : Network δ) (id : TrainRunId) (r : RegionId) : Prop :=
  ∃ s, net.regions[r]? = some s ∧ s.trains.contains id = true

/-- The region has a pending handover of the train under the token. -/
def Pending (net : Network δ) (id : TrainRunId) (r : RegionId) (token : UInt64)
    (targetRegion : RegionId) : Prop :=
  ∃ s, net.regions[r]? = some s ∧ s.pendingHandovers[token]? = some ⟨id, targetRegion⟩

/-- The target region has accepted the pending handover, and the confirmation is on its way. -/
def Accepted (net : Network δ) (id : TrainRunId) (r : RegionId) (token : UInt64) : Prop :=
  ∃ targetRegion, net.Pending id r token targetRegion ∧
    (⟨r, token, targetRegion⟩ : Confirmation) ∈ net.confirmations

/-- The regions that hold a train, and those of them that are leaving it to another one. -/
def custody (net : Network δ) (id : TrainRunId) : Custody RegionId where
  holders := { r | net.Holds id r }
  leaving := { r | ∃ token, net.Accepted id r token }

/-- Every region is entered under its number, exactly one party that holds the train is not
leaving it, be it a region or a party elsewhere, and every region has at most one accepted
handover of it. -/
structure Passed (net : Network δ) (elsewhere : Custody P) (id : TrainRunId) : Prop where
  registered : ∀ (r : RegionId) (s : Simulation δ), net.regions[r]? = some s → s.regionId = r
  single : (elsewhere.beside (net.custody id)).Single
  once : ∀ r token token', net.Accepted id r token → net.Accepted id r token' → token = token'

/-! ### Conditions -/

/-- A region holds the train, and the target of no pending handover of it has accepted. -/
def keeps (net : Network δ) (id : TrainRunId) (r : RegionId) : Bool :=
  (net.regions[r]?).any fun s => s.trains.contains id &&
    net.confirmations.all fun confirmation => confirmation.sourceRegion != r ||
      s.pendingHandovers[confirmation.token]? != some ⟨id, confirmation.targetRegion⟩

/-- A handover is prepared under a token that the region has no confirmation for, and it is
accepted while the source region keeps the train and the handover is pending there. -/
def inTurn (net : Network δ) : Step → Bool
  | .prepare r id targetRegion _ =>
    (net.regions[r]?).all fun s => net.confirmations.all fun confirmation =>
      confirmation.sourceRegion != r || confirmation.token != s.handoverToken id targetRegion
  | .accept r envelope =>
    (net.regions[r]?).all fun s =>
      (s.takesIn (.acceptHandover envelope)).isNone ||
        (net.keeps envelope.train.id envelope.sourceRegion &&
          (net.regions[envelope.sourceRegion]?).any fun source =>
            source.pendingHandovers[envelope.token]? == some ⟨envelope.train.id, r⟩)
  | .confirm _ | .work _ _ => true

lemma not_leaving (hnone : ∀ token, ¬ net.Accepted id r token) :
    r ∉ (net.custody id).leaving := by
  rintro ⟨token, haccepted⟩
  exact hnone token haccepted

lemma keeps_iff : net.keeps id r = true ↔
    net.Holds id r ∧ ∀ token, ¬ net.Accepted id r token := by
  rw [keeps, Option.any_eq_true]
  constructor
  · rintro ⟨s, hs, hkeeps⟩
    rw [Bool.and_eq_true, List.all_eq_true] at hkeeps
    obtain ⟨hheld, hnone⟩ := hkeeps
    refine ⟨⟨s, hs, hheld⟩, ?_⟩
    rintro token ⟨targetRegion, ⟨u, hu, hpending⟩, hin⟩
    obtain rfl := Option.some.inj (hs.symm.trans hu)
    have hfree := hnone _ hin
    simp [hpending] at hfree
  · rintro ⟨⟨s, hs, hheld⟩, hnone⟩
    refine ⟨s, hs, ?_⟩
    rw [Bool.and_eq_true, List.all_eq_true]
    refine ⟨hheld, fun confirmation hin => ?_⟩
    rw [Bool.or_eq_true, bne_iff_ne, bne_iff_ne]
    by_contra hboth
    rw [not_or, not_not, not_not] at hboth
    obtain ⟨rfl, hpending⟩ := hboth
    exact hnone confirmation.token ⟨confirmation.targetRegion, ⟨s, hs, hpending⟩, hin⟩

/-! ### Steps that pass nothing on -/

lemma getElem?_put (r' : RegionId) :
    (net.put r s).regions[r']? = if r' = r then some s else net.regions[r']? := by
  rw [put, Registry.getElem?_insert]

lemma registered_put (hnet : ∀ (r : RegionId) (s : Simulation δ), net.regions[r]? = some s →
    s.regionId = r) (hs : net.regions[r]? = some s) (hid : t.regionId = s.regionId) :
    ∀ (r' : RegionId) (u : Simulation δ), (net.put r t).regions[r']? = some u →
      u.regionId = r' := by
  intro r' u hu
  rw [getElem?_put] at hu
  split at hu
  next heq =>
    cases hu
    rw [hid, heq]
    exact hnet r s hs
  · exact hnet r' u hu

/-- A step after which the same regions hold the train and the same of its handovers are
accepted keeps the invariant. -/
lemma Passed.of_same (h : net.Passed elsewhere id)
    (hregistered : ∀ (r : RegionId) (s : Simulation δ), last.regions[r]? = some s →
      s.regionId = r)
    (hholds : ∀ r, last.Holds id r ↔ net.Holds id r)
    (haccepted : ∀ r token, last.Accepted id r token ↔ net.Accepted id r token) :
    last.Passed elsewhere id := by
  have hcustody : last.custody id = net.custody id := by
    ext r
    · exact hholds r
    · exact exists_congr fun token => haccepted r token
  refine ⟨hregistered, hcustody ▸ h.single, fun r token token' hfirst hsecond => ?_⟩
  exact h.once r token token' ((haccepted r token).mp hfirst) ((haccepted r token').mp hsecond)

lemma holds_put_self : (net.put r s).Holds id r ↔ s.trains.contains id = true := by
  rw [Holds, getElem?_put, if_pos rfl]
  constructor
  · rintro ⟨u, hu, hheld⟩
    exact Option.some.inj hu ▸ hheld
  · exact fun hheld => ⟨s, rfl, hheld⟩

variable {other : TrainRunId} {r' targetRegion : RegionId} {token : UInt64}

lemma holds_put_other (h : r' ≠ r) :
    (net.put r s).Holds id r' ↔ net.Holds id r' := by
  rw [Holds, getElem?_put, if_neg h, Holds]

lemma pending_put_self :
    (net.put r s).Pending id r token targetRegion ↔
      s.pendingHandovers[token]? = some (⟨id, targetRegion⟩ : PendingHandover) := by
  rw [Pending, getElem?_put, if_pos rfl]
  constructor
  · rintro ⟨u, hu, hpending⟩
    exact Option.some.inj hu ▸ hpending
  · exact fun hpending => ⟨s, rfl, hpending⟩

lemma pending_put_other (h : r' ≠ r) :
    (net.put r s).Pending id r' token targetRegion ↔ net.Pending id r' token targetRegion := by
  rw [Pending, getElem?_put, if_neg h, Pending]

lemma accepted_put_other (h : r' ≠ r) :
    (net.put r s).Accepted id r' token ↔ net.Accepted id r' token :=
  exists_congr fun _ => and_congr_left fun _ => pending_put_other h

lemma holds_iff (hs : net.regions[r]? = some s) :
    net.Holds id r ↔ s.trains.contains id = true := by
  constructor
  · rintro ⟨u, hu, hheld⟩
    exact Option.some.inj (hs.symm.trans hu) ▸ hheld
  · exact fun hheld => ⟨s, hs, hheld⟩

lemma pending_iff (hs : net.regions[r]? = some s) :
    net.Pending id r token targetRegion ↔
      s.pendingHandovers[token]? = some (⟨id, targetRegion⟩ : PendingHandover) := by
  constructor
  · rintro ⟨u, hu, hpending⟩
    exact Option.some.inj (hs.symm.trans hu) ▸ hpending
  · exact fun hpending => ⟨s, hs, hpending⟩

/-- A region that keeps the train and its accepted handovers keeps the invariant. -/
lemma Passed.put (h : net.Passed elsewhere id) (hs : net.regions[r]? = some s)
    (hid : t.regionId = s.regionId) (htrains : t.trains.contains id = s.trains.contains id)
    (hpending : ∀ (token : UInt64) (targetRegion : RegionId),
      (⟨r, token, targetRegion⟩ : Confirmation) ∈ net.confirmations →
        (t.pendingHandovers[token]? = some (⟨id, targetRegion⟩ : PendingHandover) ↔
          s.pendingHandovers[token]? = some (⟨id, targetRegion⟩ : PendingHandover))) :
    (net.put r t).Passed elsewhere id := by
  refine h.of_same (registered_put h.registered hs hid) (fun r' => ?_) fun r' token => ?_
  · by_cases heq : r' = r
    · subst heq
      rw [holds_put_self, holds_iff hs, htrains]
    · exact holds_put_other heq
  · by_cases heq : r' = r
    · subst heq
      refine exists_congr fun targetRegion => and_congr_left fun hin => ?_
      rw [pending_put_self, pending_iff hs]
      exact hpending token targetRegion hin
    · exact accepted_put_other heq

lemma Passed.envelopes (h : net.Passed elsewhere id) (envelopes : List HandoverEnvelope) :
    ({ net with envelopes := envelopes } : Network δ).Passed elsewhere id :=
  h.of_same h.registered (fun _ => .rfl) fun _ _ => .rfl

/-! ### Steps -/

/-- A handover that is prepared under a token without a confirmation passes nothing on. -/
lemma prepare_passed {resources : List String} (h : net.Passed elsewhere id)
    (hok : net.inTurn (.prepare r other targetRegion resources) = true)
    (hstep : net.prepare r other targetRegion resources = some last) :
    last.Passed elsewhere id := by
  rw [prepare] at hstep
  cases hs : net.regions[r]? with
  | none =>
    simp only [hs] at hstep
    cases hstep
    exact h
  | some s =>
    simp only [hs] at hstep
    obtain ⟨⟨answer, t⟩, hreply, rfl⟩ := Option.map_eq_some_iff.mp hstep
    refine Passed.envelopes ?_ _
    rcases Simulation.prepareHandover_spec hreply with ⟨-, -, rfl⟩ | ⟨_, _, -, hrequest, -⟩
    · exact h.put hs rfl rfl fun _ _ _ => .rfl
    · rcases Simulation.requestHandover_spec hrequest with ⟨-, -, rfl⟩ | ⟨-, -, rfl⟩
      · exact h.put hs rfl rfl fun _ _ _ => .rfl
      · refine h.put hs rfl rfl fun token target hin => ?_
        simp only [inTurn, hs, Option.all_some, List.all_eq_true] at hok
        have hne : token ≠ s.handoverToken other targetRegion := by
          have hfresh := hok _ hin
          rw [Bool.or_eq_true, bne_iff_ne, bne_iff_ne] at hfresh
          exact hfresh.resolve_left fun hnot => hnot rfl
        rw [Registry.getElem?_insert, if_neg hne]

/-- A decision from outside keeps the trains and the handovers. -/
lemma directed_keeps (id : TrainRunId) {train : TrainRun} {time : SimTime}
    {decision : DispatchDecision} (hheld : s.trains[other]? = some train)
    (h : Simulation.Directed s other train time decision t) :
    t.regionId = s.regionId ∧ t.trains.contains id = s.trains.contains id ∧
      t.pendingHandovers = s.pendingHandovers := by
  have hinsert : ∀ written : TrainRun,
      (s.trains.insert other written).contains id = s.trains.contains id := by
    intro written
    rw [ExtTreeMap.contains_insert, Bool.or_eq_right_iff_imp]
    intro heq
    rw [← Std.LawfulEqCmp.eq_of_compare (beq_iff_eq.mp heq)]
    exact Registry.contains_iff.mpr ⟨train, hheld⟩
  cases h with
  | nothing => exact ⟨rfl, rfl, rfl⟩
  | _ => exact ⟨rfl, hinsert _, rfl⟩

/-! ### A train that is taken in -/

lemma accepted_put (hs : net.regions[r]? = some s)
    (hhandovers : t.pendingHandovers = s.pendingHandovers) :
    (net.put r t).Accepted id r' token ↔ net.Accepted id r' token := by
  by_cases heq : r' = r
  · subst heq
    refine exists_congr fun targetRegion => and_congr_left fun _ => ?_
    rw [pending_put_self, pending_iff hs, hhandovers]
  · exact accepted_put_other heq

lemma custody_put_taken {taken : TrainRun} (hs : net.regions[r]? = some s)
    (htrains : t.trains = s.trains.insert id taken)
    (hhandovers : t.pendingHandovers = s.pendingHandovers) :
    (net.put r t).custody id = ⟨insert r (net.custody id).holders, (net.custody id).leaving⟩ := by
  ext r'
  · by_cases heq : r' = r
    · subst heq
      have hheld : (net.put r' t).Holds id r' :=
        holds_put_self.mpr (by rw [htrains, ExtTreeMap.contains_insert_self])
      simpa [custody] using hheld
    · simp [custody, holds_put_other heq, heq]
  · exact exists_congr fun token => accepted_put hs hhandovers

/-- A region that takes in another train keeps the invariant. -/
lemma Passed.put_other {taken : TrainRun} (h : net.Passed elsewhere id)
    (hs : net.regions[r]? = some s) (hother : other ≠ id) (hregion : t.regionId = s.regionId)
    (htrains : t.trains = s.trains.insert other taken)
    (hhandovers : t.pendingHandovers = s.pendingHandovers) :
    (net.put r t).Passed elsewhere id := by
  refine h.put hs hregion ?_ fun token target _ => by rw [hhandovers]
  rw [htrains, ExtTreeMap.contains_insert]
  simp [Std.LawfulEqCmp.compare_eq_iff_eq, hother]

/-- A confirmation is on its way. -/
def confirmed (net : Network δ) (confirmation : Confirmation) : Network δ :=
  { net with confirmations := confirmation :: net.confirmations }

section Confirmed

variable {other : TrainRunId} {source target : RegionId} {token : UInt64}

lemma accepted_confirmed {r' : RegionId} {token' : UInt64} :
    (net.confirmed ⟨source, token, target⟩).Accepted id r' token' ↔
      net.Accepted id r' token' ∨
        r' = source ∧ token' = token ∧ net.Pending id source token target := by
  constructor
  · rintro ⟨target', hpending, hin⟩
    rcases List.mem_cons.mp hin with heq | hin
    · cases heq
      exact .inr ⟨rfl, rfl, hpending⟩
    · exact .inl ⟨target', hpending, hin⟩
  · rintro (⟨target', hpending, hin⟩ | ⟨rfl, rfl, hpending⟩)
    · exact ⟨target', hpending, List.mem_cons_of_mem _ hin⟩
    · exact ⟨target, hpending, List.mem_cons_self⟩

/-- The source region of a confirmed handover is leaving the train. -/
lemma custody_confirmed (hpending : net.Pending id source token target) :
    (net.confirmed ⟨source, token, target⟩).custody id
      = ⟨(net.custody id).holders, insert source (net.custody id).leaving⟩ := by
  ext r'
  · rfl
  · simp only [custody, Set.mem_ofPred_eq, Set.mem_insert_iff, accepted_confirmed]
    constructor
    · rintro ⟨token', hold | ⟨rfl, -, -⟩⟩
      · exact .inr ⟨token', hold⟩
      · exact .inl rfl
    · rintro (rfl | ⟨token', hold⟩)
      · exact ⟨token, .inr ⟨rfl, rfl, hpending⟩⟩
      · exact ⟨token', .inl hold⟩

/-- The confirmation is the first one for its source region. -/
lemma once_confirmed (hnet : ∀ r token token', net.Accepted id r token →
    net.Accepted id r token' → token = token') (hnone : ∀ token, ¬ net.Accepted id source token) :
    ∀ r first second, (net.confirmed ⟨source, token, target⟩).Accepted id r first →
      (net.confirmed ⟨source, token, target⟩).Accepted id r second → first = second := by
  intro r first second hfirst hsecond
  rw [accepted_confirmed] at hfirst hsecond
  rcases hfirst with hfirst | ⟨rfl, rfl, -⟩
  · rcases hsecond with hsecond | ⟨rfl, -, -⟩
    · exact hnet r first second hfirst hsecond
    · exact absurd hfirst (hnone first)
  · rcases hsecond with hsecond | ⟨-, rfl, -⟩
    · exact absurd hsecond (hnone second)
    · rfl

/-- The confirmation of a handover of another train keeps the invariant. -/
lemma Passed.confirmed_other (h : net.Passed elsewhere id) (hother : other ≠ id)
    (hpending : net.Pending other source token target) :
    (net.confirmed ⟨source, token, target⟩).Passed elsewhere id := by
  refine h.of_same h.registered (fun _ => .rfl) fun r' token' => ?_
  rw [accepted_confirmed]
  refine or_iff_left ?_
  rintro ⟨-, -, u, hu, hsame⟩
  obtain ⟨v, hv, hthere⟩ := hpending
  obtain rfl := Option.some.inj (hu.symm.trans hv)
  rw [hthere] at hsame
  cases hsame
  exact hother rfl

/-- A region takes a train that another region keeps, from a handover that is pending there. -/
lemma accepted_passed {taken : TrainRun} (h : net.Passed elsewhere id)
    (hs : net.regions[r]? = some s) (hfree : s.trains.contains other = false)
    (hholds : net.Holds other source) (hnone : ∀ token, ¬ net.Accepted other source token)
    (hpending : net.Pending other source token r) (hregion : t.regionId = s.regionId)
    (htrains : t.trains = s.trains.insert other taken)
    (hhandovers : t.pendingHandovers = s.pendingHandovers) :
    ((net.put r t).confirmed ⟨source, token, r⟩).Passed elsewhere id := by
  have hpending' : (net.put r t).Pending other source token r := by
    by_cases heq : source = r
    · subst heq
      rw [pending_iff hs, ← hhandovers] at hpending
      exact pending_put_self.mpr hpending
    · exact (pending_put_other heq).mpr hpending
  by_cases hother : other = id
  · subst hother
    have hcustody : ((net.put r t).confirmed ⟨source, token, r⟩).custody other
        = (net.custody other).taken source r := by
      rw [custody_confirmed hpending', custody_put_taken hs htrains hhandovers, Custody.taken]
    refine ⟨registered_put h.registered hs hregion, ?_, once_confirmed
      (fun r' first second hfirst hsecond => ?_) fun token' haccepted => ?_⟩
    · rw [hcustody, ← Custody.beside_taken_right]
      refine h.single.taken hholds (not_leaving hnone) fun hheld => ?_
      have hcontains : s.trains.contains other = true := (holds_iff hs).mp hheld
      rw [hfree] at hcontains
      cases hcontains
    · rw [accepted_put hs hhandovers] at hfirst hsecond
      exact h.once r' first second hfirst hsecond
    · exact hnone token' ((accepted_put hs hhandovers).mp haccepted)
  · exact (h.put_other hs hother hregion htrains hhandovers).confirmed_other hother hpending'

end Confirmed

section Stepping

variable [Dispatcher δ]

/-- A command that neither takes a train in nor drops one keeps the trains and the handovers. -/
lemma staysHere_keeps (id : TrainRunId) {command : Command}
    {answer : Except SimError (List DomainEvent)}
    (hstays : command.staysHere = true) (h : s.apply command = some (answer, t)) :
    t.regionId = s.regionId ∧ t.trains.contains id = s.trains.contains id ∧
      t.pendingHandovers = s.pendingHandovers := by
  have hcalled := Simulation.called_of_apply h
  generalize (answer.toOption).getD [] = out at hcalled
  cases hcalled with
  | refused => exact ⟨rfl, rfl, rfl⟩
  | replaced | entered | confirmed => cases hstays
  | advanced forward moved =>
    have hframed := Simulation.advance_framed moved
    exact ⟨hframed.regionId, hframed.contains_eq id, hframed.pendingHandovers⟩
  | delayed done =>
    rcases Simulation.delayTrain_spec done with ⟨-, herror, -⟩ | ⟨_, -, -, hdelayed⟩
    · cases herror
    · exact ⟨hdelayed.regionId, hdelayed.contains_eq id, hdelayed.pendingHandovers⟩
  | disrupted named held done =>
    have hdelayed := (Simulation.delayTrains_spec held done).1
    exact ⟨hdelayed.regionId, hdelayed.contains_eq id, hdelayed.pendingHandovers⟩
  | lost forward moved unknown =>
    have hframed := Simulation.advance_framed moved
    exact ⟨hframed.regionId, hframed.contains_eq id, hframed.pendingHandovers⟩
  | @directed _ _ _ _ v w _ _ _ dispatcher forward moved held decided hit =>
    have hframed := Simulation.advance_framed moved
    obtain ⟨hregion, htrains, hpending⟩ := directed_keeps id
      (s := { v with dispatcher := dispatcher }) held hit
    exact ⟨hregion.trans hframed.regionId, htrains.trans (hframed.contains_eq id),
      hpending.trans hframed.pendingHandovers⟩
  | requested held asked =>
    rcases asked with hcall | ⟨_, hcall⟩
    · cases hcall
    · cases hcall

/-- A confirmation makes its region let the train go, or it is refused. -/
lemma confirm_passed {confirmation : Confirmation} (h : net.Passed elsewhere id)
    (hin : confirmation ∈ net.confirmations)
    (hstep : net.command confirmation.sourceRegion
      (.confirmHandover confirmation.token confirmation.targetRegion) = some last) :
    last.Passed elsewhere id := by
  obtain ⟨r, token, target⟩ := confirmation
  rw [command] at hstep
  cases hs : net.regions[r]? with
  | none =>
    simp only [hs] at hstep
    cases hstep
    exact h
  | some s =>
    simp only [hs] at hstep
    obtain ⟨⟨answer, t⟩, hreply, rfl⟩ := Option.map_eq_some_iff.mp hstep
    rcases Simulation.confirmHandover_spec hreply with ⟨_, -, rfl, -⟩ | ⟨other, hpending, -, rfl⟩
    · exact h.put hs rfl rfl fun _ _ _ => .rfl
    · by_cases hother : other = id
      · subst hother
        -- the region lets the train go: the one accepted handover is gone with it
        have haccepted : net.Accepted other r token := ⟨target, ⟨s, hs, hpending⟩, hin⟩
        set dropped : Simulation δ := { s with
          pendingHandovers := s.pendingHandovers.erase token
          trains := s.trains.erase other
          sequence := s.sequence + 1 } with hdropped
        have hnotAccepted : ∀ token', ¬ (net.put r dropped).Accepted other r token' := by
          rintro token' ⟨target', hpending', hin'⟩
          rw [pending_put_self, hdropped, Registry.getElem?_erase] at hpending'
          split at hpending'
          · cases hpending'
          next hne =>
            exact hne (h.once r token' token ⟨target', ⟨s, hs, hpending'⟩, hin'⟩ haccepted)
        have hcustody : (net.put r dropped).custody other = (net.custody other).released r := by
          ext r'
          · by_cases heq : r' = r
            · subst heq
              simp [custody, Custody.released, holds_put_self, hdropped]
            · simp [custody, Custody.released, holds_put_other heq, heq]
          · by_cases heq : r' = r
            · subst heq
              simp [custody, Custody.released, hnotAccepted]
            · simp [custody, Custody.released, accepted_put_other heq, heq]
        refine ⟨registered_put h.registered hs rfl, ?_, fun r' first second hfirst hsecond => ?_⟩
        · rw [hcustody, ← Custody.beside_released_right]
          exact h.single.released ⟨token, haccepted⟩
        · by_cases heq : r' = r
          · subst heq
            exact absurd hfirst (hnotAccepted first)
          · exact h.once r' first second ((accepted_put_other heq).mp hfirst)
              ((accepted_put_other heq).mp hsecond)
      · refine h.put hs rfl ?_ fun token' target' _ => ?_
        · rw [ExtTreeMap.contains_erase]
          simp [hother]
        · rw [Registry.getElem?_erase]
          split
          next heq =>
            subst heq
            rw [hpending]
            simp [hother]
          · rfl

omit [Dispatcher δ] in
/-- A handover that a region accepts in turn makes the region the one that keeps the train. -/
lemma accept_passed {envelope : HandoverEnvelope} (h : net.Passed elsewhere id)
    (hok : net.inTurn (.accept r envelope) = true) (hstep : net.accept r envelope = some last) :
    last.Passed elsewhere id := by
  rw [accept] at hstep
  cases hs : net.regions[r]? with
  | none =>
    simp only [hs] at hstep
    cases hstep
    exact h
  | some s =>
    simp only [hs] at hstep
    obtain ⟨⟨answer, t⟩, hreply, rfl⟩ := Option.map_eq_some_iff.mp hstep
    rcases Simulation.acceptHandover_spec hreply with ⟨_, rfl, ⟨rfl, -⟩
      | ⟨train, first, -, -, -, hheld, rfl⟩⟩
      | ⟨train, first, hreceives, htaken, hcheck, hfree, rfl, rfl⟩
    · exact (h.put hs rfl rfl fun _ _ _ => .rfl : Passed _ _ _)
    · have hput : (net.put r (s.putTrain train.id train)).Passed elsewhere id := by
        refine h.put hs rfl ?_ fun _ _ _ => .rfl
        rw [Simulation.putTrain, ExtTreeMap.contains_insert, Bool.or_eq_right_iff_imp]
        intro heq
        rwa [← Std.LawfulEqCmp.eq_of_compare (beq_iff_eq.mp heq)]
      exact hput
    · obtain ⟨hid, -, -⟩ := Simulation.takenOver_spec htaken
      simp only [inTurn, hs, Option.all_some,
        Simulation.Offers.takesIn (.inr ⟨_, rfl, hreceives, htaken⟩) hcheck hfree,
        Option.isNone_some, Bool.false_or, Bool.and_eq_true, keeps_iff, Option.any_eq_true,
        beq_iff_eq] at hok
      obtain ⟨⟨hholds, hnone⟩, source, hsource, hpending⟩ := hok
      exact accepted_passed h hs (hid ▸ hfree) hholds hnone ⟨source, hsource, hpending⟩ rfl
        (by rw [hid]) rfl

/-- Every step in turn keeps the invariant. -/
lemma step_passed {next : Step} (h : net.Passed elsewhere id) (hok : net.inTurn next = true)
    (hstep : net.step next = some last) : last.Passed elsewhere id := by
  cases next with
  | prepare r other targetRegion resources => exact prepare_passed h hok hstep
  | accept r envelope =>
    rw [step] at hstep
    split at hstep
    · exact accept_passed h hok hstep
    · cases hstep
      exact h
  | confirm confirmation =>
    rw [step] at hstep
    split at hstep
    next hin => exact confirm_passed h hin hstep
    · cases hstep
      exact h
  | work r command =>
    rw [step] at hstep
    split at hstep
    next hstays =>
      rw [Network.command] at hstep
      cases hs : net.regions[r]? with
      | none =>
        simp only [hs] at hstep
        cases hstep
        exact h
      | some s =>
        simp only [hs] at hstep
        obtain ⟨⟨answer, t⟩, hreply, rfl⟩ := Option.map_eq_some_iff.mp hstep
        obtain ⟨hregion, htrains, hpending⟩ := staysHere_keeps id hstays hreply
        exact h.put hs hregion htrains fun token target _ => by rw [hpending]
    · cases hstep
      exact h

/-! ### Runs -/

omit [Dispatcher δ] in
/-- The train is in one region, no handover of it is pending, and no message is in flight. -/
structure Starts (net : Network δ) (id : TrainRunId) : Prop where
  registered : ∀ (r : RegionId) (s : Simulation δ), net.regions[r]? = some s → s.regionId = r
  single : ∃! r, net.Holds id r
  settled : ∀ r token targetRegion, ¬ net.Pending id r token targetRegion
  envelopes : net.envelopes = []
  confirmations : net.confirmations = []

omit [Dispatcher δ] in
lemma Starts.passed (h : net.Starts id) : net.Passed (Custody.nobody : Custody P) id := by
  have hnone : ∀ r token, ¬ net.Accepted id r token :=
    fun r token ⟨target, hpending, _⟩ => h.settled r token target hpending
  obtain ⟨r, hr, hunique⟩ := h.single
  refine ⟨h.registered, Custody.single_beside_nobody.mpr
    ⟨fun r' ⟨token, haccepted⟩ => absurd haccepted (hnone r' token), r, ?_, ?_⟩,
    fun r' token _ haccepted => absurd haccepted (hnone r' token)⟩
  · exact ⟨hr, not_leaving (hnone r)⟩
  · exact fun r' hr' => hunique r' hr'.1

/-- **Handovers.**  In every run of a network whose steps are in turn a train is never lost, and
whenever no handover of it is pending exactly one region holds it. -/
theorem run_handedOver {steps : List Step} (hstart : net.Starts id)
    (hok : AllRun emit inTurn net steps = true) (h : net.run steps = some last) :
    (∃ r, last.Holds id r) ∧
      ((∀ r token targetRegion, ¬ last.Pending id r token targetRegion) →
        ∃! r, last.Holds id r) := by
  obtain ⟨⟨u, log⟩, hrun, rfl⟩ := Option.map_eq_some_iff.mp h
  have hpassed : u.Passed (Custody.nobody : Custody Empty) id := by
    refine AllRun.invariant
      (fun net (_ : List Unit) => net.Passed (Custody.nobody : Custody Empty) id)
      (fun net next last _ out hnet hnext hemit => ?_) [] hstart.passed hok hrun
    obtain ⟨later, hstep, heq⟩ := Option.map_eq_some_iff.mp hemit
    obtain ⟨rfl, -⟩ := Prod.mk.inj heq
    exact step_passed hnet hnext hstep
  have hsingle : (u.custody id).Single := Custody.single_beside_nobody.mp hpassed.single
  refine ⟨hsingle.exists_holder, fun hnone => hsingle.existsUnique_holder fun r hleaving => ?_⟩
  obtain ⟨token, target, hpending, -⟩ := hleaving
  exact hnone r token target hpending

end Stepping

end Network

/-! ### A train that two regions take over -/

namespace TwoStops

/-- A train in the first one of three regions. -/
def network : Network ConservativeDispatcher where
  regions := ((Std.ExtTreeMap.empty.insert 7 (after [.materialize (train 1)])).insert 8
    (region 8 .conservative)).insert 10 (region 10 .conservative)
  envelopes := []
  confirmations := []

/-- The content of a handover of the train from the first region. -/
def passedTo (targetRegion : RegionId) (token : UInt64) : HandoverEnvelope :=
  ⟨42, 7, targetRegion, token, train 1, []⟩

lemma network_starts : network.Starts 1 where
  registered := by
    intro r s hs
    simp only [network, Registry.getElem?_insert] at hs
    split at hs
    next heq =>
      cases hs
      exact heq.symm
    · split at hs
      next heq =>
        cases hs
        exact heq.symm
      · split at hs
        next heq =>
          cases hs
          rw [heq]
          decide +kernel
        · simp at hs
  single := by
    have hheld : (network.regions[(7 : RegionId)]?).any (fun s => s.trains.contains 1) = true := by
      decide +kernel
    refine ⟨7, (Option.any_eq_true _ _).mp hheld, ?_⟩
    rintro r ⟨s, hs, hheld⟩
    simp only [network, Registry.getElem?_insert] at hs
    split at hs
    · cases hs
      simp [region, Simulation.new] at hheld
    · split at hs
      · cases hs
        simp [region, Simulation.new] at hheld
      · split at hs
        next heq => exact heq
        · simp at hs
  settled := by
    rintro r token target ⟨s, hs, hpending⟩
    simp only [network, Registry.getElem?_insert] at hs
    split at hs
    · cases hs
      simp [region, Simulation.new] at hpending
    · split at hs
      · cases hs
        simp [region, Simulation.new] at hpending
      · split at hs
        · cases hs
          have hnone : (after [.materialize (train 1)]).pendingHandovers.isEmpty = true := by
            decide +kernel
          rw [ExtTreeMap.isEmpty_iff.mp hnone] at hpending
          simp at hpending
        · simp at hs
  envelopes := rfl
  confirmations := rfl

/-- Two handovers of the train to different regions, both prepared before one is confirmed. -/
def takenTwice : List Network.Step :=
  [.prepare 7 1 8 [], .prepare 7 1 10 [], .accept 8 (passedTo 8 131082),
    .accept 10 (passedTo 10 131081), .confirm ⟨7, 131082, 8⟩, .confirm ⟨7, 131081, 10⟩]

/-- All handovers are confirmed, and two regions hold the train. -/
theorem takenTwice_holds_twice : ¬ ∀ (net last : Network ConservativeDispatcher)
    (id : TrainRunId) (steps : List Network.Step), net.Starts id → net.run steps = some last →
      (∀ r token targetRegion, ¬ last.Pending id r token targetRegion) →
        ∃! r, last.Holds id r := by
  intro hclaim
  have hrun : (network.run takenTwice).any (fun last =>
      Registry.allValues last.regions (fun s => s.pendingHandovers.isEmpty) &&
        (last.regions[(8 : RegionId)]?).any (fun s => s.trains.contains 1) &&
        (last.regions[(10 : RegionId)]?).any fun s => s.trains.contains 1) = true := by
    decide +kernel
  obtain ⟨last, hresult, hboth⟩ := (Option.any_eq_true _ _).mp hrun
  rw [Bool.and_eq_true, Bool.and_eq_true, Registry.allValues_iff] at hboth
  obtain ⟨⟨hempty, height⟩, hten⟩ := hboth
  obtain ⟨r, -, hunique⟩ := hclaim network last 1 takenTwice network_starts hresult (by
    rintro r token target ⟨s, hs, hpending⟩
    have hnone := hempty r s hs
    rw [ExtTreeMap.isEmpty_iff.mp hnone] at hpending
    simp at hpending)
  have hfirst := hunique 8 ((Option.any_eq_true _ _).mp height)
  have hsecond := hunique 10 ((Option.any_eq_true _ _).mp hten)
  exact absurd (hfirst.trans hsecond.symm) (by decide)

/-- A train that goes on to the second region, while each message comes twice. -/
def passedOn : List Network.Step :=
  [.prepare 7 1 8 [], .accept 8 (passedTo 8 131082), .accept 8 (passedTo 8 131082),
    .confirm ⟨7, 131082, 8⟩, .work 8 (.advanceTo 90), .confirm ⟨7, 131082, 8⟩]

/-- After the handover the second region alone holds the train. -/
theorem run_handedOver_passedOn : ∃ last : Network ConservativeDispatcher,
    network.run passedOn = some last ∧ last.Holds 1 8 ∧ ∃! r, last.Holds 1 r := by
  have hrun : (network.run passedOn).any (fun last =>
      Registry.allValues last.regions (fun s => s.pendingHandovers.isEmpty) &&
        (last.regions[(8 : RegionId)]?).any (fun s => s.trains.contains 1)) = true := by
    decide +kernel
  have hok : AllRun Network.emit Network.inTurn network passedOn = true := by decide +kernel
  obtain ⟨last, hresult, hboth⟩ := (Option.any_eq_true _ _).mp hrun
  rw [Bool.and_eq_true, Registry.allValues_iff] at hboth
  refine ⟨last, hresult, (Option.any_eq_true _ _).mp hboth.2, ?_⟩
  refine (Network.run_handedOver network_starts hok hresult).2 ?_
  rintro r token target ⟨s, hs, hpending⟩
  rw [ExtTreeMap.isEmpty_iff.mp (hboth.1 r s hs)] at hpending
  simp at hpending

end TwoStops

end Zugfolge.Sim
