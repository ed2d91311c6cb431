/-
A network and the external zone next to it.

A train leaves the network with a handover to the zone and comes back with one from the zone.
The return may be prepared several times; every call and every message may come again, late or
out of order.

* `Border`, `Border.Step`, `Border.run`: the calls of the regions and of the zone.
-/
import Zugfolge.Sim.ExternalZone
import Zugfolge.Sim.Handovers

namespace Zugfolge.Sim

open Foundation
open Std (ExtTreeMap)

/-- A return that a region has accepted, before the zone was asked to let the train go. -/
structure Reentry where
  trainRunId : TrainRunId
  token : UInt64
  region : RegionId

/-- A network, the zone, the returns that it has prepared, and those that await their
confirmation. -/
structure Border (δ : Type) where
  network : Network δ
  zone : ExternalZone
  envelopes : List HandoverEnvelope
  awaited : List Reentry

namespace Border

variable {δ : Type} {b last : Border δ} {id : TrainRunId}

/-- What happens next. -/
inductive Step where
  /-- a step of the regions among themselves -/
  | within (next : Network.Step)
  /-- a handover from a region reaches the zone -/
  | enter (envelope : HandoverEnvelope) (contract : ExternalLegContract)
  | advanceTo (target : SimTime)
  | prepareReentry (trainRunId : TrainRunId)
  /-- a handover from the zone reaches a region -/
  | acceptReentry (region : RegionId) (envelope : HandoverEnvelope)
  | confirmReentry (trainRunId : TrainRunId) (token : UInt64)

/-- A handover from a region reaches the zone; if the zone takes the train over, then the
confirmation is on its way. -/
def enter (b : Border δ) (envelope : HandoverEnvelope) (contract : ExternalLegContract) :
    Border δ :=
  match b.zone.acceptHandover envelope contract with
  | .error _ => b
  | .ok reply => { b with
      zone := reply.2
      network := b.network.confirmed ⟨envelope.sourceRegion, envelope.token, b.zone.regionId⟩ }

/-- The zone prepares the return of a train. -/
def prepareReentry (b : Border δ) (id : TrainRunId) : Border δ :=
  match b.zone.prepareReentry id with
  | .error _ => b
  | .ok reply => { b with zone := reply.2, envelopes := reply.1 :: b.envelopes }

/-- A handover from the zone reaches a region; if the region takes the train in, then the
confirmation is awaited. -/
def acceptReentry (b : Border δ) (r : RegionId) (envelope : HandoverEnvelope) :
    Option (Border δ) :=
  match b.network.regions[r]? with
  | none => some b
  | some s => (s.acceptHandover envelope).map fun reply => { b with
      network := b.network.put r reply.2
      awaited :=
        if reply.1.toOption.isSome then ⟨envelope.train.id, envelope.token, r⟩ :: b.awaited
        else b.awaited }

/-- The zone is asked to let a train go: it does or it refuses, and the confirmation is awaited
no more. -/
def confirmReentry (b : Border δ) (id : TrainRunId) (token : UInt64) : Border δ :=
  { b with
    zone := ((b.zone.confirmReentry id token).toOption).getD b.zone
    awaited := b.awaited.filter fun reentry =>
      reentry.trainRunId != id || reentry.token != token }

section Stepping

variable [Dispatcher δ]

/-- One step; a handover that is not on its way does not arrive. -/
def step (b : Border δ) : Step → Option (Border δ)
  | .within next => (b.network.step next).map fun network => { b with network := network }
  | .enter envelope contract =>
    if envelope ∈ b.network.envelopes then some (b.enter envelope contract) else some b
  | .advanceTo target =>
    some { b with zone := ((b.zone.advanceTo target).toOption).getD b.zone }
  | .prepareReentry id => some (b.prepareReentry id)
  | .acceptReentry r envelope =>
    if envelope ∈ b.envelopes then b.acceptReentry r envelope else some b
  | .confirmReentry id token => some (b.confirmReentry id token)

/-- One step after another. -/
def emit (b : Border δ) (next : Step) : Option (Border δ × List Unit) :=
  (b.step next).map fun later => (later, [])

/-- A run of calls and messages. -/
def run (b : Border δ) (steps : List Step) : Option (Border δ) :=
  (runAll emit b steps).map Prod.fst

end Stepping

/-! ### Who holds a train -/

/-- A region has accepted the return of the train, and the zone was not yet asked to let the
train go. -/
def Awaits (b : Border δ) (id : TrainRunId) : Prop :=
  ∃ reentry ∈ b.awaited, reentry.trainRunId = id

/-- Whether the zone holds a train, and whether it is leaving it to a region. -/
def custody (b : Border δ) (id : TrainRunId) : Custody Unit where
  holders := { _x | b.zone.trains.contains id = true }
  leaving := { _x | b.Awaits id }

/-- Exactly one region, or the zone, holds the train without leaving it, and every return that
is awaited is the one that the zone has prepared last, to the region that the contract names. -/
structure Crossed (b : Border δ) (id : TrainRunId) : Prop where
  passed : b.network.Passed (b.custody id) id
  named : ∀ reentry ∈ b.awaited, reentry.trainRunId = id →
    ∃ external, b.zone.trains[id]? = some external ∧
      external.reentryToken = some reentry.token ∧
      external.contract.targetRegion = some reentry.region

/-! ### Conditions -/

/-- The zone holds the train, and this is the return that it has prepared last. -/
def prepared (b : Border δ) (id : TrainRunId) (token : UInt64) : Bool :=
  (b.zone.trains[id]?).any fun external => external.reentryToken == some token

/-- The region takes the train of the handover in. -/
def takes (b : Border δ) (r : RegionId) (envelope : HandoverEnvelope) : Bool :=
  (b.network.regions[r]?).any fun s => (s.takesIn (.acceptHandover envelope)).isSome

/-- The zone takes a train from a region that keeps it and has the handover pending; it prepares
no return while one is awaited; a region takes a train only with the return that was prepared
last; and the zone is asked to let a train go only if a region has accepted that return. -/
def inTurn (b : Border δ) : Step → Bool
  | .within next => b.network.inTurn next
  | .enter envelope contract =>
    !(b.zone.acceptHandover envelope contract).toOption.isSome ||
      (b.network.keeps envelope.train.id envelope.sourceRegion &&
        (b.network.regions[envelope.sourceRegion]?).any fun source =>
          source.pendingHandovers[envelope.token]?
            == some ⟨envelope.train.id, b.zone.regionId⟩)
  | .advanceTo _ => true
  | .prepareReentry id => b.awaited.all fun reentry => reentry.trainRunId != id
  | .acceptReentry r envelope =>
    !b.takes r envelope ||
      (b.awaited.all (fun reentry => reentry.trainRunId != envelope.train.id) &&
        (b.zone.trains[envelope.train.id]?).any fun external =>
          external.reentryToken == some envelope.token &&
            external.contract.targetRegion == some r)
  | .confirmReentry id token =>
    !b.prepared id token ||
      b.awaited.any fun reentry => reentry.trainRunId == id && reentry.token == token

end Border

/-! ### A party elsewhere -/

namespace Network

variable {δ P : Type} {net : Network δ} {elsewhere : Custody P} {id : TrainRunId} {p : P}

lemma Passed.taken_elsewhere {source target : RegionId} {token : UInt64}
    (h : net.Passed elsewhere id) (hholds : net.Holds id source)
    (hnone : ∀ token, ¬ net.Accepted id source token)
    (hpending : net.Pending id source token target) (hfree : p ∉ elsewhere.holders) :
    (net.confirmed ⟨source, token, target⟩).Passed
      ⟨insert p elsewhere.holders, elsewhere.leaving⟩ id := by
  refine ⟨h.registered, ?_, once_confirmed h.once hnone⟩
  rw [custody_confirmed hpending, ← Custody.beside_taken_right_left]
  exact h.single.taken hholds (not_leaving hnone) hfree

/-- A region takes a train that a party elsewhere keeps. -/
lemma Passed.taken_from_elsewhere {r : RegionId} {s t : Simulation δ} {taken : TrainRun}
    (h : net.Passed elsewhere id) (hs : net.regions[r]? = some s)
    (hholds : p ∈ elsewhere.holders) (hstays : p ∉ elsewhere.leaving)
    (hfree : s.trains.contains id = false) (hregion : t.regionId = s.regionId)
    (htrains : t.trains = s.trains.insert id taken)
    (hhandovers : t.pendingHandovers = s.pendingHandovers) :
    (net.put r t).Passed ⟨elsewhere.holders, insert p elsewhere.leaving⟩ id := by
  refine ⟨registered_put h.registered hs hregion, ?_, fun r' first second hfirst hsecond => ?_⟩
  · rw [custody_put_taken hs htrains hhandovers, ← Custody.beside_taken_left_right]
    refine h.single.taken hholds hstays fun hheld => ?_
    have hcontains : s.trains.contains id = true := (holds_iff hs).mp hheld
    rw [hfree] at hcontains
    cases hcontains
  · rw [accepted_put hs hhandovers] at hfirst hsecond
    exact h.once r' first second hfirst hsecond

lemma Passed.released_elsewhere (h : net.Passed elsewhere id) (hleaving : p ∈ elsewhere.leaving) :
    net.Passed (elsewhere.released p) id := by
  refine ⟨h.registered, ?_, h.once⟩
  rw [← Custody.beside_released_left]
  exact h.single.released hleaving

end Network

/-! ### Steps -/

namespace Border

variable {δ : Type} {b last : Border δ} {id : TrainRunId}

lemma not_awaits (hnone : ∀ reentry ∈ b.awaited, reentry.trainRunId ≠ id) : ¬ b.Awaits id := by
  rintro ⟨reentry, hin, hsame⟩
  exact hnone reentry hin hsame

lemma mem_holders {x : Unit} :
    x ∈ (b.custody id).holders ↔ b.zone.trains.contains id = true := .rfl

/-- A step that changes nothing about the train in the zone keeps the invariant. -/
lemma Crossed.of_same (h : b.Crossed id) (hnetwork : last.network.Passed (b.custody id) id)
    (hzone : last.zone.trains[id]? = b.zone.trains[id]?)
    (hawaited : ∀ reentry : Reentry, reentry.trainRunId = id →
      (reentry ∈ last.awaited ↔ reentry ∈ b.awaited)) : last.Crossed id := by
  have hcustody : last.custody id = b.custody id := by
    ext x
    · rw [mem_holders, mem_holders, Registry.contains_iff, Registry.contains_iff, hzone]
    · refine exists_congr fun reentry => ?_
      exact and_congr_left fun hid => hawaited reentry hid
  refine ⟨hcustody ▸ hnetwork, fun reentry hin hid => ?_⟩
  rw [hzone]
  exact h.named reentry ((hawaited reentry hid).mp hin) hid

/-- The zone takes a train over from a region that keeps it. -/
lemma enter_crossed {envelope : HandoverEnvelope} {contract : ExternalLegContract}
    (h : b.Crossed id) (hok : b.inTurn (.enter envelope contract) = true) :
    (b.enter envelope contract).Crossed id := by
  unfold enter
  cases haccept : b.zone.acceptHandover envelope contract with
  | error error => exact h
  | ok reply =>
    obtain ⟨answer, zone⟩ := reply
    obtain ⟨-, hfree, -, rfl⟩ := ExternalZone.acceptHandover_spec haccept
    simp only [inTurn, haccept, Except.toOption, Option.isSome_some, Bool.not_true,
      Bool.false_or, Bool.and_eq_true, Network.keeps_iff, Option.any_eq_true,
      beq_iff_eq] at hok
    obtain ⟨⟨hholds, hnone⟩, hpending⟩ := hok
    by_cases hid : envelope.train.id = id
    · subst hid
      refine ⟨?_, fun reentry hin hid => ?_⟩
      · have hcustody := h.passed.taken_elsewhere (p := ()) hholds hnone hpending
          (by rw [mem_holders, hfree]; exact Bool.false_ne_true)
        have hsame : (⟨insert () (b.custody envelope.train.id).holders,
            (b.custody envelope.train.id).leaving⟩ : Custody Unit)
              = custody { b with zone := { b.zone with
                  trains := b.zone.trains.insert envelope.train.id
                    ⟨envelope.train, contract, envelope.token, none⟩ } } envelope.train.id := by
          ext x
          · simp [mem_holders]
          · rfl
        exact hsame ▸ hcustody
      · obtain ⟨external, hheld, -⟩ := h.named reentry hin hid
        rw [Registry.contains_iff.mpr ⟨external, hheld⟩] at hfree
        cases hfree
    · refine h.of_same (h.passed.confirmed_other hid hpending) ?_ fun _ _ => .rfl
      rw [Registry.getElem?_insert, if_neg (Ne.symm hid)]

/-- The zone prepares a return while none of the train is awaited. -/
lemma prepareReentry_crossed {other : TrainRunId} (h : b.Crossed id)
    (hok : b.inTurn (.prepareReentry other) = true) : (b.prepareReentry other).Crossed id := by
  unfold prepareReentry
  cases hprepare : b.zone.prepareReentry other with
  | error error => exact h
  | ok reply =>
    obtain ⟨envelope, zone⟩ := reply
    obtain ⟨external, target, hheld, -, -, rfl⟩ := ExternalZone.prepareReentry_spec hprepare
    by_cases hid : other = id
    · subst hid
      have hnone : ∀ reentry ∈ b.awaited, reentry.trainRunId ≠ other := by
        intro reentry hin
        exact bne_iff_ne.mp (List.all_eq_true.mp hok reentry hin)
      refine ⟨?_, fun reentry hin hid => absurd hid (hnone reentry hin)⟩
      have hcontains : b.zone.trains.contains other = true :=
        Registry.contains_iff.mpr ⟨external, hheld⟩
      have hsame : b.custody other = custody { b with
          zone := { b.zone with
            nextToken := UInt64.ofNat (addSatU64 b.zone.nextToken.toNat 1)
            trains := b.zone.trains.insert other
              { external with reentryToken := some b.zone.nextToken } }
          envelopes := envelope :: b.envelopes } other := by
        ext x
        · simp [mem_holders, hcontains]
        · rfl
      exact hsame ▸ h.passed
    · refine h.of_same h.passed ?_ fun _ _ => .rfl
      rw [Registry.getElem?_insert, if_neg (Ne.symm hid)]

/-- A region takes a train in that the zone keeps. -/
lemma taken_crossed {r : RegionId} {s t : Simulation δ} {taken : TrainRun} {other : TrainRunId}
    {token : UInt64} {external : ExternalTrain} (h : b.Crossed id)
    (hs : b.network.regions[r]? = some s) (hfree : s.trains.contains other = false)
    (hnone : ∀ reentry ∈ b.awaited, reentry.trainRunId ≠ other)
    (hheld : b.zone.trains[other]? = some external) (htoken : external.reentryToken = some token)
    (htarget : external.contract.targetRegion = some r) (hregion : t.regionId = s.regionId)
    (htrains : t.trains = s.trains.insert other taken)
    (hhandovers : t.pendingHandovers = s.pendingHandovers) :
    ({ b with
      network := b.network.put r t
      awaited := ⟨other, token, r⟩ :: b.awaited } : Border δ).Crossed id := by
  by_cases hid : other = id
  · subst hid
    have hholds : () ∈ (b.custody other).holders :=
      mem_holders.mpr (Registry.contains_iff.mpr ⟨external, hheld⟩)
    have hpassed := h.passed.taken_from_elsewhere hs hholds (not_awaits hnone) hfree hregion
      htrains hhandovers
    have hleaving : insert () (b.custody other).leaving = { _x : Unit |
        Awaits { b with
          network := b.network.put r t
          awaited := ⟨other, token, r⟩ :: b.awaited } other } := by
      ext x
      exact iff_of_true (.inl rfl) ⟨_, List.mem_cons_self, rfl⟩
    rw [hleaving] at hpassed
    refine ⟨hpassed, fun reentry hin hid => ?_⟩
    rcases List.mem_cons.mp hin with rfl | hin
    · exact ⟨external, hheld, htoken, htarget⟩
    · exact absurd hid (hnone reentry hin)
  · refine h.of_same (h.passed.put_other hs hid hregion htrains hhandovers) rfl
      fun reentry hreentry => ?_
    rw [List.mem_cons]
    refine or_iff_right fun heq => hid ?_
    rw [← hreentry, heq]

/-- A region takes a train in with the return that the zone has prepared last. -/
lemma acceptReentry_crossed {r : RegionId} {envelope : HandoverEnvelope} (h : b.Crossed id)
    (hok : b.inTurn (.acceptReentry r envelope) = true)
    (hstep : b.acceptReentry r envelope = some last) : last.Crossed id := by
  rw [acceptReentry] at hstep
  cases hs : b.network.regions[r]? with
  | none =>
    simp only [hs] at hstep
    cases hstep
    exact h
  | some s =>
    simp only [hs] at hstep
    obtain ⟨⟨answer, t⟩, hreply, rfl⟩ := Option.map_eq_some_iff.mp hstep
    rcases Simulation.acceptHandover_spec hreply with ⟨_, rfl, ⟨rfl, -⟩
      | ⟨train, first, -, -, -, hheld, rfl⟩⟩
      | ⟨train, first, hreceives, htaken, hcheck, hfree, rfl, rfl⟩
    · exact h.of_same (h.passed.put hs rfl rfl fun _ _ _ => .rfl) rfl fun _ _ => .rfl
    · refine h.of_same (h.passed.put hs rfl ?_ fun _ _ _ => .rfl) rfl fun _ _ => .rfl
      rw [Simulation.putTrain, ExtTreeMap.contains_insert, Bool.or_eq_right_iff_imp]
      intro heq
      rwa [← Std.LawfulEqCmp.eq_of_compare (beq_iff_eq.mp heq)]
    · obtain ⟨htrain, -, -⟩ := Simulation.takenOver_spec htaken
      simp only [inTurn, takes, hs, Option.any_some,
        Simulation.Offers.takesIn (.inr ⟨_, rfl, hreceives, htaken⟩) hcheck hfree,
        Option.isSome_some, Bool.not_true, Bool.false_or, Bool.and_eq_true, List.all_eq_true,
        bne_iff_ne, Option.any_eq_true, beq_iff_eq] at hok
      obtain ⟨hnone, external, hexternal, htoken, htarget⟩ := hok
      exact taken_crossed h hs (htrain ▸ hfree) hnone hexternal htoken htarget rfl
        (by rw [htrain]) rfl

/-- The zone lets a train go only if a region has accepted its return. -/
lemma confirmReentry_crossed {other : TrainRunId} {token : UInt64} (h : b.Crossed id)
    (hok : b.inTurn (.confirmReentry other token) = true) :
    (b.confirmReentry other token).Crossed id := by
  -- what is still awaited of a train that was not asked for
  have hkept : ∀ reentry : Reentry, (reentry.trainRunId = other → reentry.token ≠ token) →
      (reentry ∈ (b.confirmReentry other token).awaited ↔ reentry ∈ b.awaited) := by
    intro reentry hne
    rw [confirmReentry, List.mem_filter]
    refine and_iff_left_of_imp fun _ => ?_
    rw [Bool.or_eq_true, bne_iff_ne, bne_iff_ne]
    exact imp_iff_not_or.mp hne
  rcases b.zone.confirmReentry_spec other token with
    ⟨external, hheld, htoken, hdone⟩ | ⟨hrefused, error, herror⟩
  · have hzone : (b.confirmReentry other token).zone
        = { b.zone with trains := b.zone.trains.erase other } := by
      rw [confirmReentry, hdone]
      rfl
    by_cases hid : other = id
    · subst hid
      simp only [inTurn, prepared, hheld, Option.any_some, htoken, beq_self_eq_true, Bool.not_true,
        Bool.false_or, List.any_eq_true, Bool.and_eq_true, beq_iff_eq] at hok
      obtain ⟨reentry, hin, hsame, -⟩ := hok
      -- every return of the train that was awaited has this token
      have hnone : ∀ reentry ∈ (b.confirmReentry other token).awaited,
          reentry.trainRunId ≠ other := by
        intro reentry hin heq
        rw [confirmReentry, List.mem_filter, Bool.or_eq_true, bne_iff_ne, bne_iff_ne] at hin
        obtain ⟨later, hlater, hnamed, -⟩ := h.named reentry hin.1 heq
        obtain rfl := Option.some.inj (hheld.symm.trans hlater)
        rw [htoken] at hnamed
        cases hnamed
        exact hin.2.elim (fun hne => hne heq) fun hne => hne rfl
      have hcustody : (b.confirmReentry other token).custody other
          = (b.custody other).released () := by
        ext x
        · rw [mem_holders, hzone]
          simp [Custody.released]
        · refine iff_of_false (not_awaits hnone) ?_
          exact fun hin => hin.2 rfl
      refine ⟨?_, fun reentry hin heq => absurd heq (hnone reentry hin)⟩
      rw [hcustody]
      exact h.passed.released_elsewhere ⟨reentry, hin, hsame⟩
    · refine h.of_same h.passed ?_ fun reentry hreentry => hkept reentry ?_
      · rw [hzone, Registry.getElem?_erase, if_neg (Ne.symm hid)]
      · exact fun heq => absurd (heq.symm.trans hreentry) hid
  · have hzone : (b.confirmReentry other token).zone = b.zone := by
      rw [confirmReentry, herror]
      rfl
    refine h.of_same h.passed (by rw [hzone]) fun reentry hreentry => ?_
    constructor
    · exact fun hin => (List.mem_filter.mp hin).1
    · intro hin
      refine (hkept reentry fun heq => ?_).mpr hin
      obtain ⟨external, hheld, htoken, -⟩ := h.named reentry hin hreentry
      intro hsame
      subst hsame
      rw [← hreentry, heq] at hheld
      exact hrefused external hheld htoken

section Stepping

variable [Dispatcher δ]

/-- Every step in turn keeps the invariant. -/
lemma step_crossed {next : Step} (h : b.Crossed id) (hok : b.inTurn next = true)
    (hstep : b.step next = some last) : last.Crossed id := by
  cases next with
  | within next =>
    obtain ⟨network, hnetwork, rfl⟩ := Option.map_eq_some_iff.mp hstep
    exact h.of_same (Network.step_passed h.passed hok hnetwork) rfl fun _ _ => .rfl
  | enter envelope contract =>
    rw [step] at hstep
    split at hstep
    · cases hstep
      exact enter_crossed h hok
    · cases hstep
      exact h
  | advanceTo target =>
    cases hstep
    refine h.of_same h.passed ?_ fun _ _ => .rfl
    cases hadvance : b.zone.advanceTo target with
    | error error => rfl
    | ok zone =>
      rw [ExternalZone.advanceTo_spec hadvance]
      rfl
  | prepareReentry other =>
    cases hstep
    exact prepareReentry_crossed h hok
  | acceptReentry r envelope =>
    rw [step] at hstep
    split at hstep
    · exact acceptReentry_crossed h hok hstep
    · cases hstep
      exact h
  | confirmReentry other token =>
    cases hstep
    exact confirmReentry_crossed h hok

/-! ### Runs -/

omit [Dispatcher δ] in
/-- The train is in one region, the zone is without it, and no message is in flight. -/
structure Starts (b : Border δ) (id : TrainRunId) : Prop where
  network : b.network.Starts id
  outside : b.zone.trains.contains id = false
  envelopes : b.envelopes = []
  awaited : b.awaited = []

omit [Dispatcher δ] in
lemma Starts.crossed (h : b.Starts id) : b.Crossed id := by
  have hcustody : b.custody id = Custody.nobody := by
    ext x
    · rw [mem_holders, h.outside]
      exact iff_of_false Bool.false_ne_true (Set.notMem_empty x)
    · refine iff_of_false ?_ (Set.notMem_empty x)
      rintro ⟨reentry, hin, -⟩
      rw [h.awaited] at hin
      cases hin
  refine ⟨hcustody ▸ h.network.passed, fun reentry hin => ?_⟩
  rw [h.awaited] at hin
  cases hin

omit [Dispatcher δ] in
/-- No handover of the train is pending in a region, and none from the zone is awaited. -/
def Settled (b : Border δ) (id : TrainRunId) : Prop :=
  (∀ r token targetRegion, ¬ b.network.Pending id r token targetRegion) ∧ ¬ b.Awaits id

omit [Dispatcher δ] in
/-- Either the zone alone or exactly one region holds the train. -/
def InOnePlace (b : Border δ) (id : TrainRunId) : Prop :=
  (b.zone.trains.contains id = true ∧ ∀ r, ¬ b.network.Holds id r) ∨
    b.zone.trains.contains id = false ∧ ∃! r, b.network.Holds id r

/-- **The external zone.**  In every run whose steps are in turn a train is never lost; whenever
no handover of it is under way it is in the zone or in one region, and not in both; and a region
that has taken it in from the zone is the one that its contract names. -/
theorem run_crossed {steps : List Step} (hstart : b.Starts id)
    (hok : AllRun emit inTurn b steps = true) (h : b.run steps = some last) :
    (last.zone.trains.contains id = true ∨ ∃ r, last.network.Holds id r) ∧
      (last.Settled id → last.InOnePlace id) ∧
      ∀ reentry ∈ last.awaited, reentry.trainRunId = id → ∃ external,
        last.zone.trains[id]? = some external ∧
          external.contract.targetRegion = some reentry.region := by
  obtain ⟨⟨u, log⟩, hrun, rfl⟩ := Option.map_eq_some_iff.mp h
  have hcrossed : u.Crossed id := by
    refine AllRun.invariant (fun b (_ : List Unit) => b.Crossed id)
      (fun b next last _ out hb hnext hemit => ?_) [] hstart.crossed hok hrun
    obtain ⟨later, hstep, heq⟩ := Option.map_eq_some_iff.mp hemit
    obtain ⟨rfl, -⟩ := Prod.mk.inj heq
    exact step_crossed hb hnext hstep
  have hsingle := hcrossed.passed.single
  refine ⟨?_, fun hsettled => ?_, fun reentry hin hid => ?_⟩
  · obtain ⟨_ | r, hholds⟩ := hsingle.exists_holder
    · exact .inl hholds
    · exact .inr ⟨r, hholds⟩
  · obtain ⟨place, hplace, hunique⟩ := hsingle.existsUnique_holder (by
      rintro (_ | r)
      · exact hsettled.2
      · rintro ⟨token, target, hpending, -⟩
        exact hsettled.1 r token target hpending)
    cases place with
    | inl _ => exact .inl ⟨hplace, fun r hr => by cases hunique (.inr r) hr⟩
    | inr r =>
      refine .inr ⟨(Bool.not_eq_true _).mp fun hzone => ?_, r, hplace, fun r' hr' => ?_⟩
      · cases hunique (.inl ()) hzone
      · exact Sum.inr.inj (hunique (.inr r') hr')
  · obtain ⟨external, hheld, -, htarget⟩ := hcrossed.named reentry hin hid
    exact ⟨external, hheld, htarget⟩

end Stepping

end Border

/-! ### A return that is prepared twice -/

namespace TwoStops

/-- The first region when its train has come to its last stop. -/
def source : Simulation ConservativeDispatcher := after [.materialize (train 1), .advanceTo 4000]

/-- The train at its last stop. -/
def arrived : TrainRun := source.trains[(1 : TrainRunId)]?.getD (train 1)

/-- A leg from Halle to Magdeburg outside of the network, from the first region to the second. -/
def leg : ExternalLegContract where
  worldId := 42
  journeyChainId := "jc-re1"
  externalLegId := "el-halle-magdeburg"
  sourceRegion := 7
  targetRegion := some 8
  fromPortal := "Halle Hbf"
  toPortal := some "Magdeburg Hbf"
  scheduledStart := 3730
  scheduledEnd := 5000
  reentryEarliest := some 4900
  reentryLatest := some 5300
  fixedCostCents := 10500
  boundVehicleIds := ["vehicle-442"]
  boundPersonnelDutyIds := ["duty-RE1"]
  reentryRoute := [⟨"Magdeburg Hbf", 1000, 5000, 30, 5030⟩]
  firstResources := ["block:MD:entry"]

/-- The train in the first one of two regions, and the zone next to them. -/
def border : Border ConservativeDispatcher where
  network :=
    { regions := (Std.ExtTreeMap.empty.insert 7 source).insert 8 (region 8 .conservative)
      envelopes := []
      confirmations := [] }
  zone := .new 42 99 4000
  envelopes := []
  awaited := []

lemma border_starts : border.Starts 1 where
  network :=
    { registered := by
        intro r s hs
        simp only [border, Registry.getElem?_insert] at hs
        split at hs
        next heq =>
          cases hs
          exact heq.symm
        · split at hs
          next heq =>
            cases hs
            rw [heq]
            decide +kernel
          · simp at hs
      single := by
        have hheld : (border.network.regions[(7 : RegionId)]?).any
            (fun s => s.trains.contains 1) = true := by decide +kernel
        refine ⟨7, (Option.any_eq_true _ _).mp hheld, ?_⟩
        rintro r ⟨s, hs, hheld⟩
        simp only [border, Registry.getElem?_insert] at hs
        split at hs
        · cases hs
          simp [region, Simulation.new] at hheld
        · split at hs
          next heq => exact heq
          · simp at hs
      settled := by
        rintro r token target ⟨s, hs, hpending⟩
        simp only [border, Registry.getElem?_insert] at hs
        split at hs
        · cases hs
          simp [region, Simulation.new] at hpending
        · split at hs
          · cases hs
            have hnone : source.pendingHandovers.isEmpty = true := by decide +kernel
            rw [ExtTreeMap.isEmpty_iff.mp hnone] at hpending
            simp at hpending
          · simp at hs
      envelopes := rfl
      confirmations := rfl }
  outside := by decide +kernel
  envelopes := rfl
  awaited := rfl

/-- The train leaves the network. -/
def leaves : List Border.Step :=
  [.within (.prepare 7 1 99 []), .enter ⟨42, 7, 99, 131172, arrived, []⟩ leg,
    .within (.confirm ⟨7, 131172, 99⟩), .advanceTo 5120]

/-- The content of a handover of the train from the zone. -/
def returned (token : UInt64) : HandoverEnvelope :=
  ⟨42, 99, 8, token, ExternalZone.returning ⟨arrived, leg, 131172, none⟩ 8, ["block:MD:entry"]⟩

/-- The return is prepared twice, and the region takes the train in with the first one. -/
def returnsTwice : List Border.Step :=
  leaves ++ [.prepareReentry 1, .prepareReentry 1, .acceptReentry 8 (returned 1),
    .confirmReentry 1 1]

/-- The zone refuses the confirmation, and the train is in the zone and in the region. -/
theorem returnsTwice_in_two_places : ¬ ∀ (b last : Border ConservativeDispatcher)
    (id : TrainRunId) (steps : List Border.Step), b.Starts id → b.run steps = some last →
      last.Settled id → last.InOnePlace id := by
  intro hclaim
  have hrun : (border.run returnsTwice).any (fun last =>
      Registry.allValues last.network.regions (fun s => s.pendingHandovers.isEmpty) &&
        last.awaited.isEmpty && last.zone.trains.contains 1 &&
        (last.network.regions[(8 : RegionId)]?).any fun s => s.trains.contains 1) = true := by
    decide +kernel
  obtain ⟨last, hresult, hboth⟩ := (Option.any_eq_true _ _).mp hrun
  simp only [Bool.and_eq_true, Registry.allValues_iff, List.isEmpty_iff] at hboth
  obtain ⟨⟨⟨hempty, hnone⟩, hzone⟩, hregion⟩ := hboth
  have hsettled : last.Settled 1 := by
    refine ⟨?_, Border.not_awaits ?_⟩
    · rintro r token target ⟨s, hs, hpending⟩
      rw [ExtTreeMap.isEmpty_iff.mp (hempty r s hs)] at hpending
      simp at hpending
    · rw [hnone]
      exact List.forall_mem_nil _
  rcases hclaim border last 1 returnsTwice border_starts hresult hsettled with
    ⟨-, hregions⟩ | ⟨houtside, -⟩
  · exact hregions 8 ((Option.any_eq_true _ _).mp hregion)
  · rw [hzone] at houtside
    cases houtside

/-- The train leaves and comes back, while each message from and to the zone comes twice. -/
def returnsOnce : List Border.Step :=
  leaves ++ [.prepareReentry 1, .acceptReentry 8 (returned 1), .acceptReentry 8 (returned 1),
    .confirmReentry 1 1, .confirmReentry 1 1]

/-- After the return one region alone holds the train. -/
theorem run_crossed_returnsOnce : ∃ last : Border ConservativeDispatcher,
    border.run returnsOnce = some last ∧ last.InOnePlace 1 ∧
      ∃ r, last.network.Holds 1 r := by
  have hrun : (border.run returnsOnce).any (fun last =>
      Registry.allValues last.network.regions (fun s => s.pendingHandovers.isEmpty) &&
        last.awaited.isEmpty && !last.zone.trains.contains 1) = true := by
    decide +kernel
  have hok : AllRun Border.emit Border.inTurn border returnsOnce = true := by decide +kernel
  obtain ⟨last, hresult, hboth⟩ := (Option.any_eq_true _ _).mp hrun
  simp only [Bool.and_eq_true, Registry.allValues_iff, List.isEmpty_iff,
    Bool.not_eq_true'] at hboth
  obtain ⟨⟨hempty, hnone⟩, houtside⟩ := hboth
  obtain ⟨hheld, hsettled, -⟩ := Border.run_crossed border_starts hok hresult
  refine ⟨last, hresult, hsettled ⟨?_, Border.not_awaits ?_⟩, ?_⟩
  · rintro r token target ⟨s, hs, hpending⟩
    rw [ExtTreeMap.isEmpty_iff.mp (hempty r s hs)] at hpending
    simp at hpending
  · rw [hnone]
    exact List.forall_mem_nil _
  · refine hheld.resolve_left fun hzone => ?_
    rw [houtside] at hzone
    cases hzone

end TwoStops

end Zugfolge.Sim
