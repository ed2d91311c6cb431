/-
What players see of the economy.

The bids of others are sealed: a player sees how many there are, and who has won.

* `economyStateForPlayer_eq`: the player sees the same.
-/
import Zugfolge.Economy.Runs

namespace Zugfolge.Economy

open Foundation

/-! ### The view of a player -/

/-- What everybody sees of a mobilization. -/
structure PublicMobilization where
  tenderId : String
  winnerOperatorId : String
  deadline : Int
  completed : Bool

/-- What a player sees of a mobilization. -/
inductive PlayerMobilization where
  | own (mobilization : Mobilization)
  | other (mobilization : PublicMobilization)

/-- How far a tender has come, as everybody sees it. -/
inductive PublicTenderPhase where
  | announced
  | opened
  | awarded (winningOperatorId : String)
  | failed (publicOperation : PublicOperation)

/-- What a player sees of a tender. -/
structure PublicTenderLifecycle where
  phase : PublicTenderPhase
  tender : Tender
  serviceLines : List ServicePresentation
  bidCount : ℕ
  ownBids : Option (List Bid)

/-- What a player sees of a world. -/
structure PlayerEconomyState where
  worldId : String
  profile : WorldProfile
  releasePin : WorldEconomyPin
  lots : List Lot
  calendar : List TenderCalendarEntry
  tenders : EntryMap String PublicTenderLifecycle
  contracts : EntryMap String ServiceContract
  mobilizations : EntryMap String PlayerMobilization
  publicOperations : EntryMap String PublicOperation
  revision : Int

/-- The lines of a tender as passengers know them, each once. -/
def serviceLines (state : EconomyWorldState) (tender : Tender) : List ServicePresentation :=
  let patterns := state.planning.elim [] fun planning => planning.snapshot.patterns
  (EntryMap.ofEntries ((patterns.filter fun pattern =>
      tender.specification.lines.contains pattern.lineId).filterMap fun pattern =>
        pattern.presentation.map fun presentation => (presentation, presentation))).values

/-- How far a tender has come, without the bid that has won. -/
def TenderPhase.forPlayer : TenderPhase → PublicTenderPhase
  | .announced => .announced
  | .opened => .opened
  | .awarded winningBid => .awarded winningBid.operatorId
  | .failed publicOperation _ => .failed publicOperation

/-- A tender with the own bids and the number of all of them. -/
def tenderForPlayer (state : EconomyWorldState) (operatorIds : List String)
    (lifecycle : TenderLifecycle) : PublicTenderLifecycle :=
  let ownBids := lifecycle.bids.filter fun bid => operatorIds.contains bid.operatorId
  { phase := lifecycle.phase.forPlayer
    tender := lifecycle.tender
    serviceLines := serviceLines state lifecycle.tender
    bidCount := lifecycle.bids.length
    ownBids := if ownBids.isEmpty then none else some ownBids }

/-- A mobilization, in full if it is an own one. -/
def mobilizationForPlayer (operatorIds : List String) (mobilization : Mobilization) :
    PlayerMobilization :=
  if operatorIds.contains mobilization.winnerOperatorId then .own mobilization
  else .other {
    tenderId := mobilization.tenderId
    winnerOperatorId := mobilization.winnerOperatorId
    deadline := mobilization.deadline
    completed := mobilization.completed }

/-- What the player of some operators sees of a world. -/
def economyStateForPlayer (state : EconomyWorldState) (operatorIds : List String) :
    PlayerEconomyState where
  worldId := state.worldId
  profile := state.profile
  releasePin := state.releasePin
  lots := state.lots
  calendar := state.calendar
  tenders := .ofEntries (state.tenders.entries.map fun entry =>
    (entry.1, tenderForPlayer state operatorIds entry.2))
  contracts := state.contracts
  mobilizations := .ofEntries (state.mobilizations.entries.map fun entry =>
    (entry.1, mobilizationForPlayer operatorIds entry.2))
  publicOperations := state.publicOperations
  revision := state.revision

/-! ### States that differ in sealed bids -/

section Alike

variable {operatorIds : List String}

/-- The bids are the same, or both are of other operators. -/
def BidsAlike (operatorIds : List String) (bid bid' : Bid) : Prop :=
  bid = bid' ∨ (bid.operatorId ∉ operatorIds ∧ bid'.operatorId ∉ operatorIds)

/-- The tenders are as far, and if a bid has won it is of the same operator. -/
inductive PhasesAlike : TenderPhase → TenderPhase → Prop
  | same (phase : TenderPhase) : PhasesAlike phase phase
  | awarded (winningBid winningBid' : Bid)
      (hwinner : winningBid.operatorId = winningBid'.operatorId) :
      PhasesAlike (.awarded winningBid) (.awarded winningBid')

/-- The tenders differ only in the bids of other operators. -/
structure TendersAlike (operatorIds : List String) (lifecycle lifecycle' : TenderLifecycle) :
    Prop where
  tender : lifecycle.tender = lifecycle'.tender
  bids : List.Forall₂ (BidsAlike operatorIds) lifecycle.bids lifecycle'.bids
  phase : PhasesAlike lifecycle.phase lifecycle'.phase

/-- The entries are of one key and differ only in the bids of other operators. -/
def EntriesAlike (operatorIds : List String) (entry entry' : String × TenderLifecycle) : Prop :=
  entry.1 = entry'.1 ∧ TendersAlike operatorIds entry.2 entry'.2

/-- The states differ only in the bids of other operators. -/
structure Alike (operatorIds : List String) (state state' : EconomyWorldState) : Prop where
  rest : state' = { state with tenders := state'.tenders }
  tenders : List.Forall₂ (EntriesAlike operatorIds) state.tenders.entries state'.tenders.entries

lemma ownBids_eq {bids bids' : List Bid} (h : List.Forall₂ (BidsAlike operatorIds) bids bids') :
    (bids.filter fun bid => operatorIds.contains bid.operatorId)
      = bids'.filter fun bid => operatorIds.contains bid.operatorId := by
  induction h with
  | nil => rfl
  | cons halike _ ih =>
    rcases halike with rfl | ⟨hother, hother'⟩
    · rw [List.filter_cons, List.filter_cons, ih]
    · rw [List.filter_cons_of_neg (by simpa using hother),
        List.filter_cons_of_neg (by simpa using hother'), ih]

lemma forPlayer_eq {phase phase' : TenderPhase} (h : PhasesAlike phase phase') :
    phase.forPlayer = phase'.forPlayer := by
  cases h with
  | same => rfl
  | awarded winningBid winningBid' hwinner =>
    rw [TenderPhase.forPlayer, TenderPhase.forPlayer, hwinner]

lemma tenderForPlayer_eq (state : EconomyWorldState) {lifecycle lifecycle' : TenderLifecycle}
    (h : TendersAlike operatorIds lifecycle lifecycle') :
    tenderForPlayer state operatorIds lifecycle = tenderForPlayer state operatorIds lifecycle' := by
  unfold tenderForPlayer
  rw [h.tender, forPlayer_eq h.phase, ownBids_eq h.bids, h.bids.length_eq]

/-- **The player sees the same of states that differ only in the bids of others.** -/
theorem economyStateForPlayer_eq {state state' : EconomyWorldState}
    (h : Alike operatorIds state state') :
    economyStateForPlayer state operatorIds = economyStateForPlayer state' operatorIds := by
  have htenders : (state.tenders.entries.map fun entry =>
      (entry.1, tenderForPlayer state operatorIds entry.2))
      = state'.tenders.entries.map fun entry =>
        (entry.1, tenderForPlayer state operatorIds entry.2) := by
    rw [← List.forall₂_eq_eq_eq, List.forall₂_map_left_iff, List.forall₂_map_right_iff]
    refine h.tenders.imp fun entry entry' halike => ?_
    rw [halike.1, tenderForPlayer_eq state halike.2]
  rw [h.rest]
  unfold economyStateForPlayer
  simp only [htenders]
  rfl

/-! ### Bids that others cannot see -/

lemma BidsAlike.refl (bid : Bid) : BidsAlike operatorIds bid bid := .inl rfl

lemma TendersAlike.refl (lifecycle : TenderLifecycle) :
    TendersAlike operatorIds lifecycle lifecycle :=
  ⟨rfl, List.forall₂_same.mpr fun bid _ => .refl bid, .same _⟩

lemma EntriesAlike.refl (entry : String × TenderLifecycle) : EntriesAlike operatorIds entry entry :=
  ⟨rfl, .refl entry.2⟩

/-- Setting a tender in two ways that are alike. -/
lemma entriesAlike_set (tenders : EntryMap String TenderLifecycle) (tenderId : String)
    {lifecycle lifecycle' : TenderLifecycle} (h : TendersAlike operatorIds lifecycle lifecycle') :
    List.Forall₂ (EntriesAlike operatorIds) (tenders.set tenderId lifecycle).entries
      (tenders.set tenderId lifecycle').entries := by
  change List.Forall₂ _ (tenders.setEntries tenderId lifecycle)
    (tenders.setEntries tenderId lifecycle')
  unfold EntryMap.setEntries
  split
  · rw [List.forall₂_map_left_iff, List.forall₂_map_right_iff]
    refine List.forall₂_same.mpr fun entry _ => ?_
    unfold EntryMap.renew
    split
    · exact ⟨rfl, h⟩
    · exact .refl entry
  · exact List.rel_append (List.forall₂_same.mpr fun entry _ => .refl entry) (.cons ⟨rfl, h⟩ .nil)

/-- Two bids of an operator that is not the player's lead to states that differ only in the bids of
others. -/
lemma alike_submitBid {state next next' : EconomyWorldState} {effects effects' : EconomyEffects}
    {commandId tenderId : String} {bid bid' : Bid} {qualification : BidQualification}
    (hoperator : bid.operatorId = bid'.operatorId) (hother : bid.operatorId ∉ operatorIds)
    (h : submitBid state commandId tenderId bid qualification = .ok (next, effects))
    (h' : submitBid state commandId tenderId bid' qualification = .ok (next', effects')) :
    Alike operatorIds next next' := by
  rcases submitBid_changes h with ⟨hold, heq⟩ | hchange
  · rcases submitBid_changes h' with ⟨-, heq'⟩ | hchange'
    · cases heq
      cases heq'
      exact ⟨rfl, List.forall₂_same.mpr fun entry _ => .refl entry⟩
    · have hnew := hchange'.isNewIn
      rw [isNewIn_of_processed rfl hold] at hnew
      cases hnew
  · rcases submitBid_changes h' with ⟨hold, -⟩ | hchange'
    · have hnew := hchange.isNewIn
      rw [isNewIn_of_processed rfl hold] at hnew
      cases hnew
    · cases hchange with
      | bid _ _ _ _ current _ hcurrent =>
        cases hchange' with
        | bid _ _ _ _ current' _ hcurrent' =>
          rw [hcurrent] at hcurrent'
          cases hcurrent'
          refine ⟨?_, entriesAlike_set state.tenders tenderId ⟨rfl, ?_, .same _⟩⟩
          · simp only [withBid, hoperator]
          · exact List.rel_append (List.forall₂_same.mpr fun bid _ => .refl bid)
              (.cons (.inr ⟨hother, hoperator ▸ hother⟩) .nil)

end Alike

/-- Another player sees the same whatever an operator has bid. -/
theorem economyStateForPlayer_eq_sealed : ∃ (state next next' : EconomyWorldState),
    (∃ effects, (smallSubmission "operator-b").apply state = .ok (next, effects)) ∧
      (next'.tenders.get? "tender-1").any (fun current =>
        current.bids.any fun bid => bid.orderingFeeCentsPerTrainKm == 90) = true ∧
      economyStateForPlayer next ["operator-a"] = economyStateForPlayer next' ["operator-a"] := by
  have hplayed : (playSmallWorld (fun _ _ => true)
      [.announceTender (smallAnnouncement "public"),
       .openTender "open-1" "tender-1" 100]).toOption.any (fun result =>
        (submitBid result.1 "bid-1" "tender-1" (smallBid "operator-b")
          ⟨"account-1", 0, false, 0⟩).toOption.any fun _ =>
          (submitBid result.1 "bid-1" "tender-1"
            { smallBid "operator-b" with orderingFeeCentsPerTrainKm := 90 }
            ⟨"account-1", 0, false, 0⟩).toOption.any fun cheaper =>
              (cheaper.1.tenders.get? "tender-1").any fun current =>
                current.bids.any fun bid => bid.orderingFeeCentsPerTrainKm == 90) = true := by
    decide +kernel
  obtain ⟨⟨state, time⟩, -, hplayed⟩ := ok_of_any hplayed
  obtain ⟨⟨next, effects⟩, hbid, hplayed⟩ := ok_of_any hplayed
  obtain ⟨⟨next', effects'⟩, hcheaper, hcheck⟩ := ok_of_any hplayed
  refine ⟨state, next, next', ⟨effects, hbid⟩, hcheck,
    economyStateForPlayer_eq (alike_submitBid ?_ (by decide) hbid hcheaper)⟩
  rfl

end Zugfolge.Economy
