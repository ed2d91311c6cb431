/-
Regions of one world that publish in any order.

Between two calls a feed may expire; the next snapshot of a region then begins a new feed.

* `call_cases`: a call that succeeds publishes this, or there is no answer;
* `regions_stay_apart`: who owns what after every such run, and what a call leaves alone.
-/
import Zugfolge.Foundation.Histories
import Zugfolge.Livemap.Atomicity
import Zugfolge.Livemap.Owners

namespace Zugfolge.Livemap

open Foundation

namespace LivemapRegistry

/-! ### What a call works on -/

/-- Whether the feed of a world is there at a time. -/
def isThere (registry : LivemapRegistry) (nowMs : Int) (worldId : String) : Bool :=
  (registry.pruneExpired nowMs).feeds.has worldId

/-- Whether a call works on the feed that was there before. -/
def keeps (registry : LivemapRegistry) (around : Surroundings) (worldId : String) :
    RegionCall → Bool
  | .initializeRegion _ => registry.isThere around.accessMs worldId
  | .publishRegionDelta nowMs _ => registry.isThere nowMs worldId
  | .publishOperationalRegionSnapshot _ =>
    registry.isThere around.accessMs worldId
      && ((registry.initializedWorld around.accessMs worldId).2.isNone
        || (registry.initializedWorld around.accessMs worldId).1.isThere around.deltaAccessMs
          worldId)

/-- What a delta of a region publishes, and on which entry. -/
def deltaPublication (registry : LivemapRegistry) (around : Surroundings) (nowMs : Int)
    (worldId regionId : String) (input : DeltaInput) : Option (RegistryEntry × RegionPublication) :=
  (registry.initializedWorld nowMs worldId).2.bind fun entry =>
    (entry.regionDelta around worldId regionId input).toOption.map fun publication =>
      (entry, publication)

/-- What a call publishes, and on which entry. -/
def publication (registry : LivemapRegistry) (around : Surroundings) (worldId regionId : String) :
    RegionCall → Option (RegistryEntry × RegionPublication)
  | .initializeRegion snapshot =>
    (registry.entryForWorld around worldId).2.toOption.bind fun entry =>
      (entry.initialization around worldId regionId snapshot).toOption.map fun publication =>
        (entry, publication)
  | .publishRegionDelta nowMs input =>
    registry.deltaPublication around nowMs worldId regionId input
  | .publishOperationalRegionSnapshot snapshot =>
    (operationalFrame regionId snapshot).toOption.bind fun frame =>
      (registry.initializedWorld around.accessMs worldId).2.bind fun entry =>
        (entry.operationalDelta regionId snapshot.atS snapshot.trains frame).toOption.bind
          fun input => (registry.initializedWorld around.accessMs worldId).1.deltaPublication
            around around.deltaAccessMs worldId regionId input

/-- The entry of a world is the one that was there, apart from the time of its last access. -/
def Carried (registry : LivemapRegistry) (worldId : String) (entry : RegistryEntry) : Prop :=
  ∃ before nowMs, registry.feeds.get? worldId = some before ∧
    entry = { before with lastAccessMs := nowMs }

/-- A call that succeeds has no answer, and then the world has the entry it had or none; or it has
published on an entry. -/
inductive Succeeds (registry : LivemapRegistry) (around : Surroundings) (worldId regionId : String)
    (call : RegionCall) (after : LivemapRegistry) : Option LiveDelta → Prop where
  | silent
      (hafter : ∀ entry, after.feeds.get? worldId = some entry →
        registry.keeps around worldId call = true ∧ registry.Carried worldId entry) :
      Succeeds registry around worldId regionId call after none
  | published (entry : RegistryEntry) (publication : RegionPublication) (nowMs : Int)
      (feed : LivemapFeed) (delta : LiveDelta) (initialized : Bool)
      (hfound : registry.publication around worldId regionId call = some (entry, publication))
      (hpublished : Published entry.feed nowMs publication.input feed delta)
      (hafter : after.feeds.get? worldId
        = some (entry.record regionId publication feed initialized))
      (hkept : registry.keeps around worldId call = true → registry.Carried worldId entry)
      (hnew : registry.keeps around worldId call = false →
        ∃ newFeed nowMs, newFeed.entities = .empty ∧ entry = .new newFeed nowMs) :
      Succeeds registry around worldId regionId call after (some delta)

variable {registry : LivemapRegistry} {around : Surroundings} {worldId regionId : String}

lemma isThere_iff {nowMs : Int} : registry.isThere nowMs worldId = true ↔
    ∃ entry, (registry.pruneExpired nowMs).feeds.get? worldId = some entry := by
  rw [isThere, EntryMap.has, Option.isSome_iff_exists]

lemma get?_of_pruned {nowMs : Int} {entry : RegistryEntry}
    (h : (registry.pruneExpired nowMs).feeds.get? worldId = some entry) :
    registry.feeds.get? worldId = some entry := by
  rw [get?_pruneExpired] at h
  exact (Option.filter_eq_some_iff.mp h).1

lemma publish_ok {entry : RegistryEntry} {publication : RegionPublication} {initialized : Bool}
    {delta : LiveDelta}
    (h : (entry.publish around regionId publication initialized).2 = .ok delta) :
    ∃ feed, Published entry.feed around.publishedMs publication.input feed delta ∧
      (entry.publish around regionId publication initialized).1
        = entry.record regionId publication feed initialized := by
  refine ⟨_, published_of_ok h, ?_⟩
  change (entry.feed.publish around.publishedMs publication.input).2 = .ok delta at h
  unfold RegistryEntry.publish
  simp only [h]
  rfl

/-- A delta of a region that succeeds. -/
lemma publishRegionDelta_cases {nowMs : Int} {input : DeltaInput} {answer : Option LiveDelta}
    (h : (registry.publishRegionDelta around nowMs worldId regionId input).2 = .ok answer) :
    (answer = none ∧ ∀ entry,
      (registry.publishRegionDelta around nowMs worldId regionId input).1.feeds.get? worldId
        = some entry → registry.isThere nowMs worldId = true ∧ registry.Carried worldId entry) ∨
    ∃ entry publication feed delta initialized, answer = some delta ∧
      registry.deltaPublication around nowMs worldId regionId input = some (entry, publication) ∧
      Published entry.feed around.publishedMs publication.input feed delta ∧
      (registry.publishRegionDelta around nowMs worldId regionId input).1.feeds.get? worldId
        = some (entry.record regionId publication feed initialized) ∧
      registry.isThere nowMs worldId = true ∧ registry.Carried worldId entry := by
  unfold publishRegionDelta deltaPublication at *
  rcases registry.initializedWorld_cases nowMs worldId with heq | ⟨entry, hentry, heq⟩
  · rw [heq] at h ⊢
    cases h
    refine .inl ⟨rfl, fun entry hentry => ⟨isThere_iff.mpr ⟨entry, hentry⟩, ?_⟩⟩
    exact ⟨entry, entry.lastAccessMs, get?_of_pruned hentry, rfl⟩
  · simp only [heq, Option.map_some, Option.getD_some] at h ⊢
    rw [Option.bind_some]
    refine .inr ?_
    have hthere := isThere_iff.mpr ⟨entry, hentry⟩
    have hcarried : registry.Carried worldId { entry with lastAccessMs := nowMs } :=
      ⟨entry, nowMs, get?_of_pruned hentry, rfl⟩
    generalize { entry with lastAccessMs := nowMs } = touched at h hcarried ⊢
    unfold RegistryEntry.publishRegionDelta at h ⊢
    cases hdelta : touched.regionDelta around worldId regionId input with
    | error error =>
      rw [hdelta] at h
      cases h
    | ok publication =>
      rw [hdelta] at h
      change (touched.publish around regionId publication touched.initialized).2.map some
        = .ok answer at h
      obtain ⟨delta, hok, rfl⟩ := map_eq_ok_iff.mp h
      obtain ⟨feed, hpublished, hrecorded⟩ := publish_ok hok
      refine ⟨touched, publication, feed, delta, touched.initialized, rfl, rfl, hpublished, ?_,
        hthere, hcarried⟩
      change (LivemapRegistry.put _ worldId
        (touched.publish around regionId publication touched.initialized).1).feeds.get? worldId
          = _
      rw [get?_put, if_pos rfl, hrecorded]

end LivemapRegistry

/-! ### New feeds show nothing -/

namespace LivemapFeed

lemma entities_recordOperationMarker (feed : LivemapFeed) (trainRunId : String)
    (change : OperationMarkerChange) :
    (feed.recordOperationMarker trainRunId change).1.entities = feed.entities :=
  congrArg Replica.entities (sameStream_recordOperationMarker feed trainRunId change).replica

/-- Without trains no train looks different. -/
lemma recordAll_of_no_trains (change : OperationMarkerChange) (trainRunIds : List String)
    {feed : LivemapFeed} (h : feed.entities = .empty) :
    (recordAll change trainRunIds feed .empty).2 = .empty := by
  induction trainRunIds generalizing feed with
  | nil => rfl
  | cons trainRunId rest ih =>
    have hrecorded : (feed.recordOperationMarker trainRunId change).1.entities = .empty :=
      (entities_recordOperationMarker feed trainRunId change).trans h
    have hnone : (feed.recordOperationMarker trainRunId change).1.remarked trainRunId = [] := by
      unfold remarked
      rw [hrecorded]
      rfl
    simp only [recordAll, hnone]
    split
    · exact ih hrecorded
    · exact ih hrecorded

lemma entities_setOperationMarker {feed : LivemapFeed} (h : feed.entities = .empty) (nowMs : Int)
    (trainRunIds : List String) (operationMarker : Option PublicOperationMarker) (time : Int) :
    (feed.setOperationMarker nowMs trainRunIds operationMarker time).1.entities = .empty := by
  unfold setOperationMarker orRefuse
  split
  · exact h
  next identifiers _ =>
    have hsame := sameStream_recordAll
      ⟨operationMarker.map fun _ => PUBLIC_OPERATION_MARKER, time⟩ identifiers feed .empty
    simp only [recordAll_of_no_trains _ identifiers h]
    exact (congrArg Replica.entities hsame.replica).trans h

end LivemapFeed

namespace LivemapRegistry

variable {registry : LivemapRegistry} {around : Surroundings} {worldId regionId : String}

lemma entities_newFeed {feed : LivemapFeed}
    (h : (LivemapFeed.create worldId registry.historyLimit around.streamId >>=
      registry.replayOperationMarkers around worldId) = .ok feed) : feed.entities = .empty := by
  obtain ⟨created, hcreate, hreplay⟩ := bind_eq_ok_iff.mp h
  have hcreated : created.entities = .empty := by
    simp only [LivemapFeed.create, bind_eq_ok_iff] at hcreate
    obtain ⟨-, -, -, -, -, -, hpure⟩ := hcreate
    cases hpure
    rfl
  refine foldlM_invariant (P := fun feed => feed.entities = .empty) ?_ hcreated hreplay
  intro feed entry marked hempty hrun
  refine foldlM_invariant (P := fun feed => feed.entities = .empty) ?_ hempty hrun
  intro feed change marked hempty hset
  obtain ⟨-, -, rfl⟩ := map_eq_ok_iff.mp hset
  exact LivemapFeed.entities_setOperationMarker hempty _ _ _ _

variable {answer : Option LiveDelta} {entry : RegistryEntry}

/-- An entry that is added has a feed that shows nothing. -/
lemma addWorld_ok (h : (registry.addWorld around worldId).2 = .ok entry) :
    ∃ feed, feed.entities = .empty ∧ entry = .new feed around.accessMs := by
  unfold addWorld at h
  rcases orRefuse_cases registry
      (LivemapFeed.create worldId registry.historyLimit around.streamId >>=
        registry.replayOperationMarkers around worldId)
      (fun feed => (registry.put worldId (.new feed around.accessMs),
        Except.ok (RegistryEntry.new feed around.accessMs)))
    with ⟨error, -, heq⟩ | ⟨feed, hfeed, heq⟩
  · rw [heq] at h
    cases h
  · rw [heq] at h
    cases h
    exact ⟨feed, entities_newFeed hfeed, rfl⟩

/-- A world that is looked up has the entry that was there, or a new one. -/
lemma entryForWorld_entry (h : (registry.entryForWorld around worldId).2 = .ok entry) :
    (registry.isThere around.accessMs worldId = true → registry.Carried worldId entry) ∧
      (registry.isThere around.accessMs worldId = false →
        ∃ feed nowMs, feed.entities = .empty ∧ entry = .new feed nowMs) := by
  unfold entryForWorld at h
  unfold isThere EntryMap.has
  cases hfound : (registry.pruneExpired around.accessMs).feeds.get? worldId with
  | some found =>
    simp only [hfound, Option.map_some, Option.getD_some] at h
    cases h
    refine ⟨fun _ => ⟨found, around.accessMs, get?_of_pruned hfound, rfl⟩, ?_⟩
    intro hnot
    cases hnot
  | none =>
    simp only [hfound, Option.map_none, Option.getD_none] at h
    refine ⟨fun hthere => absurd hthere Bool.false_ne_true, fun _ => ?_⟩
    unfold makeRoom at h
    split at h
    · obtain ⟨feed, hempty, heq⟩ := addWorld_ok h
      exact ⟨feed, _, hempty, heq⟩
    · cases hevict : (registry.pruneExpired around.accessMs).evictable with
      | none =>
        rw [hevict] at h
        cases h
      | some evicted =>
        rw [hevict] at h
        obtain ⟨feed, hempty, heq⟩ := addWorld_ok h
        exact ⟨feed, _, hempty, heq⟩

/-! ### Calls that succeed -/

lemma initializeRegion_succeeds {snapshot : RegionSnapshot}
    (h : (registry.call around worldId regionId (.initializeRegion snapshot)).2 = .ok answer) :
    registry.Succeeds around worldId regionId (.initializeRegion snapshot)
      (registry.call around worldId regionId (.initializeRegion snapshot)).1 answer := by
  change (registry.initializeRegion around worldId regionId snapshot).2.map some = .ok answer at h
  obtain ⟨delta, hok, rfl⟩ := map_eq_ok_iff.mp h
  change registry.Succeeds around worldId regionId (.initializeRegion snapshot)
    (registry.initializeRegion around worldId regionId snapshot).1 (some delta)
  unfold initializeRegion at *
  cases hregion : isRegionId regionId with
  | false =>
    rw [hregion] at hok
    cases hok
  | true =>
    rw [hregion] at hok
    simp only [require, if_true, orRefuse] at hok ⊢
    split at hok
    · cases hok
    next entry hentry =>
      change (RegistryEntry.initializeRegion entry around worldId regionId snapshot).2
        = .ok delta at hok
      unfold RegistryEntry.initializeRegion orRefuse at *
      cases hinit : entry.initialization around worldId regionId snapshot with
      | error error =>
        rw [hinit] at hok
        cases hok
      | ok publication =>
        rw [hinit] at hok
        obtain ⟨feed, hpublished, hrecorded⟩ := publish_ok hok
        obtain ⟨hkept, hnew⟩ := entryForWorld_entry hentry
        refine .published entry publication around.publishedMs feed delta true ?_ hpublished
          ?_ hkept hnew
        · change (registry.entryForWorld around worldId).2.toOption.bind _ = _
          rw [hentry]
          change (entry.initialization around worldId regionId snapshot).toOption.map _ = _
          rw [hinit]
          rfl
        · change (LivemapRegistry.put _ worldId
            (entry.publish around regionId publication true).1).feeds.get? worldId = _
          rw [get?_put, if_pos rfl, hrecorded]

lemma Carried.trans {middle : LivemapRegistry} (h : middle.Carried worldId entry)
    (hmiddle : ∀ entry, middle.feeds.get? worldId = some entry →
      registry.Carried worldId entry) : registry.Carried worldId entry := by
  obtain ⟨between, nowMs, hbetween, rfl⟩ := h
  obtain ⟨before, _, hbefore, rfl⟩ := hmiddle between hbetween
  exact ⟨before, nowMs, hbefore, rfl⟩

lemma publishOperationalRegionSnapshot_succeeds {snapshot : OperationalLivemapRegionSnapshot}
    (h : (registry.publishOperationalRegionSnapshot around worldId regionId snapshot).2
      = .ok answer) :
    registry.Succeeds around worldId regionId (.publishOperationalRegionSnapshot snapshot)
      (registry.publishOperationalRegionSnapshot around worldId regionId snapshot).1 answer := by
  unfold publishOperationalRegionSnapshot at *
  cases hframe : operationalFrame regionId snapshot with
  | error error =>
    rw [hframe] at h
    cases h
  | ok frame =>
    simp only [hframe, orRefuse] at h ⊢
    rcases registry.initializedWorld_cases around.accessMs worldId with
      hnone | ⟨entry, hentry, heq⟩
    · rw [hnone] at h ⊢
      cases h
      refine .silent fun entry hentry => ?_
      have hthere := isThere_iff.mpr ⟨entry, hentry⟩
      refine ⟨?_, entry, entry.lastAccessMs, get?_of_pruned hentry, rfl⟩
      unfold keeps
      rw [hthere, hnone]
      rfl
    · simp only [heq, Option.map_some, Option.getD_some] at h ⊢
      have hthere := isThere_iff.mpr ⟨entry, hentry⟩
      have hcarried : ∀ found,
          ((registry.pruneExpired around.accessMs).put worldId
            { entry with lastAccessMs := around.accessMs }).feeds.get? worldId = some found →
          registry.Carried worldId found := by
        intro found hfound
        rw [get?_put, if_pos rfl] at hfound
        cases hfound
        exact ⟨entry, around.accessMs, get?_of_pruned hentry, rfl⟩
      have hkeeps : registry.keeps around worldId (.publishOperationalRegionSnapshot snapshot)
          = ((registry.pruneExpired around.accessMs).put worldId
              { entry with lastAccessMs := around.accessMs }).isThere around.deltaAccessMs
                worldId := by
        unfold keeps
        rw [hthere, heq]
        rfl
      generalize htouched : { entry with lastAccessMs := around.accessMs } = touched at *
      cases hdelta : touched.operationalDelta regionId snapshot.atS snapshot.trains frame with
      | error error =>
        rw [hdelta] at h
        cases h
      | ok input =>
        simp only [hdelta] at h ⊢
        rcases publishRegionDelta_cases h with
          ⟨rfl, hafter⟩ | ⟨found, publication, feed, delta, initialized, rfl, hfound,
            hpublished, hafter, hfoundThere, hfoundCarried⟩
        · refine .silent fun found hfound => ?_
          obtain ⟨hfoundThere, hfoundCarried⟩ := hafter found hfound
          exact ⟨hkeeps.trans hfoundThere, hfoundCarried.trans hcarried⟩
        · refine .published found publication around.publishedMs feed delta initialized ?_
            hpublished hafter (fun _ => hfoundCarried.trans hcarried) fun hnot => ?_
          · change (operationalFrame regionId snapshot).toOption.bind _ = _
            rw [hframe, heq]
            change (touched.operationalDelta regionId snapshot.atS snapshot.trains
              frame).toOption.bind _ = _
            rw [hdelta]
            exact hfound
          · rw [hkeeps, hfoundThere] at hnot
            cases hnot

/-- A call that succeeds publishes, or there is no answer. -/
theorem call_cases {call : RegionCall}
    (h : (registry.call around worldId regionId call).2 = .ok answer) :
    registry.Succeeds around worldId regionId call
      (registry.call around worldId regionId call).1 answer := by
  cases call with
  | initializeRegion snapshot => exact initializeRegion_succeeds h
  | publishRegionDelta nowMs input =>
    rcases publishRegionDelta_cases h with
      ⟨rfl, hafter⟩ | ⟨entry, publication, feed, delta, initialized, rfl, hfound, hpublished,
        hafter, hthere, hcarried⟩
    · exact .silent hafter
    · refine .published entry publication around.publishedMs feed delta initialized hfound
        hpublished hafter (fun _ => hcarried) fun hnot => ?_
      change registry.isThere nowMs worldId = false at hnot
      rw [hthere] at hnot
      cases hnot
  | publishOperationalRegionSnapshot snapshot =>
    exact publishOperationalRegionSnapshot_succeeds h

end LivemapRegistry

/-! ### Runs -/

/-- A call of a region with what it reads from outside. -/
structure Turn where
  around : Surroundings
  regionId : String
  call : RegionCall

/-- A registry with what was published in the feed of one world. -/
structure Chronicle where
  registry : LivemapRegistry
  log : List RegionDelta

/-- Whether the snapshot of a call, if it has one, says something about all that only the region
has published. -/
def RegionCall.restores (entry : RegistryEntry) (log : List RegionDelta) (regionId : String) :
    RegionCall → Bool
  | .initializeRegion snapshot => entry.restores log regionId snapshot
  | .publishRegionDelta _ _ => true
  | .publishOperationalRegionSnapshot _ => true

lemma LiveEntities.not_shows_empty {entities : LiveEntities} (h : entities = .empty)
    (kind : EntityKind) (id : String) : entities.shows kind id ≠ true := by
  intro hshown
  rw [h] at hshown
  cases kind with
  | train | externalTrain | objectState | disruption | operationalRegion =>
    simp [shows, empty] at hshown

namespace Chronicle

/-- What was published in the feed that a call works on. -/
def feedLog (worldId : String) (chronicle : Chronicle) (turn : Turn) : List RegionDelta :=
  if chronicle.registry.keeps turn.around worldId turn.call then chronicle.log else []

/-- What a call publishes. -/
def answer (worldId : String) (chronicle : Chronicle) (turn : Turn) : Option LiveDelta :=
  (chronicle.registry.call turn.around worldId turn.regionId turn.call).2.toOption.bind id

/-- A call, and what was published after it. -/
def step (worldId : String) (chronicle : Chronicle) (turn : Turn) : Chronicle where
  registry := (chronicle.registry.call turn.around worldId turn.regionId turn.call).1
  log := chronicle.feedLog worldId turn
    ++ ((chronicle.answer worldId turn).map (RegionDelta.mk turn.regionId)).toList

/-- Whether a call succeeds and what it publishes respects other regions. -/
def respects (worldId : String) (chronicle : Chronicle) (turn : Turn) : Bool :=
  (chronicle.registry.call turn.around worldId turn.regionId turn.call).2.isOk &&
    (chronicle.registry.publication turn.around worldId turn.regionId turn.call).all fun found =>
      found.1.allows (chronicle.feedLog worldId turn) turn.regionId found.2
        && turn.call.restores found.1 (chronicle.feedLog worldId turn) turn.regionId

/-- The entry of the world is in order. -/
def Orderly (worldId : String) (chronicle : Chronicle) : Prop :=
  ∀ entry, chronicle.registry.feeds.get? worldId = some entry → entry.Orderly chronicle.log

/-- A call leaves what others have published last, and a snapshot leaves nothing else of what the
region alone has published. -/
structure LeavesAlone (worldId : String) (chronicle : Chronicle) (turn : Turn) : Prop where
  others : ∀ entry entry',
    chronicle.registry.keeps turn.around worldId turn.call = true →
    chronicle.registry.feeds.get? worldId = some entry →
    (chronicle.step worldId turn).registry.feeds.get? worldId = some entry' →
    ∀ kind id last, id ∈ entry.feed.snapshot.ids kind →
      lastPublisher chronicle.log kind id = some last → last ≠ turn.regionId →
      id ∈ entry'.feed.snapshot.ids kind
  restored : ∀ snapshot entry', turn.call = .initializeRegion snapshot →
    (chronicle.step worldId turn).registry.feeds.get? worldId = some entry' →
    ∀ kind id, id ∈ entry'.feed.snapshot.ids kind →
      publishedOnlyBy chronicle.log turn.regionId kind id = true →
      snapshot.Contains turn.around worldId kind id

/-- The entry of a new feed is in order. -/
lemma orderly_new {feed : LivemapFeed} (h : feed.entities = .empty) (nowMs : Int) :
    (RegistryEntry.new feed nowMs).Orderly [] := by
  have hshows := LiveEntities.not_shows_empty h
  have howned : ∀ (kind : OwnedKind) (regionId id : String),
      id ∉ ((RegistryEntry.new feed nowMs).owners kind).owned regionId := by
    intro kind regionId id hid
    cases kind with
    | train | externalTrain | objectState =>
      simp [RegistryEntry.owners, RegistryEntry.new, Ownership.owned] at hid
  refine ⟨?_, fun kind => ⟨fun id owner _ hid => ?_, fun id => ?_⟩, fun kind regionId id hid => ?_,
    fun id hid => ?_⟩
  · change feed.entities.Keyed
    rw [h]
    exact LiveEntities.keyed_empty
  · exact absurd hid (howned kind owner id)
  · refine iff_of_false (hshows kind.kind id) ?_
    rintro ⟨owner, hid⟩
    exact howned kind owner id hid
  · exact absurd hid (howned kind regionId id)
  · exact absurd hid (hshows _ id)

lemma orderly_carried {worldId : String} {chronicle : Chronicle} (h : chronicle.Orderly worldId)
    {entry : RegistryEntry} (hcarried : chronicle.registry.Carried worldId entry) :
    entry.Orderly chronicle.log := by
  obtain ⟨before, nowMs, hbefore, rfl⟩ := hcarried
  exact (h before hbefore).touch nowMs

/-- What a call publishes respects other regions if it is allowed. -/
lemma fits_of_publication {registry : LivemapRegistry} {worldId : String} {turn : Turn}
    {log : List RegionDelta} {entry : RegistryEntry} {publication : RegionPublication}
    (h : registry.publication turn.around worldId turn.regionId turn.call
      = some (entry, publication))
    (hallows : entry.allows log turn.regionId publication = true) :
    Fits entry log turn.regionId publication := by
  have hdelta : ∀ (registry : LivemapRegistry) (nowMs : Int) (input : DeltaInput),
      registry.deltaPublication turn.around nowMs worldId turn.regionId input
        = some (entry, publication) → Fits entry log turn.regionId publication := by
    intro registry nowMs input hfound
    obtain ⟨found, -, hfound⟩ := Option.bind_eq_some_iff.mp hfound
    obtain ⟨published, hpublished, heq⟩ := Option.map_eq_some_iff.mp hfound
    cases heq
    exact RegistryEntry.regionDelta_ok (ok_of_toOption hpublished) hallows
  obtain ⟨around, regionId, call⟩ := turn
  cases call with
  | initializeRegion snapshot =>
    obtain ⟨found, -, hfound⟩ := Option.bind_eq_some_iff.mp h
    obtain ⟨published, hpublished, heq⟩ := Option.map_eq_some_iff.mp hfound
    cases heq
    exact (RegistryEntry.initialization_ok
      (ok_of_toOption hpublished)).2 hallows
  | publishRegionDelta nowMs input => exact hdelta registry nowMs input h
  | publishOperationalRegionSnapshot snapshot =>
    obtain ⟨frame, -, h⟩ := Option.bind_eq_some_iff.mp h
    obtain ⟨found, -, h⟩ := Option.bind_eq_some_iff.mp h
    obtain ⟨input, -, h⟩ := Option.bind_eq_some_iff.mp h
    exact hdelta _ _ input h

/-- A call that respects other regions keeps order and leaves alone what it must. -/
lemma Orderly.step {worldId : String} {chronicle : Chronicle} {turn : Turn}
    (h : chronicle.Orderly worldId) (hrespects : chronicle.respects worldId turn = true) :
    (chronicle.step worldId turn).Orderly worldId ∧ chronicle.LeavesAlone worldId turn := by
  obtain ⟨hok, hfound⟩ := Bool.and_eq_true_iff.mp hrespects
  obtain ⟨answer, hanswer⟩ : ∃ answer,
      (chronicle.registry.call turn.around worldId turn.regionId turn.call).2 = .ok answer := by
    cases hresult :
        (chronicle.registry.call turn.around worldId turn.regionId turn.call).2 with
    | error error =>
      rw [hresult] at hok
      cases hok
    | ok answer => exact ⟨answer, rfl⟩
  have hlog : (chronicle.step worldId turn).log = chronicle.feedLog worldId turn
      ++ (answer.map (RegionDelta.mk turn.regionId)).toList := by
    unfold Chronicle.step Chronicle.answer
    rw [hanswer]
    rfl
  have hcases := LivemapRegistry.call_cases hanswer
  cases hcases with
  | silent hafter =>
    refine ⟨fun entry hentry => ?_, ⟨?_, ?_⟩⟩
    · obtain ⟨hkeeps, hcarried⟩ := hafter entry hentry
      rw [hlog, Option.map_none, Option.toList_none, List.append_nil, feedLog, if_pos hkeeps]
      exact orderly_carried h hcarried
    · intro entry entry' hkeeps hentry hentry' kind id last hid _ _
      obtain ⟨-, before, nowMs, hbefore, rfl⟩ := hafter entry' hentry'
      rw [hentry] at hbefore
      cases hbefore
      exact hid
    · intro snapshot entry' hcall
      rw [hcall] at hanswer
      obtain ⟨delta, -, hsome⟩ := map_eq_ok_iff.mp hanswer
      cases hsome
  | published entry publication nowMs feed delta initialized hpublication hpublished hafter hkept
      hnew =>
    have horderly : entry.Orderly (chronicle.feedLog worldId turn) := by
      unfold feedLog
      split
      next hkeeps => exact orderly_carried h (hkept hkeeps)
      next hkeeps =>
        obtain ⟨newFeed, nowMs, hempty, rfl⟩ := hnew (Bool.not_eq_true _ ▸ hkeeps)
        exact orderly_new hempty nowMs
    rw [hpublication, Option.all_some, Bool.and_eq_true] at hfound
    obtain ⟨hallows, hrestores⟩ := hfound
    have hfits := fits_of_publication hpublication hallows
    have hrecorded := horderly.record hfits hpublished initialized
    have hshows : ∀ kind id, id ∈ (entry.record turn.regionId publication feed
        initialized).feed.snapshot.ids kind ↔ feed.entities.shows kind id = true :=
      fun kind id => mem_ids_snapshot hrecorded.keyed
    refine ⟨fun entry' hentry' => ?_, ⟨?_, ?_⟩⟩
    · have heq := hafter.symm.trans hentry'
      cases heq
      rw [hlog]
      exact hrecorded
    · intro before entry' hkeeps hbefore hentry' kind id last hid hlast hother
      have heq := hafter.symm.trans hentry'
      cases heq
      rw [hshows]
      obtain ⟨found, nowMs, hfound, rfl⟩ := hkept hkeeps
      rw [hbefore] at hfound
      cases hfound
      refine RegistryEntry.shows_of_other horderly hfits hpublished ?_ ?_ hother
      · exact (mem_ids_snapshot horderly.keyed).mp hid
      · rw [feedLog, if_pos hkeeps]
        exact hlast
    · intro snapshot entry' hcall hentry' kind id hid honly
      have heq := hafter.symm.trans hentry'
      cases heq
      rw [hcall] at hpublication hrestores
      obtain ⟨found, -, hfound⟩ := Option.bind_eq_some_iff.mp hpublication
      obtain ⟨published, hinitialized, heq⟩ := Option.map_eq_some_iff.mp hfound
      cases heq
      obtain ⟨hinit, -⟩ := @RegistryEntry.initialization_ok _ _ _ _ _ _
        (chronicle.feedLog worldId turn) (ok_of_toOption hinitialized)
      have hshown := (hshows kind id).mp hid
      cases hkeeps : chronicle.registry.keeps turn.around worldId turn.call with
      | true =>
        have hsame : chronicle.feedLog worldId turn = chronicle.log := by
          rw [feedLog, if_pos hkeeps]
        exact RegistryEntry.contained_of_shows horderly hfits hinit hrestores hpublished hshown
          (hsame.symm ▸ honly)
      | false =>
        obtain ⟨newFeed, nowMs, hempty, rfl⟩ := hnew hkeeps
        refine hinit.contained kind id ?_
        refine ((RegistryEntry.shows_published hpublished kind id).mp hshown).2.resolve_right ?_
        exact LiveEntities.not_shows_empty hempty kind id

end Chronicle

/-- **Regions stay apart.**  Regions of one world call one after another, and every call succeeds
and respects other regions: it does not remove at once what it takes from another one, it leaves
the external trains of others and the disruptions they have published last, and a snapshot
contains every disruption that only its region has published and has a list of frames if there is
a frame of the region.  Then every train, external train and object state that is shown has
exactly one owner, and whatever is owned is shown; the next call leaves what other regions have
published last; and if it is a snapshot, nothing remains that only its region has published,
unless the snapshot contains it. -/
theorem regions_stay_apart {registry : LivemapRegistry} {worldId : String} {past rest : List Turn}
    (hnew : registry.feeds.get? worldId = none)
    (hrespects : AllSteps (Chronicle.step worldId) (Chronicle.respects worldId) ⟨registry, []⟩
      (past ++ rest) = true) :
    (∀ entry, (past.foldl (Chronicle.step worldId) ⟨registry, []⟩).registry.feeds.get? worldId
        = some entry →
      ∀ (kind : OwnedKind) (id : String),
        (id ∈ entry.feed.snapshot.ids kind.kind →
          ∃! regionId, id ∈ (entry.owners kind).owned regionId) ∧
        ∀ regionId, id ∈ (entry.owners kind).owned regionId →
          id ∈ entry.feed.snapshot.ids kind.kind) ∧
    ∀ turn ∈ rest.head?,
      (past.foldl (Chronicle.step worldId) ⟨registry, []⟩).LeavesAlone worldId turn := by
  obtain ⟨hpast, hrest⟩ := AllSteps.append.mp hrespects
  have hstart : (Chronicle.mk registry []).Orderly worldId := by
    intro entry hentry
    rw [hnew] at hentry
    cases hentry
  have horderly : (past.foldl (Chronicle.step worldId) ⟨registry, []⟩).Orderly worldId :=
    AllSteps.invariant (fun _ _ h hturn => (h.step hturn).1) hstart hpast
  refine ⟨fun entry hentry kind id => ?_, fun turn hturn => ?_⟩
  · have hentry := horderly entry hentry
    have hshown : id ∈ entry.feed.snapshot.ids kind.kind
        ↔ entry.feed.entities.shows kind.kind id = true :=
      mem_ids_snapshot hentry.keyed
    rw [hshown]
    refine ⟨((hentry.settled kind).existsUnique id).mp, fun regionId hid => ?_⟩
    exact ((hentry.settled kind).covers id).mpr ⟨regionId, hid⟩
  · cases rest with
    | nil => cases hturn
    | cons next rest =>
      cases hturn
      rw [AllSteps, Bool.and_eq_true] at hrest
      exact (horderly.step hrest.1).2

/-- The snapshots of regions, one after another. -/
def snapshotTurns (snapshots : List (String × RegionSnapshot)) : List Turn :=
  snapshots.map fun entry =>
    ⟨plainSurroundings 0 "s1", entry.1, .initializeRegion entry.2⟩

/-- What a registry with room for one world has of that world after some snapshots. -/
def afterSnapshots (snapshots : List (String × RegionSnapshot)) : Option RegistryEntry :=
  ((snapshotTurns snapshots).foldl (Chronicle.step "w1") ⟨smallRegistry, []⟩).registry.feeds.get?
    "w1"

/-- A train that a second region has taken over before the first one lets it go. -/
theorem regions_stay_apart_handed_over :
    ∃ entry, afterSnapshots [("r1", { atS := 0, trains := [smallTrain] }),
        ("r2", { atS := 1, trains := [smallTrain] }), ("r1", { atS := 2 })] = some entry ∧
      "RE1" ∈ entry.feed.snapshot.ids .train ∧
        ∃! regionId, "RE1" ∈ (entry.owners .train).owned regionId := by
  have hany : ((afterSnapshots [("r1", { atS := 0, trains := [smallTrain] }),
      ("r2", { atS := 1, trains := [smallTrain] }), ("r1", { atS := 2 })]).any fun entry =>
        (entry.feed.snapshot.ids .train).contains "RE1") = true := by
    decide +kernel
  obtain ⟨entry, hentry, hshown⟩ := (Option.any_eq_true _ _).mp hany
  have hmem := List.contains_iff_mem.mp hshown
  exact ⟨entry, hentry, hmem,
    ((@regions_stay_apart _ _ _ [] rfl (by decide +kernel)).1 entry hentry .train "RE1").1 hmem⟩

/-- An external train that two regions show. -/
def smallExternalTrain : PublicExternalTrain where
  id := "EX1"
  operator := "Bahn"
  trainNumber := "1"
  category := "IC"
  journeyChainId := "J1"
  externalLegId := "L1"
  fromPortalId := "P1"
  toPortalId := none
  scheduledEndS := 10
  reentryEarliestS := none
  reentryLatestS := none
  delaySeconds := 0
  status := .outside
  progressBasisPoints := 0

/-- A disruption that one region shows. -/
def smallDisruption : PublicInfrastructureDisruption where
  disruptionId := "D1"
  causeCode := 1
  causeLabel := "Signal"
  fineCauseId := "F1"
  fineCauseLabel := "Signal"
  effect := .closure
  affectedResource := "T1"
  validUntilS := 100
  kind := .unplanned
  positionMm := 0
  publishedAtS := 0
  startsAtS := 0

/-- The second region takes over an external train, and the next snapshot of the first region takes
it off the map, although the second one owns it.  And a disruption that a region no longer shows
stays on the map. -/
theorem regions_do_not_stay_apart :
    ((afterSnapshots [("r1", { atS := 0, externalTrains := [smallExternalTrain] }),
        ("r2", { atS := 1, externalTrains := [smallExternalTrain] }), ("r1", { atS := 2 })]).any
      fun entry => ((entry.owners .externalTrain).owned "r2").contains "EX1"
        && !(entry.feed.snapshot.ids .externalTrain).contains "EX1") = true ∧
    ((afterSnapshots [("r1", { atS := 0, disruptions := [smallDisruption] }),
        ("r1", { atS := 1 })]).any fun entry =>
          (entry.feed.snapshot.ids .disruption).contains "D1") = true := by
  decide +kernel

end Zugfolge.Livemap
