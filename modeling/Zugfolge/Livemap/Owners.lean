/-
What the regions of a world own.

Every region owns the trains, external trains and object states that it has published last.  A
region that publishes takes trains and object states over from others; external trains and
disruptions it does not.
-/
import Zugfolge.Livemap.Publications
import Zugfolge.Livemap.Registry
import Zugfolge.Livemap.Replica

namespace Zugfolge.Livemap

open Foundation

/-! ### Who has published what -/

structure RegionDelta where
  regionId : String
  delta : LiveDelta

/-- Whether a delta sets an entity. -/
def RegionDelta.publishes (published : RegionDelta) (kind : EntityKind) (id : String) : Bool :=
  (published.delta.changedIds kind).contains id

/-- The region that has published an entity last. -/
def lastPublisher (log : List RegionDelta) (kind : EntityKind) (id : String) : Option String :=
  (log.reverse.find? fun published => published.publishes kind id).map RegionDelta.regionId

/-- Whether an entity was published, and never by another region. -/
def publishedOnlyBy (log : List RegionDelta) (regionId : String) (kind : EntityKind)
    (id : String) : Bool :=
  (log.any fun published => published.publishes kind id) &&
    log.all fun published => !published.publishes kind id || published.regionId == regionId

lemma lastPublisher_append (log : List RegionDelta) (published : RegionDelta) (kind : EntityKind)
    (id : String) :
    lastPublisher (log ++ [published]) kind id =
      if published.publishes kind id then some published.regionId
      else lastPublisher log kind id := by
  unfold lastPublisher
  rw [List.reverse_append, List.reverse_singleton, List.singleton_append, List.find?_cons]
  cases published.publishes kind id with
  | true => rfl
  | false => rfl

/-- Whoever alone has published an entity has published it last. -/
lemma lastPublisher_of_only {log : List RegionDelta} {regionId id : String} {kind : EntityKind}
    (h : publishedOnlyBy log regionId kind id = true) :
    lastPublisher log kind id = some regionId := by
  obtain ⟨hany, hall⟩ := Bool.and_eq_true_iff.mp h
  obtain ⟨published, hin, hpublishes⟩ := List.any_eq_true.mp hany
  unfold lastPublisher
  cases hfind : log.reverse.find? fun published => published.publishes kind id with
  | none =>
    have hnone := List.find?_eq_none.mp hfind published (List.mem_reverse.mpr hin)
    exact absurd hpublishes hnone
  | some last =>
    have hlast := List.mem_reverse.mp (List.mem_of_find?_eq_some hfind)
    have hsets : last.publishes kind id = true :=
      List.find?_some (p := fun published : RegionDelta => published.publishes kind id) hfind
    have hregion := List.all_eq_true.mp hall last hlast
    rw [hsets, Bool.not_true, Bool.false_or, beq_iff_eq] at hregion
    rw [Option.map_some, hregion]

/-! ### What is shown -/

/-- The identifiers of the entities in a snapshot. -/
def LiveSnapshot.ids (snapshot : LiveSnapshot) : EntityKind → List String
  | .train => snapshot.trains.map PublicTrain.id
  | .externalTrain => snapshot.externalTrains.map PublicExternalTrain.id
  | .objectState => snapshot.objectStates.map PublicObjectState.id
  | .disruption => snapshot.disruptions.map LiveEntities.disruptionKey
  | .operationalRegion => snapshot.operationalRegions.map PublicOperationalRegionFrame.regionId

/-- A snapshot has exactly the entities that are shown. -/
lemma mem_ids_snapshot {feed : LivemapFeed} (h : feed.entities.Keyed) {kind : EntityKind}
    {id : String} : id ∈ feed.snapshot.ids kind ↔ feed.entities.shows kind id = true := by
  have hmem : ∀ {α : Type} {key : α → String} {m : Registry String α}, Registry.Indexed key m →
      (id ∈ (Registry.values m).map key ↔ m.contains id = true) := by
    intro α key m hindexed
    rw [Registry.contains_iff, List.mem_map]
    constructor
    · rintro ⟨a, ha, rfl⟩
      obtain ⟨k, hk⟩ := Registry.mem_values.mp ha
      exact ⟨a, (hindexed k a hk).symm ▸ hk⟩
    · rintro ⟨a, ha⟩
      exact ⟨a, Registry.mem_values.mpr ⟨id, ha⟩, hindexed id a ha⟩
  cases kind with
  | train => exact hmem h.trains
  | externalTrain => exact hmem h.externalTrains
  | objectState => exact hmem h.objectStates
  | disruption => exact hmem h.disruptions
  | operationalRegion => exact hmem h.operationalRegions

/-! ### Owners -/

/-- The kinds of entities that regions own. -/
inductive OwnedKind where
  | train
  | externalTrain
  | objectState

def OwnedKind.kind : OwnedKind → EntityKind
  | .train => .train
  | .externalTrain => .externalTrain
  | .objectState => .objectState

namespace RegionPublication

/-- The entities that a publication takes over from other regions. -/
def taken (publication : RegionPublication) : OwnedKind → List String
  | .train => publication.takenTrains
  | .externalTrain => []
  | .objectState => publication.takenObjectStates

/-- The entities that the region owns after a publication. -/
def own (publication : RegionPublication) : OwnedKind → KeySet String
  | .train => publication.ownTrains
  | .externalTrain => publication.ownExternalTrains
  | .objectState => publication.ownObjectStates

end RegionPublication

namespace RegistryEntry

/-- The owners of the entities of a kind. -/
def owners (entry : RegistryEntry) : OwnedKind → Ownership String String
  | .train => entry.trainIdsByRegion
  | .externalTrain => entry.externalTrainIdsByRegion
  | .objectState => entry.objectStateIdsByRegion

lemma owners_record (entry : RegistryEntry) (regionId : String) (publication : RegionPublication)
    (feed : LivemapFeed) (initialized : Bool) (kind : OwnedKind) :
    (entry.record regionId publication feed initialized).owners kind
      = (entry.owners kind).takeOver regionId (publication.taken kind) (publication.own kind) := by
  cases kind with
  | train => rfl
  | externalTrain => rfl
  | objectState => rfl

/-- Whether a publication respects other regions where the registry does not look: what it takes
from another region it does not remove at once, it neither sets nor removes an external train that
another region owns, and it removes no shown disruption that another region has published last. -/
def allows (entry : RegistryEntry) (log : List RegionDelta) (regionId : String)
    (publication : RegionPublication) : Bool :=
  (publication.takenTrains.all fun id =>
      !entry.trainIdsByRegion.ownedElsewhere regionId id || publication.ownTrains.contains id)
    && (publication.takenObjectStates.all fun id =>
      !entry.objectStateIdsByRegion.ownedElsewhere regionId id
        || publication.ownObjectStates.contains id)
    && ((publication.input.changedIds .externalTrain).all fun id =>
      !entry.externalTrainIdsByRegion.ownedElsewhere regionId id)
    && ((publication.input.removedIds .externalTrain).all fun id =>
      !entry.externalTrainIdsByRegion.ownedElsewhere regionId id)
    && (publication.input.removedIds .disruption).all fun id =>
      !entry.feed.entities.shows .disruption id
        || (lastPublisher log .disruption id).all fun last => last == regionId

/-- Whether a snapshot says something about all that only the region has published: it contains
every such disruption, and it has a list of frames if a frame of the region is shown. -/
def restores (entry : RegistryEntry) (log : List RegionDelta) (regionId : String)
    (snapshot : RegionSnapshot) : Bool :=
  ((entry.feed.snapshot.ids .disruption).all fun id =>
      !publishedOnlyBy log regionId .disruption id
        || (snapshot.disruptions.map LiveEntities.disruptionKey).contains id)
    && (!entry.feed.entities.shows .operationalRegion regionId
      || snapshot.operationalRegions.isSome)

/-- Every entity is shown under its own identifier; what is shown has one owner, which has
published it last; and a frame was published by its own region. -/
structure Orderly (entry : RegistryEntry) (log : List RegionDelta) : Prop where
  keyed : entry.feed.entities.Keyed
  settled : ∀ kind : OwnedKind, Ownership.Settled
    (fun id => entry.feed.entities.shows kind.kind id = true) (entry.owners kind)
  last : ∀ (kind : OwnedKind) (regionId id : String),
    id ∈ (entry.owners kind).owned regionId → lastPublisher log kind.kind id = some regionId
  frames : ∀ id, entry.feed.entities.shows .operationalRegion id = true →
    lastPublisher log .operationalRegion id = some id

end RegistryEntry

/-- A publication of a region respects what other regions own. -/
structure Fits (entry : RegistryEntry) (log : List RegionDelta) (regionId : String)
    (publication : RegionPublication) : Prop where
  turnover : ∀ kind : OwnedKind, ∃ requested, Ownership.Turnover (entry.owners kind) regionId
    (publication.input.changedIds kind.kind) requested (publication.input.removedIds kind.kind)
    (publication.taken kind) (publication.own kind)
  frames : ∀ id, id ∈ publication.input.changedIds .operationalRegion ∨
    id ∈ publication.input.removedIds .operationalRegion → id = regionId
  disruptions : ∀ id ∈ publication.input.removedIds .disruption,
    entry.feed.entities.shows .disruption id = true →
    ∀ last, lastPublisher log .disruption id = some last → last = regionId

/-! ### Publications keep order -/

namespace RegistryEntry

variable {entry : RegistryEntry} {log : List RegionDelta} {regionId : String}
  {publication : RegionPublication} {nowMs : Int} {feed : LivemapFeed} {delta : LiveDelta}

lemma Orderly.touch (h : entry.Orderly log) (nowMs : Int) :
    Orderly { entry with lastAccessMs := nowMs } log := by
  refine ⟨h.keyed, fun kind => ?_, fun kind regionId id hid => ?_, h.frames⟩
  · cases kind with
    | train => exact h.settled .train
    | externalTrain => exact h.settled .externalTrain
    | objectState => exact h.settled .objectState
  · cases kind with
    | train => exact h.last .train regionId id hid
    | externalTrain => exact h.last .externalTrain regionId id hid
    | objectState => exact h.last .objectState regionId id hid

lemma shows_published (hpublished : Published entry.feed nowMs publication.input feed delta)
    (kind : EntityKind) (id : String) :
    feed.entities.shows kind id = true ↔ id ∉ publication.input.removedIds kind ∧
      (id ∈ publication.input.changedIds kind ∨ entry.feed.entities.shows kind id = true) := by
  rw [hpublished.written]
  change (entry.feed.entities.apply delta.toDeltaInput).shows kind id = true ↔ _
  rw [LiveEntities.shows_apply, hpublished.ids.changed, hpublished.ids.removed]

lemma publishes_published (hpublished : Published entry.feed nowMs publication.input feed delta)
    (kind : EntityKind) (id : String) :
    (RegionDelta.mk regionId delta).publishes kind id = true
      ↔ id ∈ publication.input.changedIds kind := by
  unfold RegionDelta.publishes
  rw [List.contains_iff_mem, hpublished.ids.changed]

/-- A publication that fits keeps order. -/
lemma Orderly.record (h : entry.Orderly log) (hfits : Fits entry log regionId publication)
    (hpublished : Published entry.feed nowMs publication.input feed delta) (initialized : Bool) :
    (entry.record regionId publication feed initialized).Orderly (log ++ [⟨regionId, delta⟩]) := by
  have hshows := shows_published hpublished
  refine ⟨?_, fun kind => ?_, fun kind other id hid => ?_, fun id hid => ?_⟩
  · change feed.entities.Keyed
    rw [hpublished.written]
    exact h.keyed.apply _
  · obtain ⟨requested, hturnover⟩ := hfits.turnover kind
    rw [owners_record]
    exact hturnover.settled (h.settled kind) fun id => hshows kind.kind id
  · obtain ⟨requested, hturnover⟩ := hfits.turnover kind
    rw [owners_record] at hid
    rw [lastPublisher_append]
    by_cases hchanged : id ∈ publication.input.changedIds kind.kind
    · rw [if_pos ((publishes_published hpublished kind.kind id).mpr hchanged)]
      by_cases hother : other = regionId
      · rw [hother]
      · exact absurd hchanged ((hturnover.owned_other hother).mp hid).2
    · rw [if_neg (fun hset => hchanged ((publishes_published hpublished kind.kind id).mp hset))]
      by_cases hother : other = regionId
      · subst hother
        rw [Ownership.mem_owned_takeOver, if_pos rfl, hturnover.mem_keys] at hid
        exact h.last kind other id (hid.2.resolve_left hchanged)
      · exact h.last kind other id ((hturnover.owned_other hother).mp hid).1
  · change feed.entities.shows .operationalRegion id = true at hid
    rw [lastPublisher_append]
    by_cases hchanged : id ∈ publication.input.changedIds .operationalRegion
    · rw [if_pos ((publishes_published hpublished _ id).mpr hchanged)]
      exact congrArg some (hfits.frames id (.inl hchanged)).symm
    · rw [if_neg (fun hset => hchanged ((publishes_published hpublished _ id).mp hset))]
      exact h.frames id (((hshows _ id).mp hid).2.resolve_left hchanged)

/-- What another region has published last stays. -/
lemma shows_of_other (h : entry.Orderly log) (hfits : Fits entry log regionId publication)
    (hpublished : Published entry.feed nowMs publication.input feed delta) {kind : EntityKind}
    {id last : String} (hshown : entry.feed.entities.shows kind id = true)
    (hlast : lastPublisher log kind id = some last) (hother : last ≠ regionId) :
    feed.entities.shows kind id = true := by
  have howned : ∀ owned : OwnedKind, owned.kind = kind →
      id ∉ publication.input.removedIds kind := by
    rintro owned rfl
    obtain ⟨requested, hturnover⟩ := hfits.turnover owned
    obtain ⟨owner, howner⟩ := ((h.settled owned).covers id).mp hshown
    have heq := h.last owned owner id howner
    rw [hlast] at heq
    cases heq
    exact hturnover.not_removed hother howner
  refine (shows_published hpublished kind id).mpr ⟨?_, .inr hshown⟩
  cases kind with
  | train => exact howned .train rfl
  | externalTrain => exact howned .externalTrain rfl
  | objectState => exact howned .objectState rfl
  | disruption => exact fun hremoved => hother (hfits.disruptions id hremoved hshown last hlast)
  | operationalRegion =>
    intro hremoved
    have heq := h.frames id hshown
    rw [hlast] at heq
    cases heq
    exact hother (hfits.frames id (.inr hremoved))

end RegistryEntry

/-! ### Projected entities -/

namespace Surroundings

variable {around : Surroundings} {worldId : String}

lemma kept_eq_ok {α : Type} {projected : Option α} {isKept : α → Bool} {message : String}
    {result : α} (h : kept projected isKept message = .ok result) : isKept result = true := by
  simp only [kept, bind_eq_ok_iff] at h
  obtain ⟨found, -, u, hkept, hpure⟩ := h
  cases hpure
  exact require_eq_ok.mp hkept

lemma ids_projectTrains {trains projected : List PublicTrain}
    (h : around.projectTrains worldId trains = .ok projected) :
    projected.map PublicTrain.id = trains.map PublicTrain.id := by
  refine map_of_mapM_ok (fun train _ train' htrain => ?_) h
  unfold projectOne at htrain
  cases hproject : around.projectTrain with
  | none =>
    rw [hproject] at htrain
    cases htrain
    rfl
  | some project =>
    rw [hproject, Option.map_some, Option.getD_some] at htrain
    split at htrain
    · cases htrain
      rfl
    · have hkept := kept_eq_ok htrain
      exact beq_iff_eq.mp (Bool.and_eq_true_iff.mp hkept).1

lemma ids_projectExternalTrains {trains projected : List PublicExternalTrain}
    (h : around.projectExternalTrains worldId trains = .ok projected) :
    projected.map PublicExternalTrain.id = trains.map PublicExternalTrain.id := by
  refine map_of_mapM_ok (fun train _ train' htrain => ?_) h
  unfold projectOneExternal at htrain
  cases hproject : around.projectExternal with
  | none =>
    rw [hproject] at htrain
    cases htrain
    rfl
  | some project =>
    rw [hproject, Option.map_some, Option.getD_some] at htrain
    have hkept := kept_eq_ok htrain
    exact beq_iff_eq.mp (Bool.and_eq_true_iff.mp (Bool.and_eq_true_iff.mp hkept).1).1

/-- Projected states stem from a disruption of the list. -/
lemma exists_of_mem_projectDisruptions {duplicateMessage : String}
    {disruptions : List PublicInfrastructureDisruption} :
    ∀ {seen : List String} {projected : List (String × List PublicObjectState)},
      around.projectDisruptions worldId duplicateMessage seen disruptions = .ok projected →
      ∀ entry ∈ projected, ∃ disruption ∈ disruptions,
        around.projectDisruptionStates worldId disruption = .ok entry.2 := by
  induction disruptions with
  | nil =>
    intro seen projected h entry hentry
    cases h
    cases hentry
  | cons disruption rest ih =>
    intro seen projected h entry hentry
    simp only [projectDisruptions, bind_eq_ok_iff] at h
    obtain ⟨-, -, states, hstates, more, hmore, hpure⟩ := h
    cases hpure
    rcases List.mem_cons.mp hentry with rfl | hentry
    · exact ⟨disruption, List.mem_cons_self, hstates⟩
    · obtain ⟨other, hother, heq⟩ := ih hmore entry hentry
      exact ⟨other, List.mem_cons_of_mem disruption hother, heq⟩

end Surroundings

/-- Whether a snapshot of a region contains an entity, an object state possibly as one that stems
from a disruption. -/
def RegionSnapshot.Contains (snapshot : RegionSnapshot) (around : Surroundings) (worldId : String) :
    EntityKind → String → Prop
  | .train, id => id ∈ snapshot.trains.map PublicTrain.id
  | .externalTrain, id => id ∈ snapshot.externalTrains.map PublicExternalTrain.id
  | .objectState, id => id ∈ snapshot.objectStates.map PublicObjectState.id ∨
      ∃ disruption ∈ snapshot.disruptions, ∃ states,
        around.projectDisruptionStates worldId disruption = .ok states ∧
          id ∈ states.map PublicObjectState.id
  | .disruption, id => id ∈ snapshot.disruptions.map LiveEntities.disruptionKey
  | .operationalRegion, id =>
    id ∈ (snapshot.operationalRegions.getD []).map PublicOperationalRegionFrame.regionId

lemma mem_setOf {ids : List String} {id : String} : id ∈ setOf ids ↔ id ∈ ids := by
  unfold setOf
  rw [KeySet.mem_addAll]
  simp

namespace RegistryEntry

variable {entry : RegistryEntry} {around : Surroundings} {worldId regionId : String}
  {publication : RegionPublication}

/-- What `allows` says about one kind of entities. -/
lemma turnover_free {log : List RegionDelta} (h : entry.allows log regionId publication = true) :
    (∀ id ∈ publication.takenTrains,
      entry.trainIdsByRegion.ownedElsewhere regionId id = false ∨ id ∈ publication.ownTrains) ∧
    (∀ id ∈ publication.takenObjectStates,
      entry.objectStateIdsByRegion.ownedElsewhere regionId id = false ∨
        id ∈ publication.ownObjectStates) ∧
    (∀ id ∈ publication.input.changedIds .externalTrain,
      entry.externalTrainIdsByRegion.ownedElsewhere regionId id = false) ∧
    (∀ id ∈ publication.input.removedIds .externalTrain,
      entry.externalTrainIdsByRegion.ownedElsewhere regionId id = false) ∧
    ∀ id ∈ publication.input.removedIds .disruption,
      entry.feed.entities.shows .disruption id = true →
        ∀ last, lastPublisher log .disruption id = some last → last = regionId := by
  simp only [allows, Bool.and_eq_true, List.all_eq_true, Bool.or_eq_true, Bool.not_eq_true',
    Std.ExtTreeSet.contains_iff_mem] at h
  obtain ⟨⟨⟨⟨htrains, hstates⟩, hchanged⟩, hremoved⟩, hdisruptions⟩ := h
  refine ⟨htrains, hstates, hchanged, hremoved, fun id hid hshown last hlast => ?_⟩
  have hall := hdisruptions id hid
  rw [hshown, hlast] at hall
  exact beq_iff_eq.mp (hall.resolve_left (by simp))

lemma not_mem_nil_of_filter {table : Ownership String String} {ids : List String} {id : String} :
    id ∈ ids.filter (fun id => !table.ownedElsewhere regionId id) ↔
      id ∈ ids ∧ table.ownedElsewhere regionId id = false := by
  rw [List.mem_filter, Bool.not_eq_true']

/-- What the first snapshot of a region, or a later one, makes of its entities. -/
structure Initializes (around : Surroundings) (worldId regionId : String)
    (snapshot : RegionSnapshot) (publication : RegionPublication) : Prop where
  contained : ∀ kind, ∀ id ∈ publication.input.changedIds kind,
    snapshot.Contains around worldId kind id
  own : ∀ kind : OwnedKind,
    publication.own kind = setOf (publication.input.changedIds kind.kind)
  disruptions : publication.input.changedIds .disruption
    = snapshot.disruptions.map LiveEntities.disruptionKey
  frames : ∀ frames, snapshot.operationalRegions = some frames →
    regionId ∈ publication.input.changedIds .operationalRegion ∨
      regionId ∈ publication.input.removedIds .operationalRegion

lemma initialization_ok {snapshot : RegionSnapshot} {log : List RegionDelta}
    (h : entry.initialization around worldId regionId snapshot = .ok publication) :
    Initializes around worldId regionId snapshot publication ∧
      (entry.allows log regionId publication = true → Fits entry log regionId publication) := by
  simp only [initialization, bind_eq_ok_iff] at h
  obtain ⟨_, hframes, trains, htrains, -, -, externalTrains, hexternal, -, -, projected, hprojected,
    -, -, hpure⟩ := h
  have hframes := require_eq_ok.mp hframes
  have hown : ∀ frames, snapshot.operationalRegions = some frames →
      ∀ frame ∈ frames, frame.regionId = regionId := by
    intro frames heq frame hframe
    rw [heq, Option.all_some, Bool.and_eq_true] at hframes
    exact beq_iff_eq.mp (List.all_eq_true.mp hframes.2 frame hframe)
  cases hpure
  refine ⟨⟨fun kind id hid => ?_, fun kind => ?_, rfl, fun frames heq => ?_⟩, fun hallows => ?_⟩
  · cases kind with
    | train =>
      change id ∈ snapshot.trains.map PublicTrain.id
      rw [← Surroundings.ids_projectTrains htrains]
      exact hid
    | externalTrain =>
      change id ∈ snapshot.externalTrains.map PublicExternalTrain.id
      rw [← Surroundings.ids_projectExternalTrains hexternal]
      exact hid
    | objectState =>
      change id ∈ (snapshot.objectStates ++ projected.flatMap Prod.snd).map PublicObjectState.id
        at hid
      rw [List.map_append, List.mem_append] at hid
      refine hid.imp_right fun hderived => ?_
      obtain ⟨state, hstate, rfl⟩ := List.mem_map.mp hderived
      obtain ⟨found, hfound, hin⟩ := List.mem_flatMap.mp hstate
      obtain ⟨disruption, hdisruption, heq⟩ :=
        Surroundings.exists_of_mem_projectDisruptions hprojected found hfound
      exact ⟨disruption, hdisruption, found.2, heq, List.mem_map_of_mem hin⟩
    | disruption => exact hid
    | operationalRegion => exact hid
  · cases kind with
    | train => rfl
    | externalTrain => rfl
    | objectState => rfl
  · cases frames with
    | nil =>
      refine .inr ?_
      change regionId ∈ if snapshot.operationalRegions.any List.isEmpty then [regionId] else []
      rw [heq]
      exact List.mem_singleton_self regionId
    | cons frame rest =>
      refine .inl ?_
      change regionId ∈ (snapshot.operationalRegions.getD []).map _
      rw [heq, ← hown _ heq frame List.mem_cons_self]
      exact List.mem_cons_self
  · obtain ⟨htrain, hstate, hchanged, hremoved, hdisruptions⟩ := turnover_free hallows
    have hreplaced : ∀ (table : Ownership String String) (next : List String) (id : String),
        id ∈ (table.owned regionId).toList.filter (fun id =>
            !next.contains id && !table.ownedElsewhere regionId id)
          ↔ (id ∈ table.owned regionId ∧ id ∉ next) ∧
              table.ownedElsewhere regionId id = false := by
      intro table next id
      rw [List.mem_filter, Std.ExtTreeSet.mem_toList, Bool.and_eq_true, Bool.not_eq_true',
        Bool.not_eq_true', List.contains_eq_mem, decide_eq_false_iff_not, and_assoc]
    refine ⟨fun kind => ?_, fun id hid => ?_, hdisruptions⟩
    · cases kind with
      | train =>
        exact ⟨_, .of_replacement (hreplaced _ _) (fun _ hid => hid) fun _ hid => .inl hid⟩
      | externalTrain =>
        refine ⟨_, .of_replacement (fun id => ?_) (fun _ hid => absurd hid List.not_mem_nil)
          fun id hid => .inr (hchanged id hid)⟩
        constructor
        · intro hid
          have hfree := hremoved id hid
          change id ∈ List.filter _ _ at hid
          rw [List.mem_filter, Std.ExtTreeSet.mem_toList, Bool.not_eq_true',
            List.contains_eq_mem, decide_eq_false_iff_not] at hid
          exact ⟨hid, hfree⟩
        · rintro ⟨hid, -⟩
          change id ∈ List.filter _ _
          rw [List.mem_filter, Std.ExtTreeSet.mem_toList, Bool.not_eq_true',
            List.contains_eq_mem, decide_eq_false_iff_not]
          exact hid
      | objectState =>
        exact ⟨_, .of_replacement (hreplaced _ _) (fun _ hid => hid) fun _ hid => .inl hid⟩
    · rcases hid with hid | hid
      · obtain ⟨frame, hframe, rfl⟩ := List.mem_map.mp hid
        change frame ∈ snapshot.operationalRegions.getD [] at hframe
        cases heq : snapshot.operationalRegions with
        | none =>
          rw [heq] at hframe
          cases hframe
        | some frames =>
          rw [heq] at hframe
          exact hown frames heq frame hframe
      · change id ∈ if snapshot.operationalRegions.any List.isEmpty then [regionId] else [] at hid
        split at hid
        · exact List.mem_singleton.mp hid
        · cases hid

lemma regionDelta_ok {input : DeltaInput} {log : List RegionDelta}
    (h : entry.regionDelta around worldId regionId input = .ok publication)
    (hallows : entry.allows log regionId publication = true) :
    Fits entry log regionId publication := by
  simp only [regionDelta, bind_eq_ok_iff] at h
  obtain ⟨_, hframes, trains, -, externalTrains, -, projected, -, hpure⟩ := h
  have hframes := Bool.and_eq_true_iff.mp (require_eq_ok.mp hframes)
  cases hpure
  obtain ⟨htrain, hstate, hchanged, hremoved, hdisruptions⟩ := turnover_free hallows
  refine ⟨fun kind => ?_, fun id hid => ?_, hdisruptions⟩
  · cases kind with
    | train =>
      exact ⟨_, .of_change (fun _ => not_mem_nil_of_filter) (fun _ hid => hid)
        (fun _ hid => .inl hid) htrain⟩
    | externalTrain =>
      refine ⟨_, .of_change (fun id => ?_) (fun _ hid => absurd hid List.not_mem_nil)
        (fun id hid => .inr (hchanged id hid)) fun id hid => .inl (hchanged id hid)⟩
      exact (and_iff_left_of_imp (hremoved id)).symm
    | objectState =>
      exact ⟨_, .of_change (fun _ => not_mem_nil_of_filter) (fun _ hid => hid)
        (fun _ hid => .inl hid) hstate⟩
  · rcases hid with hid | hid
    · obtain ⟨frame, hframe, rfl⟩ := List.mem_map.mp hid
      exact beq_iff_eq.mp (List.all_eq_true.mp hframes.1 frame hframe)
    · exact beq_iff_eq.mp (List.all_eq_true.mp hframes.2 id hid)

/-- After a snapshot of a region, whatever is shown that only the region has published is
contained in it. -/
lemma contained_of_shows {log : List RegionDelta} {snapshot : RegionSnapshot} {nowMs : Int}
    {feed : LivemapFeed} {delta : LiveDelta} (h : entry.Orderly log)
    (hfits : Fits entry log regionId publication)
    (hinit : Initializes around worldId regionId snapshot publication)
    (hrestores : entry.restores log regionId snapshot = true)
    (hpublished : Published entry.feed nowMs publication.input feed delta) {kind : EntityKind}
    {id : String} (hshown : feed.entities.shows kind id = true)
    (honly : publishedOnlyBy log regionId kind id = true) :
    snapshot.Contains around worldId kind id := by
  obtain ⟨hkept, hchanged | hbefore⟩ := (shows_published hpublished kind id).mp hshown
  · exact hinit.contained kind id hchanged
  · by_contra hnot
    have hunchanged : id ∉ publication.input.changedIds kind :=
      fun hin => hnot (hinit.contained kind id hin)
    have hlast := lastPublisher_of_only honly
    have howned : ∀ owned : OwnedKind, owned.kind ≠ kind := by
      rintro owned rfl
      obtain ⟨requested, hturnover⟩ := hfits.turnover owned
      obtain ⟨owner, howner⟩ := ((h.settled owned).covers id).mp hbefore
      have heq := h.last owned owner id howner
      rw [hlast] at heq
      cases heq
      have hkeys : id ∈ publication.own owned := by
        rw [hturnover.mem_keys]
        refine ⟨fun hrequested => hkept ((hturnover.mem_removed id).mpr ⟨hrequested, ?_⟩),
          .inr howner⟩
        exact Ownership.ownedElsewhere_eq_false.mpr fun other hother =>
          (h.settled owned).exclusive id other regionId hother howner
      rw [hinit.own, mem_setOf] at hkeys
      exact hunchanged hkeys
    obtain ⟨hdisruptions, hframe⟩ := Bool.and_eq_true_iff.mp hrestores
    cases kind with
    | train => exact howned .train rfl
    | externalTrain => exact howned .externalTrain rfl
    | objectState => exact howned .objectState rfl
    | disruption =>
      have hall := List.all_eq_true.mp hdisruptions id ((mem_ids_snapshot h.keyed).mpr hbefore)
      rw [honly, Bool.not_true, Bool.false_or, List.contains_iff_mem] at hall
      exact hunchanged (hinit.disruptions ▸ hall)
    | operationalRegion =>
      have heq := h.frames id hbefore
      rw [hlast] at heq
      cases heq
      rw [hbefore, Bool.not_true, Bool.false_or] at hframe
      obtain ⟨frames, hframes⟩ := Option.isSome_iff_exists.mp hframe
      rcases hinit.frames frames hframes with hin | hgone
      · exact hunchanged hin
      · exact hkept hgone

end RegistryEntry

end Zugfolge.Livemap
