/-
Calls that fail.

A call that is refused by a check leaves the feed and what its regions own as they were.  What
remains is what happens before the checks, where a registry drops feeds that have expired or make
room for a new one, and after them, where a listener may fail although the delta is written.

* `failed_unchanged_iff`: which calls change nothing when they fail.
-/
import Zugfolge.Foundation.Collect
import Zugfolge.Livemap.Registry
import Zugfolge.Livemap.Replica

namespace Zugfolge.Livemap

open Foundation

/-! ### Refusals -/

lemma orRefuse_cases {σ α β : Type} (state : σ) (checks : Except LivemapError α)
    (next : α → σ × Except LivemapError β) :
    (∃ error, checks = .error error ∧ orRefuse state checks next = (state, .error error)) ∨
      ∃ checked, checks = .ok checked ∧ orRefuse state checks next = next checked := by
  cases checks with
  | error error => exact .inl ⟨error, rfl, rfl⟩
  | ok checked => exact .inr ⟨checked, rfl, rfl⟩

/-! ### Feeds -/

namespace LivemapFeed

/-- What the feed shows and remembers is the same. -/
structure Unchanged (before after : LivemapFeed) : Prop where
  snapshot : after.snapshot = before.snapshot
  history : after.log.history = before.log.history

lemma Unchanged.refl (feed : LivemapFeed) : feed.Unchanged feed := ⟨rfl, rfl⟩

/-- Whether some listener fails on the delta that is sent if a publication passes all checks. -/
def failsToDeliver (feed : LivemapFeed) (input : DeltaInput) : Bool :=
  (feed.checkPublication input >>= feed.checkEmission).toOption.any fun checked =>
    feed.listeners.any fun listener =>
      listener.throwsOn (feed.deltaAt checked (feed.log.sequence + 1))

/-- All listeners return exactly if none of them fails. -/
lemma deliver_snd (delta : LiveDelta) (listeners : List Subscription) :
    (deliver delta listeners).2 = !listeners.any fun listener => listener.throwsOn delta := by
  induction listeners with
  | nil => rfl
  | cons listener rest ih =>
    rw [deliver, List.any_cons]
    cases listener.throwsOn delta with
    | true => rfl
    | false =>
      rw [Bool.false_or]
      exact ih

/-- A publication that fails was refused, or it was written and a listener has failed. -/
lemma publish_failed {feed : LivemapFeed} {nowMs : Int} {input : DeltaInput}
    (h : (feed.publish nowMs input).2.isOk = false) :
    feed.failsToDeliver input = false ∧ (feed.publish nowMs input).1 = feed ∨
      feed.failsToDeliver input = true ∧
        ∃ checked, (feed.publish nowMs input).1 = feed.write nowMs checked := by
  unfold publish failsToDeliver at *
  rcases orRefuse_cases feed (feed.checkPublication input) (fun marked => feed.emit nowMs marked)
    with ⟨error, hrefused, heq⟩ | ⟨marked, hmarked, heq⟩
  · rw [heq, hrefused]
    exact .inl ⟨rfl, rfl⟩
  · rw [heq] at h ⊢
    rw [hmarked]
    unfold emit at h ⊢
    rcases orRefuse_cases feed (feed.checkEmission marked)
        (fun checked => (feed.write nowMs checked, feed.answer checked))
      with ⟨error, hrefused, heq⟩ | ⟨checked, hchecked, heq⟩
    · rw [heq]
      refine .inl ⟨?_, rfl⟩
      change (feed.checkEmission marked).toOption.any _ = false
      rw [hrefused]
      rfl
    · rw [heq] at h ⊢
      refine .inr ⟨?_, checked, rfl⟩
      change (feed.checkEmission marked).toOption.any _ = true
      rw [hchecked]
      unfold answer at h
      rw [deliver_snd] at h
      cases hany : feed.listeners.any fun listener =>
          listener.throwsOn (feed.deltaAt checked (feed.log.sequence + 1)) with
      | true => exact hany
      | false =>
        rw [hany] at h
        cases h

lemma not_unchanged_write (feed : LivemapFeed) (nowMs : Int) (checked : DeltaInput) :
    ¬ feed.Unchanged (feed.write nowMs checked) := by
  intro h
  have hsequence : feed.log.sequence + 1 = feed.log.sequence :=
    congrArg LiveSnapshot.sequence h.snapshot
  omega

/-- A publication that fails changes nothing exactly if no listener was reached. -/
lemma publish_failed_iff {feed : LivemapFeed} {nowMs : Int} {input : DeltaInput}
    (h : (feed.publish nowMs input).2.isOk = false) :
    feed.Unchanged (feed.publish nowMs input).1 ↔ feed.failsToDeliver input = false := by
  rcases publish_failed h with ⟨hfails, hsame⟩ | ⟨hfails, checked, hwritten⟩
  · rw [hsame]
    exact iff_of_true (.refl feed) hfails
  · rw [hwritten, hfails]
    exact iff_of_false (not_unchanged_write feed nowMs checked) (by simp)

lemma streamId_publish (feed : LivemapFeed) (nowMs : Int) (input : DeltaInput) :
    (feed.publish nowMs input).1.streamId = feed.streamId := by
  simp only [publish, emit, orRefuse]
  split
  · rfl
  · split
    · rfl
    · rfl

end LivemapFeed

/-! ### Entries -/

namespace RegistryEntry

/-- The feed and all that its regions own is the same. -/
structure Unchanged (before after : RegistryEntry) : Prop where
  feed : before.feed.Unchanged after.feed
  trainIds : after.trainIdsByRegion = before.trainIdsByRegion
  externalTrainIds : after.externalTrainIdsByRegion = before.externalTrainIdsByRegion
  objectStateIds : after.objectStateIdsByRegion = before.objectStateIdsByRegion
  derivedObjectStateIds : after.derivedObjectStateIdsByRegion = before.derivedObjectStateIdsByRegion

lemma Unchanged.refl (entry : RegistryEntry) : entry.Unchanged entry :=
  ⟨.refl _, rfl, rfl, rfl, rfl⟩

lemma touched_unchanged_iff (entry : RegistryEntry) (nowMs : Int) (after : RegistryEntry) :
    RegistryEntry.Unchanged { entry with lastAccessMs := nowMs } after
      ↔ entry.Unchanged after := by
  constructor
  · exact fun h => ⟨h.feed, h.trainIds, h.externalTrainIds, h.objectStateIds,
      h.derivedObjectStateIds⟩
  · exact fun h => ⟨h.feed, h.trainIds, h.externalTrainIds, h.objectStateIds,
      h.derivedObjectStateIds⟩

/-- Whether some listener fails on the delta of a publication that has passed its checks. -/
def failsToDeliver (entry : RegistryEntry) (checks : Except LivemapError RegionPublication) :
    Bool :=
  checks.toOption.any fun publication => entry.feed.failsToDeliver publication.input

lemma publish_failed_iff {entry : RegistryEntry} {around : Surroundings} {regionId : String}
    {publication : RegionPublication} {initialized : Bool}
    (h : (entry.publish around regionId publication initialized).2.isOk = false) :
    entry.Unchanged (entry.publish around regionId publication initialized).1
      ↔ entry.feed.failsToDeliver publication.input = false := by
  unfold publish at h ⊢
  simp only [h, Bool.false_eq_true, if_false]
  rw [← LivemapFeed.publish_failed_iff h]
  exact ⟨fun hsame => hsame.feed, fun hfeed => ⟨hfeed, rfl, rfl, rfl, rfl⟩⟩

lemma streamId_publish (entry : RegistryEntry) (around : Surroundings) (regionId : String)
    (publication : RegionPublication) (initialized : Bool) :
    (entry.publish around regionId publication initialized).1.feed.streamId
      = entry.feed.streamId := by
  have hstream := LivemapFeed.streamId_publish entry.feed around.publishedMs publication.input
  simp only [publish]
  split
  · exact hstream
  · exact hstream

/-- A publication of a region that fails changes nothing exactly if no listener was reached. -/
lemma orRefuse_publish_failed_iff {entry : RegistryEntry} {around : Surroundings}
    {regionId : String} {checks : Except LivemapError RegionPublication} {initialized : Bool}
    (h : (orRefuse entry checks fun publication =>
      entry.publish around regionId publication initialized).2.isOk = false) :
    entry.Unchanged (orRefuse entry checks fun publication =>
      entry.publish around regionId publication initialized).1
        ↔ entry.failsToDeliver checks = false := by
  rcases orRefuse_cases entry checks
      (fun publication => entry.publish around regionId publication initialized)
    with ⟨error, hrefused, heq⟩ | ⟨publication, hpassed, heq⟩
  · rw [heq, hrefused]
    exact iff_of_true (.refl entry) rfl
  · rw [heq] at h ⊢
    rw [hpassed]
    exact publish_failed_iff h

end RegistryEntry

/-! ### Looking a world up -/

namespace LivemapRegistry

/-- Every feed that was there is still there, with the same entities, history and owners. -/
def Unchanged (before after : LivemapRegistry) : Prop :=
  ∀ worldId entry, before.feeds.get? worldId = some entry →
    ∃ entry', after.feeds.get? worldId = some entry' ∧ entry.Unchanged entry'

lemma Unchanged.refl (registry : LivemapRegistry) : registry.Unchanged registry :=
  fun _ entry hentry => ⟨entry, hentry, .refl entry⟩

/-- Whether the time of some feed is over that nobody listens to. -/
def anyExpired (registry : LivemapRegistry) (nowMs : Int) : Bool :=
  registry.feeds.entries.any fun entry => registry.isExpired nowMs entry.2

/-- Whether a feed is dropped when a world is looked up: because its time is over, or because it
makes room for the world. -/
def dropsFeed (registry : LivemapRegistry) (nowMs : Int) (worldId : String) : Bool :=
  registry.anyExpired nowMs ||
    (!registry.feeds.has worldId && registry.maxFeeds ≤ registry.feeds.entries.length
      && registry.evictable.isSome)

lemma get?_pruneExpired (registry : LivemapRegistry) (nowMs : Int) (worldId : String) :
    (registry.pruneExpired nowMs).feeds.get? worldId
      = (registry.feeds.get? worldId).filter fun entry => !registry.isExpired nowMs entry :=
  EntryMap.get?_filterValues _ _ _

variable {registry : LivemapRegistry} {worldId : String}

lemma pruneExpired_of_none {nowMs : Int}
    (h : registry.anyExpired nowMs = false) : registry.pruneExpired nowMs = registry := by
  have hkept : registry.feeds.entries.filter (fun entry => !registry.isExpired nowMs entry.2)
      = registry.feeds.entries := by
    refine List.filter_eq_self.mpr fun entry hentry => ?_
    have hfalse := List.any_eq_false.mp h entry hentry
    rw [Bool.not_eq_true] at hfalse
    rw [hfalse]
    rfl
  unfold pruneExpired EntryMap.filterValues
  simp only [hkept]

lemma exists_pruned {nowMs : Int} (h : registry.anyExpired nowMs = true) :
    ∃ worldId entry, registry.feeds.get? worldId = some entry ∧
      (registry.pruneExpired nowMs).feeds.get? worldId = none := by
  obtain ⟨⟨worldId, entry⟩, hin, hexpired⟩ := List.any_eq_true.mp h
  have hfound := EntryMap.get?_eq_some_iff.mpr hin
  refine ⟨worldId, entry, hfound, ?_⟩
  rw [get?_pruneExpired, hfound, Option.filter_some, hexpired]
  rfl

lemma get?_put (registry : LivemapRegistry) (worldId : String) (entry : RegistryEntry)
    (other : String) :
    (registry.put worldId entry).feeds.get? other
      = if other = worldId then some entry else registry.feeds.get? other :=
  EntryMap.get?_set _ _ _ _

/-- Putting an entry in the place of an unchanged one leaves the registry unchanged exactly if
what is put there is unchanged. -/
lemma unchanged_put_iff
    {entry entry' : RegistryEntry} (hentry : registry.feeds.get? worldId = some entry) :
    registry.Unchanged (registry.put worldId entry') ↔ entry.Unchanged entry' := by
  constructor
  · intro h
    obtain ⟨found, hfound, hsame⟩ := h worldId entry hentry
    rw [get?_put, if_pos rfl] at hfound
    cases hfound
    exact hsame
  · intro hsame other before hbefore
    by_cases heq : other = worldId
    · subst heq
      rw [hentry] at hbefore
      cases hbefore
      exact ⟨entry', by rw [get?_put, if_pos rfl], hsame⟩
    · exact ⟨before, by rw [get?_put, if_neg heq]; exact hbefore, .refl before⟩

lemma unchanged_put_new (hnone : registry.feeds.get? worldId = none) (entry : RegistryEntry) :
    registry.Unchanged (registry.put worldId entry) := by
  intro other before hbefore
  have hne : other ≠ worldId := by
    rintro rfl
    rw [hnone] at hbefore
    cases hbefore
  exact ⟨before, by rw [get?_put, if_neg hne]; exact hbefore, .refl before⟩

lemma put_put (registry : LivemapRegistry) (worldId : String) (first second : RegistryEntry)
    (other : String) :
    ((registry.put worldId first).put worldId second).feeds.get? other
      = (registry.put worldId second).feeds.get? other := by
  rw [get?_put, get?_put, get?_put]
  split
  · rfl
  · rfl

lemma unchanged_congr {before after after' : LivemapRegistry}
    (h : ∀ worldId, after'.feeds.get? worldId = after.feeds.get? worldId) :
    before.Unchanged after' ↔ before.Unchanged after := by
  unfold Unchanged
  simp only [h]

lemma has_evictable (h : registry.evictable = some worldId) :
    ∃ entry, registry.feeds.get? worldId = some entry := by
  obtain ⟨⟨found, entry⟩, hhead, rfl⟩ := Option.map_eq_some_iff.mp h
  have hsorted := List.mem_of_head? hhead
  have hin := (List.mem_filter.mp (List.mem_mergeSort.mp hsorted)).1
  exact ⟨entry, EntryMap.get?_eq_some_iff.mpr hin⟩

end LivemapRegistry

/-! ### New feeds -/

lemma streamId_of_emits {feed feed' : LivemapFeed} (h : Emits feed feed') :
    feed'.streamId = feed.streamId := by
  rcases h with hsame | ⟨marked, nowMs, checked, hsame, rfl⟩
  · exact congrArg Replica.streamId hsame.replica
  · exact congrArg Replica.streamId hsame.replica

lemma streamId_of_create {worldId streamId : String} {historyLimit : ℕ} {feed : LivemapFeed}
    (h : LivemapFeed.create worldId historyLimit streamId = .ok feed) :
    feed.streamId = streamId := by
  simp only [LivemapFeed.create, bind_eq_ok_iff] at h
  obtain ⟨-, -, -, -, -, -, hpure⟩ := h
  cases hpure
  rfl

namespace LivemapRegistry

variable {around : Surroundings} {entry : RegistryEntry} {registry : LivemapRegistry}
  {worldId : String}

lemma streamId_replay
    {worldId streamId : String} {feed marked : LivemapFeed} (hstream : feed.streamId = streamId)
    (h : registry.replayOperationMarkers around worldId feed = .ok marked) :
    marked.streamId = streamId := by
  refine foldlM_invariant (P := fun feed => feed.streamId = streamId) ?_ hstream h
  intro feed entry marked hstream hrun
  refine foldlM_invariant (P := fun feed => feed.streamId = streamId) ?_ hstream hrun
  intro feed change marked hstream hset
  obtain ⟨-, -, rfl⟩ := map_eq_ok_iff.mp hset
  exact (streamId_of_emits (feed.emits_setOperationMarker _ _ _ _)).trans hstream

/-- A world is not added, or it gets a feed with a new name. -/
lemma addWorld_cases (registry : LivemapRegistry) (around : Surroundings) (worldId : String) :
    (∃ error, registry.addWorld around worldId = (registry, .error error)) ∨
      ∃ feed, feed.streamId = around.streamId ∧ registry.addWorld around worldId
        = (registry.put worldId (.new feed around.accessMs),
            .ok (.new feed around.accessMs)) := by
  unfold addWorld
  rcases orRefuse_cases registry
      (LivemapFeed.create worldId registry.historyLimit around.streamId >>=
        registry.replayOperationMarkers around worldId)
      (fun feed => (registry.put worldId (.new feed around.accessMs),
        Except.ok (RegistryEntry.new feed around.accessMs)))
    with ⟨error, -, heq⟩ | ⟨feed, hfeed, heq⟩
  · exact .inl ⟨error, heq⟩
  · obtain ⟨created, hcreate, hreplay⟩ := bind_eq_ok_iff.mp hfeed
    exact .inr ⟨feed, streamId_replay (streamId_of_create hcreate) hreplay, heq⟩

lemma get?_addWorld {worldId other : String}
    (h : (registry.addWorld around worldId).1.feeds.get? other = some entry) :
    registry.feeds.get? other = some entry ∨
      other = worldId ∧ entry.feed.streamId = around.streamId := by
  rcases addWorld_cases registry around worldId with ⟨error, heq⟩ | ⟨feed, hstream, heq⟩
  · rw [heq] at h
    exact .inl h
  · rw [heq, get?_put] at h
    split at h
    next hother =>
      cases h
      exact .inr ⟨hother, hstream⟩
    · exact .inl h

/-- What is found once a world was looked up was there before and has not expired, or it is the
new feed of the world. -/
lemma get?_entryForWorld {worldId other : String}
    (h : (registry.entryForWorld around worldId).1.feeds.get? other = some entry) :
    (∃ before, (registry.pruneExpired around.accessMs).feeds.get? other = some before) ∨
      other = worldId ∧ entry.feed.streamId = around.streamId := by
  unfold entryForWorld at h
  cases hfound : (registry.pruneExpired around.accessMs).feeds.get? worldId with
  | some found =>
    simp only [hfound, Option.map_some, Option.getD_some] at h
    rw [get?_put] at h
    split at h
    next hother => exact .inl ⟨found, hother ▸ hfound⟩
    · exact .inl ⟨entry, h⟩
  | none =>
    simp only [hfound, Option.map_none, Option.getD_none] at h
    unfold makeRoom at h
    split at h
    · rcases get?_addWorld h with hbefore | hnew
      · exact .inl ⟨entry, hbefore⟩
      · exact .inr hnew
    · cases hevict : (registry.pruneExpired around.accessMs).evictable with
      | none =>
        rw [hevict] at h
        exact .inl ⟨entry, h⟩
      | some evicted =>
        rw [hevict] at h
        rcases get?_addWorld h with hbefore | hnew
        · exact .inl ⟨entry, EntryMap.get?_of_delete hbefore⟩
        · exact .inr hnew

/-- The entry that is answered is the one that is there. -/
lemma entryForWorld_ok (h : (registry.entryForWorld around worldId).2 = .ok entry) :
    (registry.entryForWorld around worldId).1.feeds.get? worldId = some entry := by
  have hadd : ∀ roomy : LivemapRegistry, (roomy.addWorld around worldId).2 = .ok entry →
      (roomy.addWorld around worldId).1.feeds.get? worldId = some entry := by
    intro roomy hadded
    rcases addWorld_cases roomy around worldId with ⟨error, heq⟩ | ⟨feed, -, heq⟩
    · rw [heq] at hadded
      cases hadded
    · rw [heq] at hadded ⊢
      cases hadded
      rw [get?_put, if_pos rfl]
  unfold entryForWorld at h ⊢
  cases hfound : (registry.pruneExpired around.accessMs).feeds.get? worldId with
  | some found =>
    simp only [hfound, Option.map_some, Option.getD_some] at h ⊢
    cases h
    rw [get?_put, if_pos rfl]
  | none =>
    simp only [hfound, Option.map_none, Option.getD_none] at h ⊢
    unfold makeRoom at h ⊢
    split at h
    next hroom =>
      rw [if_pos hroom]
      exact hadd _ h
    next hroom =>
      rw [if_neg hroom]
      cases hevict : (registry.pruneExpired around.accessMs).evictable with
      | none =>
        rw [hevict] at h
        cases h
      | some evicted =>
        rw [hevict] at h
        exact hadd _ h

/-- If looking a world up drops a feed, some world is gone, or the world itself has a feed with a
new name. -/
lemma dropped_of_entryForWorld (h : registry.dropsFeed around.accessMs worldId = true) :
    ∃ other before, registry.feeds.get? other = some before ∧
      ∀ entry, (registry.entryForWorld around worldId).1.feeds.get? other = some entry →
        other = worldId ∧ entry.feed.streamId = around.streamId := by
  cases hexpired : registry.anyExpired around.accessMs with
  | true =>
    obtain ⟨other, before, hbefore, hgone⟩ := exists_pruned hexpired
    refine ⟨other, before, hbefore, fun entry hentry => ?_⟩
    rcases get?_entryForWorld hentry with ⟨kept, hkept⟩ | hnew
    · rw [hgone] at hkept
      cases hkept
    · exact hnew
  | false =>
    rw [dropsFeed, hexpired, Bool.false_or, Bool.and_eq_true, Bool.and_eq_true,
      Bool.not_eq_true', EntryMap.has_eq_false_iff, decide_eq_true_eq] at h
    obtain ⟨⟨hnone, hfull⟩, hsome⟩ := h
    obtain ⟨evicted, hevict⟩ := Option.isSome_iff_exists.mp hsome
    obtain ⟨before, hbefore⟩ := has_evictable hevict
    refine ⟨evicted, before, hbefore, fun entry hentry => ?_⟩
    unfold entryForWorld at hentry
    simp only [pruneExpired_of_none hexpired, hnone, Option.map_none, Option.getD_none]
      at hentry
    unfold makeRoom at hentry
    rw [if_neg (Nat.not_lt.mpr hfull), hevict] at hentry
    rcases get?_addWorld hentry with hkept | hnew
    · rw [EntryMap.get?_delete, if_pos rfl] at hkept
      cases hkept
    · exact hnew

/-- If looking a world up drops no feed, it touches the entry of the world, or it adds one or
fails. -/
lemma entryForWorld_of_keeps (h : registry.dropsFeed around.accessMs worldId = false) :
    (∃ entry, registry.feeds.get? worldId = some entry ∧
      registry.entryForWorld around worldId
        = (registry.put worldId { entry with lastAccessMs := around.accessMs },
            .ok { entry with lastAccessMs := around.accessMs })) ∨
    registry.feeds.get? worldId = none ∧
      ((∃ error, registry.entryForWorld around worldId = (registry, .error error)) ∨
        ∃ feed, feed.streamId = around.streamId ∧ registry.entryForWorld around worldId
          = (registry.put worldId (.new feed around.accessMs),
              .ok (.new feed around.accessMs))) := by
  rw [dropsFeed, Bool.or_eq_false_iff] at h
  obtain ⟨hexpired, hroom⟩ := h
  unfold entryForWorld
  simp only [pruneExpired_of_none hexpired]
  cases hfound : registry.feeds.get? worldId with
  | some found => exact .inl ⟨found, rfl, rfl⟩
  | none =>
    refine .inr ⟨rfl, ?_⟩
    rw [Option.map_none, Option.getD_none]
    unfold makeRoom
    split
    · exact addWorld_cases registry around worldId
    next hfull =>
      rw [EntryMap.has_eq_false_iff.mpr hfound, decide_eq_true (Nat.not_lt.mp hfull),
        Bool.not_false, Bool.true_and, Bool.true_and, Option.isSome_eq_false_iff,
        Option.isNone_iff_eq_none] at hroom
      rw [hroom]
      exact .inl ⟨_, rfl⟩

/-! ### Calls of a region -/

/-- Whatever a call does within a world, what was dropped before stays dropped. -/
lemma not_unchanged_of_dropped {registry accessed after : LivemapRegistry}
    (hfresh : ∀ other entry, registry.feeds.get? other = some entry →
      entry.feed.streamId ≠ around.streamId)
    (hdropped : ∃ other before, registry.feeds.get? other = some before ∧
      ∀ entry, accessed.feeds.get? other = some entry →
        other = worldId ∧ entry.feed.streamId = around.streamId)
    (hafter : ∀ other entry, after.feeds.get? other = some entry →
      ∃ entry', accessed.feeds.get? other = some entry' ∧
        entry.feed.streamId = entry'.feed.streamId) :
    ¬ registry.Unchanged after := by
  intro hunchanged
  obtain ⟨other, before, hbefore, hgone⟩ := hdropped
  obtain ⟨entry, hentry, hsame⟩ := hunchanged other before hbefore
  obtain ⟨entry', hentry', hstream⟩ := hafter other entry hentry
  have hnew := (hgone entry' hentry').2
  have hold : entry.feed.streamId = before.feed.streamId :=
    congrArg LiveSnapshot.streamId hsame.feed.snapshot
  exact hfresh other before hbefore (hold.symm.trans (hstream.trans hnew))

/-- Working on the entry of a world keeps the other worlds and the name of the stream. -/
lemma within_keeps {α : Type} {accessed : LivemapRegistry}
    {done : RegistryEntry × Except LivemapError α}
    (hentry : accessed.feeds.get? worldId = some entry)
    (hstream : done.1.feed.streamId = entry.feed.streamId) :
    ∀ other found, (accessed.within worldId done).1.feeds.get? other = some found →
      ∃ entry', accessed.feeds.get? other = some entry' ∧
        found.feed.streamId = entry'.feed.streamId := by
  intro other found hfound
  rw [within, get?_put] at hfound
  split at hfound
  next heq =>
    cases hfound
    exact ⟨entry, heq ▸ hentry, hstream⟩
  · exact ⟨found, hfound, rfl⟩

end LivemapRegistry

namespace RegistryEntry

lemma streamId_orRefuse_publish (entry : RegistryEntry) (around : Surroundings)
    (regionId : String) (checks : Except LivemapError RegionPublication) (initialized : Bool) :
    (orRefuse entry checks fun publication =>
      entry.publish around regionId publication initialized).1.feed.streamId
        = entry.feed.streamId := by
  rcases orRefuse_cases entry checks
      (fun publication => entry.publish around regionId publication initialized)
    with ⟨error, -, heq⟩ | ⟨publication, -, heq⟩
  · rw [heq]
  · rw [heq]
    exact streamId_publish entry around regionId publication initialized

end RegistryEntry

namespace LivemapRegistry

variable {registry : LivemapRegistry} {around : Surroundings} {worldId regionId : String}

/-- Whether nothing is lost if the first snapshot of a region fails: the region has no name, or no
feed is dropped and no listener fails. -/
def isHarmlessInitialization (registry : LivemapRegistry) (around : Surroundings)
    (worldId regionId : String) (snapshot : RegionSnapshot) : Bool :=
  !isRegionId regionId ||
    (!registry.dropsFeed around.accessMs worldId &&
      (registry.feeds.get? worldId).all fun entry =>
        !entry.failsToDeliver (entry.initialization around worldId regionId snapshot))

lemma initializeRegion_failed_iff {snapshot : RegionSnapshot}
    (hfresh : ∀ other entry, registry.feeds.get? other = some entry →
      entry.feed.streamId ≠ around.streamId)
    (h : (registry.initializeRegion around worldId regionId snapshot).2.isOk = false) :
    registry.Unchanged (registry.initializeRegion around worldId regionId snapshot).1
      ↔ registry.isHarmlessInitialization around worldId regionId snapshot = true := by
  unfold initializeRegion isHarmlessInitialization at *
  cases hregion : isRegionId regionId with
  | false => exact iff_of_true (.refl registry) rfl
  | true =>
    rw [hregion] at h
    simp only [require, if_true, orRefuse, Bool.not_true, Bool.false_or] at h ⊢
    cases hdrops : registry.dropsFeed around.accessMs worldId with
    | true =>
      refine iff_of_false ?_ (by simp)
      refine not_unchanged_of_dropped hfresh (dropped_of_entryForWorld hdrops) ?_
      intro other entry hentry
      split at hentry
      · exact ⟨entry, hentry, rfl⟩
      next found hfound =>
        exact within_keeps (entryForWorld_ok hfound)
          (RegistryEntry.streamId_orRefuse_publish found around regionId _ true)
          other entry hentry
    | false =>
      rw [Bool.not_false, Bool.true_and]
      rcases entryForWorld_of_keeps hdrops with
        ⟨entry, hentry, heq⟩ | ⟨hnone, ⟨error, heq⟩ | ⟨feed, hstream, heq⟩⟩
      · rw [heq] at h ⊢
        rw [hentry, Option.all_some, Bool.not_eq_true']
        change registry.Unchanged ((registry.put worldId _).put worldId _) ↔ _
        rw [unchanged_congr (put_put _ _ _ _), unchanged_put_iff hentry]
        exact (RegistryEntry.touched_unchanged_iff entry around.accessMs _).symm.trans
          (RegistryEntry.orRefuse_publish_failed_iff h)
      · rw [heq, hnone]
        exact iff_of_true (.refl registry) rfl
      · rw [heq, hnone]
        refine iff_of_true ?_ rfl
        change registry.Unchanged ((registry.put worldId _).put worldId _)
        rw [unchanged_congr (put_put _ _ _ _)]
        exact unchanged_put_new hnone _

/-- Whether nothing is lost if a delta of a region fails: no feed has expired and no listener
fails. -/
def isHarmlessDelta (registry : LivemapRegistry) (around : Surroundings) (nowMs : Int)
    (worldId regionId : String) (input : DeltaInput) : Bool :=
  !registry.anyExpired nowMs &&
    (registry.feeds.get? worldId).all fun entry =>
      !entry.failsToDeliver (entry.regionDelta around worldId regionId input)

lemma initializedWorld_cases (registry : LivemapRegistry) (nowMs : Int) (worldId : String) :
    registry.initializedWorld nowMs worldId = (registry.pruneExpired nowMs, none) ∨
      ∃ entry, (registry.pruneExpired nowMs).feeds.get? worldId = some entry ∧
        registry.initializedWorld nowMs worldId
          = ((registry.pruneExpired nowMs).put worldId { entry with lastAccessMs := nowMs },
              some { entry with lastAccessMs := nowMs }) := by
  unfold initializedWorld
  cases hfound : ((registry.pruneExpired nowMs).feeds.get? worldId).filter
      RegistryEntry.initialized with
  | none => exact .inl (by simp only [hfound]; rfl)
  | some entry =>
    exact .inr ⟨entry, (Option.filter_eq_some_iff.mp hfound).1, by simp only [hfound]; rfl⟩

/-- What has expired is gone, whatever is put in the place of a world that has not. -/
lemma not_unchanged_of_expired {after : LivemapRegistry} {nowMs : Int} {entry : RegistryEntry}
    (hexpired : registry.anyExpired nowMs = true)
    (hentry : (registry.pruneExpired nowMs).feeds.get? worldId = some entry)
    (hafter : ∀ other, other ≠ worldId → (registry.pruneExpired nowMs).feeds.get? other = none →
      after.feeds.get? other = none) :
    ¬ registry.Unchanged after := by
  intro hunchanged
  obtain ⟨other, before, hbefore, hgone⟩ := exists_pruned hexpired
  obtain ⟨found, hfound, -⟩ := hunchanged other before hbefore
  have hne : other ≠ worldId := by
    rintro rfl
    rw [hgone] at hentry
    cases hentry
  rw [hafter other hne hgone] at hfound
  cases hfound

lemma publishRegionDelta_failed_iff {nowMs : Int} {input : DeltaInput}
    (h : (registry.publishRegionDelta around nowMs worldId regionId input).2.isOk = false) :
    registry.Unchanged (registry.publishRegionDelta around nowMs worldId regionId input).1
      ↔ registry.isHarmlessDelta around nowMs worldId regionId input = true := by
  unfold publishRegionDelta isHarmlessDelta at *
  rcases registry.initializedWorld_cases nowMs worldId with hnone | ⟨entry, hentry, heq⟩
  · rw [hnone] at h
    cases h
  · simp only [heq, Option.map_some, Option.getD_some] at h ⊢
    cases hexpired : registry.anyExpired nowMs with
    | true =>
      refine iff_of_false (not_unchanged_of_expired hexpired hentry ?_) (by simp)
      intro other hne hgone
      change ((registry.pruneExpired nowMs).put worldId _ |>.put worldId _).feeds.get? other
        = none
      rw [get?_put, if_neg hne, get?_put, if_neg hne]
      exact hgone
    | false =>
      rw [pruneExpired_of_none hexpired] at hentry h ⊢
      have hfailed : (RegistryEntry.publishRegionDelta { entry with lastAccessMs := nowMs }
          around worldId regionId input).2.isOk = false := by
        cases hresult : (RegistryEntry.publishRegionDelta { entry with lastAccessMs := nowMs }
            around worldId regionId input).2 with
        | error error => rfl
        | ok delta =>
          simp only [within, hresult] at h
          cases h
      rw [hentry, Option.all_some, Bool.not_false, Bool.true_and, Bool.not_eq_true']
      change registry.Unchanged ((registry.put worldId _).put worldId _) ↔ _
      rw [unchanged_congr (put_put _ _ _ _), unchanged_put_iff hentry]
      exact (RegistryEntry.touched_unchanged_iff entry nowMs _).symm.trans
        (RegistryEntry.orRefuse_publish_failed_iff hfailed)

/-- Whether nothing is lost if an operational snapshot of a region fails: it is refused before the
world is looked up, or no feed has expired and neither has one when the delta is published. -/
def isHarmlessOperational (registry : LivemapRegistry) (around : Surroundings)
    (worldId regionId : String) (snapshot : OperationalLivemapRegionSnapshot) : Bool :=
  (operationalFrame regionId snapshot).toOption.all fun frame =>
    !registry.anyExpired around.accessMs &&
      (registry.feeds.get? worldId).all fun entry =>
        (entry.operationalDelta regionId snapshot.atS snapshot.trains frame).toOption.all
          fun input =>
            (registry.put worldId { entry with lastAccessMs := around.accessMs }).isHarmlessDelta
              around around.deltaAccessMs worldId regionId input

/-- A registry in which one entry was touched is as good as before. -/
lemma touched_put_unchanged_iff {nowMs : Int} {entry : RegistryEntry} {after : LivemapRegistry}
    (hentry : registry.feeds.get? worldId = some entry) :
    (registry.put worldId { entry with lastAccessMs := nowMs }).Unchanged after
      ↔ registry.Unchanged after := by
  constructor
  · intro h other before hbefore
    by_cases hother : other = worldId
    · subst hother
      rw [hentry] at hbefore
      cases hbefore
      obtain ⟨found, hfound, hsame⟩ := h other { entry with lastAccessMs := nowMs }
        (by rw [get?_put, if_pos rfl])
      exact ⟨found, hfound, (RegistryEntry.touched_unchanged_iff entry nowMs found).mp hsame⟩
    · exact h other before (by rw [get?_put, if_neg hother]; exact hbefore)
  · intro h other before hbefore
    rw [get?_put] at hbefore
    split at hbefore
    next hother =>
      cases hbefore
      subst hother
      obtain ⟨found, hfound, hsame⟩ := h other entry hentry
      exact ⟨found, hfound, (RegistryEntry.touched_unchanged_iff entry nowMs found).mpr hsame⟩
    · exact h other before hbefore

lemma get?_publishRegionDelta_none {nowMs : Int} {input : DeltaInput} {other : String}
    (hne : other ≠ worldId) (hnone : registry.feeds.get? other = none) :
    (registry.publishRegionDelta around nowMs worldId regionId input).1.feeds.get? other
      = none := by
  have hpruned : (registry.pruneExpired nowMs).feeds.get? other = none := by
    rw [get?_pruneExpired, hnone]
    rfl
  unfold publishRegionDelta
  rcases registry.initializedWorld_cases nowMs worldId with heq | ⟨entry, -, heq⟩
  · rw [heq]
    exact hpruned
  · simp only [heq, Option.map_some, Option.getD_some]
    change ((registry.pruneExpired nowMs).put worldId _ |>.put worldId _).feeds.get? other = none
    rw [get?_put, if_neg hne, get?_put, if_neg hne]
    exact hpruned

lemma publishOperationalRegionSnapshot_failed_iff {snapshot : OperationalLivemapRegionSnapshot}
    (h : (registry.publishOperationalRegionSnapshot around worldId regionId snapshot).2.isOk
      = false) :
    registry.Unchanged
        (registry.publishOperationalRegionSnapshot around worldId regionId snapshot).1
      ↔ registry.isHarmlessOperational around worldId regionId snapshot = true := by
  unfold publishOperationalRegionSnapshot isHarmlessOperational at *
  cases hframe : operationalFrame regionId snapshot with
  | error error => exact iff_of_true (.refl registry) rfl
  | ok frame =>
    simp only [hframe, orRefuse] at h ⊢
    change _ ↔ (!registry.anyExpired around.accessMs && _) = true
    rcases registry.initializedWorld_cases around.accessMs worldId with
      hnone | ⟨entry, hentry, heq⟩
    · rw [hnone] at h
      cases h
    · simp only [heq, Option.map_some, Option.getD_some] at h ⊢
      have htouched : RegistryEntry.operationalDelta
          { entry with lastAccessMs := around.accessMs } regionId snapshot.atS snapshot.trains
            frame = entry.operationalDelta regionId snapshot.atS snapshot.trains frame := rfl
      rw [htouched] at h ⊢
      cases hexpired : registry.anyExpired around.accessMs with
      | true =>
        refine iff_of_false (not_unchanged_of_expired hexpired hentry ?_) (by simp)
        intro other hne hgone
        split
        · rw [get?_put, if_neg hne]
          exact hgone
        · refine get?_publishRegionDelta_none hne ?_
          rw [get?_put, if_neg hne]
          exact hgone
      | false =>
        rw [pruneExpired_of_none hexpired] at hentry h ⊢
        rw [hentry, Option.all_some, Bool.not_false, Bool.true_and]
        cases hdelta :
            entry.operationalDelta regionId snapshot.atS snapshot.trains frame with
        | error error =>
          refine iff_of_true ?_ rfl
          exact (touched_put_unchanged_iff hentry).mp (.refl _)
        | ok input =>
          rw [hdelta] at h
          change registry.Unchanged (LivemapRegistry.publishRegionDelta _ around
            around.deltaAccessMs worldId regionId input).1 ↔ _
          rw [← touched_put_unchanged_iff hentry]
          exact publishRegionDelta_failed_iff h

end LivemapRegistry

/-- The three calls by which a region publishes. -/
inductive RegionCall where
  | initializeRegion (snapshot : RegionSnapshot)
  | publishRegionDelta (nowMs : Int) (input : DeltaInput)
  | publishOperationalRegionSnapshot (snapshot : OperationalLivemapRegionSnapshot)

namespace LivemapRegistry

def call (registry : LivemapRegistry) (around : Surroundings) (worldId regionId : String) :
    RegionCall → LivemapRegistry × Except LivemapError (Option LiveDelta)
  | .initializeRegion snapshot =>
    let done := registry.initializeRegion around worldId regionId snapshot
    (done.1, done.2.map some)
  | .publishRegionDelta nowMs input =>
    registry.publishRegionDelta around nowMs worldId regionId input
  | .publishOperationalRegionSnapshot snapshot =>
    registry.publishOperationalRegionSnapshot around worldId regionId snapshot

/-- Whether nothing is lost if a call of a region fails. -/
def isHarmless (registry : LivemapRegistry) (around : Surroundings) (worldId regionId : String) :
    RegionCall → Bool
  | .initializeRegion snapshot =>
    registry.isHarmlessInitialization around worldId regionId snapshot
  | .publishRegionDelta nowMs input =>
    registry.isHarmlessDelta around nowMs worldId regionId input
  | .publishOperationalRegionSnapshot snapshot =>
    registry.isHarmlessOperational around worldId regionId snapshot

lemma call_failed_iff (registry : LivemapRegistry) (around : Surroundings)
    (worldId regionId : String) (call : RegionCall)
    (hfresh : ∀ other entry, registry.feeds.get? other = some entry →
      entry.feed.streamId ≠ around.streamId)
    (h : (registry.call around worldId regionId call).2.isOk = false) :
    registry.Unchanged (registry.call around worldId regionId call).1
      ↔ registry.isHarmless around worldId regionId call = true := by
  cases call with
  | initializeRegion snapshot =>
    refine initializeRegion_failed_iff hfresh ?_
    cases hresult : (registry.initializeRegion around worldId regionId snapshot).2 with
    | error error => rfl
    | ok delta =>
      simp only [LivemapRegistry.call, hresult] at h
      cases h
  | publishRegionDelta nowMs input => exact publishRegionDelta_failed_iff h
  | publishOperationalRegionSnapshot snapshot =>
    exact publishOperationalRegionSnapshot_failed_iff h

end LivemapRegistry

/-- **Calls that fail.**  A publication that fails leaves what the feed shows and remembers exactly
if no listener fails on the delta that has passed all checks.  A call of a region that fails leaves
every feed and what its regions own exactly if besides no feed is dropped when the world is looked
up.  New streams have new names. -/
theorem failed_unchanged_iff (feed : LivemapFeed) (nowMs : Int) (input : DeltaInput)
    (registry : LivemapRegistry) (around : Surroundings) (worldId regionId : String)
    (call : RegionCall)
    (hfresh : ∀ other entry, registry.feeds.get? other = some entry →
      entry.feed.streamId ≠ around.streamId) :
    ((feed.publish nowMs input).2.isOk = false →
      (feed.Unchanged (feed.publish nowMs input).1 ↔ feed.failsToDeliver input = false)) ∧
    ((registry.call around worldId regionId call).2.isOk = false →
      (registry.Unchanged (registry.call around worldId regionId call).1
        ↔ registry.isHarmless around worldId regionId call = true)) :=
  ⟨fun h => LivemapFeed.publish_failed_iff h,
    fun h => registry.call_failed_iff around worldId regionId call hfresh h⟩

def smallTrain : PublicTrain where
  id := "RE1"
  operator := "Bahn"
  trainNumber := "1"
  category := "RE"
  positionMm := 0
  speedMmPerSecond := 0
  status := "running"

/-- A registry with room for one world. -/
def smallRegistry : LivemapRegistry where
  maxFeeds := 1
  idleTtlMs := 3600000
  historyLimit := 256
  feeds := .empty
  operationMarkerTimelines := .empty

/-- The surroundings of a call at a time, with a name for a new stream. -/
def plainSurroundings (nowMs : Int) (streamId : String) : Surroundings where
  accessMs := nowMs
  deltaAccessMs := nowMs
  publishedMs := nowMs
  streamId := streamId

/-- The only world has one region with one train. -/
def crowdedRegistry : LivemapRegistry :=
  (smallRegistry.initializeRegion (plainSurroundings 0 "s1") "w1" "r1"
    { atS := 0, trains := [smallTrain] }).1

/-- A new snapshot of the region is refused because of a train that occurs twice. -/
theorem failed_unchanged_iff_twice :
    crowdedRegistry.Unchanged (crowdedRegistry.call (plainSurroundings 1 "s2") "w1" "r1"
      (.initializeRegion { atS := 1, trains := [smallTrain, smallTrain] })).1 := by
  have hfresh : ∀ other entry, crowdedRegistry.feeds.get? other = some entry →
      entry.feed.streamId ≠ (plainSurroundings 1 "s2").streamId := by
    intro other entry hentry
    have hall : ∀ found ∈ crowdedRegistry.feeds.entries, found.2.feed.streamId ≠ "s2" := by
      decide +kernel
    exact hall (other, entry) (EntryMap.get?_eq_some_iff.mp hentry)
  have hrefused := (failed_unchanged_iff (LivemapFeed.new "w1" 256 "s1") 0 { atS := 0 }
    crowdedRegistry (plainSurroundings 1 "s2") "w1" "r1"
    (.initializeRegion { atS := 1, trains := [smallTrain, smallTrain] }) hfresh).2
  exact (hrefused (by decide +kernel)).mpr (by decide +kernel)

/-- The first snapshot of a second world is refused because of a train that occurs twice; the first
world has made room for it and is gone with its train.  And a publication whose listener fails has
been written all the same. -/
theorem not_every_failure_unchanged :
    ((crowdedRegistry.call (plainSurroundings 1 "s2") "w2" "r1"
        (.initializeRegion { atS := 0, trains := [smallTrain, smallTrain] })).2.isOk = false ∧
      ¬ crowdedRegistry.Unchanged (crowdedRegistry.call (plainSurroundings 1 "s2") "w2" "r1"
        (.initializeRegion { atS := 0, trains := [smallTrain, smallTrain] })).1) ∧
    (((LivemapFeed.new "w1" 256 "s1").subscribe 1 fun _ => true).publish 0
        { atS := 0, changed := [smallTrain] }).2.isOk = false ∧
      ¬ ((LivemapFeed.new "w1" 256 "s1").subscribe 1 fun _ => true).Unchanged
        (((LivemapFeed.new "w1" 256 "s1").subscribe 1 fun _ => true).publish 0
          { atS := 0, changed := [smallTrain] }).1 := by
  refine ⟨⟨by decide +kernel, fun hunchanged => ?_⟩, by decide +kernel, fun hunchanged => ?_⟩
  · obtain ⟨entry, hentry⟩ : ∃ entry, crowdedRegistry.feeds.get? "w1" = some entry :=
      Option.isSome_iff_exists.mp (by decide +kernel)
    obtain ⟨found, hfound, -⟩ := hunchanged "w1" entry hentry
    have hnone : ((crowdedRegistry.call (plainSurroundings 1 "s2") "w2" "r1"
        (.initializeRegion
          { atS := 0, trains := [smallTrain, smallTrain] })).1.feeds.get? "w1").isNone = true := by
      decide +kernel
    rw [hfound] at hnone
    cases hnone
  · have hsequence := congrArg LiveSnapshot.sequence hunchanged.snapshot
    revert hsequence
    decide +kernel

end Zugfolge.Livemap
