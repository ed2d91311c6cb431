/-
A batch of dispatch requests, tried in one pass.

Which train is tried first is decided by the priorities, not by the order in which the
requests are handed in, so the order of a batch does not matter.  A request that is refused
stays refused for the rest of the pass: routes given to other trains only add locks.

* `locks_named`: in which runs no lock has a name that a lock of another train will get;
* `Refuses`, `Aside.refuses`: a route that is refused to a train stays refused;
* `submitDispatchRequests_order`: a batch in another order does the same;
* `submitDispatchRequests_maximal`: nothing is left behind that could be locked.
-/
import Zugfolge.Safety.Stops
import Zugfolge.Safety.Switches
import Zugfolge.Foundation.Blocks
import Zugfolge.Foundation.Collect

namespace Zugfolge

open Foundation

/-! ### The names of locks -/

/-- A name is that of one number and of one text behind it. -/
lemma lockName_inj {n m : ℕ} {a b c d : String} (h : s!"{n}:{a}:{b}" = s!"{m}:{c}:{d}") :
    n = m ∧ a.toList ++ ':' :: b.toList = c.toList ++ ':' :: d.toList := by
  have htext : ∀ (k : ℕ) (first second : String), (s!"{k}:{first}:{second}").toList
      = Nat.toDigits 10 k ++ ':' :: (first.toList ++ ':' :: second.toList) := by
    intro k first second
    change (k.repr ++ ":" ++ first ++ ":" ++ second).toList = _
    simp [String.toList_append, Nat.toList_repr]
  have hfree : ∀ k : ℕ, ':' ∉ Nat.toDigits 10 k := by
    intro k hin
    cases Nat.isDigit_of_mem_toDigits (by decide) (by decide) hin
  have hchars := congrArg String.toList h
  rw [htext, htext] at hchars
  obtain ⟨hdigits, hrest⟩ := append_mark_inj (hfree n) (hfree m) hchars
  have hvalue := congrArg (Nat.ofDigitChars 10 · 0) hdigits
  exact ⟨by simpa [Nat.ofDigitChars_ten_toDigits] using hvalue, hrest⟩

lemma colon_inj {a b c d : String} (hc : ':' ∉ c.toList) (hd : ':' ∉ d.toList)
    (h : a.toList ++ ':' :: b.toList = c.toList ++ ':' :: d.toList) : a = c ∧ b = d := by
  have hcount := congrArg (List.count ':') h
  simp only [List.count_append, List.count_cons_self, List.count_eq_zero_of_not_mem hc,
    List.count_eq_zero_of_not_mem hd] at hcount
  have ha : ':' ∉ a.toList := List.count_eq_zero.mp (by omega)
  obtain ⟨hfirst, hsecond⟩ := append_mark_inj ha hc h
  exact ⟨String.toList_injective hfirst, String.toList_injective hsecond⟩

namespace OperationalWorld

/-- A lock that bears the name of a lock still to come is a lock of the same train on the
same resources. -/
def LocksNamed (w : OperationalWorld) : Prop :=
  ∀ (n : ℕ) (trainId templateId : String) (template : InterlockingRouteTemplate)
    (lock : RouteLock), w.eventSequence < n →
    w.infra.interlockingRoute templateId = some template →
    w.routeLocks[s!"{n}:{trainId}:{templateId}"]? = some lock →
    lock.trainId = trainId ∧ lock.resources = template.allResources

lemma LocksNamed.insert {v w : OperationalWorld} (h : v.LocksNamed)
    {trainId templateId : String} {lock : RouteLock} (hinfra : w.infra = v.infra)
    (hlocks : w.routeLocks = v.routeLocks.insert (v.nextLockId trainId templateId) lock)
    (hevents : w.eventSequence = v.eventSequence + 1) : w.LocksNamed := by
  intro n id routeId template found hn htemplate hfound
  rw [hlocks, Registry.getElem?_insert] at hfound
  split at hfound
  case isTrue heq =>
    have hsame := (lockName_inj heq).1
    omega
  case isFalse =>
    rw [hinfra] at htemplate
    exact h n id routeId template found (by omega) htemplate hfound

lemma LocksNamed.of_le {v w : OperationalWorld} (h : v.LocksNamed) (hinfra : w.infra = v.infra)
    (hlocks : w.routeLocks = v.routeLocks) (hevents : v.eventSequence ≤ w.eventSequence) :
    w.LocksNamed := by
  intro n id routeId template found hn htemplate hfound
  rw [hinfra] at htemplate
  rw [hlocks] at hfound
  exact h n id routeId template found (by omega) htemplate hfound

end OperationalWorld

/-- The lock bears the number of an event with its train and its template, whose names have no
colon, and it locks the resources of the template. -/
def RouteLock.IsNamed (lock : RouteLock) (key : String)
    (routeOf : String → Option InterlockingRouteTemplate) : Prop :=
  (∃ n : ℕ, key = s!"{n}:{lock.trainId}:{lock.templateId}")
    ∧ ':' ∉ lock.trainId.toList ∧ ':' ∉ lock.templateId.toList
    ∧ ∃ template, routeOf lock.templateId = some template
      ∧ lock.resources = template.allResources

/-- The locks of a message are named. -/
def LocksNamedIn (handover : RegionHandover) : Prop :=
  ∀ (key : String) (lock : RouteLock), handover.routeLocks[key]? = some lock →
    lock.IsNamed key (handover.interlockingRoutes[·]?)

/-- The locks of a world and of the messages it prepares are named. -/
structure NamesKept (w : OperationalWorld) : Prop where
  locks : ∀ (key : String) (lock : RouteLock), w.routeLocks[key]? = some lock →
    lock.IsNamed key w.infra.interlockingRoute
  carried : ∀ (key : String) (handover : RegionHandover),
    w.preparedHandovers[key]? = some handover → LocksNamedIn handover

/-- The names of a train and a template that a visit locks have no colon. -/
def namesPlainly (v : Visit) : Bool :=
  match v.act with
  | .lockRoute trainId templateId =>
    !trainId.toList.contains ':' && !templateId.toList.contains ':'
  | _ => true

namespace NamesKept

variable {w w' : OperationalWorld}

lemma locksNamed (h : NamesKept w) : w.LocksNamed := by
  intro n trainId templateId template lock _ htemplate hlock
  obtain ⟨⟨m, hkey⟩, htrain, hroute, own, hown, hresources⟩ := h.locks _ lock hlock
  obtain ⟨rfl, rfl⟩ := colon_inj htrain hroute (lockName_inj hkey).2
  rw [htemplate] at hown
  cases hown
  exact ⟨rfl, hresources⟩

lemma of_network (hsame : SameNetwork w w') (h : NamesKept w) : NamesKept w' where
  locks key lock hlock := hsame.infra ▸ h.locks key lock (hsame.locks key lock hlock)
  carried key handover hkey := h.carried key handover (hsame.preparedHandovers ▸ hkey)

/-- A step keeps the locks named, if its visits name plainly. -/
lemma step {d d' : Debt} {vs : List Visit} (hstep : Step d w vs d' w')
    (hletters : ∀ handover ∈ d.letters, LocksNamedIn handover)
    (hok : ∀ v ∈ vs, namesPlainly v = true) (h : NamesKept w) : NamesKept w' := by
  cases hstep.networkEffect with
  | kept hsame => exact .of_network hsame h
  | @locked trainId templateId lockId _ train template hvs hadmitted _ hname =>
    have hplain := hok ⟨w, .lockRoute trainId templateId⟩ (by simp [hvs])
    simp only [namesPlainly, Bool.and_eq_true, Bool.not_eq_true', ← Bool.not_eq_true,
      List.contains_iff_mem] at hplain
    refine .of_network (w.commitRouteLock_network train trainId templateId lockId template)
      ⟨fun key lock hlock => ?_, h.carried⟩
    rw [Registry.getElem?_insert] at hlock
    split at hlock
    case isTrue heq =>
      cases hlock
      exact ⟨⟨w.eventSequence + 1, heq.trans hname⟩, hplain.1, hplain.2, template,
        w.admitRoute_template hadmitted, rfl⟩
    case isFalse => exact h.locks key lock hlock
  | disrupted | cleared => exact ⟨h.locks, h.carried⟩
  | @begun _ _ _ _ _ _ handover hprepared hsame =>
    refine .of_network hsame ⟨h.locks, fun key other hother => ?_⟩
    rw [Registry.getElem?_insert] at hother
    split at hother
    case isTrue =>
      cases hother
      intro key lock hlock
      obtain ⟨template, htemplate, hroute⟩ := hprepared.routesOf.known key lock hlock
      rw [hprepared.locks, Registry.getElem?_filter, Option.filter_eq_some_iff] at hlock
      obtain ⟨hkey, htrain, hplain, own, hown, hresources⟩ := h.locks key lock hlock.1
      cases hown.symm.trans htemplate
      exact ⟨hkey, htrain, hplain, _, hroute, hresources⟩
    case isFalse => exact h.carried key other hother
  | @accepted _ handover hletter hadmitted hsame =>
    refine .of_network hsame ⟨fun key lock hlock => ?_, h.carried⟩
    rw [Registry.getElem?_union, Option.or_eq_some_iff] at hlock
    rcases hlock with hlock | ⟨-, hlock⟩
    · obtain ⟨hkey, htrain, hplain, own, hown, hresources⟩ := hletters _ hletter key lock hlock
      exact ⟨hkey, htrain, hplain, own, (w.admitHandover_agrees hadmitted).2.1 _ _ hown,
        hresources⟩
    · exact h.locks key lock hlock
  | finished hsame =>
    refine .of_network hsame ⟨h.locks, fun key other hother => h.carried key other ?_⟩
    rw [Registry.getElem?_erase] at hother
    split at hother
    case isTrue => cases hother
    case isFalse => exact hother

end NamesKept

/-- **The names of locks.**  In every run whose names have no colon, a lock that bears the name of a
lock still to come is a lock of the same train on the same resources. -/
theorem locks_named {env : Env} {first last : Network} {visits : List Visit}
    (hstart : first.IsStart) (hrun : Network.Run env first visits last)
    (hok : ∀ v ∈ visits, namesPlainly v = true) (regionId : String) (w : OperationalWorld)
    (hw : last.worlds[regionId]? = some w) : w.LocksNamed := by
  have hinvariant : NetworkInvariant (fun _ _ w => NamesKept w) LocksNamedIn
      fun v => namesPlainly v = true :=
    { step := NamesKept.step, relabel := id, acknowledged := id
      prepared := fun h hkey => h.carried _ _ hkey }
  refine ((hinvariant.holds (fun _ _ _ _ => ?_) hstart hrun hok).1 regionId w hw).locksNamed
  exact ⟨fun key _ hlock => by simp [OperationalWorld.new] at hlock,
    fun key _ hkey => by simp [OperationalWorld.new] at hkey⟩

/-! ### What happens to other trains -/

/-- Where a train stands, for the other trains. -/
def OperationalTrain.place (train : OperationalTrain) : String × KeySet String :=
  (train.id, train.occupiedBlocks)

/-- From `w` to `w'` routes were given to other trains, and other trains were started; the
train itself has at most been told to wait. -/
structure Aside (trainId : String) (w w' : OperationalWorld) : Prop where
  infra : w'.infra = w.infra
  formations : w'.formations = w.formations
  activeDisruptions : w'.activeDisruptions = w.activeDisruptions
  preparedHandovers : w'.preparedHandovers = w.preparedHandovers
  hold : w'.fareControlHold trainId = w.fareControlHold trainId
  revoked : w'.fareControlAuthorityRevoked trainId = w.fareControlAuthorityRevoked trainId
  stop : w'.infrastructureDisruptionStops[trainId]? = w.infrastructureDisruptionStops[trainId]?
  train : (w'.trains[trainId]?).map OperationalTrain.core
    = (w.trains[trainId]?).map OperationalTrain.core
  ownLocks : w'.locksOf trainId = w.locksOf trainId
  locks : ∀ (id : String) (lock : RouteLock), w.routeLocks[id]? = some lock →
    lock.trainId ≠ trainId → ∃ lock', w'.routeLocks[id]? = some lock'
      ∧ lock'.trainId ≠ trainId ∧ lock'.resources = lock.resources
  places : ∀ id : String, (w'.trains[id]?).map OperationalTrain.place
    = (w.trains[id]?).map OperationalTrain.place

namespace Aside

variable {trainId : String} {u v w : OperationalWorld}

lemma refl (trainId : String) (w : OperationalWorld) : Aside trainId w w where
  infra := rfl
  formations := rfl
  activeDisruptions := rfl
  preparedHandovers := rfl
  hold := rfl
  revoked := rfl
  stop := rfl
  train := rfl
  ownLocks := rfl
  locks _ lock hlock hother := ⟨lock, hlock, hother, rfl⟩
  places _ := rfl

lemma trans (h : Aside trainId u v) (k : Aside trainId v w) : Aside trainId u w where
  infra := k.infra.trans h.infra
  formations := k.formations.trans h.formations
  activeDisruptions := k.activeDisruptions.trans h.activeDisruptions
  preparedHandovers := k.preparedHandovers.trans h.preparedHandovers
  hold := k.hold.trans h.hold
  revoked := k.revoked.trans h.revoked
  stop := k.stop.trans h.stop
  train := k.train.trans h.train
  ownLocks := k.ownLocks.trans h.ownLocks
  locks id lock hlock hother := by
    obtain ⟨middle, hmiddle, hother', hsame⟩ := h.locks id lock hlock hother
    obtain ⟨last, hlast, hother'', hsame'⟩ := k.locks id middle hmiddle hother'
    exact ⟨last, hlast, hother'', hsame'.trans hsame⟩
  places id := (k.places id).trans (h.places id)

/-- An update of a train that leaves it where it is; the train that waits keeps its core. -/
lemma updateTrain (w : OperationalWorld) {id : String} {f : OperationalTrain → OperationalTrain}
    (hplace : ∀ train, (f train).place = train.place)
    (hcore : id = trainId → ∀ train, (f train).core = train.core) :
    Aside trainId w (w.updateTrain id f) := by
  refine { refl trainId w with train := ?_, places := fun other => ?_ }
  · simp only [OperationalWorld.updateTrain, Registry.getElem?_modify]
    split
    case isTrue heq =>
      subst heq
      rw [Option.map_map]
      congr 1
      exact funext (hcore rfl)
    case isFalse => rfl
  · simp only [OperationalWorld.updateTrain, Registry.getElem?_modify]
    split
    case isTrue heq =>
      subst heq
      rw [Option.map_map]
      congr 1
      exact funext hplace
    case isFalse => rfl

/-- A lock of another train is new, or stands in for one on the same resources. -/
lemma putLock {id : String} {lock : RouteLock} (hother : lock.trainId ≠ trainId)
    (hsame : ∀ old, w.routeLocks[id]? = some old →
      old.trainId = lock.trainId ∧ old.resources = lock.resources) :
    Aside trainId w { w with routeLocks := w.routeLocks.insert id lock } := by
  have hforeign : ∀ other : RouteLock, other.trainId = lock.trainId →
      (other.trainId == trainId) = false := by
    intro other heq
    rw [heq, beq_eq_false_iff_ne]
    exact hother
  refine { refl trainId w with ownLocks := ?_, locks := fun other held hheld hapart => ?_ }
  · exact Registry.filter_values_insert (hforeign lock rfl) fun old hold =>
      hforeign old (hsame old hold).1
  · rw [Registry.getElem?_insert]
    split
    case isTrue heq =>
      subst heq
      exact ⟨lock, rfl, hother, (hsame held hheld).2.symm⟩
    case isFalse => exact ⟨held, hheld, hapart, rfl⟩

lemma authorityReissued {id : String} (hother : id ≠ trainId) :
    Aside trainId w (w.fareControlAuthorityReissued id) := by
  refine { refl trainId w with hold := ?_, revoked := ?_ }
  · unfold OperationalWorld.fareControlHold OperationalWorld.fareControlAuthorityReissued
      OperationalWorld.updateFareControl
    cases w.fareControlState <;> rfl
  · unfold OperationalWorld.fareControlAuthorityRevoked
      OperationalWorld.fareControlAuthorityReissued OperationalWorld.updateFareControl
    cases w.fareControlState with
    | none => rfl
    | some state =>
      simp [Std.ExtTreeMap.contains_erase, hother]

/-- What a new lock of another train writes. -/
lemma commitRouteLock (train : OperationalTrain) {id templateId lockId : String}
    (template : InterlockingRouteTemplate) (hother : id ≠ trainId)
    (hsame : ∀ old, w.routeLocks[lockId]? = some old →
      old.trainId = id ∧ old.resources = template.allResources) :
    Aside trainId w
      ((w.setSwitches template).commitRouteLock train id templateId lockId template) := by
  have hlock : Aside trainId w { w with
      routeLocks := w.routeLocks.insert lockId
        ((w.setSwitches template).lockFor id templateId lockId template) } := putLock hother hsame
  have hwritten : Aside trainId w { w.setSwitches template with
      resourceLifecycle :=
        Registry.fill w.resourceLifecycle template.allResources.toList .routeLocked
      signalAspects := w.signalAspects.insert template.signalId train.movementKind.aspect
      routeLocks := w.routeLocks.insert lockId
        ((w.setSwitches template).lockFor id templateId lockId template) } := { hlock with }
  have hreissued := hwritten.trans (authorityReissued hother)
  have hgiven := hreissued.trans (@updateTrain _ _ id
    (fun t => { t with
      authority := some ((w.setSwitches template).authorityFor train id lockId template) })
    (fun _ => rfl) fun heq => absurd heq hother)
  exact { hgiven with }

lemma registerRouteWait (w : OperationalWorld) (id : String) (resources : KeySet String) :
    Aside trainId w (w.registerRouteWait id resources) := by
  have hwaiting : Aside trainId w { w with
      waitingByResource := Registry.addMemberAll w.waitingByResource resources.toList id } :=
    { refl trainId w with }
  exact hwaiting.trans (updateTrain _ (fun _ => rfl) fun _ _ => rfl)

end Aside

/-! ### What one candidate does to the others -/

/-- Since `w₀` the train was left aside, and the locks are numbered. -/
def WaitsSince (trainId : String) (w₀ w : OperationalWorld) : Prop :=
  w.LocksNamed ∧ Aside trainId w₀ w

section Commands

variable {trainId : String} {w₀ : OperationalWorld}

lemma WaitsSince.of_update {v w : OperationalWorld} (h : WaitsSince trainId w₀ v)
    (hlocks : w.routeLocks = v.routeLocks) (hevents : w.eventSequence = v.eventSequence)
    (haside : Aside trainId v w) : WaitsSince trainId w₀ w :=
  ⟨h.1.of_le haside.infra hlocks hevents.ge, h.2.trans haside⟩

lemma record_aside (kind subjectId : String) (detail : EventDetail) :
    TracedM.Preserves (WaitsSince trainId w₀) (record kind subjectId detail) := by
  refine .bind .of_read fun _ => .bind (.of_lift _) fun _ => .bind (.of_lift _) fun _ =>
    .of_modify fun v hv => ⟨hv.1.of_le rfl rfl (Nat.le_succ _), hv.2.trans ?_⟩
  exact { Aside.refl trainId v with }

lemma record_ensures (kind subjectId : String) (detail : EventDetail) (w : OperationalWorld) :
    TracedM.Ensures (fun (_ : Unit) w' => w' = w.pushEvent kind subjectId detail)
      (record kind subjectId detail) w := by
  refine .read (.lift fun _ _ => .lift fun _ _ => ?_)
  intro _ _
  rfl

variable {id : String}

/-- A lock that is given to another train. -/
lemma lockRouteAt_aside (hother : id ≠ trainId) (templateId : String)
    (continuation registerWait : Bool) :
    TracedM.Preserves (WaitsSince trainId w₀)
      (lockRouteAt id templateId continuation registerWait) := by
  intro w hw
  refine .read (.lift fun found hadmitted => ?_)
  obtain ⟨train, template⟩ := found
  dsimp only
  split
  · split
    · exact .skip fun _ _ => .of_fail _
    · exact .of_fail _
  · refine .note (.modify (.lift fun _ _ => .modify (.call (record_ensures _ _ _ _) ?_)))
    rintro _ _ rfl
    refine .of_pure ⟨hw.1.insert rfl rfl rfl, hw.2.trans ?_⟩
    have htemplate := w.admitRoute_template hadmitted
    have hcommit := @Aside.commitRouteLock _ _ train id templateId (w.nextLockId id templateId)
      template hother fun old hold => hw.1 _ _ _ _ _ (Nat.lt_succ_self _) htemplate hold
    exact { hcommit with }

lemma lockRouteAt_refusal {id templateId : String} {continuation registerWait : Bool}
    {w : OperationalWorld} {refused : String} (hw : WaitsSince trainId w₀ w)
    (h : (lockRouteAt id templateId continuation registerWait w).result
      = .error (.refused (.unsafeRoute refused))) :
    WaitsSince trainId w₀ (lockRouteAt id templateId continuation registerWait w).state := by
  rcases lockRouteAt_refused h with ⟨hstate | ⟨resources, hstate⟩, -⟩ | ⟨-, hsafe⟩
  · rw [hstate]
    exact hw
  · rw [hstate]
    exact hw.of_update rfl rfl (Aside.registerRouteWait _ _ _)
  · exact absurd rfl (hsafe refused)

/-- A route that is refused to a train as unsafe. -/
def Refuses (trainId templateId : String) (w : OperationalWorld) : Prop :=
  ∃ refused, (lockRoute trainId templateId w).result = .error (.refused (.unsafeRoute refused))

lemma lockRoute_aside (hother : id ≠ trainId) (templateId : String) :
    TracedM.Preserves (WaitsSince trainId w₀) (lockRoute id templateId) :=
  .bind .of_read fun _ => .bind (.of_lift _) fun _ => lockRouteAt_aside hother _ _ _

lemma lockRoute_refusal {id templateId : String} {w : OperationalWorld} {refused : String}
    (hw : WaitsSince trainId w₀ w)
    (h : (lockRoute id templateId w).result = .error (.refused (.unsafeRoute refused))) :
    WaitsSince trainId w₀ (lockRoute id templateId w).state := by
  unfold lockRoute at h ⊢
  rw [M.world_bind] at h ⊢
  cases hprepared : w.ensureNotPrepared with
  | error e =>
    rw [M.check_error_bind]
    exact hw
  | ok _ =>
    rw [hprepared, M.check_ok_bind] at h
    rw [M.check_ok_bind]
    exact lockRouteAt_refusal hw h

lemma dispatchCandidate_ensures (candidate : DispatchRequest) (w : OperationalWorld) :
    TracedM.Ensures (fun given v => given = false →
        Refuses candidate.trainId candidate.interlockingRouteId w
          ∧ v = (lockRoute candidate.trainId candidate.interlockingRouteId w).state)
      (dispatchCandidate candidate) w := by
  refine .attempt ?_
  split
  · exact .skip fun _ _ => .of_pure fun h => nomatch h
  case h_2 refused hlock => exact .of_pure fun _ => ⟨⟨refused, hlock⟩, rfl⟩
  · exact .of_fail _

lemma dispatchCandidate_aside {candidate : DispatchRequest}
    (hother : candidate.trainId ≠ trainId) :
    TracedM.Preserves (WaitsSince trainId w₀) (dispatchCandidate candidate) := by
  refine .attempt (lockRoute_aside hother _) (fun _ => .bind (record_aside _ _ _)
    fun _ => .of_pure _) fun w e hw he => ?_
  split
  · cases ‹Except.error e = Except.ok _›
  case h_2 refused heq =>
    exact .of_pure (@lockRoute_refusal _ _ _ _ _ refused hw (he.trans heq))
  · exact .of_fail _

/-- One more route behind the authority of another train. -/
lemma extendAuthorityOnce_aside (hother : id ≠ trainId) :
    TracedM.Preserves (WaitsSince trainId w₀) (extendAuthorityOnce id) := by
  refine .bind .of_read fun _ => .bind (.of_lift _) fun _ => .bind (.of_lift _) fun _ =>
    .bind (.of_lift _) fun _ => ?_
  split
  · exact .of_pure _
  · split
    · exact .of_pure _
    · refine .attempt (lockRouteAt_aside hother _ _ _) (fun _ => .of_pure _)
        fun w e hw he => ?_
      split
      · cases ‹Except.error e = Except.ok _›
      case h_2 refused heq =>
        refine .of_pure (@lockRouteAt_refusal _ _ _ _ _ _ _ refused hw ?_)
        exact he.trans heq
      · exact .of_fail _

lemma extendAvailableTrainAuthority_aside (env : Env) (hother : id ≠ trainId) :
    TracedM.Preserves (WaitsSince trainId w₀) (extendAvailableTrainAuthority env id) :=
  .repeatFrom _ (fun _ => extendAuthorityOnce_aside hother) _ _

lemma finishInfrastructureAuthorityReissue_aside (hother : id ≠ trainId) :
    TracedM.Preserves (WaitsSince trainId w₀) (finishInfrastructureAuthorityReissue id) := by
  refine .bind .of_read fun _ => ?_
  split
  · exact .of_pure _
  · refine .bind (.of_lift _) fun _ => ?_
    split
    · refine .bind (.of_note _) fun _ => .of_modify fun v hv =>
        hv.of_update rfl rfl { Aside.refl trainId v with stop := ?_ }
      simp [Std.ExtTreeMap.getElem?_erase, hother]
    · exact .of_pure _

lemma passengerReceipt_aside (env : Env) (id kind : String) :
    TracedM.Preserves (WaitsSince trainId w₀) (passengerReceipt env id kind) :=
  .bind .of_read fun _ => .bind (.of_lift _) fun _ => .bind (.of_lift _) fun _ =>
    .bind (.of_lift _) fun _ => .bind (.of_lift _) fun _ => record_aside _ _ _

lemma recordPassengerDeparture_aside (env : Env) (hother : id ≠ trainId) :
    TracedM.Preserves (WaitsSince trainId w₀) (recordPassengerDeparture env id) := by
  refine .bind .of_read fun w => .bind (.of_lift _) fun train => ?_
  split
  · exact .of_pure _
  · split
    · exact .of_pure _
    · refine .bind (.of_lift _) fun _ => .bind (.of_lift _) fun _ =>
        .bind (passengerReceipt_aside env _ _) fun _ => .bind (.of_modify fun v hv => ?_)
          fun _ => .of_modify fun v hv => ?_
      · exact hv.of_update rfl rfl (Aside.updateTrain _ (fun _ => rfl) fun heq => absurd heq hother)
      · exact hv.of_update rfl rfl { Aside.refl trainId v with }

lemma planMotion_aside (env : Env) (hother : id ≠ trainId) :
    TracedM.Preserves (WaitsSince trainId w₀) (planMotion env id) := by
  refine .bind .of_read fun w => .bind (.of_lift _) fun plan => ?_
  cases plan with
  | stop reason refusal => exact fun _ _ => .skip fun _ _ => .of_fail _
  | start segment =>
    refine .bind (.of_note _) fun _ => .bind (.of_modify fun v hv => ?_) fun _ =>
      .bind (recordPassengerDeparture_aside env hother) fun _ =>
      .bind (record_aside _ _ _) fun _ => .of_pure _
    have hends : Aside trainId v { v with
        scheduledMotionEnds := v.scheduledMotionEnds.insert
          { atMs := segment.validUntilMs, trainId := id, segmentStartedAtMs := v.nowMs } } :=
      { Aside.refl trainId v with }
    exact hv.of_update rfl rfl (hends.trans (Aside.updateTrain _ (fun _ => rfl)
      fun heq => absurd heq hother))

/-- What is behind the lock of a candidate of another train. -/
lemma startCandidate_aside (env : Env) {candidate : DispatchRequest}
    (hother : candidate.trainId ≠ trainId) :
    TracedM.Preserves (WaitsSince trainId w₀) (startCandidate env candidate) := by
  refine .bind (dispatchCandidate_aside hother) fun given => ?_
  split
  · refine .bind .of_read fun _ => .bind (.of_lift _) fun train => ?_
    have hrest : TracedM.Preserves (WaitsSince trainId w₀) (do
        finishInfrastructureAuthorityReissue candidate.trainId
        let _ ← planMotion env candidate.trainId
        pure (some candidate.trainId)) :=
      .bind (finishInfrastructureAuthorityReissue_aside hother) fun _ =>
        .bind (planMotion_aside env hother) fun _ => .of_pure _
    split
    · exact .bind (extendAvailableTrainAuthority_aside env hother) fun _ => hrest
    · exact hrest
  · exact .of_pure _

end Commands

lemma startCandidate_ensures (env : Env) (candidate : DispatchRequest) (w : OperationalWorld) :
    TracedM.Ensures (fun answer v => answer = some candidate.trainId
        ∨ answer = none ∧ Refuses candidate.trainId candidate.interlockingRouteId w
          ∧ v = (lockRoute candidate.trainId candidate.interlockingRouteId w).state)
      (startCandidate env candidate) w := by
  refine .call (dispatchCandidate_ensures candidate w) fun given v hgiven => ?_
  cases given with
  | true =>
    refine .read (.lift fun train _ => ?_)
    split
    · exact .skip fun _ _ => .skip fun _ _ => .skip fun _ _ => .of_pure (.inl rfl)
    · exact .skip fun _ _ => .skip fun _ _ => .of_pure (.inl rfl)
  | false => exact .of_pure (.inr ⟨rfl, hgiven rfl⟩)

lemma startCandidate_waits {env : Env} {trainId : String} {candidate : DispatchRequest}
    {w : OperationalWorld} {answer : Option String} (hw : w.LocksNamed)
    (h : (startCandidate env candidate w).result = .ok answer)
    (hleft : ∀ id ∈ answer, id ≠ trainId) :
    WaitsSince trainId w (startCandidate env candidate w).state := by
  have hsince : WaitsSince trainId w w := ⟨hw, .refl trainId w⟩
  by_cases hsame : candidate.trainId = trainId
  · rcases startCandidate_ensures env candidate w answer h with hsome | ⟨-, hrefused, hstate⟩
    · exact absurd hsame (hleft _ hsome)
    · obtain ⟨refused, hlock⟩ := hrefused
      rw [hstate]
      exact lockRoute_refusal hsince hlock
  · exact startCandidate_aside env hsame w hsince answer h

/-! ### A refusal lasts -/

/-- A lock is refused as unsafe when the train may not have the route, or when something is
in the way. -/
lemma lockRouteAt_unsafe_iff {trainId templateId : String} {continuation registerWait : Bool}
    {w : OperationalWorld} :
    (∃ refused, (lockRouteAt trainId templateId continuation registerWait w).result
        = .error (.refused (.unsafeRoute refused)))
      ↔ (∃ refused, w.admitRoute trainId templateId continuation
            = .error (.refused (.unsafeRoute refused)))
        ∨ ∃ found, w.admitRoute trainId templateId continuation = .ok found
          ∧ w.routeConflicts trainId found.2 = true := by
  cases hadmitted : w.admitRoute trainId templateId continuation with
  | error e =>
    unfold lockRouteAt
    rw [M.world_bind, hadmitted, M.check_error_bind]
    simp
  | ok found =>
    obtain ⟨train, template⟩ := found
    by_cases hc : w.routeConflicts trainId template = true
    · refine ⟨fun _ => .inr ⟨_, rfl, hc⟩, fun _ => ⟨templateId, ?_⟩⟩
      unfold lockRouteAt
      rw [M.world_bind, hadmitted, M.check_ok_bind]
      simp only [hc, if_true]
      split <;> rfl
    · refine ⟨fun ⟨refused, hrefused⟩ => ?_, ?_⟩
      · -- a lock that is free of conflicts has noted a visit, so it is not refused as unsafe
        rcases lockRouteAt_refused hrefused with ⟨-, hvisits⟩ | ⟨-, hsafe⟩
        · unfold lockRouteAt at hvisits
          rw [M.world_bind, hadmitted, M.check_ok_bind] at hvisits
          dsimp only at hvisits
          rw [if_neg hc, M.about_bind] at hvisits
          cases hvisits
        · exact absurd rfl (hsafe refused)
      · rintro (⟨refused, h⟩ | ⟨found, h, hconflict⟩)
        · cases h
        · cases h
          exact absurd hconflict hc

lemma refuses_iff {trainId templateId : String} {w : OperationalWorld} :
    Refuses trainId templateId w ↔ w.ensureNotPrepared = .ok ()
      ∧ ((∃ refused, w.admitRoute trainId templateId false
            = .error (.refused (.unsafeRoute refused)))
        ∨ ∃ found, w.admitRoute trainId templateId false = .ok found
          ∧ w.routeConflicts trainId found.2 = true) := by
  rw [← @lockRouteAt_unsafe_iff _ _ _ true]
  unfold Refuses lockRoute
  rw [M.world_bind]
  cases hprepared : w.ensureNotPrepared with
  | error e =>
    rw [M.check_error_bind]
    have hreason : e = .refused .invalidHandover := by
      unfold OperationalWorld.ensureNotPrepared demand at hprepared
      split at hprepared
      · cases hprepared
      · exact (Except.error.inj hprepared).symm
    simp [hreason]
  | ok _ =>
    rw [M.check_ok_bind]
    simp

lemma OperationalTrain.exists_of_core {new old : OperationalTrain} (h : new.core = old.core) :
    ∃ outcome reason, new = { old with serviceOutcome := outcome, waitingReason := reason } := by
  refine ⟨new.serviceOutcome, new.waitingReason, ?_⟩
  calc new = { new.core with
        serviceOutcome := new.serviceOutcome, waitingReason := new.waitingReason } := rfl
    _ = { old.core with
        serviceOutcome := new.serviceOutcome, waitingReason := new.waitingReason } := by rw [h]
    _ = _ := rfl

namespace Aside

variable {trainId : String} {v w : OperationalWorld}

lemma blocksDeparture (h : Aside trainId v w) :
    w.fareControlBlocksDeparture trainId = v.fareControlBlocksDeparture trainId := by
  unfold OperationalWorld.fareControlBlocksDeparture
  rw [h.hold]

lemma retainedTemplate (h : Aside trainId v w) :
    w.retainedTemplate trainId = v.retainedTemplate trainId := by
  unfold OperationalWorld.retainedTemplate
  rw [h.ownLocks, h.infra]

/-- A train that is left aside is the same but for evidence and waiting reason. -/
lemma train_cases (h : Aside trainId v w) :
    (v.trains[trainId]? = none ∧ w.trains[trainId]? = none)
      ∨ ∃ train outcome reason, v.trains[trainId]? = some train
        ∧ w.trains[trainId]?
          = some { train with serviceOutcome := outcome, waitingReason := reason } := by
  have htrain := h.train
  cases hv : v.trains[trainId]? with
  | none =>
    rw [hv, Option.map_none, Option.map_eq_none_iff] at htrain
    exact .inl ⟨rfl, htrain⟩
  | some train =>
    rw [hv, Option.map_some, Option.map_eq_some_iff] at htrain
    obtain ⟨new, hnew, hcore⟩ := htrain
    obtain ⟨outcome, reason, rfl⟩ := OperationalTrain.exists_of_core hcore
    exact .inr ⟨train, outcome, reason, rfl, hnew⟩

lemma retainedRoute (h : Aside trainId v w) :
    w.retainedRoute trainId = v.retainedRoute trainId := by
  unfold OperationalWorld.retainedRoute OperationalWorld.fareControlRemainingTemplate
    OperationalWorld.infrastructureRemainingTemplate
  rw [h.blocksDeparture, h.retainedTemplate, h.revoked, h.stop]
  rcases h.train_cases with ⟨hv, hw⟩ | ⟨train, outcome, reason, hv, hw⟩
  · rw [hv, hw]
  · rw [hv, hw]
    rfl

/-- The train may have a route exactly when it might have had it before. -/
lemma admitRoute (h : Aside trainId v w) (templateId : String) :
    (w.admitRoute trainId templateId false).map Prod.snd
      = (v.admitRoute trainId templateId false).map Prod.snd := by
  have hmap : ∀ {α β γ : Type} (x : Checked α) (f : α → Checked β) (g : β → γ),
      (x >>= f).map g = x >>= fun a => (f a).map g := by
    intro α β γ x f g
    cases x <;> rfl
  unfold OperationalWorld.admitRoute OperationalWorld.trainOf
    OperationalWorld.templateOf OperationalWorld.routeOf OperationalWorld.routeNamed
    OperationalWorld.formationOf
  rw [h.blocksDeparture, h.retainedRoute, h.infra, h.formations]
  rcases h.train_cases with ⟨hv, hw⟩ | ⟨train, outcome, reason, hv, hw⟩
  · rw [hv, hw]
  · rw [hv, hw]
    simp only [hmap, apply_ite (Except.map Prod.snd)]
    rfl

lemma ensureNotPrepared (h : Aside trainId v w) : w.ensureNotPrepared = v.ensureNotPrepared := by
  unfold OperationalWorld.ensureNotPrepared
  rw [h.preparedHandovers]

/-- What stands in the way of a train stays there. -/
lemma routeConflicts (h : Aside trainId v w) {template : InterlockingRouteTemplate}
    (hconflicts : v.routeConflicts trainId template = true) :
    w.routeConflicts trainId template = true := by
  unfold OperationalWorld.routeConflicts OperationalWorld.lockedByOther
    OperationalWorld.occupiedByOther at hconflicts ⊢
  rw [h.activeDisruptions]
  simp only [Bool.or_eq_true, Registry.anyValue_iff, Bool.and_eq_true] at hconflicts ⊢
  rcases hconflicts with (hdisrupted | ⟨id, lock, hlock, hother, hheld⟩)
    | ⟨id, train, htrain, hstands⟩
  · exact .inl (.inl hdisrupted)
  · obtain ⟨held, hthere, hforeign, hsame⟩ := h.locks id lock hlock (by simpa using hother)
    exact .inl (.inr ⟨id, held, hthere, by simpa using hforeign, by rw [hsame]; exact hheld⟩)
  · have hplace := h.places id
    rw [htrain, Option.map_some, Option.map_eq_some_iff] at hplace
    obtain ⟨new, hnew, heq⟩ := hplace
    have hid : new.id = train.id := congrArg Prod.fst heq
    have hblocks : new.occupiedBlocks = train.occupiedBlocks := congrArg Prod.snd heq
    exact .inr ⟨id, new, hnew, by rw [hid, hblocks]; exact hstands⟩

/-- **What was refused stays refused**, whatever is given to other trains. -/
theorem refuses (h : Aside trainId v w) {templateId : String}
    (hrefuses : Refuses trainId templateId v) : Refuses trainId templateId w := by
  rw [refuses_iff] at hrefuses ⊢
  obtain ⟨hprepared, hcause⟩ := hrefuses
  refine ⟨h.ensureNotPrepared.trans hprepared, ?_⟩
  have hadmit := h.admitRoute templateId
  rcases hcause with ⟨refused, hv⟩ | ⟨found, hv, hconflicts⟩
  · rw [hv] at hadmit
    exact .inl ⟨refused, map_eq_error_iff.mp hadmit⟩
  · rw [hv] at hadmit
    obtain ⟨new, hnew, heq⟩ := map_eq_ok_iff.mp hadmit
    exact .inr ⟨new, hnew, by rw [heq]; exact h.routeConflicts hconflicts⟩

end Aside

/-! ### The pass -/

/-- Behind a pass a candidate that was not started is refused. -/
lemma collect_startCandidate_refuses {env : Env} {candidates : List DispatchRequest}
    {candidate : DispatchRequest} {w : OperationalWorld} {dispatched : List String}
    (hw : w.LocksNamed) (hin : candidate ∈ candidates)
    (hok : (TracedM.collect (startCandidate env) candidates w).result = .ok dispatched)
    (hleft : candidate.trainId ∉ dispatched) :
    Refuses candidate.trainId candidate.interlockingRouteId
      (TracedM.collect (startCandidate env) candidates w).state := by
  refine @TracedM.collect_refuses _ _ _ _ _ (startCandidate env) OperationalWorld.LocksNamed
    (Refuses candidate.trainId candidate.interlockingRouteId) (· ≠ candidate.trainId) candidate
    ?_ ?_ ?_ _ _ _ hw (.inl hin) hok ?_
  · intro c v answer hv hanswer hother
    exact (startCandidate_waits hv hanswer hother).1
  · intro v answer hv hanswer hother
    have haside := (startCandidate_waits hv hanswer hother).2
    rcases startCandidate_ensures env candidate v answer hanswer with hsome | ⟨-, hrefuses, -⟩
    · exact absurd rfl (hother _ hsome)
    · exact haside.refuses hrefuses
  · intro c v answer hv hrefuses hanswer hother
    exact (startCandidate_waits hv hanswer hother).2.refuses hrefuses
  · rintro id hid rfl
    exact hleft hid

/-- Behind a pass over pending requests a candidate that was not started is refused. -/
lemma dispatchPendingRequests_refuses {env : Env} {requests : List DispatchRequest}
    {request candidate : DispatchRequest} {w : OperationalWorld} (hw : w.LocksNamed)
    (hin : request ∈ requests) (hdecided : w.decidePending request = .ok (.candidate candidate)) :
    TracedM.Ensures (fun dispatched v => candidate.trainId ∉ dispatched →
        Refuses candidate.trainId candidate.interlockingRouteId v)
      (dispatchPendingRequests env requests) w := by
  have hupdates : ∀ (f : OperationalWorld → String → OperationalWorld) (ids : List String),
      (∀ v id, (f v id).infra = v.infra ∧ (f v id).routeLocks = v.routeLocks
        ∧ (f v id).eventSequence = v.eventSequence) →
      TracedM.Preserves OperationalWorld.LocksNamed
        (TracedM.forEach (fun id => M.update fun v => f v id) ids) := fun f ids hsame =>
    .forEach (fun id => .of_modify fun v hv =>
      hv.of_le (hsame v id).1 (hsame v id).2.1 (hsame v id).2.2.ge) ids
  refine .read (.lift fun decisions hdecisions => ?_)
  refine .call (hupdates OperationalWorld.completeRequest _ (fun _ _ => ⟨rfl, rfl, rfl⟩) w hw)
    fun _ u hu => ?_
  refine .call (hupdates OperationalWorld.markMissingRoute _ (fun _ _ => ⟨rfl, rfl, rfl⟩) u hu)
    fun _ v hv => ?_
  intro dispatched hok hleft
  refine collect_startCandidate_refuses hv ?_ hok hleft
  obtain ⟨decision, hmem, hdecision⟩ := exists_mem_of_mapM_ok hdecisions hin
  rw [hdecided, Except.ok.injEq] at hdecision
  rw [sortCandidates, List.mem_insertionSort]
  exact List.mem_filterMap.mpr ⟨decision, hmem, by rw [← hdecision]; rfl⟩

/-! ### The batch -/

namespace OperationalWorld

variable {w : OperationalWorld}

/-- The route of a request begins at the head of its train, if it is a shunting movement. -/
def BeginsAtHead (w : OperationalWorld) (request : DispatchRequest) : Prop :=
  ∀ train template, w.trains[request.trainId]? = some train → train.movementKind ≠ .train →
    w.infra.interlockingRoute request.interlockingRouteId = some template →
    template.authorityStartRouteMm = train.headRouteMm

/-- An admitted request whose train is not kept at a stop becomes a candidate. -/
lemma decidePending_of_admitted {request : DispatchRequest}
    (hadmitted : w.admitRequest request = .ok ())
    (hstop : w.passengerStopWaiting request.trainId = false) (hhead : w.BeginsAtHead request) :
    w.decidePending request = .ok (.candidate request) := by
  unfold admitRequest at hadmitted
  simp only [checked_bind_eq_ok, refuseIf_eq_ok, demand_eq_ok, Bool.or_eq_false_iff,
    decide_eq_false_iff_not] at hadmitted
  obtain ⟨_, ⟨⟨-, -⟩, hsince⟩, train, htrain, _, ⟨⟨⟨hspeed, hstate⟩, hsegment⟩, hauthority⟩,
    template, htemplate, _, -, route, hroute, _, -, hrest⟩ := hadmitted
  -- a retained route and a route at the head are followed by the same checks
  have hchecks : ∃ _ : Unit, ¬ train.headRouteMm = route.lengthMm ∧
      (if train.movementKind = .train then do
        let indexed ← w.departureInterlockingRoute request.trainId route.templateId
          train.headRouteMm
        demand (indexed.any fun r => r.id == request.interlockingRouteId)
          (.invalidDispatchRequest request.trainId)
        refuseIf (w.pendingDispatchRequests[request.trainId]?.any fun existing =>
          decide (existing ≠ request)) (.invalidDispatchRequest request.trainId)
      else
        refuseIf (w.pendingDispatchRequests[request.trainId]?.any fun existing =>
          decide (existing ≠ request)) (.invalidDispatchRequest request.trainId)) = .ok () := by
    split at hrest
    all_goals
      simp only [checked_bind_eq_ok, refuseIf_eq_ok, decide_eq_false_iff_not] at hrest
    · obtain ⟨_, -, _, -, hrest⟩ := hrest
      exact hrest
    · exact hrest
  obtain ⟨_, hend, hindexed⟩ := hchecks
  have hcandidate : ∀ found : InterlockingRouteTemplate, found.id = request.interlockingRouteId →
      PendingDecision.candidate { request with interlockingRouteId := found.id }
        = .candidate request := by
    intro found hid
    rw [hid]
  unfold decidePending
  rw [if_neg hsince, checked_bind_eq_ok]
  refine ⟨train, htrain, ?_⟩
  rw [checked_bind_eq_ok]
  refine ⟨route, hroute, ?_⟩
  rw [if_neg hend, hstop]
  simp only [hspeed, hstate, hsegment, hauthority, Bool.or_self, decide_false,
    Bool.false_eq_true, if_false]
  split at hindexed
  case isTrue hkind =>
    simp only [checked_bind_eq_ok, demand_eq_ok, Option.any_eq_true, beq_iff_eq] at hindexed
    obtain ⟨_, hfound, _, ⟨found, rfl, hid⟩, -⟩ := hindexed
    rw [if_pos hkind, hfound]
    exact congrArg Except.ok (hcandidate found hid)
  case isFalse hkind =>
    have hfound := orRefuse_eq_ok.mp htemplate
    have hstart := hhead train template (orRefuse_eq_ok.mp htrain) hkind hfound
    rw [if_neg hkind, hfound, Option.filter_some, if_pos (by simpa using hstart)]
    exact congrArg Except.ok (hcandidate template
      (InMemoryOperationalInfrastructure.interlockingRoute_id hfound))

variable {requests : List DispatchRequest}

/-- In a batch with one request for each train every request is checked on its own. -/
lemma admitRequests_eq_ok_iff :
    ∀ {seen : List DispatchRequest}, (requests.map (·.trainId)).Nodup →
      (∀ request ∈ requests, ∀ earlier ∈ seen, earlier.trainId ≠ request.trainId) →
      (w.admitRequests requests seen = .ok () ↔
        ∀ request ∈ requests, w.admitRequest request = .ok ()) := by
  induction requests with
  | nil => exact fun _ _ => iff_of_true rfl (by simp)
  | cons request rest ih =>
    intro seen hone hapart
    rw [List.map_cons, List.nodup_cons] at hone
    rw [List.forall_mem_cons] at hapart
    have hnew : seen.find? (fun earlier => earlier.trainId == request.trainId) = none := by
      rw [List.find?_eq_none]
      intro earlier hin
      simpa using hapart.1 earlier hin
    have hrest : ∀ later ∈ rest, ∀ earlier ∈ request :: seen,
        earlier.trainId ≠ later.trainId := by
      intro later hlater earlier hearlier
      rcases List.mem_cons.mp hearlier with rfl | hearlier
      · exact fun heq => hone.1 (heq ▸ List.mem_map_of_mem hlater)
      · exact hapart.2 later hlater earlier hearlier
    rw [admitRequests, hnew, List.forall_mem_cons, ← ih hone.2 hrest]
    simp only [checked_bind_eq_ok, refuseIf_eq_ok, Option.any_none, true_and]
    constructor
    · rintro ⟨_, _, hadmitted, hothers⟩
      exact ⟨hadmitted, hothers⟩
    · rintro ⟨hadmitted, hothers⟩
      exact ⟨⟨⟩, ⟨⟩, hadmitted, hothers⟩

lemma admitBatch_eq_ok_iff (hone : (requests.map (·.trainId)).Nodup) :
    w.admitRequests requests [] = .ok () ↔
      ∀ request ∈ requests, w.admitRequest request = .ok () :=
  admitRequests_eq_ok_iff hone fun _ _ _ h => nomatch h

/-- The requests of a batch, filed by train. -/
def filed (w : OperationalWorld) (requests : List DispatchRequest) : OperationalWorld :=
  { w with
    pendingDispatchRequests := requests.foldl
      (fun acc request => acc.insert request.trainId request) w.pendingDispatchRequests }

/-- The order of a batch does not matter where it is filed. -/
lemma filed_perm {requests other : List DispatchRequest} (hperm : other.Perm requests)
    (hone : (requests.map (·.trainId)).Nodup) : w.filed other = w.filed requests := by
  have hfold := hperm.foldl_eq' (f := fun (acc : Registry String DispatchRequest) request =>
    acc.insert request.trainId request) (fun a ha b hb acc => by
      by_cases heq : a.trainId = b.trainId
      · rw [List.inj_on_of_nodup_map hone (hperm.mem_iff.mp ha) (hperm.mem_iff.mp hb) heq]
      · refine Std.ExtTreeMap.ext_getElem? fun k => ?_
        simp only [Registry.getElem?_insert]
        split
        · split
          · exact absurd (by simp_all) heq
          · rfl
        · rfl) w.pendingDispatchRequests
  unfold filed
  rw [hfold]

lemma filed_getElem? {request : DispatchRequest}
    (hone : (requests.map (·.trainId)).Nodup) (hin : request ∈ requests) :
    (w.filed requests).pendingDispatchRequests[request.trainId]? = some request := by
  have hperm : (requests.erase request ++ [request]).Perm requests :=
    (List.perm_append_singleton _ _).trans (List.perm_cons_erase hin).symm
  rw [← filed_perm hperm hone, filed, List.foldl_append, List.foldl_cons, List.foldl_nil,
    Registry.getElem?_insert, if_pos rfl]

end OperationalWorld

/-- **A batch in another order does the same.** -/
theorem submitDispatchRequests_order (env : Env) (w : OperationalWorld)
    {requests other : List DispatchRequest} (hperm : other.Perm requests)
    (hone : (requests.map (·.trainId)).Nodup) :
    (submitDispatchRequests env other w).result.toOption
        = (submitDispatchRequests env requests w).result.toOption
      ∧ (submitDispatchRequests env other w).state
        = (submitDispatchRequests env requests w).state := by
  have hother : (other.map (·.trainId)).Nodup := (hperm.map _).nodup_iff.mpr hone
  have hadmitted : w.admitRequests other [] = .ok () ↔ w.admitRequests requests [] = .ok () := by
    rw [OperationalWorld.admitBatch_eq_ok_iff hother, OperationalWorld.admitBatch_eq_ok_iff hone]
    exact forall_congr' fun request => by rw [hperm.mem_iff]
  unfold submitDispatchRequests
  rw [M.world_bind, M.world_bind]
  cases w.ensureNotPrepared with
  | error e =>
    rw [M.check_error_bind, M.check_error_bind]
    exact ⟨rfl, rfl⟩
  | ok _ =>
    rw [M.check_ok_bind, M.check_ok_bind]
    cases hchecked : w.admitRequests requests [] with
    | ok _ =>
      rw [hadmitted.mpr hchecked, M.check_ok_bind, M.check_ok_bind, M.update_bind,
        M.update_bind]
      change (dispatchPending env (w.filed other)).result.toOption
          = (dispatchPending env (w.filed requests)).result.toOption
        ∧ (dispatchPending env (w.filed other)).state
          = (dispatchPending env (w.filed requests)).state
      rw [OperationalWorld.filed_perm hperm hone]
      exact ⟨rfl, rfl⟩
    | error e =>
      cases hfailed : w.admitRequests other [] with
      | ok _ =>
        rw [hadmitted.mp hfailed] at hchecked
        cases hchecked
      | error e' =>
        rw [M.check_error_bind, M.check_error_bind]
        exact ⟨rfl, rfl⟩

/-- A batch that is refused on admission changes nothing. -/
lemma submitDispatchRequests_refused (env : Env) (w : OperationalWorld)
    {requests : List DispatchRequest}
    (h : w.ensureNotPrepared.isOk = false ∨ (w.admitRequests requests []).isOk = false) :
    (submitDispatchRequests env requests w).state = w := by
  unfold submitDispatchRequests
  rw [M.world_bind]
  cases hprepared : w.ensureNotPrepared with
  | error e => rw [M.check_error_bind]
  | ok _ =>
    rw [M.check_ok_bind]
    cases hadmitted : w.admitRequests requests [] with
    | error e => rw [M.check_error_bind]
    | ok _ =>
      rw [hprepared, hadmitted] at h
      rcases h with h | h <;> cases h

/-- **One pass leaves nothing behind.**  A batch that is refused on admission changes nothing. -/
theorem submitDispatchRequests_maximal (env : Env) (w : OperationalWorld)
    {requests : List DispatchRequest} (hone : (requests.map (·.trainId)).Nodup) :
    (∀ other : List DispatchRequest, other.Perm requests →
        (submitDispatchRequests env other w).result.toOption
            = (submitDispatchRequests env requests w).result.toOption
          ∧ (submitDispatchRequests env other w).state
            = (submitDispatchRequests env requests w).state)
      ∧ (w.ensureNotPrepared.isOk = false ∨ (w.admitRequests requests []).isOk = false →
        (submitDispatchRequests env requests w).state = w)
      ∧ ∀ dispatched : List String, w.LocksNamed →
        (submitDispatchRequests env requests w).result = .ok dispatched →
        ∀ request ∈ requests, request.trainId ∉ dispatched →
          w.passengerStopWaiting request.trainId = false → w.BeginsAtHead request →
          Refuses request.trainId request.interlockingRouteId
            (submitDispatchRequests env requests w).state := by
  refine ⟨fun other hperm => submitDispatchRequests_order env w hperm hone,
    submitDispatchRequests_refused env w, ?_⟩
  intro dispatched hnamed hok request hin hleft hstop hhead
  have hensures : TracedM.Ensures (fun dispatched v => request.trainId ∉ dispatched →
      Refuses request.trainId request.interlockingRouteId v)
      (submitDispatchRequests env requests) w := by
    refine .read (.lift fun _ _ => .lift fun _ hadmitted => .modify (.read ?_))
    have hnamed' : (w.filed requests).LocksNamed := hnamed.of_le rfl rfl le_rfl
    have hfiled : request ∈ Registry.values (w.filed requests).pendingDispatchRequests :=
      Registry.mem_values.mpr ⟨_, OperationalWorld.filed_getElem? hone hin⟩
    refine dispatchPendingRequests_refuses hnamed' hfiled ?_
    have hrequest := (OperationalWorld.admitBatch_eq_ok_iff hone).mp hadmitted request hin
    have hdecided := OperationalWorld.decidePending_of_admitted hrequest hstop hhead
    exact hdecided
  exact hensures dispatched hok hleft

/-! ### Batches on small railways -/

namespace Batch

/-- A request without a claim to priority. -/
def request (trainId routeId : String) : DispatchRequest :=
  { trainId, interlockingRouteId := routeId, committedRank := 0, timetableDeviationMs := 0
    passengerImpact := 0, contractualImpact := 0, networkImpact := 0, resourceConsequence := 0
    recoveryRank := 0, waitingSinceMs := 0 }

/-- A request that is tried first. -/
def urgent (trainId routeId : String) : DispatchRequest :=
  { request trainId routeId with committedRank := 1 }

/-- Two trains behind one another on the main line. -/
def queue : List Command :=
  Crossover.roster ++ [.materialize (Crossover.train "T1" "1" "main" "f1" 0),
    .materialize (Crossover.train "T2" "2" "main" "f2" 1000000)].map Crossover.inA

/-- Both trains ask for their routes; the one behind is tried first. -/
def requests : List DispatchRequest := [urgent "T1" "t1", request "T2" "t2"]

/-- The train behind is refused, the train in front is started. -/
def startsSecond (w : OperationalWorld) : Bool :=
  w.passengerStopWaiting "T1" == false
    && (w.trains["T1"]?.any fun train => train.movementKind == .train)
    && (submitDispatchRequests Crossover.env requests w).result.toOption == some ["T2"]

/-- The train is not started, and its route can be locked behind the batch. -/
def leavesBehind (w : OperationalWorld) (batch : List DispatchRequest) (trainId routeId : String) :
    Bool :=
  let tried := submitDispatchRequests Crossover.env batch w
  (tried.result.toOption.any fun dispatched => !dispatched.contains trainId)
    && (lockRoute trainId routeId tried.state).result.toOption.isSome

/-- The small railway with a shunting route over the siding. -/
def release : OperationalInfraRelease :=
  { Crossover.release with
    interlockingRoutes := Crossover.release.interlockingRoutes.insert "t4"
      { Crossover.template "t4" "siding" "s3" 0 1000000 "b3" "o3" "f3" [("w1", "right")] with
        movementKind := .shunting } }

/-- The attached release. -/
def infra : InMemoryOperationalInfrastructure := ⟨release, "binding", by decide +kernel⟩

/-- The railway as one region. -/
def start : Network :=
  { worlds := Std.ExtTreeMap.ofList [("A", .new "world" "A" 0 infra)] compare, letters := [] }

/-- A shunting movement is stopped on its route by a disruption that is over again. -/
def interrupted : List Command :=
  Crossover.roster ++
    [.materialize
      { Crossover.train "T2" "2" "siding" "f2" 0 with movementKind := .shunting },
    .lockRoute "T2" "t4", .planMotion "T2", .advanceTo 60000,
    .activateDisruption "D" (.resourceClosed "o3"), .clearDisruption "D" "repaired"].map
      Crossover.inA

/-- A lock of another train that bears the name of the next lock, put in by hand: no run whose names
have no colon comes to it. -/
def borrowed (w : OperationalWorld) (trainId templateId : String) : OperationalWorld :=
  { w with
    routeLocks := w.routeLocks.insert (w.nextLockId trainId templateId)
      { id := w.nextLockId trainId templateId, templateId := "t9", trainId := "T9"
        resources := Std.ExtTreeSet.ofList ["b1"] compare, releaseAfterTailRouteMm := 0
        lockedAtMs := 0 } }

end Batch

/-- The train behind is refused its route, and would be refused it in any order. -/
theorem submitDispatchRequests_queue : ∃ (visits : List Visit) (last : Network)
    (w : OperationalWorld), Network.Run Crossover.env Crossover.start visits last
      ∧ last.worlds["A"]? = some w
      ∧ (submitDispatchRequests Crossover.env Batch.requests.reverse w).result.toOption
        = some ["T2"]
      ∧ Refuses "T1" "t1" (submitDispatchRequests Crossover.env Batch.requests w).state := by
  obtain ⟨visits, last, hrun, hlast, hplain⟩ := Network.exists_run Crossover.env Crossover.start
    Batch.queue (fun network => network.worlds["A"]?.any Batch.startsSecond) namesPlainly
    (by decide +kernel)
  obtain ⟨w, hw, hstarts⟩ := (Option.any_eq_true _ _).mp hlast
  simp only [Batch.startsSecond, Bool.and_eq_true, beq_iff_eq, Option.any_eq_true] at hstarts
  obtain ⟨⟨hstop, train, htrain, hkind⟩, hok⟩ := hstarts
  obtain ⟨horder, -, hmaximal⟩ := submitDispatchRequests_maximal Crossover.env w
    (show (Batch.requests.map (·.trainId)).Nodup by decide)
  refine ⟨visits, last, w, hrun, hw, ?_, ?_⟩
  · rw [(horder _ (List.reverse_perm _)).1]
    exact hok
  · have hnamed := locks_named Crossover.start_isStart hrun hplain "A" w hw
    refine hmaximal ["T2"] hnamed (ok_of_toOption hok) (Batch.urgent "T1" "t1") (by decide)
      (by decide) hstop ?_
    intro found template hfound hshunting
    cases hfound.symm.trans htrain
    exact absurd hkind hshunting

/-- What is left behind and could be locked: the route of a train at its stop, the route on
which a shunting movement was interrupted, and the route behind a lock whose name is given
away. -/
theorem submitDispatchRequests_leavesBehind :
    (∃ (visits : List Visit) (last : Network) (w : OperationalWorld),
        Network.Run Crossover.env Halt.start visits last ∧ last.worlds["A"]? = some w
          ∧ Batch.leavesBehind w [Batch.request "T1" "t2"] "T1" "t2" = true)
      ∧ (∃ (visits : List Visit) (last : Network) (w : OperationalWorld),
        Network.Run Crossover.env Batch.start visits last ∧ last.worlds["A"]? = some w
          ∧ Batch.leavesBehind w [Batch.request "T2" "t4"] "T2" "t4" = true)
      ∧ ∃ w : OperationalWorld, Batch.leavesBehind w
        [Batch.urgent "T1" "t1", Batch.request "T2" "t3"] "T1" "t1" = true := by
  refine ⟨?_, ?_, ?_⟩
  · obtain ⟨visits, last, hrun, hlast, -⟩ := Network.exists_run Crossover.env Halt.start
      (Crossover.roster ++ [.materialize Halt.train].map Crossover.inA)
      (fun network => network.worlds["A"]?.any fun w =>
        Batch.leavesBehind w [Batch.request "T1" "t2"] "T1" "t2") (fun _ => true)
      (by decide +kernel)
    obtain ⟨w, hw, hleft⟩ := (Option.any_eq_true _ _).mp hlast
    exact ⟨visits, last, w, hrun, hw, hleft⟩
  · obtain ⟨visits, last, hrun, hlast, -⟩ := Network.exists_run Crossover.env Batch.start
      Batch.interrupted (fun network => network.worlds["A"]?.any fun w =>
        Batch.leavesBehind w [Batch.request "T2" "t4"] "T2" "t4") (fun _ => true)
      (by decide +kernel)
    obtain ⟨w, hw, hleft⟩ := (Option.any_eq_true _ _).mp hlast
    exact ⟨visits, last, w, hrun, hw, hleft⟩
  · obtain ⟨visits, last, hrun, hlast, -⟩ := Network.exists_run Crossover.env Crossover.start
      (Crossover.roster ++ Crossover.trains) (fun network => network.worlds["A"]?.any fun w =>
        Batch.leavesBehind (Batch.borrowed w "T2" "t3")
          [Batch.urgent "T1" "t1", Batch.request "T2" "t3"] "T1" "t1") (fun _ => true)
      (by decide +kernel)
    obtain ⟨w, hw, hleft⟩ := (Option.any_eq_true _ _).mp hlast
    exact ⟨Batch.borrowed w "T2" "t3", hleft⟩

end Zugfolge
