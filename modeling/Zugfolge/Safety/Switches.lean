/-
Switches under locks.

A lock finds every switch of its template in the position the template demands, as long
as no lock moves a switch another lock needs and no failure is cleared that has left a
locked switch out of place.

* `SwitchesKept.step`: a step keeps the property, by the kinds of `NetworkEffect`;
* `switches_hold`: so does every run; `crossing_moves_switch`: a run that moves a switch
  under a lock;
* `locks_apart`: in every run the locks of different trains share no resource.
-/
import Zugfolge.Behaviour.Effects

namespace Zugfolge

open Foundation

namespace OperationalWorld

variable (w : OperationalWorld)

/-- A failure of the switch is active. -/
def SwitchIsFailed (switchId : String) : Prop :=
  ∃ id : String, w.activeDisruptions[id]? = some (.switchFailed switchId)

/-- Every lock in force finds the switches of its template in the positions it demands,
unless they have failed. -/
def SwitchesHold : Prop :=
  ∀ (id : String) (lock : RouteLock) (template : InterlockingRouteTemplate)
    (switchId position : String), w.routeLocks[id]? = some lock →
    w.infra.interlockingRoute lock.templateId = some template →
    template.switchPositions[switchId]? = some position →
    ¬ w.SwitchIsFailed switchId → w.switchPositions[switchId]? = some position

/-- Some lock finds a switch out of place. -/
def switchIsOutOfPlace : Bool :=
  Registry.anyValue w.routeLocks fun lock =>
    (w.infra.interlockingRoute lock.templateId).any fun template =>
      template.switchPositions.toList.any fun entry =>
        w.switchPositions[entry.1]? != some entry.2
          && !Registry.anyValue w.activeDisruptions fun effect =>
            decide (effect = .switchFailed entry.1)

lemma not_switchesHold (h : w.switchIsOutOfPlace = true) : ¬ w.SwitchesHold := by
  intro hold
  simp only [switchIsOutOfPlace, Registry.anyValue_iff, Option.any_eq_true, List.any_eq_true,
    Bool.and_eq_true, bne_iff_ne, Bool.not_eq_true', Registry.anyValue_eq_false,
    decide_eq_false_iff_not, Prod.exists, Registry.mem_toList] at h
  obtain ⟨id, lock, hlock, template, htemplate, switchId, position, hdemand, hne, hfailed⟩ := h
  refine hne (hold id lock template switchId position hlock htemplate hdemand ?_)
  rintro ⟨id, hid⟩
  exact hfailed id _ hid rfl

end OperationalWorld

/-! ### The condition -/

/-- No switch is demanded in two positions. -/
def switchesAgree (a b : Registry String String) : Bool :=
  a.toList.all fun entry => b[entry.1]?.all fun position => position == entry.2

lemma switchesAgree_iff {a b : Registry String String} :
    switchesAgree a b = true ↔ ∀ switchId p q : String, a[switchId]? = some p →
      b[switchId]? = some q → q = p := by
  simp only [switchesAgree, List.all_eq_true, Prod.forall, Registry.mem_toList,
    Option.all_eq_true, beq_iff_eq]
  exact ⟨fun h s p q hp hq => h s p hp q hq, fun h s p hp q hq => h s p q hp hq⟩

/-- Every lock that needs the switch finds it in place. -/
def OperationalWorld.switchIsInPlace (w : OperationalWorld) (switchId : String) : Bool :=
  Registry.allValues w.routeLocks fun lock =>
    (w.infra.interlockingRoute lock.templateId).all fun template =>
      template.switchPositions[switchId]?.all fun position =>
        w.switchPositions[switchId]? == some position

/-- A visit moves no switch under a lock: a new lock demands no switch in another position
than the locks in force, and a failure is cleared only when another one of the switch is
active or every lock finds the switch in place. -/
def leavesSwitches (v : Visit) : Bool :=
  match v.act with
  | .lockRoute _ templateId =>
    (v.before.infra.interlockingRoute templateId).all fun template =>
      Registry.allValues v.before.routeLocks fun lock =>
        (v.before.infra.interlockingRoute lock.templateId).all fun held =>
          switchesAgree held.switchPositions template.switchPositions
  | .clearDisruption disruptionId =>
    match v.before.activeDisruptions[disruptionId]? with
    | some (.switchFailed switchId) =>
      (v.before.activeDisruptions.toList.any fun entry =>
        entry.1 != disruptionId && decide (entry.2 = .switchFailed switchId))
      || v.before.switchIsInPlace switchId
    | _ => true
  | _ => true

/-! ### Checked inputs -/

namespace OperationalWorld

variable (w : OperationalWorld)

/-- An admitted template is one of the release. -/
lemma admitRoute_template {trainId templateId : String} {continuation : Bool}
    {train : OperationalTrain} {template : InterlockingRouteTemplate}
    (h : w.admitRoute trainId templateId continuation = .ok (train, template)) :
    w.infra.interlockingRoute templateId = some template := by
  unfold admitRoute at h
  simp only [checked_bind_eq_ok, templateOf_eq_ok] at h
  obtain ⟨-, -, _, -, _, htemplate, -, -, _, -, _, -, _, -, _, -, -, -, h⟩ := h
  -- The answer is the same whether or not a retained route is looked up.
  split at h
  case isTrue =>
    simp only [checked_bind_eq_ok] at h
    obtain ⟨_, -, _, -, -, -, h⟩ := h
    cases h
    exact htemplate
  case isFalse =>
    simp only [checked_bind_eq_ok] at h
    obtain ⟨_, -, -, -, h⟩ := h
    cases h
    exact htemplate

/-- An admitted message agrees with the region about disruptions, routes and switches. -/
lemma admitHandover_agrees {handover : RegionHandover} (h : w.admitHandover handover = .ok ()) :
    w.activeDisruptions = handover.activeDisruptions
      ∧ (∀ (templateId : String) (template : InterlockingRouteTemplate),
        handover.interlockingRoutes[templateId]? = some template →
          w.infra.interlockingRoute templateId = some template)
      ∧ ∀ switchId p q : String, handover.switchPositions[switchId]? = some p →
        w.switchPositions[switchId]? = some q → q = p := by
  simp only [admitHandover, checked_bind_eq_ok, demand_eq_ok] at h
  obtain ⟨-, hnew, -, hagrees, -⟩ := h
  simp only [isNewHere, Bool.not_eq_true', Bool.or_eq_false_iff, decide_eq_false_iff_not,
    not_not] at hnew
  simp only [agreesWith, Bool.and_eq_true, List.all_eq_true, Prod.forall, Registry.mem_toList,
    decide_eq_true_eq, Option.all_eq_true, beq_iff_eq] at hagrees
  exact ⟨hnew.2, hagrees.1.2, fun s p q hp hq => hagrees.2 s p hp q hq⟩

end OperationalWorld

/-! ### One step -/

namespace OperationalWorld.SwitchesHold

variable {w w' : OperationalWorld}

lemma of_fewer_locks (h : w.SwitchesHold)
    (hlocks : ∀ (id : String) (lock : RouteLock), w'.routeLocks[id]? = some lock →
      w.routeLocks[id]? = some lock)
    (hinfra : w'.infra = w.infra) (hswitches : w'.switchPositions = w.switchPositions)
    (hdisruptions : w'.activeDisruptions = w.activeDisruptions) : w'.SwitchesHold := by
  intro id lock template switchId position hlock htemplate hdemand hfailed
  rw [hswitches]
  rw [hinfra] at htemplate
  refine h id lock template switchId position (hlocks id lock hlock) htemplate hdemand ?_
  rintro ⟨id, hid⟩
  exact hfailed ⟨id, by rw [hdisruptions]; exact hid⟩

/-- A new lock finds its switches as it has set them, and moves none of another lock. -/
lemma of_new_lock (h : w.SwitchesHold) {lockId templateId : String}
    {template : InterlockingRouteTemplate} {lock : RouteLock}
    (htemplate : w.infra.interlockingRoute templateId = some template)
    (hlock : lock.templateId = templateId)
    (hlocks : w'.routeLocks = w.routeLocks.insert lockId lock)
    (hagree : ∀ (id : String) (other : RouteLock) (held : InterlockingRouteTemplate)
      (switchId p q : String), w.routeLocks[id]? = some other →
      w.infra.interlockingRoute other.templateId = some held →
      held.switchPositions[switchId]? = some p →
      template.switchPositions[switchId]? = some q → q = p)
    (hswitches : ∀ switchId : String, w'.switchPositions[switchId]?
      = (template.switchPositions[switchId]?).or w.switchPositions[switchId]?)
    (hinfra : w'.infra = w.infra) (hdisruptions : w'.activeDisruptions = w.activeDisruptions) :
    w'.SwitchesHold := by
  intro id other held switchId position hother hheld hdemand hfailed
  rw [hinfra] at hheld
  rw [hlocks, Registry.getElem?_insert] at hother
  rw [hswitches]
  split at hother
  case isTrue =>
    cases hother
    rw [hlock, htemplate] at hheld
    cases hheld
    simp [hdemand]
  case isFalse =>
    cases hq : template.switchPositions[switchId]? with
    | some q => simp [hagree id other held switchId position q hother hheld hdemand hq]
    | none =>
      refine (Option.none_or ..).trans (h id other held switchId position hother hheld hdemand ?_)
      rintro ⟨id, hid⟩
      exact hfailed ⟨id, by rw [hdisruptions]; exact hid⟩

end OperationalWorld.SwitchesHold

/-! ### Steps -/

/-- What a message says about the switches of its locks. -/
def SwitchesCarried (handover : RegionHandover) : Prop :=
  ∀ (id : String) (lock : RouteLock), handover.routeLocks[id]? = some lock →
    ∃ template, handover.interlockingRoutes[lock.templateId]? = some template
      ∧ ∀ switchId position : String, template.switchPositions[switchId]? = some position →
        (¬ ∃ id : String, handover.activeDisruptions[id]? = some (.switchFailed switchId)) →
        handover.switchPositions[switchId]? = some position

/-- A message prepared where the switches hold carries their positions. -/
lemma OperationalWorld.SwitchesHold.carried {w : OperationalWorld} (h : w.SwitchesHold)
    {env : Env} {id trainId target : String} {resources : KeySet String}
    {handover : RegionHandover} (hp : w.Prepared env id trainId target resources handover) :
    SwitchesCarried handover := by
  have hown : ∀ (id : String) (lock : RouteLock), handover.routeLocks[id]? = some lock →
      w.routeLocks[id]? = some lock := by
    intro id lock hlock
    rw [hp.locks, Registry.getElem?_filter, Option.filter_eq_some_iff] at hlock
    exact hlock.1
  intro id lock hlock
  obtain ⟨template, htemplate, hroute⟩ := hp.routesOf.known id lock hlock
  refine ⟨template, hroute, fun switchId position hdemand hfailed => ?_⟩
  rw [hp.disruptions] at hfailed
  have hmine := h id lock template switchId position (hown id lock hlock) htemplate hdemand hfailed
  obtain ⟨id', lock', template', position', hlock', htemplate', hdemand', hcarried⟩ :=
    hp.routesOf.demanded id lock template switchId position hlock htemplate hdemand
  have htheirs := h id' lock' template' switchId position' (hown id' lock' hlock') htemplate'
    hdemand' hfailed
  rw [hmine, Option.some.injEq] at htheirs
  rw [hcarried, htheirs]

/-- Switches hold, and the prepared messages carry them. -/
structure SwitchesKept (w : OperationalWorld) : Prop where
  hold : w.SwitchesHold
  carried : ∀ (key : String) (handover : RegionHandover),
    w.preparedHandovers[key]? = some handover → SwitchesCarried handover

namespace SwitchesKept

variable {w w' : OperationalWorld}

lemma of_network (hsame : SameNetwork w w') (h : SwitchesKept w) : SwitchesKept w' where
  hold := h.hold.of_fewer_locks hsame.locks hsame.infra hsame.switchPositions
    hsame.activeDisruptions
  carried := by
    rw [hsame.preparedHandovers]
    exact h.carried

/-- A new lock sets its own switches. -/
lemma lockRoute (h : SwitchesKept w) {trainId templateId lockId : String} {continuation : Bool}
    {train : OperationalTrain} {template : InterlockingRouteTemplate}
    (hadmitted : w.admitRoute trainId templateId continuation = .ok (train, template))
    (hok : leavesSwitches ⟨w, .lockRoute trainId templateId⟩ = true) :
    SwitchesKept ((w.setSwitches template).commitRouteLock train trainId templateId lockId
      template) := by
  have htemplate := w.admitRoute_template hadmitted
  refine SwitchesKept.of_network
    (w.commitRouteLock_network train trainId templateId lockId template)
    ⟨h.hold.of_new_lock htemplate rfl rfl
      (fun id other held s p q hother hheld hp hq => ?_) (fun s => ?_) rfl rfl, h.carried⟩
  · simp only [leavesSwitches, htemplate, Option.all_some, Registry.allValues_iff,
      Option.all_eq_true, switchesAgree_iff] at hok
    exact hok id other hother held hheld s p q hp hq
  · exact Registry.getElem?_foldl_insert _ _ _

/-- A failure excuses its switch. -/
lemma activateDisruption (h : SwitchesKept w) {disruptionId : String}
    {effect : OperationalDisruption} (hnew : w.activeDisruptions[disruptionId]? = none) :
    SwitchesKept (w.commitDisruption disruptionId effect) := by
  refine ⟨fun id lock template s p hlock htemplate hdemand hfailed => ?_, h.carried⟩
  -- A failure that was active before is active still.
  have hbefore : ¬ w.SwitchIsFailed s := by
    rintro ⟨key, hkey⟩
    refine hfailed ⟨key, ?_⟩
    have hne : key ≠ disruptionId := by
      rintro rfl
      rw [hnew] at hkey
      cases hkey
    simp only [OperationalWorld.commitDisruption, Registry.getElem?_insert, if_neg hne]
    exact hkey
  have hposition := h.hold id lock template s p hlock htemplate hdemand hbefore
  cases effect with
  | switchFailed failed =>
    have hne : s ≠ failed := by
      rintro rfl
      exact hfailed ⟨disruptionId, by
        simp only [OperationalWorld.commitDisruption, Registry.getElem?_insert, if_true]⟩
    simp only [OperationalWorld.commitDisruption, Registry.getElem?_erase, if_neg hne]
    exact hposition
  | _ => exact hposition

/-- Without its last failure a switch has to be in place. -/
lemma clearDisruption (h : SwitchesKept w) {disruptionId : String}
    (hok : leavesSwitches ⟨w, .clearDisruption disruptionId⟩ = true) :
    SwitchesKept { w with activeDisruptions := w.activeDisruptions.erase disruptionId } := by
  refine ⟨fun id lock template s p hlock htemplate hdemand hfailed => ?_, h.carried⟩
  by_cases hbefore : w.SwitchIsFailed s
  · -- Only the cleared failure was active.
    have honly : ∀ key : String, w.activeDisruptions[key]? = some (.switchFailed s) →
        key = disruptionId := by
      intro key hkey
      by_contra hne
      exact hfailed ⟨key, by simp only [Registry.getElem?_erase, if_neg hne, hkey]⟩
    obtain ⟨key, hkey⟩ := hbefore
    obtain rfl := honly key hkey
    simp only [leavesSwitches, hkey, Bool.or_eq_true, List.any_eq_true, Bool.and_eq_true,
      bne_iff_ne, decide_eq_true_eq, Prod.exists, Registry.mem_toList] at hok
    rcases hok with ⟨other, effect, hother, hne, rfl⟩ | hplace
    · exact absurd (honly other hother) hne
    · simp only [OperationalWorld.switchIsInPlace, Registry.allValues_iff, Option.all_eq_true,
        beq_iff_eq] at hplace
      exact hplace id lock hlock template htemplate p hdemand
  · exact h.hold id lock template s p hlock htemplate hdemand hbefore

/-- A message brings its locks with the positions they demand. -/
lemma acceptHandover (h : SwitchesKept w) {handover : RegionHandover}
    (hadmitted : w.admitHandover handover = .ok ()) (hletter : SwitchesCarried handover) :
    SwitchesKept { w with
      routeLocks := w.routeLocks ∪ handover.routeLocks
      switchPositions := w.switchPositions ∪ handover.switchPositions } := by
  obtain ⟨hdisruptions, hroutes, hswitches⟩ := w.admitHandover_agrees hadmitted
  refine ⟨fun id lock template s p hlock htemplate hdemand hfailed => ?_, h.carried⟩
  have hfree : ¬ w.SwitchIsFailed s := hfailed
  have hlock : (w.routeLocks ∪ handover.routeLocks)[id]? = some lock := hlock
  have htemplate : w.infra.interlockingRoute lock.templateId = some template := htemplate
  change (w.switchPositions ∪ handover.switchPositions)[s]? = some p
  rw [Registry.getElem?_union, Option.or_eq_some_iff] at hlock
  rw [Registry.getElem?_union]
  rcases hlock with hlock | ⟨-, hlock⟩
  · -- The lock is carried; its switches lie as the message says.
    obtain ⟨sent, hsent, hcarried⟩ := hletter id lock hlock
    have hsame := hroutes _ _ hsent
    rw [htemplate, Option.some.injEq] at hsame
    subst hsame
    rw [hcarried s p hdemand (hdisruptions ▸ hfree)]
    rfl
  · -- The lock is an old one; the message says nothing else of its switches.
    have hown := h.hold id lock template s p hlock htemplate hdemand hfree
    cases hsent : handover.switchPositions[s]? with
    | none => exact hown
    | some q =>
      rw [hswitches s q p hsent hown]
      rfl

end SwitchesKept

/-- A step keeps the switches in place, if its visits leave them. -/
theorem SwitchesKept.step {d d' : Debt} {w w' : OperationalWorld} {vs : List Visit}
    (hstep : Step d w vs d' w') (hletters : ∀ handover ∈ d.letters, SwitchesCarried handover)
    (hok : ∀ v ∈ vs, leavesSwitches v = true) (h : SwitchesKept w) : SwitchesKept w' := by
  cases hstep.networkEffect with
  | kept hsame => exact .of_network hsame h
  | locked hvs hadmitted => exact h.lockRoute hadmitted (hok _ (by simp [hvs]))
  | disrupted hnew => exact h.activateDisruption hnew
  | cleared hvs => exact h.clearDisruption (hok _ (by simp [hvs]))
  | @begun _ _ _ _ _ _ handover hprepared hsame =>
    refine SwitchesKept.of_network hsame ⟨h.hold, fun key other hother => ?_⟩
    have hother : (w.preparedHandovers.insert handover.id handover)[key]? = some other := hother
    rw [Registry.getElem?_insert] at hother
    split at hother
    case isTrue =>
      cases hother
      exact h.hold.carried hprepared
    case isFalse => exact h.carried key other hother
  | accepted hletter hadmitted hsame =>
    exact .of_network hsame (h.acceptHandover hadmitted (hletters _ hletter))
  | @finished _ handover hsame =>
    refine SwitchesKept.of_network hsame ⟨h.hold, fun key other hother => ?_⟩
    have hother : (w.preparedHandovers.erase handover.id)[key]? = some other := hother
    rw [Registry.getElem?_erase] at hother
    split at hother
    case isTrue => cases hother
    case isFalse => exact h.carried key other hother

/-! ### Runs -/

/-- Kept switches are an invariant of every network. -/
lemma switchesKept_invariant : NetworkInvariant (fun _ _ w => SwitchesKept w) SwitchesCarried
    fun v => leavesSwitches v = true where
  step := SwitchesKept.step
  relabel := id
  prepared h hkey := h.carried _ _ hkey
  acknowledged h := h

lemma switchesKept_new (worldId regionId : String) (nowMs : SimMillis)
    (infra : InMemoryOperationalInfrastructure) :
    SwitchesKept (.new worldId regionId nowMs infra) :=
  ⟨fun id _ _ _ _ hlock => by simp [OperationalWorld.new] at hlock,
    fun key _ hkey => by simp [OperationalWorld.new] at hkey⟩

/-- **Switches under locks.**  In every run whose visits leave the switches, every lock in
force in any region finds the switches of its template in the positions it demands, unless
they have failed. -/
theorem switches_hold {env : Env} {first last : Network} {visits : List Visit}
    (hstart : first.IsStart) (hrun : Network.Run env first visits last)
    (hok : ∀ v ∈ visits, leavesSwitches v = true) (regionId : String) (w : OperationalWorld)
    (hw : last.worlds[regionId]? = some w) : w.SwitchesHold :=
  ((switchesKept_invariant.holds switchesKept_new hstart hrun hok).1 regionId w hw).hold

/-- A train locks its route over the switch, and finds it in place. -/
theorem switches_hold_mainLine : ∃ (visits : List Visit) (last : Network) (w : OperationalWorld),
    Network.Run Crossover.env Crossover.start visits last ∧ last.worlds["A"]? = some w
      ∧ w.routeLocks.size = 1 ∧ w.SwitchesHold := by
  obtain ⟨visits, last, hrun, hlast, hok⟩ := Network.exists_run Crossover.env Crossover.start
    (Crossover.roster ++ Crossover.trains ++ [Crossover.inA (.lockRoute "T1" "t1")])
    (fun network => network.worlds["A"]?.any fun w : OperationalWorld => w.routeLocks.size == 1)
    leavesSwitches (by decide +kernel)
  obtain ⟨w, hw, hsize⟩ := (Option.any_eq_true ..).mp hlast
  exact ⟨visits, last, w, hrun, hw, by simpa using hsize,
    switches_hold Crossover.start_isStart hrun hok "A" w hw⟩

/-- The train on the siding moves the switch that the train on the main line has locked. -/
theorem crossing_moves_switch : ¬ ∀ (env : Env) (first last : Network) (visits : List Visit),
    first.IsStart → Network.Run env first visits last →
    ∀ (regionId : String) (w : OperationalWorld), last.worlds[regionId]? = some w →
      w.SwitchesHold := by
  intro hold
  obtain ⟨visits, last, hrun, hlast, -⟩ := Network.exists_run Crossover.env Crossover.start
    (Crossover.roster ++ Crossover.trains
      ++ [.lockRoute "T1" "t1", .lockRoute "T2" "t3"].map Crossover.inA)
    (fun network => network.worlds["A"]?.any OperationalWorld.switchIsOutOfPlace)
    (fun _ => true) (by decide +kernel)
  obtain ⟨w, hw, hmoved⟩ := (Option.any_eq_true ..).mp hlast
  exact w.not_switchesHold hmoved
    (hold _ _ _ _ Crossover.start_isStart hrun "A" w hw)

/-! ### Locks of different trains -/

/-- Locks of different trains share no resource. -/
def Apart (locks : Registry String RouteLock) : Prop :=
  ∀ (id other : String) (lock held : RouteLock), locks[id]? = some lock →
    locks[other]? = some held → lock.trainId ≠ held.trainId →
      ∀ resource ∈ lock.resources, resource ∉ held.resources

namespace Apart

variable {locks locks' : Registry String RouteLock}

lemma fewer (h : Apart locks) (hlocks : ∀ (id : String) (lock : RouteLock),
    locks'[id]? = some lock → locks[id]? = some lock) : Apart locks' :=
  fun id other _ _ hlock hheld => h id other _ _ (hlocks id _ hlock) (hlocks other _ hheld)

/-- Locks of one train come in that share no resource with those of other trains. -/
lemma more (h : Apart locks) (trainId : String) (added : Set RouteLock)
    (hlocks : ∀ (id : String) (lock : RouteLock), locks'[id]? = some lock →
      locks[id]? = some lock ∨ lock ∈ added) (hone : ∀ lock ∈ added, lock.trainId = trainId)
    (hfree : ∀ (id : String) (held : RouteLock), locks[id]? = some held →
      held.trainId ≠ trainId → ∀ lock ∈ added, ∀ resource ∈ held.resources,
        resource ∉ lock.resources) : Apart locks' := by
  intro id other lock held hlock hheld hne
  rcases hlocks id lock hlock with hold | hnew
  · rcases hlocks other held hheld with hother | hadded
    · exact h id other lock held hold hother hne
    · exact hfree id lock hold (hone held hadded ▸ hne) held hadded
  · rcases hlocks other held hheld with hother | hadded
    · exact fun resource hin hout =>
        hfree other held hother (hone lock hnew ▸ hne.symm) lock hnew resource hout hin
    · exact absurd ((hone lock hnew).trans (hone held hadded).symm) hne

end Apart

/-- All locks of a message are of one train. -/
def OneTrainLocked (handover : RegionHandover) : Prop :=
  ∃ trainId, ∀ (id : String) (lock : RouteLock), handover.routeLocks[id]? = some lock →
    lock.trainId = trainId

/-- A step keeps the locks apart. -/
lemma Apart.step {d d' : Debt} {w w' : OperationalWorld} {vs : List Visit}
    (hstep : Step d w vs d' w') (hletters : ∀ handover ∈ d.letters, OneTrainLocked handover)
    (h : Apart w.routeLocks) : Apart w'.routeLocks := by
  cases hstep.networkEffect with
  | kept hkept | begun _ hkept | finished hkept => exact h.fewer hkept.locks
  | disrupted | cleared => exact h
  | @locked trainId templateId lockId _ train template _ _ hfree _ =>
    simp only [OperationalWorld.routeConflicts, OperationalWorld.lockedByOther,
      Bool.or_eq_false_iff, Registry.anyValue_eq_false, Bool.and_eq_false_iff,
      bne_eq_false_iff_eq, Bool.not_eq_false', KeySet.disjoint_iff] at hfree
    refine (h.more trainId {w.lockFor trainId templateId lockId template} (fun id lock hlock => ?_)
      (fun lock hlock => hlock ▸ rfl) fun id held hheld hne lock hlock => ?_).fewer
      (w.commitRouteLock_network train trainId templateId lockId template).locks
    · rw [Registry.getElem?_insert] at hlock
      split at hlock
      · exact .inr (Option.some.inj hlock).symm
      · exact .inl hlock
    · cases hlock
      exact (hfree.1.2 id held hheld).resolve_left hne
  | @accepted _ handover hletter hadmitted hkept =>
    obtain ⟨trainId, hone⟩ := hletters handover hletter
    simp only [OperationalWorld.admitHandover, checked_bind_eq_ok, refuseIf_eq_ok,
      Bool.or_eq_false_iff, Registry.anyValue_eq_false, Bool.not_eq_false',
      KeySet.disjoint_iff] at hadmitted
    obtain ⟨-, -, -, -, -, ⟨hlocks, -⟩, -⟩ := hadmitted
    refine (h.more trainId {lock | ∃ id : String, handover.routeLocks[id]? = some lock}
      (fun id lock hlock => ?_) (fun lock ⟨id, hlock⟩ => hone id lock hlock)
      fun id held hheld _ lock ⟨key, hlock⟩ resource hin hout => ?_).fewer hkept.locks
    · rw [Registry.getElem?_union, Option.or_eq_some_iff] at hlock
      exact hlock.symm.imp And.right fun hnew => ⟨id, hnew⟩
    · refine hlocks id held hheld resource hin ?_
      rw [OperationalWorld.transferredResources, Std.ExtTreeSet.mem_union_iff, KeySet.mem_ofList]
      exact .inl (List.mem_flatMap.mpr ⟨lock, Registry.mem_values.mpr ⟨key, hlock⟩,
        Std.ExtTreeSet.mem_toList.mpr hout⟩)

/-- Locks that are apart are an invariant of every network. -/
lemma apart_invariant : NetworkInvariant (fun _ _ w => Apart w.routeLocks ∧
    ∀ (key : String) (handover : RegionHandover), w.preparedHandovers[key]? = some handover →
      OneTrainLocked handover) OneTrainLocked fun _ => True where
  step hstep hletters _ h := by
    refine ⟨h.1.step hstep hletters, fun key handover hkey => ?_⟩
    rcases hstep.prepared_before hkey with hbefore | ⟨_, _, trainId, _, _, hnew⟩
    · exact h.2 key handover hbefore
    · refine ⟨trainId, fun id lock hlock => ?_⟩
      rw [hnew.locks, Registry.getElem?_filter, Option.filter_eq_some_iff] at hlock
      exact beq_iff_eq.mp hlock.2
  relabel := id
  prepared h hkey := h.2 _ _ hkey
  acknowledged h := h

/-- **Locks of different trains.**  In every run the locks in force in a region share no resource,
unless they are of one train. -/
theorem locks_apart {env : Env} {first last : Network} {visits : List Visit}
    (hstart : first.IsStart) (hrun : Network.Run env first visits last) (regionId : String)
    (w : OperationalWorld) (hw : last.worlds[regionId]? = some w) : Apart w.routeLocks :=
  ((apart_invariant.holds (fun _ _ _ _ =>
    ⟨fun id _ _ _ hlock => by simp [OperationalWorld.new] at hlock,
      fun key _ hkey => by simp [OperationalWorld.new] at hkey⟩)
    hstart hrun fun _ _ => trivial).1 regionId w hw).1

/-- Two trains have locked a route each. -/
theorem locks_apart_crossing : ∃ (visits : List Visit) (last : Network) (w : OperationalWorld),
    Network.Run Crossover.env Crossover.start visits last ∧ last.worlds["A"]? = some w
      ∧ w.routeLocks.size = 2 ∧ Apart w.routeLocks := by
  obtain ⟨visits, last, hrun, hlast, -⟩ := Network.exists_run Crossover.env Crossover.start
    (Crossover.roster ++ Crossover.trains
      ++ [.lockRoute "T1" "t1", .lockRoute "T2" "t3"].map Crossover.inA)
    (fun network => network.worlds["A"]?.any fun w : OperationalWorld => w.routeLocks.size == 2)
    (fun _ => true) (by decide +kernel)
  obtain ⟨w, hw, hsize⟩ := (Option.any_eq_true ..).mp hlast
  exact ⟨visits, last, w, hrun, hw, by simpa using hsize,
    locks_apart Crossover.start_isStart hrun "A" w hw⟩

end Zugfolge
