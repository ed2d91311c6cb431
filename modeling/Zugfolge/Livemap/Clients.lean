/-
The clients of a feed.

A client loads what the feed shows, or goes on after the last delta it has seen; it then gets the
deltas it has missed and every new one.  Between its visits the feed is published to and its
markers are changed, in any order.  A listener that fails ends the round of a delta.

* `Audience`, `Audience.step`: a feed with its clients, and what can happen next;
* `clients_follow`: while every round reaches its last listener, whoever listens holds what the feed
  shows, without gaps.
-/
import Zugfolge.Foundation.Collect
import Zugfolge.Foundation.Histories
import Zugfolge.Livemap.Replica

namespace Zugfolge.Livemap

open Foundation

/-! ### Listeners -/

namespace LivemapFeed

/-- Whether there is a listener with a number. -/
def isListening (feed : LivemapFeed) (number : ℕ) : Bool :=
  feed.listeners.any fun listener => listener.number == number

/-- What the listener with a number has received. -/
def received (feed : LivemapFeed) (number : ℕ) : List LiveDelta :=
  ((feed.listeners.find? fun listener => listener.number == number).map
    Subscription.received).getD []

/-- No listener in front of the last one fails on a delta. -/
def reaches (feed : LivemapFeed) (delta : LiveDelta) : Bool :=
  feed.listeners.dropLast.all fun listener => !listener.throwsOn delta

/-- Whoever listens gets the delta that is sent if a change passes its checks. -/
def emitReaches (feed : LivemapFeed) (input : DeltaInput) : Bool :=
  (feed.checkEmission input).toOption.all fun checked =>
    feed.reaches (feed.deltaAt checked (feed.log.sequence + 1))

/-- A listener that has received one more delta. -/
def hear (delta : LiveDelta) (listener : Subscription) : Subscription :=
  { listener with received := listener.received ++ [delta] }

/-- If none fails but the last one, all of them receive the delta. -/
lemma deliver_of_reaches {delta : LiveDelta} {listeners : List Subscription}
    (h : (listeners.dropLast.all fun listener => !listener.throwsOn delta) = true) :
    (deliver delta listeners).1 = listeners.map (hear delta) := by
  induction listeners with
  | nil => rfl
  | cons listener rest ih =>
    cases rest with
    | nil =>
      rw [deliver]
      split
      · rfl
      · rfl
    | cons next rest =>
      rw [List.dropLast_cons_cons, List.all_cons, Bool.and_eq_true, Bool.not_eq_true'] at h
      rw [deliver, h.1]
      exact congrArg (hear delta listener :: ·) (ih h.2)

variable {feed : LivemapFeed} {checked : DeltaInput}

lemma listeners_write (h : feed.reaches (feed.deltaAt checked (feed.log.sequence + 1)) = true)
    (nowMs : Int) : (feed.write nowMs checked).listeners
      = feed.listeners.map (hear (feed.deltaAt checked (feed.log.sequence + 1))) :=
  deliver_of_reaches h

lemma isListening_write (h : feed.reaches (feed.deltaAt checked (feed.log.sequence + 1)) = true)
    (nowMs : Int) (number : ℕ) :
    (feed.write nowMs checked).isListening number = feed.isListening number := by
  unfold isListening
  rw [listeners_write h, List.any_map]
  rfl

/-- A listener receives the delta that is written, and nobody else does. -/
lemma received_write (h : feed.reaches (feed.deltaAt checked (feed.log.sequence + 1)) = true)
    (nowMs : Int) (number : ℕ) : (feed.write nowMs checked).received number =
      feed.received number ++
        if feed.isListening number then [feed.deltaAt checked (feed.log.sequence + 1)] else [] := by
  unfold received
  rw [listeners_write h, List.find?_map]
  change ((((feed.listeners.find? fun listener => listener.number == number).map _).map _).getD _)
    = _
  cases hfind : feed.listeners.find? fun listener => listener.number == number with
  | none =>
    have hnot : feed.isListening number = false := by
      rw [isListening, List.any_eq_false]
      exact List.find?_eq_none.mp hfind
    rw [hnot]
    rfl
  | some listener =>
    have hlistens : feed.isListening number = true :=
      List.any_eq_true.mpr ⟨listener, List.mem_of_find?_eq_some hfind,
        List.find?_some (p := fun l : Subscription => l.number == number) hfind⟩
    rw [hlistens]
    rfl

lemma received_of_not_listening {feed : LivemapFeed} {number : ℕ}
    (h : feed.isListening number = false) : feed.received number = [] := by
  rw [isListening, List.any_eq_false] at h
  rw [received, List.find?_eq_none.mpr h]
  rfl

lemma isListening_unsubscribe (feed : LivemapFeed) (gone number : ℕ) :
    (feed.unsubscribe gone).isListening number = (number != gone && feed.isListening number) := by
  unfold isListening unsubscribe
  rw [Bool.eq_iff_iff, List.any_filter, Bool.and_eq_true, List.any_eq_true, List.any_eq_true]
  constructor
  · rintro ⟨listener, hin, h⟩
    obtain ⟨hkept, hnumber⟩ := Bool.and_eq_true_iff.mp h
    exact ⟨beq_iff_eq.mp hnumber ▸ hkept, listener, hin, hnumber⟩
  · rintro ⟨hkept, listener, hin, hnumber⟩
    exact ⟨listener, hin, Bool.and_eq_true_iff.mpr ⟨(beq_iff_eq.mp hnumber).symm ▸ hkept, hnumber⟩⟩

lemma received_unsubscribe (feed : LivemapFeed) {gone number : ℕ} (hne : number ≠ gone) :
    (feed.unsubscribe gone).received number = feed.received number := by
  have hsame : (fun listener : Subscription =>
      decide ((listener.number != gone) = true ∧ (listener.number == number) = true))
        = fun listener => listener.number == number := by
    funext listener
    by_cases hnumber : listener.number = number
    · simp [hnumber, hne]
    · simp [hnumber]
  unfold received unsubscribe
  rw [List.find?_filter, hsame]

lemma isListening_subscribe (feed : LivemapFeed) (new number : ℕ) (throwsOn : LiveDelta → Bool) :
    (feed.subscribe new throwsOn).isListening number
      = (feed.isListening number || new == number) := by
  unfold isListening subscribe
  rw [List.any_append]
  simp

lemma received_subscribe (feed : LivemapFeed) (new number : ℕ) (throwsOn : LiveDelta → Bool) :
    (feed.subscribe new throwsOn).received number = feed.received number := by
  unfold received subscribe
  rw [List.find?_append]
  cases feed.listeners.find? fun listener => listener.number == number with
  | some listener => rfl
  | none =>
    simp only [Option.none_or, List.find?_cons, List.find?_nil]
    split
    · rfl
    · rfl

end LivemapFeed

/-! ### Following a feed -/

/-- What a client holds after a snapshot and some deltas. -/
def follow (start : LiveSnapshot) (deltas : List LiveDelta) : Replica :=
  deltas.foldl Replica.apply (Replica.ofSnapshot start)

/-- A client that has seen these deltas after a snapshot is behind the feed by what the log of the
feed holds, and has missed none before. -/
structure Follows (feed : LivemapFeed) (start : LiveSnapshot) (deltas : List LiveDelta) :
    Prop where
  behind : DeltaLog.Behind Replica.apply feed.log (Replica.ofFeed feed)
    (follow start deltas).sequence (follow start deltas)
  stream : (follow start deltas).streamId = feed.streamId
  numbered : deltas.map LiveDelta.sequence = List.range' (start.sequence + 1) deltas.length
  position : (follow start deltas).sequence = start.sequence + deltas.length

lemma follow_append (start : LiveSnapshot) (deltas more : List LiveDelta) :
    follow start (deltas ++ more) = more.foldl Replica.apply (follow start deltas) :=
  List.foldl_append

lemma sequence_foldl {replica : Replica} {deltas : List LiveDelta}
    (h : deltas.map LiveDelta.sequence = List.range' (replica.sequence + 1) deltas.length) :
    (deltas.foldl Replica.apply replica).sequence = replica.sequence + deltas.length := by
  induction deltas generalizing replica with
  | nil => rfl
  | cons delta deltas ih =>
    rw [List.map_cons, List.length_cons, List.range'_succ, List.cons.injEq] at h
    have hnext : (replica.apply delta).sequence = replica.sequence + 1 := h.1
    rw [List.foldl_cons, ih (by rw [hnext]; exact h.2), hnext, List.length_cons]
    omega

namespace Follows

variable {feed feed' : LivemapFeed} {start : LiveSnapshot} {deltas : List LiveDelta}

lemma load (hkeyed : feed.entities.Keyed) : Follows feed feed.snapshot [] where
  behind := by
    have hlevel : follow feed.snapshot [] = Replica.ofFeed feed :=
      Replica.ofSnapshot_snapshot hkeyed
    rw [hlevel]
    exact .refl feed.log (Replica.ofFeed feed)
  stream := rfl
  numbered := rfl
  position := rfl

lemma of_sameStream (h : Follows feed start deltas) (hsame : SameStream feed feed') :
    Follows feed' start deltas where
  behind := by
    rw [hsame.replica, hsame.log]
    exact h.behind
  stream := h.stream.trans (congrArg Replica.streamId hsame.replica).symm
  numbered := h.numbered
  position := h.position

lemma write (h : Follows feed start deltas) (nowMs : Int) (checked : DeltaInput) :
    Follows (feed.write nowMs checked) start deltas where
  behind := h.behind.push (feed.deltaAt checked) fun _ => rfl
  stream := h.stream
  numbered := h.numbered
  position := h.position

lemma numbered_append (h : Follows feed start deltas) {more : List LiveDelta}
    (hmore : more.map LiveDelta.sequence
      = List.range' ((follow start deltas).sequence + 1) more.length) :
    (deltas ++ more).map LiveDelta.sequence
      = List.range' (start.sequence + 1) (deltas ++ more).length := by
  have hnext : start.sequence + 1 + deltas.length = (follow start deltas).sequence + 1 := by
    rw [h.position]
    omega
  rw [List.map_append, h.numbered, hmore, List.length_append, ← hnext, List.range'_append_1]

lemma of_level (hlevel : follow start deltas = Replica.ofFeed feed)
    (hnumbered : deltas.map LiveDelta.sequence
      = List.range' (start.sequence + 1) deltas.length) :
    Follows feed start deltas where
  behind := by
    rw [hlevel]
    exact .refl feed.log (Replica.ofFeed feed)
  stream := congrArg Replica.streamId hlevel
  numbered := hnumbered
  position := sequence_foldl hnumbered

lemma level_write (hlevel : follow start deltas = Replica.ofFeed feed) (nowMs : Int)
    (checked : DeltaInput) :
    follow start (deltas ++ [feed.deltaAt checked (feed.log.sequence + 1)])
      = Replica.ofFeed (feed.write nowMs checked) := by
  rw [follow_append, hlevel, Replica.ofFeed_write]
  rfl

lemma level_resume (h : Follows feed start deltas) {replay : List LiveDelta}
    (hreplay : feed.log.after (follow start deltas).sequence = some replay) :
    follow start (deltas ++ replay) = Replica.ofFeed feed := by
  rw [follow_append]
  exact h.behind.2 replay hreplay

lemma numbered_resume (h : Follows feed start deltas) {replay : List LiveDelta}
    (hreplay : feed.log.after (follow start deltas).sequence = some replay) :
    (deltas ++ replay).map LiveDelta.sequence
      = List.range' (start.sequence + 1) (deltas ++ replay).length := by
  have hnumbers := DeltaLog.numbers_after hreplay
  have hlength : replay.length = feed.log.sequence - (follow start deltas).sequence := by
    rw [← @List.length_map _ _ replay LiveDelta.sequence, hnumbers, List.length_range']
  exact h.numbered_append (hlength ▸ hnumbers)

end Follows

/-! ### Feeds with clients -/

/-- A client: the snapshot it has loaded and the deltas it has seen before it last listened. -/
structure Client where
  start : LiveSnapshot
  seen : List LiveDelta

/-- A feed with its clients. -/
structure Audience where
  feed : LivemapFeed
  clients : Registry ℕ Client

/-- What can happen to a feed with clients. -/
inductive Occurrence where
  | publish (nowMs : Int) (input : DeltaInput)
  | setOperationMarker (nowMs : Int) (trainRunIds : List String)
      (operationMarker : Option PublicOperationMarker) (time : Int)
  | load (number : ℕ)
  | leave (number : ℕ)
  | resume (number : ℕ) (throwsOn : LiveDelta → Bool)

namespace Audience

/-- All deltas that a client has seen since it loaded its snapshot. -/
def heard (audience : Audience) (number : ℕ) (client : Client) : List LiveDelta :=
  client.seen ++ audience.feed.received number

/-- What a client holds. -/
def replica (audience : Audience) (number : ℕ) (client : Client) : Replica :=
  follow client.start (audience.heard number client)

/-- A client loads what the feed shows. -/
def load (audience : Audience) (number : ℕ) : Audience where
  feed := audience.feed.unsubscribe number
  clients := audience.clients.insert number ⟨audience.feed.snapshot, []⟩

/-- A client stops listening. -/
def leave (audience : Audience) (number : ℕ) : Audience where
  feed := audience.feed.unsubscribe number
  clients := audience.clients.modify number fun client =>
    { client with seen := audience.heard number client }

/-- A client goes on with an answer of the feed. -/
def answered (audience : Audience) (number : ℕ) (client : Client) :
    LivemapFeed × LivemapSubscription → Audience
  | (feed, .resume replay) =>
    ⟨feed, audience.clients.insert number { client with seen := client.seen ++ replay }⟩
  | (feed, .reset) => ⟨feed, audience.clients⟩

/-- A client that does not listen asks for what has come after its last delta. -/
def resume (audience : Audience) (number : ℕ) (throwsOn : LiveDelta → Bool) (client : Client) :
    Audience :=
  audience.answered number client
    (audience.feed.subscribeAfter (follow client.start client.seen).cursor number throwsOn)

/-- What happens to a feed with clients. -/
def step (audience : Audience) : Occurrence → Audience
  | .publish nowMs input => { audience with feed := (audience.feed.publish nowMs input).1 }
  | .setOperationMarker nowMs trainRunIds operationMarker time =>
    { audience with
      feed :=
        (audience.feed.setOperationMarker nowMs trainRunIds operationMarker time).1 }
  | .load number => audience.load number
  | .leave number => audience.leave number
  | .resume number throwsOn =>
    (((audience.leave number).clients[number]?).map
      ((audience.leave number).resume number throwsOn)).getD (audience.leave number)

/-- Whoever listens gets the delta of a call. -/
def serves (audience : Audience) : Occurrence → Bool
  | .publish _ input =>
    (audience.feed.checkPublication input).toOption.all audience.feed.emitReaches
  | .setOperationMarker _ trainRunIds operationMarker time =>
    (checkMarkerChange "Zuglaufkennungen für Markeraktualisierungen dürfen nicht leer sein."
      trainRunIds operationMarker time).toOption.all fun identifiers =>
        let recorded := LivemapFeed.recordAll
          ⟨operationMarker.map fun _ => PUBLIC_OPERATION_MARKER, time⟩ identifiers audience.feed
          .empty
        recorded.2.isEmpty || recorded.1.emitReaches
          { atS := audience.feed.atS, changed := Registry.values recorded.2 }
  | .load _ | .leave _ | .resume _ _ => true

/-- Every client follows the feed, and it is level with the feed while it listens. -/
structure Tracks (audience : Audience) : Prop where
  keyed : audience.feed.entities.Keyed
  follows : ∀ (number : ℕ) (client : Client), audience.clients[number]? = some client →
    Follows audience.feed client.start (audience.heard number client)
  level : ∀ (number : ℕ) (client : Client), audience.clients[number]? = some client →
    audience.feed.isListening number = true →
    audience.replica number client = Replica.ofFeed audience.feed

variable {audience : Audience}

lemma Tracks.of_sameStream (h : audience.Tracks) {feed : LivemapFeed}
    (hsame : SameStream audience.feed feed) : (Audience.mk feed audience.clients).Tracks := by
  have hreceived : ∀ number, feed.received number = audience.feed.received number := by
    intro number
    unfold LivemapFeed.received
    rw [hsame.listeners]
  have hheard : ∀ number client,
      (Audience.mk feed audience.clients).heard number client = audience.heard number client := by
    intro number client
    exact congrArg (client.seen ++ ·) (hreceived number)
  refine ⟨?_, ?_, ?_⟩
  · have hentities : feed.entities = audience.feed.entities :=
      congrArg Replica.entities hsame.replica
    rw [hentities]
    exact h.keyed
  · intro number client hclient
    rw [hheard]
    exact (h.follows number client hclient).of_sameStream hsame
  · intro number client hclient hlistens
    unfold LivemapFeed.isListening at hlistens
    rw [hsame.listeners] at hlistens
    rw [replica, hheard, hsame.replica]
    exact h.level number client hclient hlistens

lemma Tracks.write (h : audience.Tracks) (nowMs : Int) {checked : DeltaInput}
    (hreaches : audience.feed.reaches
      (audience.feed.deltaAt checked (audience.feed.log.sequence + 1)) = true) :
    (Audience.mk (audience.feed.write nowMs checked) audience.clients).Tracks := by
  have hheard : ∀ number client,
      (Audience.mk (audience.feed.write nowMs checked) audience.clients).heard number client
        = audience.heard number client ++ if audience.feed.isListening number then
            [audience.feed.deltaAt checked (audience.feed.log.sequence + 1)] else [] := by
    intro number client
    rw [heard, LivemapFeed.received_write hreaches, ← List.append_assoc]
    rfl
  have hlevel : ∀ number client, audience.clients[number]? = some client →
      audience.feed.isListening number = true →
      (Audience.mk (audience.feed.write nowMs checked) audience.clients).replica number client
        = Replica.ofFeed (audience.feed.write nowMs checked) := by
    intro number client hclient hlistens
    rw [replica, hheard, if_pos hlistens]
    exact Follows.level_write (h.level number client hclient hlistens) nowMs checked
  refine ⟨h.keyed.apply checked, ?_, ?_⟩
  · intro number client hclient
    have hfollows := h.follows number client hclient
    by_cases hlistens : audience.feed.isListening number = true
    · refine Follows.of_level (hlevel number client hclient hlistens) ?_
      rw [hheard, if_pos hlistens]
      refine hfollows.numbered_append ?_
      have hsequence : (follow client.start (audience.heard number client)).sequence
          = audience.feed.log.sequence :=
        congrArg Replica.sequence (h.level number client hclient hlistens)
      rw [hsequence]
      rfl
    · rw [hheard, if_neg hlistens, List.append_nil]
      exact hfollows.write nowMs checked
  · intro number client hclient hlistens
    rw [LivemapFeed.isListening_write hreaches] at hlistens
    exact hlevel number client hclient hlistens

lemma Tracks.emit (h : audience.Tracks) (nowMs : Int) {input : DeltaInput}
    (hreaches : audience.feed.emitReaches input = true) :
    (Audience.mk (audience.feed.emit nowMs input).1 audience.clients).Tracks := by
  unfold LivemapFeed.emit orRefuse
  split
  · exact h
  next checked hchecked =>
    rw [LivemapFeed.emitReaches, hchecked] at hreaches
    exact h.write nowMs hreaches

lemma heard_unsubscribe {number gone : ℕ} (hne : number ≠ gone) (client : Client)
    (clients : Registry ℕ Client) :
    (Audience.mk (audience.feed.unsubscribe gone) clients).heard number client
      = audience.heard number client :=
  congrArg (client.seen ++ ·) (audience.feed.received_unsubscribe hne)

lemma heard_gone (number : ℕ) (client : Client) (clients : Registry ℕ Client) :
    (Audience.mk (audience.feed.unsubscribe number) clients).heard number client
      = client.seen := by
  have hgone : (audience.feed.unsubscribe number).isListening number = false := by
    simp [LivemapFeed.isListening_unsubscribe]
  rw [heard, LivemapFeed.received_of_not_listening hgone, List.append_nil]

lemma Tracks.load (h : audience.Tracks) (number : ℕ) : (audience.load number).Tracks := by
  refine ⟨h.keyed, ?_, ?_⟩
  · intro other client hclient
    rw [Audience.load, Registry.getElem?_insert] at hclient
    split at hclient
    next heq =>
      cases hclient
      rw [Audience.load, heq, heard_gone]
      exact @Follows.load (audience.feed.unsubscribe number) h.keyed
    next hne =>
      rw [Audience.load, heard_unsubscribe hne]
      have hfollows := h.follows other client hclient
      exact ⟨hfollows.behind, hfollows.stream, hfollows.numbered, hfollows.position⟩
  · intro other client hclient hlistens
    rw [Audience.load, LivemapFeed.isListening_unsubscribe, Bool.and_eq_true, bne_iff_ne]
      at hlistens
    rw [Audience.load, Registry.getElem?_insert, if_neg hlistens.1] at hclient
    rw [replica, Audience.load, heard_unsubscribe hlistens.1]
    exact h.level other client hclient hlistens.2

lemma Tracks.leave (h : audience.Tracks) (number : ℕ) : (audience.leave number).Tracks := by
  refine ⟨h.keyed, ?_, ?_⟩
  · intro other client hclient
    rw [Audience.leave, Registry.getElem?_modify] at hclient
    split at hclient
    next heq =>
      obtain ⟨old, hold, rfl⟩ := Option.map_eq_some_iff.mp hclient
      rw [Audience.leave, heq, heard_gone]
      have hfollows := h.follows number old hold
      exact ⟨hfollows.behind, hfollows.stream, hfollows.numbered, hfollows.position⟩
    next hne =>
      rw [Audience.leave, heard_unsubscribe hne]
      have hfollows := h.follows other client hclient
      exact ⟨hfollows.behind, hfollows.stream, hfollows.numbered, hfollows.position⟩
  · intro other client hclient hlistens
    rw [Audience.leave, LivemapFeed.isListening_unsubscribe, Bool.and_eq_true, bne_iff_ne]
      at hlistens
    rw [Audience.leave, Registry.getElem?_modify, if_neg hlistens.1] at hclient
    rw [replica, Audience.leave, heard_unsubscribe hlistens.1]
    exact h.level other client hclient hlistens.2

end Audience

namespace LivemapFeed

lemma subscribeAfter_cases (feed : LivemapFeed) (cursor : LivemapCursor) (number : ℕ)
    (throwsOn : LiveDelta → Bool) :
    feed.subscribeAfter cursor number throwsOn = (feed, .reset) ∨
      ∃ replay, feed.deltasAfter cursor.sequence = some replay ∧
        feed.subscribeAfter cursor number throwsOn
          = (feed.subscribe number throwsOn, .resume replay) := by
  unfold subscribeAfter
  split
  · exact .inl rfl
  · cases hreplay : feed.deltasAfter cursor.sequence with
    | none => exact .inl rfl
    | some replay => exact .inr ⟨replay, rfl, rfl⟩

lemma after_of_deltasAfter {feed : LivemapFeed} {sequence : ℕ} {replay : List LiveDelta}
    (h : feed.deltasAfter sequence = some replay) : feed.log.after sequence = some replay := by
  unfold deltasAfter at h
  split at h
  · exact h
  · cases h

/-- If the log does not reach back to a cursor, the answer is a reset. -/
lemma subscribeAfter_of_gone {feed : LivemapFeed} {cursor : LivemapCursor}
    (hgone : cursor.sequence + feed.log.history.length < feed.log.sequence) (number : ℕ)
    (throwsOn : LiveDelta → Bool) :
    feed.subscribeAfter cursor number throwsOn = (feed, .reset) := by
  have hnone : feed.deltasAfter cursor.sequence = none := by
    unfold deltasAfter
    split
    next hsafe =>
      have hnonneg : 0 ≤ cursor.sequence := of_decide_eq_true (Bool.and_eq_true_iff.mp hsafe).2
      rw [DeltaLog.after_eq_none_iff]
      omega
    · rfl
  unfold subscribeAfter
  rw [hnone]
  split
  · rfl
  · rfl

/-- If the log reaches back to a cursor of the stream, there is a replay and a new listener. -/
lemma subscribeAfter_of_reach {feed : LivemapFeed} {cursor : LivemapCursor}
    (hstream : cursor.streamId = feed.streamId) (hsafe : isSafeInteger cursor.sequence = true)
    (hnonneg : 0 ≤ cursor.sequence) (hpast : cursor.sequence ≤ feed.log.sequence)
    (hreach : feed.log.sequence ≤ cursor.sequence + feed.log.history.length) (number : ℕ)
    (throwsOn : LiveDelta → Bool) :
    ∃ replay, feed.subscribeAfter cursor number throwsOn
      = (feed.subscribe number throwsOn, .resume replay) := by
  obtain ⟨replay, hreplay⟩ : ∃ replay, feed.log.after cursor.sequence.toNat = some replay := by
    refine Option.ne_none_iff_exists'.mp fun hnone => ?_
    rw [DeltaLog.after_eq_none_iff] at hnone
    omega
  refine ⟨replay, ?_⟩
  have hsome : feed.deltasAfter cursor.sequence = some replay := by
    rw [deltasAfter, hsafe, decide_eq_true hnonneg]
    exact hreplay
  unfold subscribeAfter
  rw [hsome, hstream, bne_self_eq_false]
  rfl

end LivemapFeed

namespace Audience

variable {audience : Audience}

lemma Tracks.resume (h : audience.Tracks) {number : ℕ} {throwsOn : LiveDelta → Bool}
    {client : Client} (hclient : audience.clients[number]? = some client)
    (hsilent : audience.feed.isListening number = false) :
    (audience.resume number throwsOn client).Tracks := by
  have hheard : audience.heard number client = client.seen := by
    rw [heard, LivemapFeed.received_of_not_listening hsilent, List.append_nil]
  have hfollows : Follows audience.feed client.start client.seen :=
    hheard ▸ h.follows number client hclient
  unfold Audience.resume
  rcases audience.feed.subscribeAfter_cases (follow client.start client.seen).cursor number
    throwsOn with hreset | ⟨replay, hreplay, hresume⟩
  · rw [hreset]
    exact h
  · rw [hresume]
    have hafter := LivemapFeed.after_of_deltasAfter hreplay
    have hlevel := hfollows.level_resume hafter
    have hnew : ∀ (clients : Registry ℕ Client) (other : Client),
        (Audience.mk (audience.feed.subscribe number throwsOn) clients).heard number other
          = other.seen := by
      intro clients other
      rw [heard, LivemapFeed.received_subscribe, LivemapFeed.received_of_not_listening hsilent,
        List.append_nil]
    have hothers : ∀ (clients : Registry ℕ Client) (other : ℕ) (client : Client),
        (Audience.mk (audience.feed.subscribe number throwsOn) clients).heard other client
          = audience.heard other client := by
      intro clients other client
      exact congrArg (client.seen ++ ·) (LivemapFeed.received_subscribe _ _ _ _)
    refine ⟨h.keyed, ?_, ?_⟩
    · intro other client' hclient'
      rw [answered, Registry.getElem?_insert] at hclient'
      split at hclient'
      next heq =>
        cases hclient'
        rw [answered, heq, hnew]
        exact Follows.of_level hlevel (hfollows.numbered_resume hafter)
      next hne =>
        rw [answered, hothers]
        have hother := h.follows other client' hclient'
        exact ⟨hother.behind, hother.stream, hother.numbered, hother.position⟩
    · intro other client' hclient' hlistens
      rw [answered, Registry.getElem?_insert] at hclient'
      split at hclient'
      next heq =>
        cases hclient'
        rw [answered, replica, heq, hnew]
        exact hlevel
      next hne =>
        rw [answered, LivemapFeed.isListening_subscribe,
          beq_eq_false_iff_ne.mpr (Ne.symm hne), Bool.or_false] at hlistens
        rw [answered, replica, hothers]
        exact h.level other client' hclient' hlistens

lemma Tracks.step (h : audience.Tracks) {occurrence : Occurrence}
    (hserves : audience.serves occurrence = true) : (audience.step occurrence).Tracks := by
  cases occurrence with
  | publish nowMs input =>
    rw [Audience.step]
    unfold LivemapFeed.publish orRefuse
    split
    · exact h
    next marked hmarked =>
      rw [serves, hmarked] at hserves
      exact h.emit nowMs hserves
  | setOperationMarker nowMs trainRunIds operationMarker time =>
    rw [Audience.step]
    unfold LivemapFeed.setOperationMarker orRefuse
    split
    · exact h
    next identifiers hidentifiers =>
      rw [serves, hidentifiers] at hserves
      have hrecorded := h.of_sameStream (LivemapFeed.sameStream_recordAll
        ⟨operationMarker.map fun _ => PUBLIC_OPERATION_MARKER, time⟩ identifiers audience.feed
        .empty)
      simp only
      split
      · exact hrecorded
      next hchanged =>
        exact hrecorded.emit nowMs (Bool.or_eq_true_iff.mp hserves |>.resolve_left hchanged)
  | load number => exact h.load number
  | leave number => exact h.leave number
  | resume number throwsOn =>
    have hleft := h.leave number
    have hsilent : (audience.leave number).feed.isListening number = false := by
      simp [Audience.leave, LivemapFeed.isListening_unsubscribe]
    rw [Audience.step]
    cases hclient : (audience.leave number).clients[number]? with
    | none => exact hleft
    | some client => exact hleft.resume hclient hsilent

/-- Nobody follows a new feed yet. -/
def start (feed : LivemapFeed) : Audience := ⟨feed, .empty⟩

/-- All that has happened to a new feed. -/
def run (feed : LivemapFeed) (occurrences : List Occurrence) : Audience :=
  occurrences.foldl step (start feed)

lemma tracks_run {worldId streamId : String} {historyLimit : ℕ} {feed : LivemapFeed}
    (hcreate : LivemapFeed.create worldId historyLimit streamId = .ok feed)
    {occurrences : List Occurrence}
    (hserves : AllSteps step serves (start feed) occurrences = true) :
    (run feed occurrences).Tracks := by
  have hstep : ∀ audience occurrence, Tracks audience → serves audience occurrence = true →
      Tracks (audience.step occurrence) := fun _ _ h hserves => h.step hserves
  refine AllSteps.invariant hstep ?_ hserves
  have hnew : feed = LivemapFeed.new worldId historyLimit streamId := by
    simp only [LivemapFeed.create, bind_eq_ok_iff] at hcreate
    obtain ⟨-, -, -, -, -, -, hpure⟩ := hcreate
    cases hpure
    rfl
  rw [hnew]
  refine ⟨LiveEntities.keyed_empty, ?_, ?_⟩
  · intro number client hclient
    simp [start] at hclient
  · intro number client hclient
    simp [start] at hclient

/-- A client that listens holds what the feed shows, the deltas that a client has seen have all
numbers after its snapshot, each once and in order, and whoever comes back gets a reset exactly if
the history does not reach back to the cursor. -/
structure Followed (audience : Audience) : Prop where
  shown : ∀ number client, audience.clients[number]? = some client →
    audience.feed.isListening number = true →
    (audience.replica number client).snapshot = audience.feed.snapshot
  numbered : ∀ number client, audience.clients[number]? = some client →
    (audience.heard number client).map LiveDelta.sequence
      = List.range' (client.start.sequence + 1) (audience.heard number client).length
  reset : ∀ (cursor : LivemapCursor) (number : ℕ) (throwsOn : LiveDelta → Bool),
    cursor.streamId = audience.feed.streamId →
    cursor.sequence + audience.feed.log.history.length < audience.feed.log.sequence →
    audience.feed.subscribeAfter cursor number throwsOn = (audience.feed, .reset)
  resumed : ∀ (number other : ℕ) (client : Client) (throwsOn : LiveDelta → Bool),
    audience.clients[number]? = some client →
    isSafeInteger (audience.replica number client).sequence = true →
    audience.feed.log.sequence
      ≤ (audience.replica number client).sequence + audience.feed.log.history.length →
    ∃ replay, audience.feed.subscribeAfter (audience.replica number client).cursor other throwsOn
      = (audience.feed.subscribe other throwsOn, .resume replay)

lemma Tracks.followed (h : audience.Tracks) : audience.Followed where
  shown number client hclient hlistens := by
    rw [h.level number client hclient hlistens]
    rfl
  numbered number client hclient := (h.follows number client hclient).numbered
  reset cursor number throwsOn _ hgone := LivemapFeed.subscribeAfter_of_gone hgone number throwsOn
  resumed number other client throwsOn hclient hsafe hreach := by
    have hfollows := h.follows number client hclient
    refine LivemapFeed.subscribeAfter_of_reach hfollows.stream hsafe (Int.natCast_nonneg _) ?_ ?_
      _ _
    · exact Int.ofNat_le.mpr hfollows.behind.1
    · change (audience.feed.log.sequence : Int)
        ≤ ((audience.replica number client).sequence : Int) + audience.feed.log.history.length
      omega

end Audience

/-- **Clients follow their feed.**  Whatever is published, whatever markers are changed, and
whenever clients load a snapshot, leave and come back: as long as no listener fails on a delta in
front of another one, all clients follow the feed. -/
theorem clients_follow {worldId streamId : String} {historyLimit : ℕ} {feed : LivemapFeed}
    (hcreate : LivemapFeed.create worldId historyLimit streamId = .ok feed)
    {occurrences : List Occurrence}
    (hserves : AllSteps Audience.step Audience.serves (.start feed) occurrences = true) :
    (Audience.run feed occurrences).Followed :=
  (Audience.tracks_run hcreate hserves).followed

/-- A train that stands at the start of its line. -/
def sampleTrain : PublicTrain where
  id := "RE1:day-1"
  baseTrainRunId := some "RE1"
  operator := "Bahn"
  trainNumber := "1"
  category := "RE"
  positionMm := 0
  speedMmPerSecond := 0
  status := "running"

/-- A client loads a snapshot, misses a train and the mark of its run, and comes back; then the
train is removed, and the listener fails on this. -/
def sampleOccurrences : List Occurrence :=
  [.load 1, .publish 1000 { atS := 5, changed := [sampleTrain] },
    .setOperationMarker 1001 ["RE1"] (some PUBLIC_OPERATION_MARKER) 5, .resume 1 fun _ => true,
    .publish 1002 { atS := 6, removed := ["RE1:day-1"] }]

theorem clients_follow_sample :
    (Audience.run (.new "w" 2 "s") sampleOccurrences).feed.log.sequence = 3 ∧
      (Audience.run (.new "w" 2 "s") sampleOccurrences).feed.isListening 1 = true ∧
      (Audience.run (.new "w" 2 "s") sampleOccurrences).Followed := by
  have hcreate : LivemapFeed.create "w" 2 "s" = .ok (.new "w" 2 "s") := rfl
  exact ⟨by decide +kernel, by decide +kernel, clients_follow hcreate (by decide +kernel)⟩

/-- Two clients listen, and the first one fails on what is published. -/
def failingFirst : List Occurrence :=
  [.load 1, .load 2, .resume 1 fun _ => true, .resume 2 fun _ => false,
    .publish 1000 { atS := 5, changed := [sampleTrain] }]

/-- The second one misses the delta. -/
theorem second_misses : ¬ ∀ (worldId streamId : String) (historyLimit : ℕ) (feed : LivemapFeed)
    (occurrences : List Occurrence), LivemapFeed.create worldId historyLimit streamId = .ok feed →
      (Audience.run feed occurrences).Followed := by
  intro hclaim
  have hfollowed := hclaim "w" "s" 2 _ failingFirst rfl
  have hmissed : ((Audience.run (.new "w" 2 "s") failingFirst).clients[2]?).any (fun client =>
      (Audience.run (.new "w" 2 "s") failingFirst).feed.isListening 2 &&
        decide (((Audience.run (.new "w" 2 "s") failingFirst).replica 2 client).sequence = 0 ∧
          (Audience.run (.new "w" 2 "s") failingFirst).feed.log.sequence = 1)) = true := by
    decide +kernel
  obtain ⟨client, hclient, hmissed⟩ := (Option.any_eq_true _ _).mp hmissed
  rw [Bool.and_eq_true, decide_eq_true_eq] at hmissed
  have hsame := congrArg LiveSnapshot.sequence (hfollowed.shown 2 client hclient hmissed.1)
  exact absurd (hmissed.2.1.symm.trans (hsame.trans hmissed.2.2)) (by decide)

end Zugfolge.Livemap
