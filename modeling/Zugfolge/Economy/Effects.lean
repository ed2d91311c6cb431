/-
The effects of a run.

Every effect has a name by which an outbox knows it.  The name of a notice is put together from the
name of the command, the name of the notice and the recipient, so that two of them can be told apart
as long as no recipient looks like the end of such a name.

* `effects_of_run`: the effects of every run of such commands are told apart.
-/
import Zugfolge.Economy.Runs

namespace Zugfolge.Economy

open Foundation

/-! ### Names of notices -/

def noticeNames : List String :=
  ["calendar", "tender-announced", "tender-awarded", "mobilization-failed", "granted", "mailbox",
   "daily-report"]

/-- The parts of a text between colons. -/
def parts (text : String) : List (List Char) := text.toList.splitOn ':'

/-- No part of the text before a colon is the name of a notice. -/
def isPlain (text : String) : Bool :=
  (parts text).dropLast.all fun part => !(noticeNames.map String.toList).contains part

/-- The name of a notice for a recipient. -/
def noticeId (commandId name recipient : String) : String :=
  commandId ++ ":" ++ name ++ ":" ++ recipient

lemma parts_ne_nil (text : String) : parts text ≠ [] := List.splitOn_ne_nil _ _

lemma parts_inj {text text' : String} (h : parts text = parts text') : text = text' := by
  have hchars := congrArg [':'].intercalate h
  simp only [parts, List.intercalate_splitOn] at hchars
  exact String.toList_inj.mp hchars

lemma isColonFree_of_noticeName {name : String} (hname : name ∈ noticeNames) :
    isColonFree name = true := by
  have hall : noticeNames.all isColonFree = true := by decide
  exact List.all_eq_true.mp hall name hname

lemma parts_noticeId (commandId recipient : String) {name : String} (hname : name ∈ noticeNames) :
    parts (noticeId commandId name recipient)
      = parts commandId ++ name.toList :: parts recipient := by
  have hchars : (noticeId commandId name recipient).toList
      = commandId.toList ++ ':' :: (name.toList ++ ':' :: recipient.toList) := by
    simp [noticeId, String.toList_append]
  rw [parts, hchars, List.splitOn_append_cons_self, List.splitOn_append_cons_self,
    List.splitOn_eq_singleton (isColonFree_iff.mp (isColonFree_of_noticeName hname))]
  rfl

/-- The name of a notice for a plain recipient tells the command, the notice and the recipient. -/
lemma noticeId_inj {commandId commandId' name name' recipient recipient' : String}
    (hname : name ∈ noticeNames) (hname' : name' ∈ noticeNames)
    (hplain : isPlain recipient = true) (hplain' : isPlain recipient' = true)
    (h : noticeId commandId name recipient = noticeId commandId' name' recipient') :
    commandId = commandId' ∧ name = name' ∧ recipient = recipient' := by
  -- read from the end, the name is the first part behind the last one that is a name
  have hback : ∀ (commandId : String) {name recipient : String}, name ∈ noticeNames →
      (parts (noticeId commandId name recipient)).reverse
        = (parts recipient).getLast (parts_ne_nil recipient) :: ((parts recipient).dropLast.reverse
          ++ name.toList :: (parts commandId).reverse) := by
    intro commandId name recipient hname
    rw [parts_noticeId _ _ hname]
    conv_lhs => rw [← List.dropLast_append_getLast (parts_ne_nil recipient)]
    simp
  have hnone : ∀ {recipient : String}, isPlain recipient = true →
      ∀ part ∈ (parts recipient).dropLast.reverse, part ∉ noticeNames.map String.toList := by
    intro recipient hplain part hin
    have hnot := List.all_eq_true.mp hplain part (List.mem_reverse.mp hin)
    rwa [Bool.not_eq_true', Bool.eq_false_iff, Ne, List.contains_iff_mem] at hnot
  have hparts := congrArg (fun text => (parts text).reverse) h
  simp only [hback _ hname, hback _ hname'] at hparts
  obtain ⟨hlast, hrest⟩ := List.cons.inj hparts
  obtain ⟨hdrop, hnames, hcommand⟩ := append_first_inj (hnone hplain) (hnone hplain')
    (List.mem_map_of_mem hname) (List.mem_map_of_mem hname') hrest
  refine ⟨parts_inj (List.reverse_inj.mp hcommand), String.toList_inj.mp hnames, parts_inj ?_⟩
  rw [← List.dropLast_append_getLast (parts_ne_nil recipient),
    ← List.dropLast_append_getLast (parts_ne_nil recipient'), hlast, List.reverse_inj.mp hdrop]

/-! ### Effects -/

inductive EffectType where
  | journal | notice
  deriving DecidableEq

/-- An effect that others have to see once. -/
inductive Effect where
  | journal (entry : EconomyJournalEntry)
  | notice (message : EconomyNotice)

/-- The key by which an outbox knows an effect. -/
def Effect.key : Effect → EffectType × String
  | .journal entry => (.journal, entry.idempotencyKey)
  | .notice message => (.notice, message.id)

/-- The effects in the order in which they are stored. -/
def EconomyEffects.rows (effects : EconomyEffects) : List Effect :=
  effects.journal.map .journal ++ effects.notices.map .notice

/-- An outbox that keeps the first effect of every key. -/
def enqueue (outbox : EntryMap (EffectType × String) Effect) (row : Effect) :
    EntryMap (EffectType × String) Effect :=
  if outbox.has row.key then outbox else outbox.set row.key row

/-- The effects of a run, the latest ones first, and those of its start. -/
def effectsOf (begun : EconomyEffects) (history : List AppliedCommand) : List EconomyEffects :=
  history.map AppliedCommand.effects ++ [begun]

/-- The effects one by one, the earliest one first. -/
def rowsOf (begun : EconomyEffects) (history : List AppliedCommand) : List Effect :=
  (effectsOf begun history).reverse.flatMap EconomyEffects.rows

/-- Commands that are applied again change nothing and have no effects; the effects of different
commands have different keys, and so have different effects of one command; and the outbox keeps
every effect. -/
structure EffectsApart (begun : EconomyEffects) (history : List AppliedCommand)
    (state : EconomyWorldState) : Prop where
  replayed : ∀ entry ∈ history, ∀ commandId, entry.command.commandId = some commandId →
    ∀ command : EconomyCommand, command.commandId = some commandId →
      ∀ result, command.apply state = .ok result → result = (state, .none)
  apart : (effectsOf begun history).Pairwise fun later earlier =>
    ∀ row ∈ later.rows, ∀ row' ∈ earlier.rows, row.key ≠ row'.key
  same : ∀ row ∈ rowsOf begun history, ∀ row' ∈ rowsOf begun history,
    row.key = row'.key → row = row'
  delivered : ∀ row ∈ rowsOf begun history,
    ((rowsOf begun history).foldl enqueue .empty).get? row.key = some row

/-- The outbox keeps every effect if different ones have different keys. -/
lemma get?_foldl_enqueue {rows : List Effect}
    (hsame : ∀ row ∈ rows, ∀ row' ∈ rows, row.key = row'.key → row = row') {row : Effect}
    (hin : row ∈ rows) : (rows.foldl enqueue .empty).get? row.key = some row := by
  -- what is in the outbox is one of the effects, and what was enqueued is there
  have hkept : ∀ (later : List Effect) (outbox : EntryMap (EffectType × String) Effect),
      later ⊆ rows → (∀ key row, outbox.get? key = some row → row ∈ rows ∧ row.key = key) →
        (∀ key row, (later.foldl enqueue outbox).get? key = some row → row ∈ rows ∧ row.key = key) ∧
          ∀ key, (outbox.has key = true ∨ key ∈ later.map Effect.key) →
            (later.foldl enqueue outbox).has key = true := by
    intro later
    induction later with
    | nil => exact fun outbox _ houtbox => ⟨houtbox, fun key hkey => by simpa using hkey⟩
    | cons first later ih =>
      intro outbox hsubset houtbox
      have hnext : ∀ key row, (enqueue outbox first).get? key = some row →
          row ∈ rows ∧ row.key = key := by
        intro key row hfound
        unfold enqueue at hfound
        split at hfound
        · exact houtbox key row hfound
        · rw [EntryMap.get?_set] at hfound
          split at hfound
          · rename_i heq
            cases hfound
            exact ⟨hsubset List.mem_cons_self, heq.symm⟩
          · exact houtbox key row hfound
      obtain ⟨hbox, hhas⟩ := ih (enqueue outbox first)
        (fun row hrow => hsubset (List.mem_cons_of_mem _ hrow)) hnext
      refine ⟨hbox, fun key hkey => hhas key ?_⟩
      rw [List.map_cons, List.mem_cons, or_left_comm] at hkey
      rcases hkey with rfl | hold | hlater
      · left
        unfold enqueue
        split
        · assumption
        · exact (EntryMap.has_set _ _ _ _).mpr (.inl rfl)
      · left
        unfold enqueue
        split
        · exact hold
        · exact (EntryMap.has_set _ _ _ _).mpr (.inr hold)
      · exact .inr hlater
  obtain ⟨hbox, hhas⟩ := hkept rows .empty (List.Subset.refl _) (by simp)
  have hthere := hhas row.key (.inr (List.mem_map_of_mem hin))
  cases hfound : (rows.foldl enqueue .empty).get? row.key with
  | none =>
    rw [EntryMap.has_eq_false_iff.mpr hfound] at hthere
    cases hthere
  | some found =>
    obtain ⟨hfoundIn, hkey⟩ := hbox _ _ hfound
    rw [hsame found hfoundIn row hin hkey]

/-! ### Keys that are known -/

/-- The key belongs to a notice of the start, or to a notice or an entry of a command that was
applied. -/
inductive Known (state : EconomyWorldState) : EffectType × String → Prop
  | started (recipient : String) (hplain : isPlain recipient = true) :
      Known state (.notice, noticeId "world-start" "calendar" recipient)
  | notice (commandId name recipient : String) (hname : name ∈ noticeNames)
      (hother : name ≠ "calendar") (hplain : isPlain recipient = true)
      (hold : commandId ∈ state.processedCommands) :
      Known state (.notice, noticeId commandId name recipient)
  | journal (commandId name : String) (hname : isColonFree name = true)
      (hold : commandId ∈ state.processedCommands) :
      Known state (.journal, commandId ++ ":" ++ name)

/-- The key belongs to a notice or an entry of the command. -/
inductive KeyOf (commandId : String) : EffectType × String → Prop
  | notice (name recipient : String) (hname : name ∈ noticeNames) (hother : name ≠ "calendar")
      (hplain : isPlain recipient = true) :
      KeyOf commandId (.notice, noticeId commandId name recipient)
  | journal (name : String) (hname : isColonFree name = true) :
      KeyOf commandId (.journal, commandId ++ ":" ++ name)

section Keys

variable {state next : EconomyWorldState} {commandId : String} {key : EffectType × String}

lemma KeyOf.known (h : KeyOf commandId key) (hold : commandId ∈ state.processedCommands) :
    Known state key := by
  cases h with
  | notice name recipient hname hother hplain =>
    exact .notice commandId name recipient hname hother hplain hold
  | journal name hname => exact .journal commandId name hname hold

lemma KeyOf.not_known (h : KeyOf commandId key) (hnew : commandId ∉ state.processedCommands) :
    ¬ Known state key := by
  intro hknown
  cases h with
  | notice name recipient hname hother hplain =>
    generalize hid : noticeId commandId name recipient = id at hknown
    cases hknown with
    | started recipient' hplain' =>
      exact hother (noticeId_inj hname (by decide) hplain hplain' hid).2.1
    | notice commandId' name' recipient' hname' _ hplain' hold =>
      exact hnew ((noticeId_inj hname hname' hplain hplain' hid).1 ▸ hold)
  | journal name hname =>
    generalize hid : commandId ++ ":" ++ name = id at hknown
    cases hknown with
    | journal commandId' name' hname' hold =>
      exact hnew ((append_colon_inj hname hname' hid).1 ▸ hold)

lemma Known.mono (h : Known state key)
    (hmono : ∀ commandId ∈ state.processedCommands, commandId ∈ next.processedCommands) :
    Known next key := by
  cases h with
  | started recipient hplain => exact .started recipient hplain
  | notice commandId name recipient hname hother hplain hold =>
    exact .notice commandId name recipient hname hother hplain (hmono _ hold)
  | journal commandId name hname hold => exact .journal commandId name hname (hmono _ hold)

end Keys

/-! ### Effects of commands -/

/-- The recipients of the notices of a command are plain. -/
def notifiesPlain (state : EconomyWorldState) : EconomyCommand → Bool
  | .announceTender input => input.recipients.all isPlain
  | .closeTender input =>
    (state.tenders.get? input.tenderId).all fun current =>
      (awardTender current.tender current.bids input.time).toOption.all fun award =>
        award.winner.all fun winner =>
          (input.recipientByOperator.get? winner.operatorId).all isPlain
  | .completeMobilization input =>
    input.operatingTransition.outcome.operatorId != "public" || isPlain input.recipientAccountId
  | .grantEmergencyStartPackage input => isPlain input.accountId
  | .escalateOperator input =>
    (evaluateInsolvency input.signals).messages.isEmpty || isPlain input.accountId
  | .generateDueTenders _ =>
    state.tenderGeneration.isNone || state.prequalifications.keys.all isPlain
  | _ => true

/-- The command was applied before, or the recipients of its notices are plain. -/
def notifiesApart : EconomyWorldState → EconomyCommand → Bool := whenNew notifiesPlain

/-- The effects are known, and those with the same key are the same. -/
structure Told (state : EconomyWorldState) (rows : List Effect) : Prop where
  known : ∀ row ∈ rows, Known state row.key
  same : ∀ row ∈ rows, ∀ row' ∈ rows, row.key = row'.key → row = row'

/-- Besides, they were not known before. -/
structure NewRows (state next : EconomyWorldState) (rows : List Effect) : Prop
    extends Told next rows where
  kept : ∀ commandId ∈ state.processedCommands, commandId ∈ next.processedCommands
  fresh : ∀ row ∈ rows, ¬ Known state row.key

section Change

variable {state middle next : EconomyWorldState} {command : EconomyCommand}
  {effects : EconomyEffects} {rows rows' : List Effect}

/-- New effects join those that are told. -/
lemma Told.append (h : Told state rows) (h' : NewRows state next rows') :
    Told next (rows ++ rows') where
  known row hin := by
    rcases List.mem_append.mp hin with hin | hin
    · exact (h.known row hin).mono h'.kept
    · exact h'.known row hin
  same row hin row' hin' heq := by
    rcases List.mem_append.mp hin with hin | hin
    · rcases List.mem_append.mp hin' with hin' | hin'
      · exact h.same row hin row' hin' heq
      · exact absurd (heq ▸ h.known row hin) (h'.fresh row' hin')
    · rcases List.mem_append.mp hin' with hin' | hin'
      · exact absurd (heq ▸ h.known row' hin') (h'.fresh row hin)
      · exact h'.same row hin row' hin' heq

lemma NewRows.nil (hkept : ∀ commandId ∈ state.processedCommands,
    commandId ∈ next.processedCommands) : NewRows state next [] where
  known _ hnone := by cases hnone
  same _ hnone := by cases hnone
  kept := hkept
  fresh _ hnone := by cases hnone

lemma NewRows.append (h : NewRows state middle rows) (h' : NewRows middle next rows') :
    NewRows state next (rows ++ rows') where
  toTold := h.toTold.append h'
  kept commandId hold := h'.kept commandId (h.kept commandId hold)
  fresh row hin hknown := by
    rcases List.mem_append.mp hin with hin | hin
    · exact h.fresh row hin hknown
    · exact h'.fresh row hin (hknown.mono h.kept)

lemma NewRows.of_command {commandId : String}
    (hnew : state.accepts commandId = true)
    (hprocessed : next.processedCommands = state.processedCommands.insert commandId)
    (hkeys : ∀ row ∈ rows, KeyOf commandId row.key)
    (hsame : ∀ row ∈ rows, ∀ row' ∈ rows, row.key = row'.key → row = row') :
    NewRows state next rows where
  known row hin := (hkeys row hin).known (hprocessed ▸ List.mem_insert_self)
  same := hsame
  kept _ hold := hprocessed ▸ List.mem_insert_of_mem hold
  fresh row hin := by
    refine (hkeys row hin).not_known fun hold => ?_
    rw [EconomyWorldState.accepts, List.contains_iff_mem.mpr hold] at hnew
    cases hnew

lemma NewRows.singleton {commandId : String} {row : Effect} (hnew : state.accepts commandId = true)
    (hprocessed : next.processedCommands = state.processedCommands.insert commandId)
    (hkey : KeyOf commandId row.key) : NewRows state next [row] := by
  refine .of_command hnew hprocessed (fun row' hin => ?_) fun row' hin row'' hin' _ => ?_
  · rw [List.mem_singleton.mp hin]
    exact hkey
  · rw [List.mem_singleton.mp hin, List.mem_singleton.mp hin']

lemma noticeId_eq {name mark : String} (commandId recipient : String)
    (h : ":" ++ name ++ ":" = mark) :
    commandId ++ mark ++ recipient = noticeId commandId name recipient := by
  rw [← h]
  simp [noticeId, String.append_assoc]

lemma colon_eq {name mark : String} (commandId : String) (h : ":" ++ name = mark) :
    commandId ++ mark = commandId ++ ":" ++ name := by
  rw [← h, String.append_assoc]

lemma processed_withDecision {input : Escalation} :
    (withDecision state input (evaluateInsolvency input.signals)).processedCommands
      = state.processedCommands := by
  unfold withDecision withConsequence
  split <;> split <;> rfl

/-- Messages on one channel are the same. -/
lemma message_eq {signals : InsolvencySignals} {message message' : EscalationMessage}
    (h : message ∈ (evaluateInsolvency signals).messages)
    (h' : message' ∈ (evaluateInsolvency signals).messages)
    (hchannel : message.channel.name = message'.channel.name) : message = message' := by
  have hinj : ∀ {channel channel' : EscalationChannel}, channel.name = channel'.name →
      channel = channel' := by
    intro channel channel' heq
    cases channel <;> cases channel' <;> first | rfl | (revert heq; decide)
  unfold evaluateInsolvency at h h'
  simp only at h h'
  split at h
  · cases h
  · rename_i hstage
    rw [if_neg hstage] at h'
    obtain ⟨channel, -, rfl⟩ := List.mem_map.mp h
    obtain ⟨channel', -, rfl⟩ := List.mem_map.mp h'
    have hsame : channel = channel' := hinj hchannel
    rw [hsame]

/-- What a change has others do can be told from what was done before if its recipients are
plain. -/
lemma Change.newRows (hplain : notifiesPlain state command = true)
    (h : Change state command next effects) : NewRows state next effects.rows := by
  cases h with
  | announced input profile tender hnew =>
    refine .of_command hnew rfl (fun row hin => ?_) fun row hin row' hin' hkey => ?_
    · obtain ⟨message, hmessage, rfl⟩ := List.mem_map.mp hin
      obtain ⟨recipient, hrecipient, rfl⟩ := List.mem_map.mp hmessage
      change KeyOf _ (_, input.commandId ++ ":tender-announced:" ++ recipient)
      rw [noticeId_eq _ _ (by decide : ":" ++ "tender-announced" ++ ":" = _)]
      exact .notice _ _ (by decide) (by decide) (List.all_eq_true.mp hplain _ hrecipient)
    · obtain ⟨message, hmessage, rfl⟩ := List.mem_map.mp hin
      obtain ⟨recipient, -, rfl⟩ := List.mem_map.mp hmessage
      obtain ⟨message', hmessage', rfl⟩ := List.mem_map.mp hin'
      obtain ⟨recipient', -, rfl⟩ := List.mem_map.mp hmessage'
      have hid := (Prod.mk.inj hkey).2
      rw [(String.append_right_inj _).mp hid]
  | won input current award winner budget hnew hcurrent hphase haward hwinner =>
    rw [notifiesPlain, hcurrent, Option.all_some, haward] at hplain
    simp only [Except.toOption, Option.all_some, hwinner] at hplain
    cases hrecipient : input.recipientByOperator.get? winner.operatorId with
    | none => exact .nil fun _ hold => List.mem_insert_of_mem hold
    | some account =>
      rw [hrecipient, Option.all_some] at hplain
      refine .singleton hnew rfl ?_
      change KeyOf _ (_, input.commandId ++ ":tender-awarded:" ++ account)
      rw [noticeId_eq _ _ (by decide : ":" ++ "tender-awarded" ++ ":" = _)]
      exact .notice _ _ (by decide) (by decide) hplain
  | failedMobilization input current winningBid mobilization hnew _ _ _ hpublic =>
    rw [notifiesPlain, hpublic, bne_self_eq_false, Bool.false_or] at hplain
    have hpenalty : KeyOf input.commandId (.journal, input.commandId ++ ":penalty") := by
      rw [colon_eq _ (by decide : ":" ++ "penalty" = _)]
      exact .journal _ (by decide)
    have hfailure : KeyOf input.commandId
        (.notice, input.commandId ++ ":mobilization-failed:" ++ input.recipientAccountId) := by
      rw [noticeId_eq _ _ (by decide : ":" ++ "mobilization-failed" ++ ":" = _)]
      exact .notice _ _ (by decide) (by decide) hplain
    refine .of_command hnew rfl (fun row hin => ?_) fun row hin row' hin' hkey => ?_
    · rcases List.mem_pair.mp hin with rfl | rfl
      · exact hpenalty
      · exact hfailure
    · rcases List.mem_pair.mp hin with rfl | rfl
      · rcases List.mem_pair.mp hin' with rfl | rfl
        · rfl
        · cases (Prod.mk.inj hkey).1
      · rcases List.mem_pair.mp hin' with rfl | rfl
        · cases (Prod.mk.inj hkey).1
        · rfl
  | granted input hnew =>
    refine .singleton hnew rfl ?_
    change KeyOf _ (_, input.commandId ++ ":granted:" ++ input.accountId)
    rw [noticeId_eq _ _ (by decide : ":" ++ "granted" ++ ":" = _)]
    exact .notice _ _ (by decide) (by decide) hplain
  | settled input contract current entry hnew _ _ _ _ _ hentry =>
    refine .singleton hnew rfl ?_
    rw [Effect.key, hentry, colon_eq _ (by decide : ":" ++ "settlement" = _)]
    exact .journal _ (by decide)
  | escalated input hnew =>
    refine .of_command hnew (congrArg (List.insert _) processed_withDecision)
      (fun row hin => ?_) fun row hin row' hin' hkey => ?_
    · obtain ⟨notice, hnotice, rfl⟩ := List.mem_map.mp hin
      obtain ⟨message, hmessage, rfl⟩ := List.mem_map.mp hnotice
      have haccount : isPlain input.accountId = true := by
        rw [notifiesPlain, Bool.or_eq_true, List.isEmpty_iff] at hplain
        rcases hplain with hnone | hplain
        · rw [hnone] at hmessage
          cases hmessage
        · exact hplain
      refine .notice message.channel.name input.accountId ?_ ?_ haccount
      · cases message.channel <;> decide
      · cases message.channel <;> decide
    · obtain ⟨notice, hnotice, rfl⟩ := List.mem_map.mp hin
      obtain ⟨message, hmessage, rfl⟩ := List.mem_map.mp hnotice
      obtain ⟨notice', hnotice', rfl⟩ := List.mem_map.mp hin'
      obtain ⟨message', hmessage', rfl⟩ := List.mem_map.mp hnotice'
      have hid : input.commandId ++ ":" ++ message.channel.name ++ ":" ++ input.accountId
          = input.commandId ++ ":" ++ message'.channel.name ++ ":" ++ input.accountId :=
        (Prod.mk.inj hkey).2
      rw [String.append_left_inj, String.append_left_inj, String.append_right_inj] at hid
      rw [message_eq hmessage hmessage' hid]
  | budgeted time policy period =>
    refine .nil fun commandId hold => ?_
    unfold withBudget
    split
    · exact hold
    · exact hold
  | _ => exact .nil fun _ hold => List.mem_insert_of_mem hold

/-- What the generator does can be told from what was done before. -/
lemma Generated.newRows {initial : EconomyWorldState} {notices : List EconomyNotice}
    (hplain : initial.prequalifications.keys.all isPlain = true)
    (h : Generated initial next notices) :
    next.prequalifications = initial.prequalifications ∧
      NewRows initial next (notices.map .notice) := by
  induction h with
  | start => exact ⟨rfl, .nil fun _ hold => hold⟩
  | @step state next notices command effects hbefore hgives hchange ih =>
    obtain ⟨hsame, hrows⟩ := ih
    have hnotifies : notifiesPlain state command = true := by
      cases hgives with
      | announce input hrecipients =>
        refine List.all_eq_true.mpr fun recipient hin => ?_
        have hkey := hrecipients.mem_iff.mp hin
        rw [hsame] at hkey
        exact List.all_eq_true.mp hplain recipient hkey
      | openTender => rfl
      | budget => rw [notifiesPlain, hsame, hplain, Bool.or_true]
    have hquiet : next.prequalifications = state.prequalifications ∧ effects.journal = [] := by
      cases hgives with
      | announce | openTender =>
        cases hchange
        exact ⟨rfl, rfl⟩
      | budget =>
        cases hchange
        exact ⟨withBudget_prequalifications _ _ _, rfl⟩
    have hnext := hchange.newRows hnotifies
    rw [EconomyEffects.rows, hquiet.2] at hnext
    refine ⟨hquiet.1.trans hsame, ?_⟩
    rw [List.map_append]
    exact hrows.append hnext

/-- What a command has others do can be told from what was done before. -/
lemma EconomyCommand.newRows (hallowed : notifiesApart state command = true)
    (h : command.apply state = .ok (next, effects)) : NewRows state next effects.rows := by
  cases command.apply_changes h with
  | repeated => exact .nil fun _ hold => hold
  | changed hchange =>
    rw [notifiesApart, whenNew, hchange.isNewIn, Bool.not_true, Bool.false_or] at hallowed
    exact hchange.newRows hallowed
  | generated time hgenerated =>
    have hplain : state.tenderGeneration = none ∨
        state.prequalifications.keys.all isPlain = true := by
      rw [← Option.isNone_iff_eq_none, ← Bool.or_eq_true]
      exact hallowed
    rcases hplain with hnone | hplain
    · obtain ⟨generated, hdue, heq⟩ := map_eq_ok_iff.mp h
      have hstart : generated = .start state := by
        unfold Economy.generateDueTenders at hdue
        rw [hnone] at hdue
        split at hdue
        · cases hdue
          rfl
        · cases hdue
          rfl
      rw [hstart] at heq
      cases heq
      exact .nil fun _ hold => hold
    · exact (hgenerated.newRows hplain).2

end Change

/-! ### Runs -/

section Run

variable {input : EconomyWorldStart} {first state next : EconomyWorldState}
  {begun effects : EconomyEffects} {command : EconomyCommand} {history : List AppliedCommand}
  {time : Int}

lemma Change.processed (h : Change state command next effects) :
    next.processedCommands
      = command.commandId.elim state.processedCommands (state.processedCommands.insert ·) := by
  cases h with
  | escalated => exact congrArg (List.insert _) processed_withDecision
  | budgeted =>
    unfold withBudget
    split <;> rfl
  | _ => rfl

lemma Change.processed_kept (h : Change state command next effects) {commandId : String}
    (hold : commandId ∈ state.processedCommands) : commandId ∈ next.processedCommands := by
  rw [h.processed]
  cases command.commandId with
  | none => exact hold
  | some own => exact List.mem_insert_of_mem hold

lemma Run.processed (h : Run first 0 history state time) {entry : AppliedCommand}
    (hin : entry ∈ history) {commandId : String}
    (hname : entry.command.commandId = some commandId) :
    commandId ∈ state.processedCommands := by
  induction h with
  | start => cases hin
  | @step history before after _ now command effects hbefore happly _ _ ih =>
    rcases List.mem_cons.mp hin with rfl | hearlier
    · cases EconomyCommand.apply_changes happly with
      | repeated own hown hprocessed =>
        obtain rfl : own = commandId := Option.some.inj (hown.symm.trans hname)
        exact hprocessed
      | changed hchange =>
        have hprocessed := hchange.processed
        rw [hname, Option.elim_some] at hprocessed
        rw [hprocessed]
        exact List.mem_insert_self
      | generated => cases hname
    · cases EconomyCommand.apply_changes happly with
      | repeated => exact ih hearlier
      | changed hchange => exact hchange.processed_kept (ih hearlier)
      | generated time hgenerated =>
        exact hgenerated.invariant (fun state => commandId ∈ state.processedCommands)
          (fun _ _ _ _ hstate _ hchange => hchange.processed_kept hstate) (ih hearlier)

lemma replayed_of_processed {commandId : String} {result : EconomyWorldState × EconomyEffects}
    (hname : command.commandId = some commandId) (hold : commandId ∈ state.processedCommands)
    (h : command.apply state = .ok result) : result = (state, .none) := by
  obtain ⟨after, made⟩ := result
  cases EconomyCommand.apply_changes h with
  | repeated => rfl
  | changed hchange =>
    have hnew := hchange.isNewIn
    rw [isNewIn_of_processed hname hold] at hnew
    cases hnew
  | generated => cases hname

/-- The effects of the start can be told apart. -/
lemma told_of_start (hstart : startEconomyWorld input = .ok (first, begun))
    (hplain : input.accounts.all isPlain = true) : Told first begun.rows := by
  obtain ⟨lots, calendar, generated, hgenerated, rfl, rfl⟩ := startEconomyWorld_eq_ok hstart
  have hkeys : (initialState input lots calendar).prequalifications.keys.all isPlain = true := by
    refine List.all_eq_true.mpr fun accountId hin => ?_
    have hhas := EntryMap.has_iff.mpr hin
    cases hfound : (initialState input lots calendar).prequalifications.get? accountId with
    | none =>
      rw [EntryMap.has_eq_false_iff.mpr hfound] at hhas
      cases hhas
    | some record =>
      obtain ⟨account, haccount, heq⟩ := List.mem_map.mp (EntryMap.mem_of_get?_ofEntries hfound)
      obtain rfl : account = accountId := (Prod.mk.inj heq).1
      exact List.all_eq_true.mp hplain account haccount
  have hcalendar : Told (initialState input lots calendar)
      ((input.accounts.map (calendarNotice input.worldId calendar)).map .notice) := by
    refine ⟨fun row hin => ?_, fun row hin row' hin' hkey => ?_⟩
    · obtain ⟨notice, hnotice, rfl⟩ := List.mem_map.mp hin
      obtain ⟨account, haccount, rfl⟩ := List.mem_map.mp hnotice
      change Known _ (_, "world-start:calendar:" ++ account)
      rw [show "world-start:calendar:" ++ account
        = noticeId "world-start" "calendar" account from rfl]
      exact .started account (List.all_eq_true.mp hplain account haccount)
    · obtain ⟨notice, hnotice, rfl⟩ := List.mem_map.mp hin
      obtain ⟨account, -, rfl⟩ := List.mem_map.mp hnotice
      obtain ⟨notice', hnotice', rfl⟩ := List.mem_map.mp hin'
      obtain ⟨account', -, rfl⟩ := List.mem_map.mp hnotice'
      have hid := (Prod.mk.inj hkey).2
      rw [(String.append_right_inj _).mp hid]
  have htold := hcalendar.append (hgenerated.newRows hkeys).2
  rw [← List.map_append] at htold
  exact ⟨fun row hin => (htold.known row hin).mono fun _ hold => hold, htold.same⟩

/-- The effects of a run are known and can be told apart, and those of a command were not known
before. -/
lemma Run.told (hbegun : Told first begun.rows) (h : Run first 0 history state time)
    (hallowed : AllAllowed notifiesApart history) :
    Told state (rowsOf begun history) ∧ (effectsOf begun history).Pairwise fun later earlier =>
      ∀ row ∈ later.rows, ∀ row' ∈ earlier.rows, row.key ≠ row'.key := by
  induction h with
  | start => exact ⟨by simpa [rowsOf, effectsOf] using hbegun, List.pairwise_singleton _ _⟩
  | @step history before after _ now command effects hbefore happly _ _ ih =>
    obtain ⟨htold, hpairwise⟩ := ih fun entry hin => hallowed entry (List.mem_cons_of_mem _ hin)
    have hnew := EconomyCommand.newRows (hallowed _ List.mem_cons_self) happly
    have hrows : rowsOf begun (⟨command, now, before, after, effects⟩ :: history)
        = rowsOf begun history ++ effects.rows := by
      simp [rowsOf, effectsOf, List.flatMap_append]
    refine ⟨hrows ▸ htold.append hnew, .cons (fun earlier hin row hrow row' hrow' hkey => ?_)
      hpairwise⟩
    refine hnew.fresh row hrow (hkey ▸ htold.known row' ?_)
    exact List.mem_flatMap.mpr ⟨earlier, List.mem_reverse.mpr hin, hrow'⟩

/-- **The effects of every run whose notices go to plain recipients are told apart by their keys,
and a command that is applied again has none.** -/
theorem effects_of_run (hplain : input.accounts.all isPlain = true)
    (hstart : startEconomyWorld input = .ok (first, begun))
    (hrun : Run first 0 history state time) (hallowed : AllAllowed notifiesApart history) :
    EffectsApart begun history state := by
  obtain ⟨htold, hpairwise⟩ := hrun.told (told_of_start hstart hplain) hallowed
  refine ⟨?_, hpairwise, htold.same, fun row hin => get?_foldl_enqueue htold.same hin⟩
  intro entry hin commandId hname command hcommand result happly
  exact replayed_of_processed hcommand (hrun.processed hin hname) happly

end Run

/-- A tender of the lot is announced to a recipient. -/
def announcementTo (commandId tenderId recipient : String) : EconomyCommand :=
  .announceTender { smallAnnouncement "public" with
    commandId := commandId
    tender := { smallTender "public" with id := tenderId }
    recipients := [recipient] }

/-- The notices of two announcements have one name. -/
theorem effects_fail : ¬ ∀ (input : EconomyWorldStart) (first : EconomyWorldState)
    (begun : EconomyEffects) (history : List AppliedCommand) (state : EconomyWorldState)
    (time : Int), startEconomyWorld input = .ok (first, begun) → Run first 0 history state time →
      EffectsApart begun history state := by
  intro hclaim
  have hplayed : (startEconomyWorld smallWorld).toOption.any (fun started =>
      ((announcementTo "x" "tender-1" "b:tender-announced:c").apply started.1).toOption.any
        fun one => ((announcementTo "x:tender-announced:b" "tender-2" "c").apply
          one.1).toOption.any fun two =>
            two.2.rows.any fun row => one.2.rows.any fun row' => row.key == row'.key) = true := by
    decide +kernel
  obtain ⟨⟨first, begun⟩, hstart, hplayed⟩ := ok_of_any hplayed
  obtain ⟨⟨one, effects⟩, hone, hplayed⟩ := ok_of_any hplayed
  obtain ⟨⟨two, effects'⟩, htwo, hplayed⟩ := ok_of_any hplayed
  obtain ⟨row, hrow, hplayed⟩ := List.any_eq_true.mp hplayed
  obtain ⟨row', hrow', hsame⟩ := List.any_eq_true.mp hplayed
  have hbegin : Run first 0 [] first 0 := .start
  have hrun := (hbegin.step hone rfl le_rfl).step htwo rfl le_rfl
  have hapart := (hclaim _ _ _ _ _ _ hstart hrun).apart
  exact (List.pairwise_cons.mp hapart).1 effects List.mem_cons_self row hrow row' hrow'
    (beq_iff_eq.mp hsame)

/-- Two announcements to one account and what follows for an operator. -/
theorem effects_of_run_announced : ∃ (first : EconomyWorldState) (begun : EconomyEffects)
    (history : List AppliedCommand) (state : EconomyWorldState) (time : Int),
    startEconomyWorld smallWorld = .ok (first, begun) ∧ Run first 0 history state time ∧
      state.processedCommands = ["escalate-1", "announce-2", "announce-1"] ∧
      EffectsApart begun history state := by
  have hplayed : (playSmallWorld notifiesApart
      [announcementTo "announce-1" "tender-1" "account-1",
       announcementTo "announce-2" "tender-2" "account-1",
       .escalateOperator (smallEscalation "operator-a" 100)]).toOption.any (fun result =>
        result.1.processedCommands == ["escalate-1", "announce-2", "announce-1"]) = true := by
    decide +kernel
  obtain ⟨first, begun, history, state, time, hstart, hrun, hallowed, hcheck⟩ :=
    run_of_playSmallWorld hplayed
  exact ⟨first, begun, history, state, time, hstart, hrun, beq_iff_eq.mp hcheck,
    effects_of_run (by decide) hstart hrun hallowed⟩

end Zugfolge.Economy
