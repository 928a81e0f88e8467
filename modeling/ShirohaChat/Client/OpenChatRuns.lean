import ShirohaChat.Client.OpenChat
import ShirohaChat.Client.SessionListRuns

/-!
# Runs of the open chat

The session list, the receiving and the sending use case and the chat view over
one database.  Whatever the user opens, deletes, sends and resends, and whatever
the network brings, the view shows the stored messages of the current session.
-/

set_option autoImplicit false

namespace ShirohaChat

open Transition LocalDatabase

/-! ## The window -/

structure OpenRun where
  reload : ReloadRun := {}
  fetched : Bool := true
  recovered : String → RecoverRun := fun _ => {}

structure ChatWindow where
  client : SessionClient := {}
  timers : AckTimers := AckTimers.empty
  view : ChatViewModel := {}

namespace ChatWindow

def sender (window : ChatWindow) : SendMessageUseCase :=
  { db := window.client.db, timers := window.timers }

def send (window : ChatWindow) (step : SendMessageUseCase → SendMessageUseCase) : ChatWindow :=
  let sent := step window.sender
  { client := { window.client with db := sent.db }
    timers := sent.timers
    view := sent.signals.foldl ChatViewModel.onSignal window.view }

/-- `ChatViewModel::setSessionId`. -/
def setSessionId (run : OpenRun) (window : ChatWindow) (sessionId : String) : ChatWindow :=
  if window.view.sessionId = sessionId then window
  else
    let view := { window.view with sessionId := sessionId }.loadMessagesForSession
      window.client.db run.reload sessionId
      (window.client.db.loadAuthUserId run.reload.authLoaded)
    { window with view := view }.send fun sender =>
      sender.recoverPendingMessages run.fetched run.recovered sessionId

/-- `currentSessionChanged` reaches the view after the last write of a handler,
but for the one of `startPrivateChat`. -/
def syncWithCurrentSession (run : OpenRun) (window : ChatWindow) : ChatWindow :=
  window.setSessionId run window.client.currentSessionId

/-- The view opens the session before the sessions are loaded again. -/
def startPrivateChat (sha256 : List Nat → String) (saved : Bool) (switched : SwitchRun)
    (loaded : LoadSessionsRun) (opened : OpenRun) (window : ChatWindow)
    (userId nickname selfUserId : String) : ChatWindow :=
  let sessionId := computePrivateSessionId sha256 selfUserId userId
  let displayName := if trimmed nickname = "" then userId else trimmed nickname
  let stored := { window.client with
    db := SessionClient.renameSession window.client.db saved
      ⟨sessionId, .privateChat, selfUserId, displayName, userId, 0⟩ }
  let synced := { window with
    client := stored.switchToSession switched sessionId displayName }.syncWithCurrentSession opened
  { synced with client := synced.client.loadSessions loaded }

def onIncomingMessage (run : IncomingRun) (reload : ReloadRun) (window : ChatWindow)
    (incoming : IncomingMessage) : ChatWindow :=
  let received := (window.client.receiver.onIncomingMessage run incoming).received
  let client := window.client.onIncomingMessage run incoming
  { window with
    client := client
    view := received.foldl (fun view signal =>
      view.onMessageReceived client.db reload signal.sessionId) window.view }

end ChatWindow

/-! ## The system -/

inductive ChatWindowEvent where
  | sending (event : SendEvent)
  | sessions (event : SessionListEvent) (opened : OpenRun)
  | restarted

namespace ChatWindowEvent

/-- What other use cases write comes as `tablesWritten`; they leave the two
tables of the messages alone. -/
def enabled (window : ChatWindow) : ChatWindowEvent → Prop
  | .sending event =>
      event.enabled window.sender ∧ ∀ tables, event ≠ .elsewhere tables
  | .sessions event _ => event.enabled window.client ∧
      ∀ tables, event = .tablesWritten tables →
        tables.messages = window.client.db.view.messages ∧
          tables.pendingAcks = window.client.db.view.pendingAcks
  | .restarted => True

/-- A new process finds what was committed, and has no session open. -/
def next (sha256 : List Nat → String) (window : ChatWindow) : ChatWindowEvent → ChatWindow
  | .sending event => window.send event.next
  | .sessions (.privateChatStarted saved switched loaded userId nickname selfUserId) opened =>
      window.startPrivateChat sha256 saved switched loaded opened userId nickname selfUserId
  | .sessions (.messageReceived run incoming) opened =>
      window.onIncomingMessage run opened.reload incoming
  | .sessions event opened =>
      { window with client := event.next sha256 window.client }.syncWithCurrentSession opened
  | .restarted => { client := { db := { committed := window.client.db.committed } } }

/-- The statements on messages succeed, and no group is open as a private chat
when the list of groups comes. -/
def Succeeds (window : ChatWindow) : ChatWindowEvent → Prop
  | .sending event => event.Succeeds window.sender
  | .sessions event opened =>
      opened.reload.fetched = true ∧ (∀ msgId, (opened.recovered msgId).failed = {}) ∧
        ∀ run loaded groups, event = .groupListLoaded run loaded groups →
          window.client.currentSessionType = .groupChat ∨
            ¬ window.client.db.HasGroup window.client.currentSessionId
  | .restarted => True

end ChatWindowEvent

/-- One client over the tables that earlier runs have left. -/
def chatWindowSystem (sha256 : List Nat → String) (tables : LocalTables) :
    System ChatWindow ChatWindowEvent where
  initial := { client := { db := { committed := tables } } }
  enabled := ChatWindowEvent.enabled
  next := ChatWindowEvent.next sha256

/-! ## What the handlers do to the messages -/

/-- A transaction that is not left open is undone, or commits what its callback
made of the view. -/
theorem LocalDatabase.runInTransaction_ended {Value : Type} (db : LocalDatabase)
    {run : TransactionRun} (closed : run.commit ≠ .leftOpen)
    (callback : LocalDatabase → LocalDatabase × Option Value) :
    db.runInTransaction 0 run callback = (db, none) ∨
      ∃ started after value, started.view = db.view ∧ callback started = (after, some value) ∧
        db.runInTransaction 0 run callback = ({ committed := after.view }, some value) := by
  rcases db.runInTransaction_closed closed callback with undone | ⟨_, _, _, ended⟩
  · exact Or.inl undone
  rcases db.runInTransaction_view run callback with
    same | ⟨started, after, value, sameView, ran, committed | leftOpen⟩
  · exact Or.inl same
  · exact Or.inr ⟨started, after, value, sameView, ran, committed⟩
  · have both := congrArg Prod.snd (ended.symm.trans leftOpen)
    exact absurd both (Option.some_ne_none _)

theorem LocalDatabase.messages_removeSession (db : LocalDatabase) (run : RemoveSessionRun)
    (removed : String) :
    (db.removeSession 0 run removed).1.view.messages = db.view.messages ∨
      removed ≠ "" ∧ (db.removeSession 0 run removed).1.view.messages =
        db.view.messages.deleteWhere fun row => row.sessionId = removed := by
  unfold LocalDatabase.removeSession
  by_cases named : removed = ""
  · rw [if_pos named]
    exact Or.inl rfl
  rw [if_neg named]
  simp only
  rcases db.runInTransaction_view run.transaction _ with
    same | ⟨started, after, value, sameView, ran, result⟩
  · rw [same]
    exact Or.inl rfl
  · have emptied : after.view.messages =
        db.view.messages.deleteWhere fun row => row.sessionId = removed := by
      simp only [view_write] at ran
      have unfinished : (none : Option Unit) ≠ some value := (Option.some_ne_none value).symm
      split at ran
      · exact absurd (Prod.mk.inj ran).2 unfinished
      split at ran
      · exact absurd (Prod.mk.inj ran).2 unfinished
      split at ran
      · exact absurd (Prod.mk.inj ran).2 unfinished
      · rw [← (Prod.mk.inj ran).1, view_write, sameView]
    right
    refine ⟨named, ?_⟩
    rcases result with committed | leftOpen
    · rw [committed]
      exact emptied
    · rw [leftOpen]
      exact emptied

theorem LocalDatabase.messagesOf_removeSession (db : LocalDatabase) (run : RemoveSessionRun)
    {removed sessionId : String} (kept : removed = "" ∨ removed ≠ sessionId) :
    (db.removeSession 0 run removed).1.messagesOf sessionId = db.messagesOf sessionId := by
  rcases db.messages_removeSession run removed with same | ⟨named, emptied⟩
  · exact db.messagesOf_congr sessionId same
  · have differs := kept.resolve_left named
    rw [messagesOf, messagesOf, emptied]
    congr 1
    show (db.view.messages.rows.filter _).filter _ = _
    rw [List.filter_filter]
    apply List.filter_congr
    intro row _
    by_cases own : row.sessionId = sessionId
    · simp [own, differs.symm]
    · simp [own]

namespace SessionClient

section Messages
variable (client : SessionClient) (db : LocalDatabase)

theorem messages_saveSession (commits : Bool) (session : Session) :
    (saveSession db commits session).view.messages = db.view.messages :=
  frame_saveSession LocalTables.messages (fun _ _ => rfl) db 0 _ session

theorem messages_renameSession (commits : Bool) (new : Session) :
    (renameSession db commits new).view.messages = db.view.messages := by
  unfold renameSession
  split <;> exact messages_saveSession db commits _

theorem messages_ensureGroupSession (commits : Bool) (row : LocalGroupRow) :
    (ensureGroupSession commits db row).view.messages = db.view.messages := by
  unfold ensureGroupSession
  split
  · rfl
  split
  · split
    · exact messages_saveSession db commits _
    · rfl
  · exact messages_saveSession db commits _

theorem messages_refreshSession (commits : Bool) (row : SessionRow) :
    (refreshSession commits db row).view.messages = db.view.messages := by
  unfold refreshSession
  split
  · rfl
  simp only
  split
  · split
    · exact messages_saveSession db commits _
    · rfl
  · rfl

theorem messages_foldl {Item : Type} {step : LocalDatabase → Item → LocalDatabase}
    (kept : ∀ db item, (step db item).view.messages = db.view.messages) (items : List Item) :
    (items.foldl step db).view.messages = db.view.messages :=
  List.foldlRecOn (motive := fun after : LocalDatabase =>
    after.view.messages = db.view.messages) items step rfl
    fun after same item _ => (kept after item).trans same

theorem messages_loadSessions (run : LoadSessionsRun) :
    (client.loadSessions run).db.view.messages = client.db.view.messages := by
  unfold loadSessions
  refine (messages_foldl _ (fun db row => messages_refreshSession db _ row) _).trans ?_
  exact messages_foldl _ (fun db row => messages_ensureGroupSession db _ row) _

theorem messages_syncGroupSessions (run : LoadSessionsRun) :
    (client.syncGroupSessions run).db.view.messages = client.db.view.messages := by
  unfold syncGroupSessions
  split
  · rfl
  split
  · rfl
  · exact messages_loadSessions client run

theorem messages_switchToSession (run : SwitchRun) (sessionId hint : String) :
    (client.switchToSession run sessionId hint).db.view.messages = client.db.view.messages := by
  have synced : (if ((client.setCurrentSessionId sessionId).db.loadGroup true true
      sessionId).isSome = true ∧
      (((client.setCurrentSessionId sessionId).db.loadGroup true true sessionId).map
        fun group => trimmed (group.groupName.getD "")).getD "" = "" then
      (client.setCurrentSessionId sessionId).syncGroupSessions run.synced
      else client.setCurrentSessionId sessionId).db.view.messages = client.db.view.messages := by
    split
    · exact messages_syncGroupSessions _ run.synced
    · rfl
  unfold switchToSession
  split
  · rfl
  simp only
  split
  · exact (messages_saveSession _ run.saved _).trans synced
  · exact synced

theorem messages_onFriendChanged (sha256 : List Nat → String) (saved : Bool)
    (loaded : LoadSessionsRun) (switched : SwitchRun) (userId friendUserId changeType : String) :
    (client.onFriendChanged sha256 saved loaded switched userId friendUserId
      changeType).db.view.messages = client.db.view.messages := by
  unfold onFriendChanged
  simp only
  split
  · rfl
  split
  · rfl
  unfold switchToSessionIfNone
  split
  · exact (messages_loadSessions _ loaded).trans (messages_renameSession _ saved _)
  · refine (messages_switchToSession _ switched _ _).trans ?_
    exact (messages_loadSessions _ loaded).trans (messages_renameSession _ saved _)

theorem messages_onCreateGroupResult (saved : Bool) (synced loaded : LoadSessionsRun)
    (success : Bool) (groupId : String) (groupName : Option String) :
    (client.onCreateGroupResult saved synced loaded success groupId groupName).db.view.messages =
      client.db.view.messages := by
  unfold onCreateGroupResult
  split
  · rfl
  · refine (messages_loadSessions _ loaded).trans ?_
    exact (messages_syncGroupSessions _ synced).trans (messages_renameSession _ saved _)

theorem messages_onAuthSuccess (newest : String) (loaded synced : LoadSessionsRun)
    (userId : String) :
    (client.onAuthSuccess newest loaded synced userId).db.view.messages =
      client.db.view.messages := by
  unfold onAuthSuccess initializeAfterAuthentication
  refine (messages_syncGroupSessions _ synced).trans ((messages_loadSessions _ loaded).trans ?_)
  show (client.db.write { client.db.view with authUserId := newest }).view.messages = _
  rw [view_write]

theorem messages_applyEntry (groupSaved sessionSaved : Bool) (entry : GroupListEntryDto) :
    (applyEntry groupSaved sessionSaved db entry).view.messages = db.view.messages := by
  unfold applyEntry
  split
  · rfl
  · exact (messages_renameSession _ sessionSaved _).trans
      (frame_saveGroup LocalTables.messages (fun _ _ _ => rfl) db 0 _ _)

theorem hasGroup_of_saveGroup (run : SaveGroupRun) (group : Group) {groupId : String}
    (stored : (db.saveGroup 0 run group).1.HasGroup groupId) :
    db.HasGroup groupId ∨ groupId = group.groupId ∧ group.groupId ≠ "" := by
  unfold saveGroup at stored
  split at stored
  · exact Or.inl stored
  rename_i named
  simp only at stored
  rcases db.runInTransaction_view run.transaction _ with
    same | ⟨started, after, value, sameView, ran, result⟩
  · rw [same] at stored
    exact Or.inl stored
  · have isAfter : ∃ row ∈ after.view.groups.rows, row.groupId = groupId := by
      rcases result with committed | leftOpen
      · rw [committed] at stored
        exact stored
      · rw [leftOpen] at stored
        exact stored
    have unfinished : (none : Option Unit) ≠ some value := (Option.some_ne_none value).symm
    split at ran
    · split at ran
      · exact absurd (Prod.mk.inj ran).2 unfinished
      have groups := congrArg (fun pair : LocalDatabase × Option Unit => pair.1.view.groups) ran
      simp only [frame_insertMembers LocalTables.groups (fun _ _ => rfl), view_write] at groups
      rw [← groups, RowTable.exists_key_upsert, sameView] at isAfter
      rcases isAfter with isSaved | old
      · exact Or.inr ⟨isSaved, named⟩
      · exact Or.inl old
    · exact absurd (Prod.mk.inj ran).2 unfinished

theorem hasGroup_of_applyEntry (groupSaved sessionSaved : Bool) (entry : GroupListEntryDto)
    {groupId : String} (stored : (applyEntry groupSaved sessionSaved db entry).HasGroup groupId) :
    db.HasGroup groupId ∨ groupId = entry.groupId ∧ entry.groupId ≠ "" := by
  have renamed : ∀ (db : LocalDatabase) (new : Session),
      (renameSession db sessionSaved new).view.groups = db.view.groups := by
    intro db new
    unfold renameSession saveSession
    split <;> exact frame_saveSession LocalTables.groups (fun _ _ => rfl) _ 0 _ _
  unfold applyEntry at stored
  split at stored
  · exact Or.inl stored
  · unfold HasGroup at stored
    rw [renamed] at stored
    exact hasGroup_of_saveGroup db _ _ stored

/-- A message that is reported has been inserted; otherwise nothing has happened. -/
theorem onIncomingMessage_told {run : IncomingRun} (closed : run.transaction.commit ≠ .leftOpen)
    (arrived : IncomingMessage) :
    (client.receiver.onIncomingMessage run arrived).received = [] ∧
        client.onIncomingMessage run arrived = client ∨
      ∃ signal, (client.receiver.onIncomingMessage run arrived).received = [signal] ∧
        signal.sessionId = arrived.effective.sessionId ∧
        client.db.view.messages.insert?
            (ReceiveMessageUseCase.messageOf run arrived.effective).toRow =
          some (client.onIncomingMessage run arrived).db.view.messages ∧
        (client.onIncomingMessage run arrived).currentSessionId = client.currentSessionId := by
  unfold onIncomingMessage ReceiveMessageUseCase.onIncomingMessage
  simp only
  split
  · exact Or.inl ⟨rfl, rfl⟩
  split
  · exact Or.inl ⟨rfl, rfl⟩
  rcases client.receiver.db.runInTransaction_ended closed
      (client.receiver.store run arrived.effective) with
    undone | ⟨started, after, ⟨displayName, incrementUnread⟩, sameView, stored, ran⟩
  · rw [undone]
    exact Or.inl ⟨rfl, rfl⟩
  · rw [ran]
    right
    refine ⟨_, rfl, rfl, ?_, ?_⟩
    · obtain ⟨_, sameDb, _⟩ := updateCurrentSessionInfo_same
        (({ client with db := { committed := after.view } } : SessionClient).updateSessionPreview
          { sessionId := arrived.effective.sessionId
            displayName := displayName
            sessionType := if arrived.effective.isGroup then .groupChat else .privateChat }
          incrementUnread)
        arrived.effective.sessionId
        (if arrived.effective.isGroup then .groupChat else .privateChat) displayName
      have inserted := (ReceiveMessageUseCase.store_eq_some stored).1
      have messages := congrArg (fun db : LocalDatabase => some db.view.messages) sameDb.symm
      rw [sameView] at inserted
      exact inserted.trans messages
    · exact (updateCurrentSessionInfo_same _ _ _ _).1.currentSessionId

end Messages

/-! ## The current session -/

structure Stays (before after : SessionClient) : Prop where
  current : after.currentSessionId = before.currentSessionId
  messages : after.db.messagesOf before.currentSessionId =
    before.db.messagesOf before.currentSessionId

/-- What a handler does to the messages matters only while the session stays
the current one. -/
def StaysOrLeaves (before after : SessionClient) : Prop :=
  Stays before after ∨ after.currentSessionId ≠ before.currentSessionId

section Current
variable {client after : SessionClient}

theorem Stays.refl (client : SessionClient) : Stays client client := ⟨rfl, rfl⟩

theorem StaysOrLeaves.of_messages (same : after.db.view.messages = client.db.view.messages) :
    StaysOrLeaves client after := by
  by_cases current : after.currentSessionId = client.currentSessionId
  · exact Or.inl ⟨current, messagesOf_congr _ _ same⟩
  · exact Or.inr current

theorem staysOrLeaves_deleteSession (removed : Bool) (loaded : LoadSessionsRun)
    (sessionId : String) :
    StaysOrLeaves client (client.deleteSession removed loaded sessionId) := by
  unfold deleteSession
  split
  · exact Or.inl (Stays.refl client)
  rename_i named
  have loads : ∀ before : SessionClient,
      (before.loadSessions loaded).currentSessionId = before.currentSessionId := fun _ => rfl
  by_cases current : client.currentSessionId = sessionId
  · right
    simp only [current, if_true]
    rw [loads]
    exact fun same => named same.symm
  · left
    simp only [current, if_false]
    refine ⟨loads _, ?_⟩
    rw [messagesOf_congr _ _ (messages_loadSessions _ loaded)]
    exact messagesOf_removeSession client.db _ (Or.inr fun same => current same.symm)

structure Clearing (client after : SessionClient) : Prop where
  sameType : after.currentSessionId ≠ "" → after.currentSessionType = client.currentSessionType
  open? : Stays client after ∨ after.currentSessionId = "" ∧ client.currentSessionId ≠ ""

theorem Clearing.clearStale (clearing : Clearing client after) (groupRemoved sessionRemoved : Bool)
    {groupId : String}
    (asGroup : groupId = client.currentSessionId → client.currentSessionType = .groupChat) :
    Clearing client (after.clearStale groupRemoved sessionRemoved groupId) := by
  have kept : ∀ sessionId, groupId = "" ∨ groupId ≠ sessionId →
      ((after.db.removeGroup 0 { transaction := .ending groupRemoved } groupId).1.removeSession 0
        { transaction := .ending sessionRemoved } groupId).1.messagesOf sessionId =
      after.db.messagesOf sessionId := by
    intro sessionId other
    rw [messagesOf_removeSession _ _ other]
    exact messagesOf_congr _ _ (frame_removeGroup LocalTables.messages (fun _ _ _ => rfl) _ _ _ _)
  unfold SessionClient.clearStale
  simp only
  split
  · rename_i isCurrent
    refine ⟨fun named => absurd rfl named, ?_⟩
    by_cases named : client.currentSessionId = ""
    · left
      refine ⟨named.symm, ?_⟩
      rcases clearing.open? with stays | ⟨_, opened⟩
      · have unnamed : groupId = "" := isCurrent.2.trans (stays.current.trans named)
        exact (kept _ (Or.inl unnamed)).trans stays.messages
      · exact absurd named opened
    · exact Or.inr ⟨rfl, named⟩
  · rename_i notCurrent
    refine ⟨clearing.sameType, ?_⟩
    refine clearing.open?.imp_left fun stays => ⟨stays.current, ?_⟩
    refine (kept _ ?_).trans stays.messages
    by_cases isIt : groupId = client.currentSessionId
    · left
      by_contra named
      have current : groupId = after.currentSessionId := isIt.trans stays.current.symm
      refine notCurrent ⟨?_, current⟩
      exact (clearing.sameType (current ▸ named)).trans (asGroup isIt)
    · exact Or.inr isIt

/-- The groups that a new list does not name were stored before it came. -/
theorem hasGroup_of_applyEntries {run : ApplyGroupListRun} {groupId : String}
    (entries : List (GroupListEntryDto × Nat)) :
    ∀ db : LocalDatabase, (entries.foldl (fun db entry =>
        applyEntry (run.groupSaved entry.2) (run.sessionSaved entry.2) db entry.1) db).HasGroup
          groupId →
      db.HasGroup groupId ∨ ∃ entry ∈ entries, groupId = entry.1.groupId ∧ groupId ≠ "" := by
  induction entries with
  | nil => exact fun db stored => Or.inl stored
  | cons entry rest ih =>
      intro db stored
      rcases ih _ stored with before | ⟨other, otherIn, isOther⟩
      · rcases hasGroup_of_applyEntry db _ _ entry.1 before with old | ⟨isEntry, named⟩
        · exact Or.inl old
        · exact Or.inr ⟨entry, List.mem_cons_self, isEntry, isEntry ▸ named⟩
      · exact Or.inr ⟨other, List.mem_cons_of_mem _ otherIn, isOther⟩

theorem staysOrLeaves_applyGroupList (run : ApplyGroupListRun) (groups : List GroupListEntryDto)
    (asGroup : client.currentSessionType = .groupChat ∨
      ¬ client.db.HasGroup client.currentSessionId) :
    StaysOrLeaves client (client.applyGroupList run groups) := by
  unfold applyGroupList
  simp only
  generalize savedDef : groups.zipIdx.foldl (fun db (entry : GroupListEntryDto × Nat) =>
    applyEntry (run.groupSaved entry.2) (run.sessionSaved entry.2) db entry.1) client.db = saved
  have messages : saved.view.messages = client.db.view.messages := by
    rw [← savedDef]
    apply messages_foldl
    intro db entry
    exact messages_applyEntry db _ _ entry.1
  have started : Clearing client { client with db := saved } :=
    ⟨fun _ => rfl, Or.inl ⟨rfl, messagesOf_congr _ _ messages⟩⟩
  have cleared : Clearing client ((saved.listGroups true).foldl
      (fun client stored =>
        if stored.groupId ∈ (groups.map GroupListEntryDto.groupId).filter
            fun groupId => groupId ≠ "" then client
        else client.clearStale (run.groupRemoved stored.groupId)
          (run.sessionRemoved stored.groupId) stored.groupId)
      { client with db := saved }) := by
    refine List.foldlRecOn (motive := Clearing client) _ _ started ?_
    intro before clearing stored storedIn
    split
    · exact clearing
    rename_i stale
    apply clearing.clearStale
    intro isCurrent
    refine asGroup.resolve_right fun unknown => unknown ?_
    have hasGroup : saved.HasGroup stored.groupId := ⟨stored, storedIn, rfl⟩
    rw [← savedDef] at hasGroup
    rcases hasGroup_of_applyEntries _ client.db hasGroup with old | ⟨entry, entryIn, isEntry, named⟩
    · exact isCurrent ▸ old
    · have listed : entry.1 ∈ groups := by
        have inMap := List.mem_map_of_mem (f := Prod.fst) entryIn
        rwa [List.zipIdx_map_fst] at inMap
      refine absurd (List.mem_filter.mpr ⟨?_, by simpa using named⟩) stale
      exact List.mem_map.mpr ⟨entry.1, listed, isEntry.symm⟩
  generalize List.foldl _ _ _ = synced at cleared
  have ended : StaysOrLeaves client synced :=
    cleared.open?.imp_right fun left same => left.2 (same.symm.trans left.1)
  split
  · obtain ⟨sameUser, sameDb, _⟩ := synced.updateCurrentSessionInfo_same synced.currentSessionId
      .groupChat synced.currentSessionName
    refine ended.imp (fun stays => ?_) fun leaves => ?_
    · exact ⟨sameUser.currentSessionId.trans stays.current, sameDb ▸ stays.messages⟩
    · rw [sameUser.currentSessionId]
      exact leaves
  · exact ended

theorem staysOrLeaves_onGroupListLoaded (run : ApplyGroupListRun) (loaded : LoadSessionsRun)
    (groups : List GroupListEntryDto) (asGroup : client.currentSessionType = .groupChat ∨
      ¬ client.db.HasGroup client.currentSessionId) :
    StaysOrLeaves client (client.onGroupListLoaded run loaded groups) := by
  have applied : StaysOrLeaves { client with groupSyncInProgress := false } _ :=
    staysOrLeaves_applyGroupList run groups asGroup
  refine applied.imp (fun stays => ⟨stays.current, ?_⟩) id
  exact (messagesOf_congr _ _ (messages_loadSessions _ loaded)).trans stays.messages

end Current

end SessionClient

/-! ## Every step keeps the view in step -/

structure ChatWindow.InView (window : ChatWindow) : Prop where
  current : window.view.sessionId = window.client.currentSessionId
  mirrors : window.view.Mirrors (window.client.db.messagesOf window.view.sessionId)

namespace ChatWindow.InView

open SessionClient SendMessageUseCase

variable {window : ChatWindow}

theorem send (inView : window.InView) {step : SendMessageUseCase → SendMessageUseCase}
    (tells : Tells window.sender (step window.sender)) : (window.send step).InView := by
  obtain ⟨told, isTold, mirrors⟩ := tells
  have signals : (step window.sender).signals = told := isTold.trans (List.nil_append told)
  have sameSession : (window.send step).view.sessionId = window.view.sessionId :=
    ChatViewModel.sessionId_onSignals _ _
  refine ⟨sameSession.trans inView.current, ?_⟩
  rw [sameSession, ChatWindow.send]
  simp only [signals]
  exact mirrors window.view inView.mirrors

theorem of_messages (inView : window.InView) {after : SessionClient}
    (current : after.currentSessionId = window.client.currentSessionId)
    (messages : after.db.view.messages = window.client.db.view.messages) :
    ({ window with client := after } : ChatWindow).InView := by
  refine ⟨inView.current.trans current.symm, ?_⟩
  rw [messagesOf_congr _ _ messages]
  exact inView.mirrors

/-- A session that is left is not shown any more; one that stays has its messages. -/
theorem sync (inView : window.InView) {after : SessionClient}
    (follows : StaysOrLeaves window.client after) {run : OpenRun}
    (fetched : run.reload.fetched = true)
    (failed : ∀ msgId, (run.recovered msgId).failed = {}) :
    ({ window with client := after }.syncWithCurrentSession run).InView := by
  unfold syncWithCurrentSession setSessionId
  split
  · rename_i same
    rcases follows with stays | leaves
    · refine ⟨same, ?_⟩
      show window.view.Mirrors (after.db.messagesOf window.view.sessionId)
      rw [inView.current, stays.messages, ← inView.current]
      exact inView.mirrors
    · exact absurd (same.symm.trans inView.current) leaves
  · have loaded : ChatWindow.InView { window with
        client := after
        view := { window.view with
            sessionId := after.currentSessionId }.loadMessagesForSession after.db run.reload
          after.currentSessionId (after.db.loadAuthUserId run.reload.authLoaded) } := by
      refine ⟨rfl, ?_⟩
      exact ChatViewModel.Mirrors.loadMessagesForSession
        { window.view with sessionId := after.currentSessionId } after.db fetched _
    exact loaded.send (Tells.recoverPendingMessages _ run.fetched after.currentSessionId failed)

theorem startPrivateChat (inView : window.InView) (sha256 : List Nat → String) (saved : Bool)
    (switched : SwitchRun) (loaded : LoadSessionsRun) {opened : OpenRun}
    (fetched : opened.reload.fetched = true)
    (failed : ∀ msgId, (opened.recovered msgId).failed = {})
    (userId nickname selfUserId : String) :
    (window.startPrivateChat sha256 saved switched loaded opened userId nickname
      selfUserId).InView := by
  unfold ChatWindow.startPrivateChat
  generalize computePrivateSessionId sha256 selfUserId userId = sessionId
  generalize (if trimmed nickname = "" then userId else trimmed nickname) = displayName
  simp only
  have renamed := messages_renameSession window.client.db saved
    ⟨sessionId, .privateChat, selfUserId, displayName, userId, 0⟩
  generalize renameSession window.client.db saved
    ⟨sessionId, .privateChat, selfUserId, displayName, userId, 0⟩ = db at renamed
  have switchedMessages := messages_switchToSession { window.client with db := db } switched
    sessionId displayName
  have follows : StaysOrLeaves window.client
      (({ window.client with db := db } : SessionClient).switchToSession switched sessionId
        displayName) := StaysOrLeaves.of_messages (switchedMessages.trans renamed)
  exact (inView.sync follows fetched failed).of_messages rfl (messages_loadSessions _ loaded)

/-- A message of the open session is loaded with the rest of it. -/
theorem onIncomingMessage (inView : window.InView) {run : IncomingRun} {reload : ReloadRun}
    (closed : run.transaction.commit ≠ .leftOpen) (fetched : reload.fetched = true)
    (arrived : IncomingMessage) : (window.onIncomingMessage run reload arrived).InView := by
  unfold ChatWindow.onIncomingMessage
  rcases window.client.onIncomingMessage_told closed arrived with
    ⟨untold, same⟩ | ⟨signal, told, ofSession, inserted, current⟩
  · rw [untold, same]
    exact inView
  rw [told]
  generalize window.client.onIncomingMessage run arrived = after at inserted current
  simp only [List.foldl_cons, List.foldl_nil]
  unfold ChatViewModel.onMessageReceived
  split
  · rename_i elsewhere
    refine ⟨inView.current.trans current.symm, ?_⟩
    have differs : (ReceiveMessageUseCase.messageOf run arrived.effective).sessionId ≠
        window.view.sessionId := fun same => elsewhere (ofSession.trans same)
    rw [messagesOf_insert _ inserted, if_neg differs, List.append_nil]
    exact inView.mirrors
  · exact ⟨inView.current.trans current.symm,
      ChatViewModel.Mirrors.loadMessagesForSession window.view after.db fetched _⟩

theorem sending (inView : window.InView) {event : SendEvent}
    (succeeds : event.Succeeds window.sender) (own : ∀ tables, event ≠ .elsewhere tables) :
    (window.send event.next).InView := by
  apply inView.send
  cases event with
  | sendMessage run sessionId content msgId timestamp =>
      exact Tells.sendMessage _ sessionId content msgId timestamp succeeds
  | resendMessage run sessionId msgId => exact Tells.resendMessage _ sessionId msgId succeeds
  | recoverPendingMessages fetched run sessionId =>
      exact Tells.recoverPendingMessages _ fetched sessionId succeeds
  | ackReceived run msgId serverId =>
      obtain rfl : run = {} := succeeds
      exact Tells.onAckReceived _ msgId serverId
  | ackFailed run msgId code reason =>
      obtain rfl : run = {} := succeeds
      exact Tells.onAckFailed _ msgId code reason
  | timerExpired timer updated =>
      obtain rfl : updated = true := succeeds
      exact Tells.timerExpired _ timer
  | elsewhere tables => exact absurd rfl (own tables)

theorem next (inView : window.InView) (sha256 : List Nat → String) (event : ChatWindowEvent)
    (enabled : event.enabled window) (succeeds : event.Succeeds window) :
    (event.next sha256 window).InView := by
  cases event with
  | sending event => exact inView.sending succeeds enabled.2
  | restarted =>
      refine ⟨rfl, List.nodup_nil, ?_, ?_⟩
      · exact fun item itemIn => absurd itemIn List.not_mem_nil
      · exact fun named => absurd rfl named
  | sessions event opened =>
      obtain ⟨allowed, leavesMessages⟩ := enabled
      obtain ⟨fetched, failed, asGroup⟩ := succeeds
      cases event with
      | connectionStateChanged isReady =>
          refine inView.sync (StaysOrLeaves.of_messages ?_) fetched failed
          simp only [SessionListEvent.next, onConnectionStateChanged]
          split <;> rfl
      | authSucceeded newest loaded synced userId =>
          exact inView.sync (StaysOrLeaves.of_messages
            (messages_onAuthSuccess _ newest loaded synced userId)) fetched failed
      | authCleared newest =>
          refine inView.sync (StaysOrLeaves.of_messages ?_) fetched failed
          show (window.client.db.write
            { window.client.db.view with authUserId := newest }).view.messages = _
          rw [view_write]
      | messageReceived run incoming => exact inView.onIncomingMessage allowed fetched incoming
      | sessionChosen run sessionId =>
          exact inView.sync (StaysOrLeaves.of_messages
            (messages_switchToSession _ run sessionId _)) fetched failed
      | privateChatStarted saved switched loaded userId nickname selfUserId =>
          exact inView.startPrivateChat sha256 saved switched loaded fetched failed userId
            nickname selfUserId
      | sessionDeleted removed loaded sessionId =>
          exact inView.sync (staysOrLeaves_deleteSession removed loaded sessionId) fetched failed
      | friendChanged saved loaded switched userId friendUserId changeType =>
          exact inView.sync (StaysOrLeaves.of_messages
            (messages_onFriendChanged _ sha256 saved loaded switched userId friendUserId
              changeType)) fetched failed
      | groupSyncRequested synced =>
          exact inView.sync (StaysOrLeaves.of_messages
            (messages_syncGroupSessions _ synced)) fetched failed
      | groupListLoaded run loaded groups =>
          exact inView.sync (staysOrLeaves_onGroupListLoaded run loaded groups
            (asGroup run loaded groups rfl)) fetched failed
      | groupListLoadFailed loaded =>
          refine inView.sync (StaysOrLeaves.of_messages ?_) fetched failed
          exact messages_loadSessions { window.client with groupSyncInProgress := false } loaded
      | groupCreated saved synced loaded success groupId groupName =>
          exact inView.sync (StaysOrLeaves.of_messages
            (messages_onCreateGroupResult _ saved synced loaded success groupId groupName))
            fetched failed
      | tablesWritten tables =>
          refine inView.sync (StaysOrLeaves.of_messages ?_) fetched failed
          exact (congrArg LocalTables.messages (view_write window.client.db tables)).trans
            (leavesMessages tables rfl).1

end ChatWindow.InView

/-- In every run in which the statements on messages succeed, the view shows the
current session: each item is a stored message of it with its status, none is
shown twice, and all are shown while they fit on a page. -/
theorem shown_messages_mirror_tables (sha256 : List Nat → String) (tables : LocalTables)
    (window : ChatWindow) (reached : ((chatWindowSystem sha256 tables).restrict
      ChatWindowEvent.Succeeds).Reachable window) :
    window.view.sessionId = window.client.currentSessionId ∧
      window.view.Mirrors (window.client.db.messagesOf window.view.sessionId) := by
  have inView : ∀ window, ((chatWindowSystem sha256 tables).restrict
      ChatWindowEvent.Succeeds).Reachable window → window.InView := by
    refine System.Reachable.invariant ?_ ?_
    · refine ⟨rfl, List.nodup_nil, ?_, ?_⟩
      · exact fun item itemIn => absurd itemIn List.not_mem_nil
      · exact fun named => absurd rfl named
    · intro window event _ inView enabled
      exact inView.next sha256 event enabled.1 enabled.2
  exact ⟨(inView window reached).current, (inView window reached).mirrors⟩

def aliceChats : List ChatWindowEvent :=
  [.sessions (.sessionChosen {} "s1") {},
    .sending (.sendMessage {} "s1" "hi" "m1" "2026-01-01T00:00:00Z"),
    .sending (.ackReceived {} "m1" "srv_1")]

def aliceChatted : ChatWindow :=
  aliceChats.foldl (ChatWindowEvent.next (fun _ => ""))
    (chatWindowSystem (fun _ => "") aliceWithBob.committed).initial

theorem aliceChatted_reachable :
    ((chatWindowSystem (fun _ => "") aliceWithBob.committed).restrict
      ChatWindowEvent.Succeeds).Reachable aliceChatted := by
  refine System.Reachable.run aliceChats _ System.Reachable.initial
    ⟨⟨⟨trivial, by simp⟩, rfl, fun _ => rfl, by simp⟩,
      ⟨⟨trivial, by simp⟩, rfl, rfl, rfl, rfl⟩, ⟨⟨trivial, by simp⟩, rfl⟩, trivial⟩

theorem shown_messages_mirror_tables_m1 :
    ∃ item ∈ aliceChatted.view.messages, item.messageId = "m1" ∧ item.status = .delivered := by
  have mirrors := (shown_messages_mirror_tables (fun _ => "") aliceWithBob.committed
    aliceChatted aliceChatted_reachable).2
  obtain ⟨item, itemIn, shows⟩ := mirrors.complete (by decide) (by decide)
    ⟨"m1", "hi", "alice", "s1", "2026-01-01T00:00:00Z", .delivered, "srv_1"⟩
    (List.mem_singleton_self _)
  exact ⟨item, itemIn, shows.messageId, shows.status⟩

end ShirohaChat
