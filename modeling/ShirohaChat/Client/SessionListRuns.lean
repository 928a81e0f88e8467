import ShirohaChat.Client.SessionListUpdates
import ShirohaChat.Lib.Transition

/-!
# Runs of the list of sessions

The counts shown are not read from the table again with each message: the list
adds up what the receiving use case reports.  The two stay equal as long as the
current session has no unread messages in the table.
-/

set_option autoImplicit false

namespace ShirohaChat

open Transition LocalDatabase

/-! ## A received message -/

namespace ReceiveMessageUseCase

variable {client : ReceiveMessageUseCase} {db after : LocalDatabase}

theorem unreadCount_processed (session : Session) (sender : String) (active : Prop)
    [Decidable active] :
    (if active then (session.processIncomingMessage sender).markRead
      else session.processIncomingMessage sender).unreadCount =
        if active then 0
        else session.unreadCount + if sender = session.ownerUserId then 0 else 1 := by
  unfold Session.processIncomingMessage
  by_cases isActive : active
  · rw [if_pos isActive, if_pos isActive]
    rfl
  · rw [if_neg isActive, if_neg isActive]
    by_cases own : sender = session.ownerUserId
    · rw [if_neg (not_not.mpr own), if_pos own, Int.add_zero]
    · rw [if_pos own, if_neg own]

/-- The count that a message leaves its session with, where both reads succeed. -/
theorem unreadCount_sessionAfter_eq (client : ReceiveMessageUseCase) (db : LocalDatabase)
    (run : IncomingRun) (incoming : IncomingMessage) (displayName : String)
    (loads : run.sessionLoaded = true ∧ run.ownerLoaded = true)
    (owner : db.view.authUserId = client.selfUserId) (named : incoming.sessionId ≠ "") :
    (client.sessionAfter db run incoming displayName).unreadCount =
      if incoming.sessionId = client.activeSessionId then 0
      else db.unreadOf incoming.sessionId +
        if incoming.sender = client.selfUserId then 0 else 1 := by
  unfold sessionAfter
  rw [loads.1, loads.2]
  simp only [unreadCount_processed]
  cases loaded : db.loadSession true true incoming.sessionId with
  | none =>
      have absent := unreadOf_absent ((loadSession_eq_none named).mp loaded)
      rw [absent]
  | some session =>
      have ownerUserId := ownerUserId_loadSession loaded
      simp only [Session.updateMetadata_unreadCount, (loadSession_eq_some loaded).2]
      rw [show (session.updateMetadata displayName _).ownerUserId = client.selfUserId from
        ownerUserId.trans owner]

theorem unreadCount_sessionAfter_nonneg (client : ReceiveMessageUseCase) (db : LocalDatabase)
    (run : IncomingRun) (incoming : IncomingMessage) (displayName : String) :
    0 ≤ (client.sessionAfter db run incoming displayName).unreadCount ∧
      (incoming.sessionId = client.activeSessionId →
        (client.sessionAfter db run incoming displayName).unreadCount = 0) := by
  unfold sessionAfter
  simp only [unreadCount_processed]
  refine ⟨?_, fun active => if_pos active⟩
  split
  · exact Int.le_refl 0
  · cases loaded : db.loadSession run.sessionLoaded run.ownerLoaded incoming.sessionId with
    | none =>
        simp only
        split <;> omega
    | some session =>
        have counted : 0 ≤ session.unreadCount :=
          (loadSession_eq_some loaded).2 ▸ Int.le_max_left _ _
        simp only [Session.updateMetadata_unreadCount]
        split <;> omega

end ReceiveMessageUseCase

namespace SessionClient

variable {client : SessionClient}

/-- A message changes nothing, or its transaction committed and is reported. -/
theorem onIncomingMessage_cases (client : SessionClient) {run : IncomingRun}
    (closed : run.transaction.commit ≠ .leftOpen) (arrived : IncomingMessage) :
    client.onIncomingMessage run arrived = client ∨
      ∃ (after : LocalDatabase) (signal : ReceivedSignal),
        arrived.effective.sessionId ≠ "" ∧ arrived.sender ≠ "" ∧
        signal.sessionId = arrived.effective.sessionId ∧
        client.receiver.store run arrived.effective
            { client.db with transaction := some client.db.committed } =
          (after, some (signal.displayName, signal.incrementUnread)) ∧
        client.onIncomingMessage run arrived =
          handleReceivedMessage { client with db := { committed := after.view } } signal := by
  unfold onIncomingMessage ReceiveMessageUseCase.onIncomingMessage
  simp only
  split
  · exact Or.inl rfl
  rename_i complete
  obtain ⟨named, sent⟩ := not_or.mp complete
  split
  · exact Or.inl rfl
  rcases client.receiver.db.runInTransaction_closed closed
      (client.receiver.store run arrived.effective) with undone | ⟨after, result, stored, ran⟩
  · rw [undone]
    exact Or.inl rfl
  · obtain ⟨displayName, incrementUnread⟩ := result
    rw [ran]
    let signal : ReceivedSignal := ⟨arrived.effective.sessionId, arrived.effective.sender,
      arrived.effective.content, client.receiver.isMine arrived.effective,
      if arrived.effective.isGroup then .groupChat else .privateChat,
      arrived.effective.senderNickname, displayName, incrementUnread⟩
    exact Or.inr ⟨after, signal, named, (not_or.mp sent).1, rfl, stored, rfl⟩

theorem isMine_effective (client : SessionClient) {arrived : IncomingMessage}
    (sent : arrived.sender ≠ "") :
    client.receiver.isMine arrived.effective = true ↔ arrived.sender = client.selfUserId := by
  have someone : client.selfUserId ≠ "" ∧ arrived.sender = client.selfUserId ↔
      arrived.sender = client.selfUserId :=
    ⟨And.right, fun own => ⟨fun nobody => sent (own.trans nobody), own⟩⟩
  exact decide_eq_true_iff.trans someone

/-- The stored count grows by what the list is told of: not at all while the
session is read, and not by an own message. -/
theorem unread_eq_told {active mine told : Prop} [Decidable active] [Decidable mine]
    [Decidable told] {old unread : Int} (stored : 0 ≤ old) (read : active → old = 0)
    (counted : unread = if active then 0 else old + if mine then 0 else 1)
    (tells : told ↔ 0 < unread ∧ ¬ mine) :
    unread = old + if told then 1 else 0 := by
  by_cases isActive : active
  · rw [if_pos isActive] at counted
    have quiet : ¬ told := fun isTold => by
      have positive := (tells.mp isTold).1
      omega
    rw [if_neg quiet, read isActive]
    exact counted
  · rw [if_neg isActive] at counted
    by_cases own : mine
    · have quiet : ¬ told := fun isTold => (tells.mp isTold).2 own
      rw [if_neg quiet, counted, if_pos own]
    · rw [if_neg own] at counted
      have isTold : told := tells.mpr ⟨by omega, own⟩
      rw [if_pos isTold]
      exact counted

structure StoredMessage (client : SessionClient) (run : IncomingRun) (signal : ReceivedSignal)
    (db : LocalDatabase) : Prop where
  sound : db.SoundSessions
  authUserId : db.view.authUserId = client.db.view.authUserId
  hasSession : ∀ other, db.HasSession other →
    other = signal.sessionId ∨ client.db.HasSession other
  others : ∀ other, other ≠ signal.sessionId → db.unreadOf other = client.db.unreadOf other
  read : signal.sessionId = client.activeSessionId → db.unreadOf signal.sessionId = 0
  told : run.sessionLoaded = true ∧ run.ownerLoaded = true →
    client.db.view.authUserId = client.selfUserId →
    db.unreadOf signal.sessionId =
      client.db.unreadOf signal.sessionId + if signal.incrementUnread then 1 else 0

/-- The session is stored with the count that the list is told of. -/
theorem Kept.storedMessage (kept : client.Kept) {run : IncomingRun} {arrived : IncomingMessage}
    {after : LocalDatabase} {signal : ReceivedSignal}
    (named : arrived.effective.sessionId ≠ "") (sent : arrived.sender ≠ "")
    (own : signal.sessionId = arrived.effective.sessionId)
    (stored : client.receiver.store run arrived.effective
        { client.db with transaction := some client.db.committed } =
      (after, some (signal.displayName, signal.incrementUnread))) :
    StoredMessage client run signal { committed := after.view } := by
  have started : ({ client.db with transaction := some client.db.committed } :
      LocalDatabase).view = client.db.view := kept.sound.idle.view_eq.symm
  obtain ⟨_, resolved, _, _, sessions, authUserId, saving, counts⟩ :=
    ReceiveMessageUseCase.store_cases stored
  rw [started] at sessions authUserId
  have sessionId := client.receiver.sessionId_sessionAfter resolved run arrived.effective
    signal.displayName
  obtain ⟨nonneg, marked⟩ := client.receiver.unreadCount_sessionAfter_nonneg resolved run
    arrived.effective signal.displayName
  have count := client.receiver.unreadCount_sessionAfter_eq resolved run arrived.effective
    signal.displayName
  generalize client.receiver.sessionAfter resolved run arrived.effective signal.displayName =
    session at saving counts sessionId nonneg marked count
  have ofSession : signal.sessionId = session.sessionId := own.trans sessionId.symm
  rw [← own] at marked count
  have idle : ({ committed := after.view } : LocalDatabase).Idle := rfl
  have view := view_saveSession_nested saving
  have saved : SessionSaved client.db { committed := after.view } true session := by
    apply kept.sound.of_sessionsAfterSave idle (sessionId ▸ named) nonneg
    · rw [← sessions]
      exact congrArg LocalTables.sessions view
    · exact (congrArg LocalTables.authUserId view).trans authUserId
  have unread : ({ committed := after.view } : LocalDatabase).unreadOf signal.sessionId =
      session.unreadCount := by
    rw [saved.unreadOf, if_pos ⟨rfl, ofSession⟩]
  refine ⟨saved.sound, saved.authUserId, ?_, ?_, ?_, ?_⟩
  · intro other known
    rcases (saved.hasSession other).mp known with ⟨_, isIt⟩ | old
    · exact Or.inl (isIt.trans ofSession.symm)
    · exact Or.inr old
  · intro other differs
    rw [saved.unreadOf, if_neg fun both => differs (both.2.trans ofSession.symm)]
  · intro active
    rw [unread]
    exact marked active
  · intro loads owner
    rw [unread]
    have counted := count loads (authUserId.trans owner) (own ▸ named)
    rw [unreadOf_congr sessions] at counted
    rw [client.isMine_effective sent] at counts
    have read : signal.sessionId = client.activeSessionId →
        client.db.unreadOf signal.sessionId = 0 := by
      intro active
      rw [active, kept.active]
      exact kept.read
    exact unread_eq_told (Int.le_max_left _ _) read counted counts

/-- A message keeps the list in step if the list is the user's own. -/
theorem onIncomingMessage_carries (kept : client.Kept) {run : IncomingRun}
    (closed : run.transaction.commit ≠ .leftOpen) (arrived : IncomingMessage) :
    Carries client (client.onIncomingMessage run arrived) ∧
      (run.sessionLoaded = true ∧ run.ownerLoaded = true → client.Shown →
        SessionListModel.Shows (client.onIncomingMessage run arrived).sessions
          (client.onIncomingMessage run arrived).db) := by
  rcases client.onIncomingMessage_cases closed arrived with
    same | ⟨after, signal, named, sent, own, stored, handled⟩
  · rw [same]
    exact ⟨kept.carries, fun _ shown => shown.shows⟩
  have message := kept.storedMessage named sent own stored
  generalize ({ committed := after.view } : LocalDatabase) = db at message handled
  obtain ⟨sameUser, sameDb, sessions⟩ := updateCurrentSessionInfo_same
    (({ client with db := db } : SessionClient).updateSessionPreview
      { sessionId := signal.sessionId
        displayName := signal.displayName
        sessionType := signal.sessionType } signal.incrementUnread)
    signal.sessionId signal.sessionType signal.displayName
  rw [handled]
  unfold handleReceivedMessage
  generalize (({ client with db := db } : SessionClient).updateSessionPreview _ _
    ).updateCurrentSessionInfo _ _ _ = shown at sameUser sameDb sessions ⊢
  obtain rfl : shown.db = db := sameDb
  refine ⟨⟨⟨message.sound, ?_, ?_⟩, message.authUserId, sameUser.selfUserId,
    sameUser.isAuthenticated⟩, ?_⟩
  · exact sameUser.activeSessionId.trans (kept.active.trans sameUser.currentSessionId.symm)
  · rw [sameUser.currentSessionId]
    by_cases current : client.currentSessionId = signal.sessionId
    · exact (congrArg shown.db.unreadOf current).trans
        (message.read (current.symm.trans kept.active.symm))
    · exact (message.others _ current).trans kept.read
  · intro loads listed
    rw [sessions]
    apply listed.shows.upsertSession
    · exact own ▸ named
    · rfl
    · exact message.hasSession
    · intro other
      split
      · rename_i isIt
        rw [isIt]
        exact message.told loads listed.owner
      · rename_i differs
        exact message.others other differs

end SessionClient

/-! ## The system -/

/-- What the user does, what the network brings, and which transactions commit.
`tablesWritten` is a write of another use case: to any table but those of the
sessions and of the user who is logged in. -/
inductive SessionListEvent where
  | connectionStateChanged (isReady : Bool)
  | authSucceeded (newest : String) (loaded synced : LoadSessionsRun) (userId : String)
  | authCleared (newest : String)
  | messageReceived (run : IncomingRun) (incoming : IncomingMessage)
  | sessionChosen (run : SwitchRun) (sessionId : String)
  | privateChatStarted (saved : Bool) (switched : SwitchRun) (loaded : LoadSessionsRun)
      (userId nickname selfUserId : String)
  | sessionDeleted (removed : Bool) (loaded : LoadSessionsRun) (sessionId : String)
  | friendChanged (saved : Bool) (loaded : LoadSessionsRun) (switched : SwitchRun)
      (userId friendUserId changeType : String)
  | groupSyncRequested (synced : LoadSessionsRun)
  | groupListLoaded (run : ApplyGroupListRun) (loaded : LoadSessionsRun)
      (groups : List GroupListEntryDto)
  | groupListLoadFailed (loaded : LoadSessionsRun)
  | groupCreated (saved : Bool) (synced loaded : LoadSessionsRun) (success : Bool)
      (groupId : String) (groupName : Option String)
  | tablesWritten (tables : LocalTables)

namespace SessionListEvent

/-- A commit ends the transaction of a message either way. -/
def enabled (client : SessionClient) : SessionListEvent → Prop
  | messageReceived run _ => run.transaction.commit ≠ .leftOpen
  | tablesWritten tables =>
      tables.sessions = client.db.view.sessions ∧ tables.authUserId = client.db.view.authUserId
  | _ => True

def next (sha256 : List Nat → String) (client : SessionClient) : SessionListEvent → SessionClient
  | connectionStateChanged isReady => client.onConnectionStateChanged isReady
  | authSucceeded newest loaded synced userId => client.onAuthSuccess newest loaded synced userId
  | authCleared newest => client.onAuthCleared newest
  | messageReceived run incoming => client.onIncomingMessage run incoming
  | sessionChosen run sessionId =>
      client.switchToSession run sessionId
        (SessionListModel.displayNameForSession client.sessions sessionId)
  | privateChatStarted saved switched loaded userId nickname selfUserId =>
      client.startPrivateChat sha256 saved switched loaded userId nickname selfUserId
  | sessionDeleted removed loaded sessionId => client.deleteSession removed loaded sessionId
  | friendChanged saved loaded switched userId friendUserId changeType =>
      client.onFriendChanged sha256 saved loaded switched userId friendUserId changeType
  | groupSyncRequested synced => client.syncGroupSessions synced
  | groupListLoaded run loaded groups => client.onGroupListLoaded run loaded groups
  | groupListLoadFailed loaded => client.onGroupListLoadFailed loaded
  | groupCreated saved synced loaded success groupId groupName =>
      client.onCreateGroupResult saved synced loaded success groupId groupName
  | tablesWritten tables => { client with db := client.db.write tables }

/-- Every switch to a session with unread messages commits the save that marks it
as read, a login is stored as the newest one, and a message finds its session and
the session's owner. -/
def CountsFollow (sha256 : List Nat → String) (client : SessionClient) : SessionListEvent → Prop
  | authSucceeded newest _ _ userId => newest = userId
  | messageReceived run _ => run.sessionLoaded = true ∧ run.ownerLoaded = true
  | sessionChosen run sessionId => client.MarksRead run.saved sessionId
  | privateChatStarted _ switched _ userId _ selfUserId =>
      client.MarksRead switched.saved (computePrivateSessionId sha256 selfUserId userId)
  | friendChanged _ _ switched userId friendUserId changeType =>
      client.Accepts userId friendUserId changeType → client.currentSessionId = "" →
        client.MarksRead switched.saved
          (computePrivateSessionId sha256 (client.db.loadAuthUserId true) friendUserId)
  | _ => True

end SessionListEvent

/-- One client over one database, which is empty at first.  The server may log in
another user than the database was opened for. -/
def sessionListSystem (sha256 : List Nat → String) : System SessionClient SessionListEvent where
  initial := {}
  enabled := SessionListEvent.enabled
  next := SessionListEvent.next sha256

namespace SessionClient

variable {client : SessionClient}

structure Consistent (client : SessionClient) : Prop where
  kept : client.Kept
  shown : client.isAuthenticated = true → client.Shown

theorem Consistent.of_carries (consistent : client.Consistent) {after : SessionClient}
    (carries : Carries client after)
    (shows : client.Shown → SessionListModel.Shows after.sessions after.db) :
    after.Consistent := by
  refine ⟨carries.kept, fun authenticated => ?_⟩
  have shown := consistent.shown (carries.isAuthenticated.symm.trans authenticated)
  exact carries.shown shown (shows shown)

theorem Kept.write (kept : client.Kept) {tables : LocalTables}
    (same : tables.sessions = client.db.view.sessions) :
    ({ client with db := client.db.write tables } : SessionClient).Kept := by
  have sessions : (client.db.write tables).view.sessions = client.db.view.sessions := by
    rw [view_write]
    exact same
  refine ⟨kept.sound.of_sessions (kept.sound.idle.write tables) sessions, kept.active, ?_⟩
  exact (unreadOf_congr sessions client.currentSessionId).trans kept.read

/-- A login loads the list, and perhaps again without a connection. -/
theorem Kept.onAuthSuccess (kept : client.Kept) {newest userId : String}
    (stored : newest = userId) (loaded synced : LoadSessionsRun) :
    (client.onAuthSuccess newest loaded synced userId).Consistent := by
  unfold SessionClient.onAuthSuccess initializeAfterAuthentication
  have written : ({ client with
      db := client.db.write { client.db.view with authUserId := newest } } : SessionClient).Kept :=
    kept.write rfl
  have owner : (client.db.write { client.db.view with authUserId := newest }).view.authUserId =
      userId := by
    rw [view_write]
    exact stored
  generalize client.db.write { client.db.view with authUserId := newest } = db at written owner
  generalize startedDef : resetRuntimeState ({ client with
      db := db, isAuthenticated := true, selfUserId := userId } : SessionClient) = started
  have startedKept : started.Kept := by
    subst startedDef
    exact ⟨written.sound, written.active, written.read⟩
  have startedOwner : started.db.view.authUserId = started.selfUserId := by
    subst startedDef
    exact owner
  obtain ⟨listed, shows⟩ := startedKept.loadSessions loaded
  generalize listedDef : ({ started.loadSessions loaded with
      pendingRecoveryAfterGroupSync := true } : SessionClient) = pending
  have pendingConsistent : pending.Consistent := by
    subst listedDef
    refine ⟨⟨listed.kept.sound, listed.kept.active, listed.kept.read⟩, fun _ => ⟨?_, shows⟩⟩
    exact listed.authUserId.trans (startedOwner.trans listed.selfUserId.symm)
  obtain ⟨done, showsSynced⟩ := syncGroupSessions_synced pendingConsistent.kept.sound synced
  exact pendingConsistent.of_carries (pendingConsistent.kept.of_synced done) fun shown =>
    showsSynced shown.shows

theorem Consistent.onConnectionStateChanged (consistent : client.Consistent) (isReady : Bool) :
    (client.onConnectionStateChanged isReady).Consistent := by
  have carries : Carries client (client.onConnectionStateChanged isReady) := by
    cases isReady
    · exact ⟨⟨consistent.kept.sound, consistent.kept.active, consistent.kept.read⟩, rfl, rfl, rfl⟩
    · exact ⟨⟨consistent.kept.sound, consistent.kept.active, consistent.kept.read⟩, rfl, rfl, rfl⟩
  apply consistent.of_carries carries
  intro shown
  cases isReady
  · exact shown.shows
  · exact shown.shows

theorem Kept.onAuthCleared (kept : client.Kept) (newest : String) :
    (client.onAuthCleared newest).Consistent := by
  have written : ({ client with
      db := client.db.write { client.db.view with authUserId := newest } } : SessionClient).Kept :=
    kept.write rfl
  exact ⟨⟨written.sound, rfl, written.sound.unreadOf_empty⟩, fun authenticated =>
    nomatch authenticated⟩

theorem Consistent.write (consistent : client.Consistent) {tables : LocalTables}
    (same : tables.sessions = client.db.view.sessions)
    (sameUser : tables.authUserId = client.db.view.authUserId) :
    ({ client with db := client.db.write tables } : SessionClient).Consistent := by
  have sessions : (client.db.write tables).view.sessions = client.db.view.sessions := by
    rw [view_write]
    exact same
  have authUserId : (client.db.write tables).view.authUserId = client.db.view.authUserId := by
    rw [view_write]
    exact sameUser
  have counts := consistent.kept.sound.sameCounts_of_sessions
    (consistent.kept.sound.idle.write tables) sessions authUserId
  apply consistent.of_carries (consistent.kept.of_sameCounts counts)
  intro shown
  refine ⟨shown.shows.distinct, fun sessionId stored => ?_, fun item itemIn => ?_⟩
  · exact shown.shows.listed sessionId ((hasSession_congr sessions sessionId).mp stored)
  · rw [counts.unreadOf]
    exact shown.shows.counted item itemIn

theorem Consistent.step (sha256 : List Nat → String) (consistent : client.Consistent)
    (event : SessionListEvent) (enabled : event.enabled client)
    (follow : event.CountsFollow sha256 client) :
    (event.next sha256 client).Consistent := by
  cases event with
  | connectionStateChanged isReady => exact consistent.onConnectionStateChanged isReady
  | authSucceeded newest loaded synced userId =>
      exact consistent.kept.onAuthSuccess follow loaded synced
  | authCleared newest => exact consistent.kept.onAuthCleared newest
  | messageReceived run incoming =>
      obtain ⟨carries, shows⟩ := onIncomingMessage_carries consistent.kept enabled incoming
      exact consistent.of_carries carries (shows follow)
  | sessionChosen run sessionId =>
      obtain ⟨carries, shows⟩ := switchToSession_carries consistent.kept follow
        (SessionListModel.displayNameForSession client.sessions sessionId)
      exact consistent.of_carries carries fun shown => shows shown.shows
  | privateChatStarted saved switched loaded userId nickname selfUserId =>
      obtain ⟨carries, shows⟩ := startPrivateChat_carries consistent.kept sha256 saved loaded
        nickname follow
      exact consistent.of_carries carries fun _ => shows
  | sessionDeleted removed loaded sessionId =>
      obtain ⟨carries, shows⟩ := deleteSession_carries consistent.kept removed loaded sessionId
      exact consistent.of_carries carries fun shown => shows shown.shows
  | friendChanged saved loaded switched userId friendUserId changeType =>
      obtain ⟨carries, shows⟩ := onFriendChanged_carries consistent.kept sha256 saved loaded follow
      exact consistent.of_carries carries fun shown => shows shown.shows
  | groupSyncRequested synced =>
      obtain ⟨done, shows⟩ := syncGroupSessions_synced consistent.kept.sound synced
      exact consistent.of_carries (consistent.kept.of_synced done) fun shown => shows shown.shows
  | groupListLoaded run loaded groups =>
      obtain ⟨carries, shows⟩ := onGroupListLoaded_carries consistent.kept run loaded groups
      exact consistent.of_carries carries fun _ => shows
  | groupListLoadFailed loaded =>
      obtain ⟨carries, shows⟩ := onGroupListLoadFailed_carries consistent.kept loaded
      exact consistent.of_carries carries fun _ => shows
  | groupCreated saved synced loaded success groupId groupName =>
      obtain ⟨carries, shows⟩ := onCreateGroupResult_carries consistent.kept saved synced loaded
        success groupId groupName
      exact consistent.of_carries carries fun shown => shows shown.shows
  | tablesWritten tables => exact consistent.write enabled.1 enabled.2

theorem consistent_initial : ({} : SessionClient).Consistent := by
  have empty : ∀ row ∈ ({} : LocalDatabase).view.sessions.rows, False := nofun
  exact ⟨⟨⟨rfl, fun row rowIn => (empty row rowIn).elim, fun row rowIn => (empty row rowIn).elim⟩,
    rfl, rfl⟩, fun authenticated => nomatch authenticated⟩

end SessionClient

/-- While the steps of a run keep to the condition, a client that is logged in
lists each stored session, with the unread count that is stored. -/
theorem shown_unread_stored (sha256 : List Nat → String) (client : SessionClient)
    (reached : ((sessionListSystem sha256).restrict
      (fun before event => event.CountsFollow sha256 before)).Reachable client)
    (loggedIn : client.isAuthenticated = true) (row : SessionRow)
    (stored : row ∈ client.db.view.sessions.rows) :
    (∃ item ∈ client.sessions, item.sessionId = row.sessionId) ∧
      ∀ item ∈ client.sessions, item.sessionId = row.sessionId →
        item.unreadCount = row.unreadCount := by
  have consistent : client.Consistent := by
    refine System.Reachable.invariant SessionClient.consistent_initial ?_ client reached
    intro before event _ before_consistent enabled
    exact before_consistent.step sha256 event enabled.1 enabled.2
  have shows := (consistent.shown loggedIn).shows
  refine ⟨shows.listed row.sessionId ⟨row, stored, rfl⟩, fun item itemIn same => ?_⟩
  rw [shows.counted item itemIn, same]
  exact consistent.kept.sound.unreadOf_row stored

def aliceReadsBob (saved : Bool) : List SessionListEvent :=
  [.authSucceeded "alice" {} {} "alice",
    .messageReceived { msgId := "m1", timestamp := "2026-01-01T00:00:00Z" }
      ⟨"bob", "bob", "hi", "private", "", "", "srv_1"⟩,
    .sessionChosen { saved := saved } "bob"]

def afterAliceReadsBob (saved : Bool) : SessionClient :=
  (aliceReadsBob saved).foldl (SessionListEvent.next fun _ => "") {}

theorem afterAliceReadsBob_sessions (saved : Bool) :
    (afterAliceReadsBob saved).sessions = [⟨"bob", "bob", 0, .privateChat⟩] ∧
      (afterAliceReadsBob saved).db.view.sessions.rows =
        [⟨"bob", .privateChat, "bob", "bob", if saved then 0 else 1⟩] := by
  cases saved
  · exact ⟨rfl, rfl⟩
  · exact ⟨rfl, rfl⟩

theorem shown_unread_stored_bob :
    (∃ item ∈ (afterAliceReadsBob true).sessions, item.sessionId = "bob") ∧
      ∀ item ∈ (afterAliceReadsBob true).sessions, item.sessionId = "bob" →
        item.unreadCount = 0 :=
  shown_unread_stored (fun _ => "") (afterAliceReadsBob true)
    (System.Reachable.run (aliceReadsBob true) _ System.Reachable.initial
      ⟨⟨trivial, rfl⟩, ⟨nofun, rfl, rfl⟩, ⟨trivial, Or.inr (Or.inl rfl)⟩, trivial⟩)
    rfl ⟨"bob", .privateChat, "bob", "bob", 0⟩
    ((afterAliceReadsBob_sessions true).2 ▸ List.mem_singleton_self _)

/-- The save that marks bob's session as read is undone, and the list clears its
count all the same. -/
theorem shown_unread_cleared :
    ¬ ∀ client, (sessionListSystem fun _ => "").Reachable client →
      client.isAuthenticated = true → ∀ row ∈ client.db.view.sessions.rows,
        (∃ item ∈ client.sessions, item.sessionId = row.sessionId) ∧
          ∀ item ∈ client.sessions, item.sessionId = row.sessionId →
            item.unreadCount = row.unreadCount := by
  intro always
  have reached : (sessionListSystem fun _ => "").Reachable (afterAliceReadsBob false) :=
    System.Reachable.run (aliceReadsBob false) _ System.Reachable.initial
      ⟨trivial, nofun, trivial, trivial⟩
  obtain ⟨listed, stored⟩ := afterAliceReadsBob_sessions false
  have same := (always _ reached rfl ⟨"bob", .privateChat, "bob", "bob", 1⟩
    (stored ▸ List.mem_singleton_self _)).2 ⟨"bob", "bob", 0, .privateChat⟩
    (listed ▸ List.mem_singleton_self _) rfl
  cases same

end ShirohaChat
