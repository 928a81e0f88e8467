import ShirohaChat.Client.LocalSessions
import ShirohaChat.Client.ReceiveMessage
import ShirohaChat.Client.SendMessage
import ShirohaChat.Lib.Transition

/-!
# What every store of the client satisfies

No group or session is stored without an id and no count is negative, since the
repositories refuse empty ids and a session's count starts at nought or above.
-/

set_option autoImplicit false

namespace ShirohaChat

open LocalDatabase

structure SoundTables (tables : LocalTables) : Prop where
  sessions : ∀ row ∈ tables.sessions.rows, row.sessionId ≠ "" ∧ 0 ≤ row.unreadCount
  groups : ∀ row ∈ tables.groups.rows, row.groupId ≠ ""

theorem SoundTables.of_same {tables after : LocalTables} (sound : SoundTables tables)
    (sessions : after.sessions = tables.sessions) (groups : after.groups = tables.groups) :
    SoundTables after :=
  ⟨by rw [sessions]; exact sound.sessions, by rw [groups]; exact sound.groups⟩

theorem SoundTables.empty : SoundTables {} :=
  ⟨fun _ rowIn => absurd rowIn List.not_mem_nil, fun _ rowIn => absurd rowIn List.not_mem_nil⟩

namespace LocalDatabase

variable {Value : Type}

theorem runInTransaction_keeps (kept : LocalTables → Prop) (db : LocalDatabase) (depth : Nat)
    (run : TransactionRun) (callback : LocalDatabase → LocalDatabase × Option Value)
    (keeps : ∀ inner, kept inner.view → kept (callback inner).1.view) (holds : kept db.view) :
    kept (db.runInTransaction depth run callback).1.view := by
  cases depth with
  | succ depth =>
      rw [runInTransaction_nested]
      split
      · exact keeps db holds
      · exact holds
  | zero =>
      rcases db.runInTransaction_view run callback with
        same | ⟨started, after, value, sameView, ran, result⟩
      · rw [same]
        exact holds
      · have afterKept := keeps started (by rw [sameView]; exact holds)
        rw [ran] at afterKept
        rcases result with committed | leftOpen
        · rw [committed]
          exact afterKept
        · rw [leftOpen]
          exact afterKept

variable (db : LocalDatabase) (depth : Nat) (sound : SoundTables db.view)
include sound

theorem soundTables_insertMessage (ok : Bool) (message : Message) :
    SoundTables (db.insertMessage ok message).1.view := by
  unfold insertMessage
  split
  · exact sound
  split
  · exact sound
  · rw [view_write]
    exact sound.of_same rfl rfl

theorem soundTables_updateMessageStatus (ok : Bool) (msgId : String) (status : MessageStatus)
    (serverId : String) :
    SoundTables (db.updateMessageStatus ok msgId status serverId).1.view := by
  unfold updateMessageStatus
  split
  · exact sound
  · rw [view_write]
    exact sound.of_same rfl rfl

theorem soundTables_upsertPendingAck (ok : Bool) (msgId : String) :
    SoundTables (db.upsertPendingAck ok msgId).1.view := by
  unfold upsertPendingAck
  split
  · rw [view_write]
    exact sound.of_same rfl rfl
  · exact sound

theorem soundTables_removePendingAck (ok : Bool) (msgId : String) :
    SoundTables (db.removePendingAck ok msgId).1.view := by
  unfold removePendingAck
  split
  · rw [view_write]
    exact sound.of_same rfl rfl
  · exact sound

theorem soundTables_upsertUser (ok : Bool) (userId nickname : String) :
    SoundTables (db.upsertUser ok userId nickname).1.view :=
  sound.of_same (frame_upsertUser LocalTables.sessions (fun _ _ => rfl) db ok userId nickname)
    (frame_upsertUser LocalTables.groups (fun _ _ => rfl) db ok userId nickname)

theorem soundTables_saveSession (run : SaveRun) (session : Session)
    (counted : 0 ≤ session.unreadCount) :
    SoundTables (db.saveSession depth run session).1.view := by
  unfold saveSession
  split
  · exact sound
  rename_i named
  apply db.runInTransaction_keeps SoundTables depth run.transaction _ _ sound
  intro inner innerSound
  split
  · rw [view_write]
    refine ⟨?_, innerSound.groups⟩
    intro row rowIn
    rcases RowTable.mem_upsert _ _ _ _ rowIn with rfl | old | ⟨old, oldIn, rfl⟩
    · exact ⟨named, counted⟩
    · exact innerSound.sessions row old
    · exact ⟨(innerSound.sessions old oldIn).1, counted⟩
  · exact innerSound

theorem soundTables_removeSession (run : RemoveSessionRun) (sessionId : String) :
    SoundTables (db.removeSession depth run sessionId).1.view := by
  have groups := frame_removeSession LocalTables.groups (fun _ _ _ _ => rfl) db depth run sessionId
  refine ⟨?_, by rw [groups]; exact sound.groups⟩
  unfold removeSession
  split
  · exact sound.sessions
  apply db.runInTransaction_keeps (fun tables => ∀ row ∈ tables.sessions.rows,
    row.sessionId ≠ "" ∧ 0 ≤ row.unreadCount) depth run.transaction _ _ sound.sessions
  intro inner innerSound
  split
  · exact innerSound
  simp only
  split
  · rw [view_write]
    exact innerSound
  split
  · rw [view_write, view_write]
    exact innerSound
  · rw [view_write, view_write, view_write]
    intro row rowIn
    exact innerSound row ((RowTable.mem_deleteWhere _ _ _).mp rowIn).1

theorem soundTables_saveGroup (run : SaveGroupRun) (group : Group) :
    SoundTables (db.saveGroup depth run group).1.view := by
  have sessions := frame_saveGroup LocalTables.sessions (fun _ _ _ => rfl) db depth run group
  refine ⟨by rw [sessions]; exact sound.sessions, ?_⟩
  unfold saveGroup
  split
  · exact sound.groups
  rename_i named
  apply db.runInTransaction_keeps (fun tables => ∀ row ∈ tables.groups.rows, row.groupId ≠ "")
    depth run.transaction _ _ sound.groups
  intro inner innerSound
  have upserted : ∀ (name creatorUserId : String) (row : LocalGroupRow),
      row ∈ (inner.view.groups.upsert ⟨group.groupId, name, creatorUserId⟩
        (fun old => ⟨old.groupId, name, creatorUserId⟩) fun _ => rfl).rows → row.groupId ≠ "" := by
    intro name creatorUserId row rowIn
    rcases RowTable.mem_upsert _ _ _ _ rowIn with rfl | old | ⟨old, oldIn, rfl⟩
    · exact named
    · exact innerSound row old
    · exact innerSound old oldIn
  split
  · simp only
    split
    · rw [view_write]
      exact upserted _ _
    · rw [frame_insertMembers LocalTables.groups (fun _ _ => rfl), view_write, view_write]
      exact upserted _ _
  · exact innerSound

theorem soundTables_removeGroup (run : RemoveGroupRun) (groupId : String) :
    SoundTables (db.removeGroup depth run groupId).1.view := by
  have sessions := frame_removeGroup LocalTables.sessions (fun _ _ _ => rfl) db depth run groupId
  refine ⟨by rw [sessions]; exact sound.sessions, ?_⟩
  unfold removeGroup
  split
  · exact sound.groups
  apply db.runInTransaction_keeps (fun tables => ∀ row ∈ tables.groups.rows, row.groupId ≠ "")
    depth run.transaction _ _ sound.groups
  intro inner innerSound
  split
  · exact innerSound
  simp only
  split
  · rw [view_write]
    exact innerSound
  · rw [view_write, view_write]
    intro row rowIn
    exact innerSound row ((RowTable.mem_deleteWhere _ _ _).mp rowIn).1

end LocalDatabase

/-! ## Sending and receiving -/

theorem soundTables_persist (db : LocalDatabase) (sound : SoundTables db.view) (run : SendRun)
    (message : Message) : SoundTables (SendMessageUseCase.persist db run message).1.view := by
  apply db.runInTransaction_keeps SoundTables 0 run.transaction _ _ sound
  intro inner innerSound
  have inserted := inner.soundTables_insertMessage innerSound run.inserted message
  split
  · exact innerSound
  · rename_i stored isStored
    rw [isStored] at inserted
    exact stored.soundTables_upsertPendingAck inserted run.ackStored message.msgId

namespace ReceiveMessageUseCase

theorem soundTables_resolveGroup (db : LocalDatabase) (sound : SoundTables db.view)
    (run : IncomingRun) (incoming : IncomingMessage) :
    SoundTables (resolveGroup db run incoming).1.view := by
  unfold resolveGroup
  simp only
  split
  · exact db.soundTables_saveGroup 1 sound _ _
  · exact sound

theorem soundTables_resolveDisplay (db : LocalDatabase) (sound : SoundTables db.view)
    (run : IncomingRun) (incoming : IncomingMessage) :
    SoundTables (resolveDisplay db run incoming).1.view := by
  have named : SoundTables (if trimmed incoming.senderNickname ≠ "" then
      (db.upsertUser run.userStored incoming.sender incoming.senderNickname).1 else db).view := by
    split
    · exact db.soundTables_upsertUser sound _ _ _
    · exact sound
  unfold resolveDisplay
  simp only
  split
  · exact soundTables_resolveGroup _ named run incoming
  · exact named

theorem sessionAfter_counted (client : ReceiveMessageUseCase) (db : LocalDatabase)
    (run : IncomingRun) (incoming : IncomingMessage) (displayName : String) :
    0 ≤ (client.sessionAfter db run incoming displayName).unreadCount := by
  have counted : ∀ session : Session, 0 ≤ session.unreadCount →
      0 ≤ (if incoming.sessionId = client.activeSessionId then
        (session.processIncomingMessage incoming.sender).markRead
      else session.processIncomingMessage incoming.sender).unreadCount := by
    intro session nonneg
    unfold Session.processIncomingMessage Session.markRead
    split
    · exact Int.le_refl 0
    · split
      · exact Int.le_add_one nonneg
      · exact nonneg
  unfold sessionAfter
  apply counted
  cases loaded : db.loadSession run.sessionLoaded run.ownerLoaded incoming.sessionId with
  | none => exact Int.le_refl 0
  | some session =>
      have sameCount := (LocalDatabase.loadSession_eq_some loaded).2
      rw [Session.updateMetadata_unreadCount, sameCount]
      exact Int.le_max_left _ _

theorem soundTables_onIncomingMessage (client : ReceiveMessageUseCase)
    (sound : SoundTables client.db.view) (run : IncomingRun) (arrived : IncomingMessage) :
    SoundTables (client.onIncomingMessage run arrived).db.view := by
  rcases client.onIncomingMessage_db_cases run arrived with same | ran
  · rw [same]
    exact sound
  · rw [ran]
    apply client.db.runInTransaction_keeps SoundTables 0 run.transaction _ _ sound
    intro inner innerSound
    have inserted := inner.soundTables_insertMessage innerSound run.inserted
      (messageOf run arrived.effective)
    unfold store
    split
    · exact innerSound
    · rename_i stored isStored
      rw [isStored] at inserted
      have resolved := soundTables_resolveDisplay stored inserted run arrived.effective
      generalize resolveDisplay stored run arrived.effective = named at resolved
      have saved := named.1.soundTables_saveSession 1 resolved run.sessionSaved
        (client.sessionAfter named.1 run arrived.effective named.2)
        (client.sessionAfter_counted named.1 run arrived.effective named.2)
      simp only
      split
      · rename_i notSaved
        rw [notSaved] at saved
        exact saved
      · rename_i isSaved
        rw [isSaved] at saved
        exact saved

end ReceiveMessageUseCase

/-! ## Reachable stores -/

inductive StoreEvent where
  | send (run : SendRun) (message : Message)
  | receive (selfUserId activeSessionId : String) (run : IncomingRun) (arrived : IncomingMessage)
  | updateMessageStatus (ok : Bool) (msgId : String) (status : MessageStatus) (serverId : String)
  | upsertPendingAck (ok : Bool) (msgId : String)
  | removePendingAck (ok : Bool) (msgId : String)
  | upsertUser (ok : Bool) (userId nickname : String)
  | saveSession (run : SaveRun) (session : Session)
  | removeSession (run : RemoveSessionRun) (sessionId : String)
  | saveGroup (run : SaveGroupRun) (group : Group)
  | removeGroup (run : RemoveGroupRun) (groupId : String)
  | authenticate (authUserId : String)

namespace StoreEvent

def apply (db : LocalDatabase) : StoreEvent → LocalDatabase
  | send run message => (SendMessageUseCase.persist db run message).1
  | receive selfUserId activeSessionId run arrived =>
      (ReceiveMessageUseCase.onIncomingMessage
        { db := db, selfUserId := selfUserId, activeSessionId := activeSessionId }
        run arrived).db
  | updateMessageStatus ok msgId status serverId =>
      (db.updateMessageStatus ok msgId status serverId).1
  | upsertPendingAck ok msgId => (db.upsertPendingAck ok msgId).1
  | removePendingAck ok msgId => (db.removePendingAck ok msgId).1
  | upsertUser ok userId nickname => (db.upsertUser ok userId nickname).1
  | saveSession run session => (db.saveSession 0 run session).1
  | removeSession run sessionId => (db.removeSession 0 run sessionId).1
  | saveGroup run group => (db.saveGroup 0 run group).1
  | removeGroup run groupId => (db.removeGroup 0 run groupId).1
  | authenticate authUserId => db.write { db.view with authUserId := authUserId }

/-- No commit leaves its transaction open, and a session that is saved counts
from nought. -/
def Closed : StoreEvent → Prop
  | send run _ => run.transaction.commit ≠ .leftOpen
  | receive _ _ run _ => run.transaction.commit ≠ .leftOpen
  | saveSession run session => run.transaction.commit ≠ .leftOpen ∧ 0 ≤ session.unreadCount
  | removeSession run _ => run.transaction.commit ≠ .leftOpen
  | saveGroup run _ => run.transaction.commit ≠ .leftOpen
  | removeGroup run _ => run.transaction.commit ≠ .leftOpen
  | _ => True

end StoreEvent

def storeSystem : Transition.System LocalDatabase StoreEvent where
  initial := {}
  enabled _ event := event.Closed
  next := StoreEvent.apply

structure SoundStore (db : LocalDatabase) : Prop where
  idle : db.Idle
  tables : SoundTables db.view

theorem SoundStore.sessions {db : LocalDatabase} (sound : SoundStore db) : db.SoundSessions :=
  ⟨sound.idle, fun row rowIn => (sound.tables.sessions row rowIn).1,
    fun row rowIn => (sound.tables.sessions row rowIn).2⟩

theorem SoundStore.step {db : LocalDatabase} (sound : SoundStore db) (event : StoreEvent)
    (closed : event.Closed) : SoundStore (event.apply db) := by
  obtain ⟨idle, tables⟩ := sound
  cases event with
  | send run message =>
      exact ⟨idle.runInTransaction_closed closed _, soundTables_persist db tables run message⟩
  | receive selfUserId activeSessionId run arrived =>
      let client : ReceiveMessageUseCase :=
        { db := db, selfUserId := selfUserId, activeSessionId := activeSessionId }
      refine ⟨?_, client.soundTables_onIncomingMessage tables run arrived⟩
      show (client.onIncomingMessage run arrived).db.Idle
      rcases client.onIncomingMessage_db_cases run arrived with same | ran
      · rw [same]
        exact idle
      · rw [ran]
        exact idle.runInTransaction_closed closed _
  | updateMessageStatus ok msgId status serverId =>
      exact ⟨idle.updateMessageStatus ok msgId status serverId,
        db.soundTables_updateMessageStatus tables ok msgId status serverId⟩
  | upsertPendingAck ok msgId =>
      exact ⟨idle.upsertPendingAck ok msgId, db.soundTables_upsertPendingAck tables ok msgId⟩
  | removePendingAck ok msgId =>
      exact ⟨idle.removePendingAck ok msgId, db.soundTables_removePendingAck tables ok msgId⟩
  | upsertUser ok userId nickname =>
      refine ⟨?_, db.soundTables_upsertUser tables ok userId nickname⟩
      show (db.upsertUser ok userId nickname).1.Idle
      unfold LocalDatabase.upsertUser
      split
      · exact idle
      · exact idle.write _
  | saveSession run session =>
      exact ⟨idle.saveSession_closed run closed.1 session,
        db.soundTables_saveSession 0 tables run session closed.2⟩
  | removeSession run sessionId =>
      exact ⟨idle.removeSession_closed run closed sessionId,
        db.soundTables_removeSession 0 tables run sessionId⟩
  | saveGroup run group =>
      exact ⟨idle.saveGroup_closed run closed group,
        db.soundTables_saveGroup 0 tables run group⟩
  | removeGroup run groupId =>
      exact ⟨idle.removeGroup_closed run closed groupId,
        db.soundTables_removeGroup 0 tables run groupId⟩
  | authenticate authUserId =>
      refine ⟨idle.write _, ?_⟩
      show SoundTables (db.write _).view
      rw [LocalDatabase.view_write]
      exact tables.of_same rfl rfl

/-- Every reachable store is sound. -/
theorem soundStore_reachable (db : LocalDatabase) (reached : storeSystem.Reachable db) :
    SoundStore db := by
  have initial : SoundStore storeSystem.initial := ⟨rfl, SoundTables.empty⟩
  refine Transition.System.Reachable.invariant initial ?_ db reached
  intro state event _ sound closed
  exact sound.step event closed

end ShirohaChat
