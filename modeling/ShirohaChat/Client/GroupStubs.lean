import ShirohaChat.Client.ReceiveMessage
import ShirohaChat.Client.SendMessage

/-!
# The group of a received message

A message of an unknown group is stored with its session, and the group itself
is to be saved besides it, without a creator.  Whether the group is there
afterwards decides what a message sent to the session meets.
-/

set_option autoImplicit false

namespace ShirohaChat

namespace LocalDatabase

theorem view_saveGroup_nullCreator (db : LocalDatabase) (depth : Nat) (run : SaveGroupRun)
    {group : Group} (noCreator : group.creatorUserId = none) :
    (db.saveGroup depth run group).1.view = db.view := by
  unfold saveGroup
  rw [noCreator]
  split
  · rfl
  · apply db.runInTransaction_frame depth run.transaction _ id
    intro inner
    split
    · rename_i hasCreator
      cases hasCreator
    · rfl

theorem isSome_loadGroup (db : LocalDatabase) {groupId : String} (named : groupId ≠ "") :
    (db.loadGroup true true groupId).isSome = (db.view.groups.find? groupId).isSome := by
  unfold loadGroup
  rw [if_neg (by simp [named]), Option.isSome_map]

theorem loadSession_sessionType (db : LocalDatabase) (ownerOk : Bool) {sessionId : String}
    (named : sessionId ≠ "") :
    (db.loadSession true ownerOk sessionId).map Session.sessionType =
      (db.view.sessions.find? sessionId).map SessionRow.sessionType := by
  unfold loadSession
  rw [if_neg (by simp [named]), Option.map_map]
  rfl

end LocalDatabase

namespace ReceiveMessageUseCase

/-- The group of a message is stored afterwards if it was before. -/
theorem view_resolveGroup (db : LocalDatabase) (run : IncomingRun) (incoming : IncomingMessage) :
    (resolveGroup db run incoming).1.view = db.view := by
  unfold resolveGroup
  simp only
  split
  · exact db.view_saveGroup_nullCreator 1 run.groupSaved rfl
  · rfl

theorem groups_resolveDisplay (db : LocalDatabase) (run : IncomingRun)
    (incoming : IncomingMessage) :
    (resolveDisplay db run incoming).1.view.groups = db.view.groups := by
  have named : (if trimmed incoming.senderNickname ≠ "" then
      (db.upsertUser run.userStored incoming.sender incoming.senderNickname).1
      else db).view.groups = db.view.groups := by
    split
    · exact LocalDatabase.frame_upsertUser LocalTables.groups (fun _ _ => rfl) _ _ _ _
    · rfl
  unfold resolveDisplay
  simp only
  split
  · rw [view_resolveGroup]
    exact named
  · exact named

theorem groups_store {client : ReceiveMessageUseCase} {run : IncomingRun}
    {incoming : IncomingMessage} {db after : LocalDatabase} {result : String × Bool}
    (done : client.store run incoming db = (after, some result)) :
    after.view.groups = db.view.groups := by
  unfold store at done
  cases insertion : db.insertMessage run.inserted (messageOf run incoming) with
  | mk inserted ok =>
      cases ok with
      | false =>
          rw [insertion] at done
          cases done
      | true =>
          rw [insertion] at done
          simp only at done
          obtain ⟨messages, _, rfl⟩ := LocalDatabase.insertMessage_eq_true insertion
          have resolvedGroups := groups_resolveDisplay
            (db.write { db.view with messages := messages }) run incoming
          rw [LocalDatabase.view_write] at resolvedGroups
          generalize resolveDisplay (db.write { db.view with messages := messages }) run
            incoming = resolved at done resolvedGroups
          have savedGroups := LocalDatabase.frame_saveSession LocalTables.groups (fun _ _ => rfl)
            resolved.1 1 run.sessionSaved (client.sessionAfter resolved.1 run incoming resolved.2)
          split at done
          · cases done
          · rename_i saving
            rw [saving] at savedGroups
            cases done
            exact savedGroups.trans resolvedGroups

/-- A stored session keeps its type, a new one has that of the message. -/
theorem sessionType_sessionAfter (client : ReceiveMessageUseCase) (db : LocalDatabase)
    (run : IncomingRun) (incoming : IncomingMessage) (displayName : String) :
    (client.sessionAfter db run incoming displayName).sessionType =
      (((db.loadSession run.sessionLoaded run.ownerLoaded incoming.sessionId).map
        Session.sessionType).getD (if incoming.isGroup then .groupChat else .privateChat)) := by
  have counted : ∀ session : Session, (if incoming.sessionId = client.activeSessionId then
      (session.processIncomingMessage incoming.sender).markRead
      else session.processIncomingMessage incoming.sender).sessionType = session.sessionType := by
    intro session
    unfold Session.processIncomingMessage Session.markRead
    split <;> split <;> rfl
  unfold sessionAfter
  simp only
  rw [counted]
  cases db.loadSession run.sessionLoaded run.ownerLoaded incoming.sessionId with
  | none => rfl
  | some session => rfl

theorem sessionType_store {client : ReceiveMessageUseCase} {run : IncomingRun}
    {incoming : IncomingMessage} {db after : LocalDatabase} {result : String × Bool}
    (named : incoming.sessionId ≠ "") (loaded : run.sessionLoaded = true)
    (done : client.store run incoming db = (after, some result)) :
    (after.view.sessions.find? incoming.sessionId).map SessionRow.sessionType =
      some (((db.view.sessions.find? incoming.sessionId).map SessionRow.sessionType).getD
        (if incoming.isGroup then .groupChat else .privateChat)) := by
  obtain ⟨displayName, incrementUnread⟩ := result
  obtain ⟨_, resolved, _, _, sameSessions, _, saving, _⟩ := store_cases done
  have ownId := client.sessionId_sessionAfter resolved run incoming displayName
  have ownType := client.sessionType_sessionAfter resolved run incoming displayName
  rw [loaded, resolved.loadSession_sessionType _ named, sameSessions] at ownType
  rw [LocalDatabase.view_saveSession_nested saving]
  show ((LocalDatabase.sessionsAfterSave _ _).find? _).map _ = _
  rw [LocalDatabase.sessionsAfterSave, RowTable.find?_upsert, if_pos ownId.symm, sameSessions,
    ← ownType]
  cases db.view.sessions.find? incoming.sessionId <;> rfl

end ReceiveMessageUseCase

namespace SendMessageUseCase

theorem isGroupSession_iff (db : LocalDatabase) {sessionId : String} (named : sessionId ≠ "") :
    isGroupSession db {} sessionId = true ↔
      (db.view.sessions.find? sessionId).map SessionRow.sessionType = some .groupChat ∨
        (db.loadGroup true true sessionId).isSome = true := by
  rw [isGroupSession, Bool.or_eq_true, ← db.loadSession_sessionType true named]
  cases db.loadSession true true sessionId <;> simp

/-- `sendMessage` refuses exactly the session of a group that is not stored. -/
theorem sendMessage_refused_iff (client : SendMessageUseCase) (run : SendRun)
    (sessionId content msgId timestamp : String) (text : trimmed content ≠ "")
    (named : sessionId ≠ "") :
    (client.sendMessage run sessionId content msgId timestamp).signals =
        client.signals ++ [.messageError .groupNotSynced] ↔
      isGroupSession client.db run.route sessionId = true ∧
        groupMissing client.db run.route sessionId = true := by
  unfold sendMessage
  rw [if_neg (by simp [text, named])]
  simp only
  generalize (if client.db.loadAuthUserId run.route.authLoaded = "" then "me"
    else client.db.loadAuthUserId run.route.authLoaded) = sender
  by_cases refused : isGroupSession client.db run.route sessionId = true ∧
      groupMissing client.db run.route sessionId = true
  · rw [if_pos refused]
    exact iff_of_true rfl refused
  · rw [if_neg refused]
    refine iff_of_false ?_ refused
    -- Any other end reports no error first.
    split
    · simp
    split
    · simp [emit, startAckTimer]
    split
    · simp [emit, startAckTimer, failMessage, removeAck, setStatus, stopAckTimer]
    · simp [emit, startAckTimer]

end SendMessageUseCase

open ReceiveMessageUseCase

/-- After a group message was committed and reported, its group is stored exactly
if it was stored before; otherwise a message sent to the session is refused,
unless the session had been stored as a private one. -/
theorem groupPresent_iff_stored (client : ReceiveMessageUseCase) (run : IncomingRun)
    (arrived : IncomingMessage) (isGroup : arrived.isGroup = true)
    (loaded : run.sessionLoaded = true)
    (emitted : (client.onIncomingMessage run arrived).received ≠ client.received) :
    (((client.onIncomingMessage run arrived).db.loadGroup true true
        arrived.effective.sessionId).isSome = true ↔
      (client.db.loadGroup true true arrived.effective.sessionId).isSome = true) ∧
    ∀ (sender : SendMessageUseCase) (send : SendRun) (content msgId timestamp : String),
      sender.db = (client.onIncomingMessage run arrived).db → send.route = {} →
      trimmed content ≠ "" →
      ((sender.sendMessage send arrived.effective.sessionId content msgId timestamp).signals =
          sender.signals ++ [.messageError .groupNotSynced] ↔
        (client.db.loadGroup true true arrived.effective.sessionId).isNone = true ∧
          (client.db.loadSession true true arrived.effective.sessionId).map Session.sessionType ≠
            some .privateChat) := by
  obtain ⟨named, started, after, displayName, incrementUnread, sameView, stored, isDb⟩ :=
    onIncomingMessage_emitted emitted
  have sameGroups := groups_store stored
  have ownType := sessionType_store named loaded stored
  rw [sameView] at sameGroups ownType
  rw [if_pos (show arrived.effective.isGroup = true from isGroup)] at ownType
  have present : ((client.onIncomingMessage run arrived).db.loadGroup true true
      arrived.effective.sessionId).isSome =
      (client.db.loadGroup true true arrived.effective.sessionId).isSome := by
    rw [isDb, LocalDatabase.isSome_loadGroup _ named, LocalDatabase.isSome_loadGroup _ named,
      ← sameGroups]
    rfl
  refine ⟨by rw [present], ?_⟩
  intro sender send content msgId timestamp sameDb routed text
  have afterType : (client.onIncomingMessage run arrived).db.view.sessions.find?
      arrived.effective.sessionId = after.view.sessions.find? arrived.effective.sessionId := by
    rw [isDb]
    rfl
  rw [SendMessageUseCase.sendMessage_refused_iff _ _ _ _ _ _ text named, routed, sameDb,
    SendMessageUseCase.isGroupSession_iff _ named, SendMessageUseCase.groupMissing, afterType,
    ownType, client.db.loadSession_sessionType true named]
  simp only [← Option.not_isSome, present]
  -- A session that was not stored is a group's session afterwards.
  cases (client.db.loadGroup true true arrived.effective.sessionId).isSome with
  | true => simp
  | false =>
      cases (client.db.view.sessions.find? arrived.effective.sessionId).map
          SessionRow.sessionType with
      | none => simp
      | some sessionType => cases sessionType <;> simp

def firstGroupMessage : IncomingMessage :=
  ⟨"g1", "bob", "hello", "group", "Bob", "Reading circle", "m1"⟩

def firstGroupRun : IncomingRun := { msgId := "m1", timestamp := "2024-05-01T10:00:00Z" }

def firstGroupClient : ReceiveMessageUseCase :=
  ReceiveMessageUseCase.onIncomingMessage {} firstGroupRun firstGroupMessage

theorem received_firstGroupClient : firstGroupClient.received ≠ [] := by
  intro nothing
  have sizes := congrArg List.length nothing
  revert sizes
  decide

theorem groupPresent_iff_stored_unknown :
    (firstGroupClient.db.loadGroup true true "g1").isSome = false ∧
      (SendMessageUseCase.sendMessage ⟨firstGroupClient.db, AckTimers.empty, []⟩ {} "g1" "hi"
        "m2" "2024-05-01T10:01:00Z").signals = [.messageError .groupNotSynced] := by
  obtain ⟨present, refused⟩ := groupPresent_iff_stored {} firstGroupRun firstGroupMessage rfl rfl
    received_firstGroupClient
  constructor
  · exact Bool.eq_false_iff.mpr fun stored => Bool.false_ne_true (present.mp stored)
  · exact (refused ⟨firstGroupClient.db, AckTimers.empty, []⟩ {} "hi" "m2"
      "2024-05-01T10:01:00Z" rfl rfl (by decide)).mpr ⟨rfl, by decide⟩

/-- The message is stored and shown, the group is not, and no answer can be sent. -/
theorem firstGroupMessage_refused :
    firstGroupClient.received ≠ [] ∧
      (firstGroupClient.db.view.messages.find? "m1").isSome = true ∧
      (firstGroupClient.db.loadGroup true true "g1").isSome = false ∧
      (SendMessageUseCase.sendMessage ⟨firstGroupClient.db, AckTimers.empty, []⟩ {} "g1" "hi"
        "m2" "2024-05-01T10:01:00Z").signals = [.messageError .groupNotSynced] :=
  ⟨received_firstGroupClient, by decide, by decide, rfl⟩

end ShirohaChat
