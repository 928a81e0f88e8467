import ShirohaChat.Client.LocalStore
import ShirohaChat.Shared.Packet

/-!
# Receiving messages

The `ReceiveMessage` case of `NetworkService::handleIncomingPacket` and
`ReceiveMessageUseCase::onIncomingMessage`.  The network layer emits
`textReceived`, whose handler runs inside the emission and reports nothing
back, and then acknowledges the packet.
-/

set_option autoImplicit false

namespace ShirohaChat

/-- What `textReceived` carries, with the effective session id. -/
structure IncomingMessage where
  sessionId : String
  sender : String
  content : String
  sessionType : String
  senderNickname : String
  groupName : String
  serverId : String

namespace IncomingMessage

def isGroup (incoming : IncomingMessage) : Bool := incoming.sessionType = "group"

/-- A message without a session belongs to the session of its sender. -/
def effective (incoming : IncomingMessage) : IncomingMessage :=
  { incoming with
    sessionId := if incoming.sessionId = "" then incoming.sender else incoming.sessionId }

@[simp] theorem effective_effective (incoming : IncomingMessage) :
    incoming.effective.effective = incoming.effective := by
  unfold effective
  by_cases unnamed : incoming.sessionId = ""
  · simp only [unnamed, if_true]
    split
    · rename_i nobody
      rw [nobody]
    · rfl
  · simp [unnamed]

theorem effective_sessionId_ne (incoming : IncomingMessage) (sender : incoming.sender ≠ "") :
    incoming.effective.sessionId ≠ "" := by
  unfold effective
  simp only
  split
  · exact sender
  · assumption

end IncomingMessage

/-- The values one reception draws, and which of its statements succeed.
`timestamp` is the packet's time, or the present where that does not parse. -/
structure IncomingRun where
  msgId : String
  timestamp : String
  sentAt : String := ""
  transaction : TransactionRun := {}
  inserted : Bool := true
  userStored : Bool := true
  groupLoaded : Bool := true
  groupSaved : SaveGroupRun := {}
  sessionLoaded : Bool := true
  ownerLoaded : Bool := true
  sessionSaved : SaveRun := {}

structure ReceivedSignal where
  sessionId : String
  sender : String
  content : String
  isMine : Bool
  sessionType : SessionType
  senderNickname : String
  displayName : String
  incrementUnread : Bool

structure ReceiveMessageUseCase where
  db : LocalDatabase := {}
  selfUserId : String := ""
  activeSessionId : String := ""
  /-- `m_connected` of the network service. -/
  connected : Bool := false
  /-- The packets written to the socket. -/
  sent : List Packet := []
  received : List ReceivedSignal := []

namespace ReceiveMessageUseCase

def isMine (client : ReceiveMessageUseCase) (incoming : IncomingMessage) : Bool :=
  client.selfUserId ≠ "" ∧ incoming.sender = client.selfUserId

def messageOf (run : IncomingRun) (incoming : IncomingMessage) : Message :=
  ((⟨run.msgId, incoming.content, incoming.sender, incoming.sessionId, run.timestamp, .sending,
    ""⟩ : Message).markDelivered incoming.serverId).1

/-- The name of a group; an unknown group is saved without a creator, and
whether that succeeds is not looked at. -/
def resolveGroup (db : LocalDatabase) (run : IncomingRun) (incoming : IncomingMessage) :
    LocalDatabase × String :=
  let sessionId := incoming.sessionId
  let stored := db.loadGroup run.groupLoaded true sessionId
  let known := (stored.map fun group => trimmed (group.groupName.getD "")).getD ""
  let announced := if known = "" ∨ known = sessionId then trimmed incoming.groupName else known
  let resolved := if announced = "" ∨ announced = sessionId then sessionId else announced
  (if stored.isNone ∧ sessionId ≠ "" then
      (db.saveGroup 1 run.groupSaved ⟨sessionId, some resolved, none, [], false⟩).1
    else db, resolved)

def resolveDisplay (db : LocalDatabase) (run : IncomingRun) (incoming : IncomingMessage) :
    LocalDatabase × String :=
  let named :=
    if trimmed incoming.senderNickname ≠ "" then
      (db.upsertUser run.userStored incoming.sender incoming.senderNickname).1
    else db
  if incoming.isGroup then resolveGroup named run incoming
  else
    (named, if incoming.senderNickname = "" then incoming.sender else incoming.senderNickname)

/-- The session after the message: the stored one, or a new one. -/
def sessionAfter (client : ReceiveMessageUseCase) (db : LocalDatabase) (run : IncomingRun)
    (incoming : IncomingMessage) (displayName : String) : Session :=
  let peerUserId :=
    if ¬ incoming.isGroup ∧ incoming.sender ≠ client.selfUserId then incoming.sender else ""
  let session :=
    match db.loadSession run.sessionLoaded run.ownerLoaded incoming.sessionId with
    | some session => session.updateMetadata displayName peerUserId
    | none => ⟨incoming.sessionId, if incoming.isGroup then .groupChat else .privateChat,
        client.selfUserId, displayName, peerUserId, 0⟩
  let counted := session.processIncomingMessage incoming.sender
  if incoming.sessionId = client.activeSessionId then counted.markRead else counted

/-- The callback of the transaction: the display name and whether the message
counts as unread. -/
def store (client : ReceiveMessageUseCase) (run : IncomingRun) (incoming : IncomingMessage)
    (db : LocalDatabase) : LocalDatabase × Option (String × Bool) :=
  match db.insertMessage run.inserted (messageOf run incoming) with
  | (_, false) => (db, none)
  | (inserted, true) =>
      let (resolved, displayName) := resolveDisplay inserted run incoming
      let session := client.sessionAfter resolved run incoming displayName
      let incrementUnread := 0 < session.unreadCount ∧ ¬ client.isMine incoming
      match resolved.saveSession 1 run.sessionSaved session with
      | (saved, false) => (saved, none)
      | (saved, true) => (saved, some (displayName, incrementUnread))

def onIncomingMessage (client : ReceiveMessageUseCase) (run : IncomingRun)
    (arrived : IncomingMessage) : ReceiveMessageUseCase :=
  let incoming := arrived.effective
  if incoming.sessionId = "" ∨ incoming.sender = "" ∨ incoming.content = "" then client
  else if client.isMine incoming ∧ ¬ incoming.isGroup then client
  else
    match client.db.runInTransaction 0 run.transaction (client.store run incoming) with
    | (db, none) => { client with db := db }
    | (db, some (displayName, incrementUnread)) =>
        { client with
          db := db
          received := client.received ++ [⟨incoming.sessionId, incoming.sender, incoming.content,
            client.isMine incoming, if incoming.isGroup then .groupChat else .privateChat,
            incoming.senderNickname, displayName, incrementUnread⟩] }

/-- The message of a packet as `textReceived` carries it. -/
def incomingOf (packet : Packet) : IncomingMessage :=
  IncomingMessage.effective {
    sessionId := jsonText (packet.payload.value "sessionId")
    sender := jsonText (packet.payload.value "senderUserId")
    content := jsonText (packet.payload.value "content")
    sessionType := (jsonString (packet.payload.value "sessionType")).getD "private"
    senderNickname := jsonText (packet.payload.value "senderNickname")
    groupName := jsonText (packet.payload.value "groupName")
    serverId := packet.msgId }

def receivedAck (packet : Packet) (sentAt : String) : Packet :=
  { cmd := .messageReceivedAck, msgId := packet.msgId, timestampUtc := sentAt, code := 200 }

def handleReceiveMessage (client : ReceiveMessageUseCase) (run : IncomingRun) (packet : Packet) :
    ReceiveMessageUseCase :=
  let incoming := incomingOf packet
  let handled :=
    if incoming.sessionId ≠ "" ∧ incoming.sender ≠ "" ∧ incoming.content ≠ "" then
      client.onIncomingMessage run incoming
    else client
  if handled.connected ∧ packet.msgId ≠ "" then
    { handled with sent := handled.sent ++ [receivedAck packet run.sentAt] }
  else handled

/-- `handleIncomingPacket` as far as it concerns received messages. -/
def handleIncomingPacket {Text : Type} [JsonDocument Text] (client : ReceiveMessageUseCase)
    (run : IncomingRun) (rawData : Text) : ReceiveMessageUseCase :=
  match decode rawData with
  | .error _ => client
  | .ok packet =>
      if packet.cmd = .receiveMessage then client.handleReceiveMessage run packet else client

/-! ## What a reception changes -/

theorem onIncomingMessage_sent (client : ReceiveMessageUseCase) (run : IncomingRun)
    (arrived : IncomingMessage) :
    (client.onIncomingMessage run arrived).sent = client.sent ∧
      (client.onIncomingMessage run arrived).connected = client.connected := by
  unfold onIncomingMessage
  simp only
  split
  · exact ⟨rfl, rfl⟩
  split
  · exact ⟨rfl, rfl⟩
  split
  · exact ⟨rfl, rfl⟩
  · exact ⟨rfl, rfl⟩

theorem onIncomingMessage_db (client : ReceiveMessageUseCase) (run : IncomingRun)
    (arrived : IncomingMessage)
    (complete : ¬ (arrived.effective.sessionId = "" ∨ arrived.sender = "" ∨ arrived.content = ""))
    (foreign : ¬ (client.isMine arrived.effective = true ∧ ¬ arrived.effective.isGroup = true)) :
    (client.onIncomingMessage run arrived).db =
      (client.db.runInTransaction 0 run.transaction (client.store run arrived.effective)).1 := by
  refine (congrArg db ((if_neg complete).trans (if_neg foreign))).trans ?_
  split
  · rename_i ran
    rw [ran]
  · rename_i ran
    rw [ran]

/-- Either the message is not looked at, or its transaction runs. -/
theorem onIncomingMessage_db_cases (client : ReceiveMessageUseCase) (run : IncomingRun)
    (arrived : IncomingMessage) :
    (client.onIncomingMessage run arrived).db = client.db ∨
      (client.onIncomingMessage run arrived).db =
        (client.db.runInTransaction 0 run.transaction (client.store run arrived.effective)).1 := by
  by_cases incomplete :
      arrived.effective.sessionId = "" ∨ arrived.sender = "" ∨ arrived.content = ""
  · exact Or.inl (congrArg db (if_pos incomplete))
  · by_cases own : client.isMine arrived.effective = true ∧ ¬ arrived.effective.isGroup = true
    · exact Or.inl (congrArg db ((if_neg incomplete).trans (if_pos own)))
    · exact Or.inr (client.onIncomingMessage_db run arrived incomplete own)

theorem frame_resolveGroup {Field : Type} (field : LocalTables → Field)
    (kept : ∀ tables groups groupMembers,
      field { tables with groups := groups, groupMembers := groupMembers } = field tables)
    (db : LocalDatabase) (run : IncomingRun) (incoming : IncomingMessage) :
    field (resolveGroup db run incoming).1.view = field db.view := by
  unfold resolveGroup
  simp only
  split
  · exact LocalDatabase.frame_saveGroup field kept _ _ _ _
  · rfl

theorem frame_resolveDisplay {Field : Type} (field : LocalTables → Field)
    (kept : ∀ tables users groups groupMembers,
      field { tables with users := users, groups := groups, groupMembers := groupMembers } =
        field tables)
    (db : LocalDatabase) (run : IncomingRun) (incoming : IncomingMessage) :
    field (resolveDisplay db run incoming).1.view = field db.view := by
  have namedKept : field (if trimmed incoming.senderNickname ≠ "" then
      (db.upsertUser run.userStored incoming.sender incoming.senderNickname).1 else db).view =
      field db.view := by
    split
    · exact LocalDatabase.frame_upsertUser field
        (fun tables users => kept tables users tables.groups tables.groupMembers) _ _ _ _
    · rfl
  unfold resolveDisplay
  simp only
  split
  · exact (frame_resolveGroup field
      (fun tables groups groupMembers => kept tables tables.users groups groupMembers)
      _ run incoming).trans namedKept
  · exact namedKept

theorem msgId_messageOf (run : IncomingRun) (incoming : IncomingMessage) :
    (messageOf run incoming).msgId = run.msgId := rfl

theorem sessionId_sessionAfter (client : ReceiveMessageUseCase) (db : LocalDatabase)
    (run : IncomingRun) (incoming : IncomingMessage) (displayName : String) :
    (client.sessionAfter db run incoming displayName).sessionId = incoming.sessionId := by
  unfold sessionAfter
  cases loaded : db.loadSession run.sessionLoaded run.ownerLoaded incoming.sessionId with
  | none => simp only [apply_ite Session.sessionId, Session.markRead_sessionId,
      Session.processIncomingMessage_sessionId, ite_self]
  | some session =>
      simp only [apply_ite Session.sessionId, Session.markRead_sessionId,
        Session.processIncomingMessage_sessionId, Session.updateMetadata_sessionId, ite_self]
      exact (LocalDatabase.loadSession_eq_some loaded).1

theorem unreadCount_sessionAfter (client : ReceiveMessageUseCase) (db : LocalDatabase)
    (run : IncomingRun) (incoming : IncomingMessage) (displayName : String) :
    (client.sessionAfter db run incoming displayName).unreadCount ≤
      db.unreadOf incoming.sessionId + 1 := by
  have nonneg : 0 ≤ db.unreadOf incoming.sessionId := Int.le_max_left _ _
  have processed : ∀ session : Session, session.unreadCount ≤ db.unreadOf incoming.sessionId →
      (if incoming.sessionId = client.activeSessionId then
        (session.processIncomingMessage incoming.sender).markRead
      else session.processIncomingMessage incoming.sender).unreadCount ≤
        db.unreadOf incoming.sessionId + 1 := by
    intro session below
    have counted := session.processIncomingMessage_unreadCount_le incoming.sender
    split
    · rw [Session.markRead_unreadCount]
      omega
    · omega
  unfold sessionAfter
  apply processed
  cases loaded : db.loadSession run.sessionLoaded run.ownerLoaded incoming.sessionId with
  | none => exact nonneg
  | some session => exact le_of_eq (LocalDatabase.loadSession_eq_some loaded).2

/-- A message that is reported was stored, in a transaction that committed. -/
theorem onIncomingMessage_emitted {client : ReceiveMessageUseCase} {run : IncomingRun}
    {arrived : IncomingMessage}
    (emitted : (client.onIncomingMessage run arrived).received ≠ client.received) :
    arrived.effective.sessionId ≠ "" ∧
      ∃ started after displayName incrementUnread, started.view = client.db.view ∧
        client.store run arrived.effective started =
          (after, some (displayName, incrementUnread)) ∧
        (client.onIncomingMessage run arrived).db = { committed := after.view } := by
  by_cases incomplete :
      arrived.effective.sessionId = "" ∨ arrived.sender = "" ∨ arrived.content = ""
  · exact absurd (congrArg received (if_pos incomplete)) emitted
  by_cases own : client.isMine arrived.effective = true ∧ ¬ arrived.effective.isGroup = true
  · exact absurd (congrArg received ((if_neg incomplete).trans (if_pos own))) emitted
  have named : arrived.effective.sessionId ≠ "" := fun unnamed => incomplete (Or.inl unnamed)
  have handled := client.onIncomingMessage_db run arrived incomplete own
  -- Where the transaction fails nothing is reported.
  have committed : (client.db.runInTransaction 0 run.transaction
      (client.store run arrived.effective)).2 ≠ none := by
    intro failed
    apply emitted
    refine (congrArg received ((if_neg incomplete).trans (if_neg own))).trans ?_
    split
    · rfl
    · rename_i ran
      rw [ran] at failed
      cases failed
  refine ⟨named, ?_⟩
  rcases client.db.runInTransaction_view run.transaction
      (client.store run arrived.effective) with
    same | ⟨started, after, value, sameView, stored, isCommitted | leftOpen⟩
  · rw [same] at committed
    exact absurd rfl committed
  · rw [isCommitted] at handled
    exact ⟨started, after, value.1, value.2, sameView, stored, handled⟩
  · rw [leftOpen] at committed
    exact absurd rfl committed

/-- What ran where the callback asks for a commit: the message is inserted, its
names are resolved over the same sessions, and its session is saved. -/
theorem store_cases {client : ReceiveMessageUseCase} {run : IncomingRun}
    {incoming : IncomingMessage} {db after : LocalDatabase} {displayName : String}
    {incrementUnread : Bool}
    (done : client.store run incoming db = (after, some (displayName, incrementUnread))) :
    ∃ (messages : LocalMessageTable) (resolved : LocalDatabase),
      db.view.messages.insert? (messageOf run incoming).toRow = some messages ∧
      resolved.view.messages = messages ∧ resolved.view.sessions = db.view.sessions ∧
      resolved.view.authUserId = db.view.authUserId ∧
      resolved.saveSession 1 run.sessionSaved
        (client.sessionAfter resolved run incoming displayName) = (after, true) ∧
      (incrementUnread = true ↔
        0 < (client.sessionAfter resolved run incoming displayName).unreadCount ∧
          ¬ client.isMine incoming = true) := by
  unfold store at done
  cases insertion : db.insertMessage run.inserted (messageOf run incoming) with
  | mk inserted ok =>
      cases ok with
      | false =>
          rw [insertion] at done
          cases done
      | true =>
          rw [insertion] at done
          simp only at done
          obtain ⟨messages, insertedRow, rfl⟩ := LocalDatabase.insertMessage_eq_true insertion
          have kept : ∀ {Field : Type} (field : LocalTables → Field),
              (∀ tables users groups groupMembers, field { tables with
                users := users, groups := groups, groupMembers := groupMembers } = field tables) →
              field (resolveDisplay (db.write { db.view with messages := messages }) run
                incoming).1.view = field { db.view with messages := messages } := by
            intro Field field frame
            rw [frame_resolveDisplay field frame, LocalDatabase.view_write]
          have sameMessages := kept LocalTables.messages fun _ _ _ _ => rfl
          have sameSessions := kept LocalTables.sessions fun _ _ _ _ => rfl
          have sameUser := kept LocalTables.authUserId fun _ _ _ _ => rfl
          generalize resolveDisplay (db.write { db.view with messages := messages }) run
            incoming = resolved at done sameMessages sameSessions sameUser
          cases saving : resolved.1.saveSession 1 run.sessionSaved
              (client.sessionAfter resolved.1 run incoming resolved.2) with
          | mk saved savedOk =>
              rw [saving] at done
              cases savedOk with
              | false => cases done
              | true =>
                  cases done
                  exact ⟨messages, resolved.1, insertedRow, sameMessages, sameSessions, sameUser,
                    saving, by simp⟩

/-- The transaction adds the message's row, and the unread count of its session
rises by at most one. -/
theorem store_eq_some {client : ReceiveMessageUseCase} {run : IncomingRun}
    {incoming : IncomingMessage} {db after : LocalDatabase} {result : String × Bool}
    (done : client.store run incoming db = (after, some result)) :
    db.view.messages.insert? (messageOf run incoming).toRow = some after.view.messages ∧
      (∀ other, other ≠ incoming.sessionId → after.unreadOf other = db.unreadOf other) ∧
      after.unreadOf incoming.sessionId ≤ db.unreadOf incoming.sessionId + 1 := by
  obtain ⟨displayName, incrementUnread⟩ := result
  obtain ⟨messages, resolved, insertedRow, sameMessages, sameSessions, _, saving, _⟩ :=
    store_cases done
  have ownSession := client.sessionId_sessionAfter resolved run incoming displayName
  have ownCount := client.unreadCount_sessionAfter resolved run incoming displayName
  have sameUnread : ∀ other, resolved.unreadOf other = db.unreadOf other := by
    intro other
    rw [LocalDatabase.unreadOf, LocalDatabase.unreadOf, sameSessions]
  have afterMessages : after.view.messages = messages := by
    have kept := LocalDatabase.frame_saveSession LocalTables.messages (fun _ _ => rfl) resolved 1
      run.sessionSaved (client.sessionAfter resolved run incoming displayName)
    rw [saving] at kept
    exact kept.trans sameMessages
  have nonneg : 0 ≤ db.unreadOf incoming.sessionId := Int.le_max_left _ _
  rw [sameUnread] at ownCount
  refine ⟨afterMessages ▸ insertedRow, ?_, ?_⟩
  · intro other differs
    rw [LocalDatabase.unreadOf_saveSession saving, ownSession, if_neg differs, sameUnread]
  · rw [LocalDatabase.unreadOf_saveSession saving, ownSession, if_pos rfl]
    omega

theorem store_isSome (client : ReceiveMessageUseCase) (run : IncomingRun)
    (incoming : IncomingMessage) (db : LocalDatabase) (named : incoming.sessionId ≠ "") :
    (client.store run incoming db).2.isSome = true ↔
      run.inserted = true ∧ db.view.messages.find? run.msgId = none ∧
        run.sessionSaved.transaction.isOpen = true ∧ run.sessionSaved.executed = true := by
  have inserts := db.insertMessage_snd run.inserted (messageOf run incoming)
  rw [msgId_messageOf] at inserts
  unfold store
  cases insertion : db.insertMessage run.inserted (messageOf run incoming) with
  | mk inserted ok =>
      rw [insertion] at inserts
      cases ok with
      | false =>
          simp only [Option.isSome_none, Bool.false_eq_true, false_iff]
          intro all
          exact absurd (inserts.mpr ⟨all.1, all.2.1⟩) (by simp)
      | true =>
          obtain ⟨insertedOk, fresh⟩ := inserts.mp rfl
          simp only
          generalize resolveDisplay inserted run incoming = resolved
          have saves := resolved.1.saveSession_nested 0 run.sessionSaved
            (client.sessionAfter resolved.1 run incoming resolved.2)
            (by rw [sessionId_sessionAfter]; exact named)
          cases saving : resolved.1.saveSession 1 run.sessionSaved
              (client.sessionAfter resolved.1 run incoming resolved.2) with
          | mk saved savedOk =>
              rw [saving] at saves
              cases savedOk with
              | false =>
                  simp only [Option.isSome_none, Bool.false_eq_true, false_iff]
                  rintro ⟨_, _, isOpen, executed⟩
                  rw [isOpen, executed] at saves
                  cases saves
              | true =>
                  have both := saves.symm
                  rw [Bool.and_eq_true] at both
                  simp [insertedOk, fresh, both]

theorem handleReceiveMessage_db_cases (client : ReceiveMessageUseCase) (run : IncomingRun)
    (packet : Packet) :
    (client.handleReceiveMessage run packet).db = client.db ∨
      (client.handleReceiveMessage run packet).db =
        (client.db.runInTransaction 0 run.transaction
          (client.store run (incomingOf packet))).1 := by
  have handled := client.onIncomingMessage_db_cases run (incomingOf packet)
  rw [show (incomingOf packet).effective = incomingOf packet from
    IncomingMessage.effective_effective _] at handled
  have looked : (if (incomingOf packet).sessionId ≠ "" ∧ (incomingOf packet).sender ≠ "" ∧
        (incomingOf packet).content ≠ "" then client.onIncomingMessage run (incomingOf packet)
      else client).db = client.db ∨
      (if (incomingOf packet).sessionId ≠ "" ∧ (incomingOf packet).sender ≠ "" ∧
        (incomingOf packet).content ≠ "" then client.onIncomingMessage run (incomingOf packet)
      else client).db = (client.db.runInTransaction 0 run.transaction
        (client.store run (incomingOf packet))).1 := by
    split
    · exact handled
    · exact Or.inl rfl
  unfold handleReceiveMessage
  simp only
  generalize (if (incomingOf packet).sessionId ≠ "" ∧ (incomingOf packet).sender ≠ "" ∧
    (incomingOf packet).content ≠ "" then client.onIncomingMessage run (incomingOf packet)
    else client) = after at looked ⊢
  split
  · exact looked
  · exact looked

/-- A delivered packet changes the unread count of its own session only, and
raises it by at most one. -/
theorem unreadOf_handleReceiveMessage (client : ReceiveMessageUseCase) (run : IncomingRun)
    (packet : Packet) :
    (∀ other, other ≠ (incomingOf packet).sessionId →
      (client.handleReceiveMessage run packet).db.unreadOf other = client.db.unreadOf other) ∧
    (client.handleReceiveMessage run packet).db.unreadOf (incomingOf packet).sessionId ≤
      client.db.unreadOf (incomingOf packet).sessionId + 1 := by
  have unchanged : ∀ db : LocalDatabase, db = client.db →
      (∀ other, other ≠ (incomingOf packet).sessionId → db.unreadOf other =
        client.db.unreadOf other) ∧
      db.unreadOf (incomingOf packet).sessionId ≤
        client.db.unreadOf (incomingOf packet).sessionId + 1 := by
    rintro db rfl
    exact ⟨fun _ _ => rfl, Int.le_add_one (Int.le_refl _)⟩
  rcases client.handleReceiveMessage_db_cases run packet with same | ran
  · exact unchanged _ same
  · rw [ran]
    rcases client.db.runInTransaction_view run.transaction
        (client.store run (incomingOf packet)) with
      same | ⟨started, after, value, sameView, stored, result⟩
    · rw [same]
      exact unchanged _ rfl
    · have effect := (store_eq_some stored).2
      have sameUnread : ∀ other, started.unreadOf other = client.db.unreadOf other := by
        intro other
        rw [LocalDatabase.unreadOf, LocalDatabase.unreadOf, sameView]
      simp only [sameUnread] at effect
      rcases result with committed | leftOpen
      · rw [committed]
        exact effect
      · rw [leftOpen]
        exact effect

end ReceiveMessageUseCase
end ShirohaChat
