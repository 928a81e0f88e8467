import ShirohaChat.Client.ReceiveMessage
import ShirohaChat.Client.SendRuns

/-!
# Received messages over runs of the client

What one `receive_message` packet does to the local tables and to the socket,
and how often one server id can be stored over whole runs of the client.
-/

set_option autoImplicit false

namespace ShirohaChat

open Transition ReceiveMessageUseCase

/-! ## The acknowledgement of one packet -/

/-- Every step between `BEGIN` and `COMMIT` that the transaction depends on
succeeds, and so do these two. -/
structure StoreSucceeds (client : ReceiveMessageUseCase) (run : IncomingRun) : Prop where
  isOpen : run.transaction.isOpen = true
  begun : run.transaction.begun = true
  idle : client.db.transaction = none
  inserted : run.inserted = true
  fresh : client.db.committed.messages.find? run.msgId = none
  sessionOpen : run.sessionSaved.transaction.isOpen = true
  sessionSaved : run.sessionSaved.executed = true
  committed : run.transaction.commit = .committed

/-- The transaction either commits the message's row or leaves the committed
tables as they were. -/
theorem committed_runInTransaction_store (client : ReceiveMessageUseCase) (run : IncomingRun)
    (incoming : IncomingMessage) (named : incoming.sessionId ≠ "") :
    StoreSucceeds client run ∧
        (client.db.runInTransaction 0 run.transaction
          (client.store run incoming)).1.committed.messages.find? run.msgId =
          some (messageOf run incoming).toRow ∨
      ¬ StoreSucceeds client run ∧
        (client.db.runInTransaction 0 run.transaction
          (client.store run incoming)).1.committed = client.db.committed := by
  by_cases started : run.transaction.isOpen = true ∧ run.transaction.begun = true ∧
      client.db.transaction = none
  · obtain ⟨isOpen, begun, idle⟩ := started
    have stores := client.store_isSome run incoming
      { client.db with transaction := some client.db.committed } named
    unfold LocalDatabase.runInTransaction
    rw [if_neg (by simp [isOpen]), if_neg (by simp), if_neg (by simp [begun, idle])]
    cases ran : client.store run incoming
        { client.db with transaction := some client.db.committed } with
    | mk after result =>
        rw [ran] at stores
        cases result with
        | none =>
            refine Or.inr ⟨?_, rfl⟩
            intro succeeds
            have done := stores.mpr ⟨succeeds.inserted, succeeds.fresh, succeeds.sessionOpen,
              succeeds.sessionSaved⟩
            cases done
        | some value =>
            obtain ⟨inserted, fresh, sessionOpen, sessionSaved⟩ := stores.mp rfl
            have row := RowTable.find?_insert? (store_eq_some ran).1 run.msgId
            rw [if_pos (show run.msgId = (messageOf run incoming).toRow.msgId from rfl)] at row
            cases outcome : run.transaction.commit with
            | committed =>
                exact Or.inl ⟨⟨isOpen, begun, idle, inserted, fresh, sessionOpen, sessionSaved,
                  outcome⟩, row⟩
            | undone =>
                refine Or.inr ⟨?_, rfl⟩
                intro succeeds
                cases outcome.symm.trans succeeds.committed
            | leftOpen =>
                refine Or.inr ⟨?_, rfl⟩
                intro succeeds
                cases outcome.symm.trans succeeds.committed
  · refine Or.inr ⟨fun succeeds => started ⟨succeeds.isOpen, succeeds.begun, succeeds.idle⟩, ?_⟩
    unfold LocalDatabase.runInTransaction
    by_cases isOpen : run.transaction.isOpen = true
    · have notBegun : ¬ (run.transaction.begun = true ∧ client.db.transaction.isNone = true) :=
        fun both => started ⟨isOpen, both.1, Option.isNone_iff_eq_none.mp both.2⟩
      rw [if_neg (by simp [isOpen]), if_neg (by simp), if_pos notBegun]
    · rw [if_pos isOpen]

section Packet
variable {Text : Type} [JsonDocument Text]

/-- A received message is acknowledged exactly when the client is connected and
the packet has an id, whatever became of the message: it is committed when all
steps of its transaction succeed, and otherwise nothing is. -/
theorem receivedAck_sent_iff_connected (client : ReceiveMessageUseCase) (run : IncomingRun)
    (rawData : Text) (packet : Packet) (decoded : decode rawData = .ok packet)
    (command : packet.cmd = .receiveMessage) (sender : (incomingOf packet).sender ≠ "")
    (content : (incomingOf packet).content ≠ "")
    (notMine : client.isMine (incomingOf packet) = false) :
    ((client.handleIncomingPacket run rawData).sent = client.sent ++
      if client.connected = true ∧ packet.msgId ≠ "" then [receivedAck packet run.sentAt]
      else []) ∧
    (StoreSucceeds client run ∧
        (client.handleIncomingPacket run rawData).db.committed.messages.find? run.msgId =
          some (messageOf run (incomingOf packet)).toRow ∨
      ¬ StoreSucceeds client run ∧
        (client.handleIncomingPacket run rawData).db.committed = client.db.committed) := by
  have named : (incomingOf packet).sessionId ≠ "" :=
    IncomingMessage.effective_sessionId_ne _ sender
  have sameMessage : (incomingOf packet).effective = incomingOf packet :=
    IncomingMessage.effective_effective _
  have handled : client.handleIncomingPacket run rawData =
      client.handleReceiveMessage run packet := by
    unfold handleIncomingPacket
    rw [decoded]
    exact if_pos command
  have kept := client.onIncomingMessage_sent run (incomingOf packet)
  have stored := client.onIncomingMessage_db run (incomingOf packet)
    (by rw [sameMessage]; simp [named, sender, content])
    (by rw [sameMessage]; simp [notMine])
  rw [sameMessage] at stored
  rw [handled]
  unfold handleReceiveMessage
  simp only [if_pos (And.intro named (And.intro sender content)), kept.2]
  constructor
  · split
    · rw [kept.1]
    · rw [kept.1, List.append_nil]
  · have outcome := committed_runInTransaction_store client run (incomingOf packet) named
    rw [← stored] at outcome
    split
    · exact outcome
    · exact outcome

end Packet

def aliceOnline : ReceiveMessageUseCase := { selfUserId := "alice", connected := true }

def bobsPacket : Packet :=
  { cmd := .receiveMessage
    msgId := "srv_1"
    payload := [("senderUserId", .string "bob"), ("sessionId", .string "s1"),
      ("content", .string "hi")] }

theorem receivedAck_sent_iff_connected_alice :
    (aliceOnline.handleIncomingPacket ⟨"m1", "2026-01-01T00:00:00Z", "", {}, true, true, true, {},
        true, true, {}⟩ (bobsPacket.encode : ParsedText)).db.committed.messages.find? "m1" =
      some ⟨"m1", "s1", "bob", "hi", .delivered, "2026-01-01T00:00:00Z", some "srv_1"⟩ := by
  have outcome := (receivedAck_sent_iff_connected aliceOnline
    ⟨"m1", "2026-01-01T00:00:00Z", "", {}, true, true, true, {}, true, true, {}⟩
    (bobsPacket.encode : ParsedText) bobsPacket (decode_encode bobsPacket) rfl (by decide)
    (by decide) (by decide)).2
  rcases outcome with ⟨_, stored⟩ | ⟨fails, _⟩
  · exact stored
  · exact absurd ⟨rfl, rfl, rfl, rfl, rfl, rfl, rfl, rfl⟩ fails

/-- The insertion fails, and the packet is acknowledged all the same. -/
theorem receivedAck_sent_uncommitted :
    ¬ ∀ (client : ReceiveMessageUseCase) (run : IncomingRun) (rawData : ParsedText)
        (packet : Packet), decode rawData = .ok packet → packet.cmd = .receiveMessage →
      (incomingOf packet).sender ≠ "" → (incomingOf packet).content ≠ "" →
      client.isMine (incomingOf packet) = false →
      (client.handleIncomingPacket run rawData).sent =
        client.sent ++ [receivedAck packet run.sentAt] →
      ∃ row ∈ (client.handleIncomingPacket run rawData).db.committed.messages.rows,
        row.serverId = some packet.msgId := by
  intro always
  obtain ⟨row, rowIn, _⟩ := always aliceOnline
    ⟨"m1", "2026-01-01T00:00:00Z", "", {}, false, true, true, {}, true, true, {}⟩
    (bobsPacket.encode : ParsedText) bobsPacket (decode_encode bobsPacket) rfl (by decide)
    (by decide) (by decide) rfl
  cases rowIn

/-! ## Rows with one server id -/

def LocalTables.serverRows (tables : LocalTables) (serverId : String) : Nat :=
  tables.messages.count fun row => row.serverId = some serverId

structure ServerRowsLe (serverId : String) (bound : Nat) (db : LocalDatabase) : Prop where
  committed : db.committed.serverRows serverId ≤ bound
  view : db.view.serverRows serverId ≤ bound

namespace ServerRowsLe

variable {serverId : String} {bound : Nat} {db : LocalDatabase}

theorem mono (le : ServerRowsLe serverId bound db) {wider : Nat} (widened : bound ≤ wider) :
    ServerRowsLe serverId wider db :=
  ⟨le.committed.trans widened, le.view.trans widened⟩

theorem write (le : ServerRowsLe serverId bound db) (tables : LocalTables)
    (written : tables.serverRows serverId ≤ bound) :
    ServerRowsLe serverId bound (db.write tables) := by
  refine ⟨?_, by rw [LocalDatabase.view_write]; exact written⟩
  unfold LocalDatabase.write
  cases db.transaction with
  | none => exact written
  | some _ => exact le.committed

theorem runInTransaction {Value : Type} (le : ServerRowsLe serverId bound db)
    (run : TransactionRun) (callback : LocalDatabase → LocalDatabase × Option Value)
    (stored : ∀ started after value, started.view = db.view →
      callback started = (after, some value) → after.view.serverRows serverId ≤ bound) :
    ServerRowsLe serverId bound (db.runInTransaction 0 run callback).1 := by
  rcases db.runInTransaction_view run callback with
    same | ⟨started, after, value, sameView, ran, result⟩
  · rw [same]
    exact le
  · have written := stored started after value sameView ran
    rcases result with committed | leftOpen
    · rw [committed]
      exact ⟨written, written⟩
    · rw [leftOpen]
      exact ⟨le.committed, written⟩

/-- Only an update that names the server id can add a row to it, and one at most. -/
theorem updateMessageStatus (le : ServerRowsLe serverId bound db) (ok : Bool) (msgId : String)
    (status : MessageStatus) (named : String) :
    ServerRowsLe serverId (bound + if named ≠ "" ∧ named = serverId then 1 else 0)
      (db.updateMessageStatus ok msgId status named).1 := by
  have widened := le.mono (Nat.le_add_right bound (if named ≠ "" ∧ named = serverId then 1 else 0))
  cases ok with
  | false => exact widened
  | true =>
  apply widened.write
  unfold LocalTables.serverRows
  by_cases same : named ≠ "" ∧ named = serverId
  · rw [if_pos same]
    exact (RowTable.count_updateWhere_key_le db.view.messages msgId _
      (fun row => row.withStatus status named) fun _ => rfl).trans (Nat.add_le_add_right le.view 1)
  · refine (RowTable.count_updateWhere_le db.view.messages _ _
      (fun row => row.withStatus status named) fun _ => rfl).trans ?_
    refine (RowTable.count_mono _ ?_).trans widened.view
    intro row either
    rcases Bool.or_eq_true_iff.mp either with before | after
    · exact before
    · have changed := of_decide_eq_true (Bool.and_eq_true_iff.mp after).2
      unfold LocalMessageRow.withStatus at changed
      simp only at changed
      split at changed
      · exact decide_eq_true changed
      · rename_i isNamed
        exact absurd ⟨isNamed, Option.some.inj changed⟩ same

theorem upsertPendingAck (le : ServerRowsLe serverId bound db) (ok : Bool) (msgId : String) :
    ServerRowsLe serverId bound (db.upsertPendingAck ok msgId).1 := by
  unfold LocalDatabase.upsertPendingAck
  split
  · exact le.write _ le.view
  · exact le

theorem removePendingAck (le : ServerRowsLe serverId bound db) (ok : Bool) (msgId : String) :
    ServerRowsLe serverId bound (db.removePendingAck ok msgId).1 := by
  unfold LocalDatabase.removePendingAck
  split
  · exact le.write _ le.view
  · exact le

/-! ### The sending use case -/

section Sending
variable {client : SendMessageUseCase}

theorem setStatus (le : ServerRowsLe serverId bound client.db)
    (updated : Bool) (msgId : String) (status : MessageStatus) :
    ServerRowsLe serverId bound (client.setStatus updated msgId status).db := by
  have updatedLe := le.updateMessageStatus updated msgId status ""
  rw [if_neg (by simp)] at updatedLe
  exact updatedLe

theorem failMessage (le : ServerRowsLe serverId bound client.db)
    (run : StatusRun) (msgId : String) (remove : Bool) :
    ServerRowsLe serverId bound (client.failMessage run msgId remove).db := by
  have failed : ServerRowsLe serverId bound
      ((client.stopAckTimer msgId).setStatus run.updated msgId .failed).db :=
    setStatus le run.updated msgId .failed
  unfold SendMessageUseCase.failMessage
  cases remove with
  | true => exact failed.removePendingAck run.ackChanged msgId
  | false => exact failed

theorem dispatch (le : ServerRowsLe serverId bound client.db)
    (route : RouteRun) (failed : StatusRun) (message : Message) (reports : Bool) :
    ServerRowsLe serverId bound (client.dispatch route failed message reports).db := by
  rcases client.dispatch_cases route failed message reports with ⟨error, gaveUp⟩ | ⟨_, _, sent⟩
  · have failing := le.failMessage failed message.msgId true
    rw [gaveUp, SendMessageUseCase.giveUp]
    cases reports with
    | true => exact failing
    | false => exact failing
  · rw [sent]
    exact le

theorem persist (le : ServerRowsLe serverId bound db) (run : SendRun) (message : Message)
    (unsent : message.serverId = "") :
    ServerRowsLe serverId bound (SendMessageUseCase.persist db run message).1 := by
  apply le.runInTransaction
  intro started after value sameView ran
  cases insertion : started.insertMessage run.inserted message with
  | mk stored ok =>
      rw [insertion] at ran
      cases ok with
      | false => cases ran
      | true =>
          cases ran
          obtain ⟨messages, inserted, rfl⟩ := LocalDatabase.insertMessage_eq_true insertion
          have rows := (RowTable.insert?_eq_some inserted).2
          rw [sameView] at rows
          have unnamed : message.toRow.serverId = none := if_pos unsent
          unfold LocalTables.serverRows
          rw [LocalDatabase.messages_upsertPendingAck, LocalDatabase.view_write,
            RowTable.count_append rows, List.filter_cons_of_neg (by simp [unnamed])]
          exact le.view

theorem sendMessage (le : ServerRowsLe serverId bound client.db)
    (run : SendRun) (sessionId content fresh timestamp : String) :
    ServerRowsLe serverId bound (client.sendMessage run sessionId content fresh timestamp).db := by
  unfold SendMessageUseCase.sendMessage
  simp only
  generalize (if client.db.loadAuthUserId run.route.authLoaded = "" then "me"
    else client.db.loadAuthUserId run.route.authLoaded) = sender
  have stored := le.persist run
    ⟨fresh, trimmed content, sender, sessionId, timestamp, .sending, ""⟩ rfl
  split
  · exact le
  split
  · exact le
  split
  · exact stored
  split
  · exact stored
  split
  · apply failMessage
    exact stored
  · exact stored

theorem resendMessage (le : ServerRowsLe serverId bound client.db)
    (run : ResendRun) (sessionId msgId : String) :
    ServerRowsLe serverId bound (client.resendMessage run sessionId msgId).db := by
  unfold SendMessageUseCase.resendMessage
  split
  · exact le
  split
  · exact le
  split
  · exact le
  · apply dispatch _
    exact (le.setStatus run.restarted.updated msgId .sending).upsertPendingAck
      run.restarted.ackChanged msgId

theorem recoverPendingMessages (le : ServerRowsLe serverId bound client.db)
    (fetched : Bool) (run : String → RecoverRun) (sessionId : String) :
    ServerRowsLe serverId bound
      (client.recoverPendingMessages fetched run sessionId).db := by
  have loop : ∀ messages : List Message, ∀ client : SendMessageUseCase,
      ServerRowsLe serverId bound client.db → ServerRowsLe serverId bound (messages.foldl
        (fun client message => client.recoverOne (run message.msgId) message) client).db := by
    intro messages
    induction messages with
    | nil =>
        intro client le
        exact le
    | cons message rest ih =>
        intro client le
        have started : ServerRowsLe serverId bound (client.startAckTimer message.msgId).db := le
        exact ih _ (started.dispatch (run message.msgId).route (run message.msgId).failed
          message false)
  exact loop _ client le

theorem onAckReceived (le : ServerRowsLe serverId bound client.db) (run : StatusRun)
    (msgId named : String) :
    ServerRowsLe serverId (bound + if named ≠ "" ∧ named = serverId then 1 else 0)
      (client.onAckReceived run msgId named).db := by
  unfold SendMessageUseCase.onAckReceived
  cases client.timers.pendingMessages.lookup msgId with
  | none => exact le.mono (Nat.le_add_right _ _)
  | some _ =>
      exact (le.updateMessageStatus run.updated msgId .delivered named).removePendingAck
        run.ackChanged msgId

theorem onAckFailed (le : ServerRowsLe serverId bound client.db)
    (run : StatusRun) (msgId : String) (code : Int32) (reason : String) :
    ServerRowsLe serverId bound (client.onAckFailed run msgId code reason).db := by
  have failed : ServerRowsLe serverId bound
      ((client.stopAckTimer msgId).setStatus run.updated msgId .failed).db :=
    setStatus le run.updated msgId .failed
  unfold SendMessageUseCase.onAckFailed
  simp only
  split
  · exact failed.removePendingAck run.ackChanged msgId
  · exact failed

end Sending

end ServerRowsLe

/-! ## Runs of the client -/

/-- The client's use cases over their one database.  The last three fields are
ghosts: the ids of the delivered packets, the server ids named by
acknowledgements, and for each message counted as unread its server id. -/
structure ChatClient where
  db : LocalDatabase := {}
  timers : AckTimers := AckTimers.empty
  signals : List SendSignal := []
  selfUserId : String := ""
  activeSessionId : String := ""
  connected : Bool := false
  sent : List Packet := []
  received : List ReceivedSignal := []
  deliveries : List String := []
  acknowledged : List String := []
  counted : List String := []

namespace ChatClient

def sender (client : ChatClient) : SendMessageUseCase :=
  ⟨client.db, client.timers, client.signals⟩

def receiver (client : ChatClient) : ReceiveMessageUseCase :=
  ⟨client.db, client.selfUserId, client.activeSessionId, client.connected, client.sent,
    client.received⟩

end ChatClient

inductive ClientEvent where
  | received (run : IncomingRun) (packet : Packet)
  | sending (event : SendEvent)
  /-- Another use case changed the tables. -/
  | otherTables (tables : LocalTables)
  | activeSession (sessionId : String)
  | selfUser (userId : String)
  | connection (connected : Bool)
  /-- The program ends and starts again. -/
  | restarted

namespace ClientEvent

/-- The other use cases store no messages; removing a session deletes some. -/
def enabled (client : ChatClient) : ClientEvent → Prop
  | .sending event => event.enabled client.sender ∧ ∀ tables, event ≠ .elsewhere tables
  | .otherTables tables => tables.messages.rows.Sublist client.db.view.messages.rows
  | _ => True

def rise (before after : LocalDatabase) (packet : Packet) : Nat :=
  (after.unreadOf (incomingOf packet).sessionId -
    before.unreadOf (incomingOf packet).sessionId).toNat

def acknowledgedBy : SendEvent → List String
  | .ackReceived _ _ serverId => [serverId]
  | _ => []

def next (client : ChatClient) : ClientEvent → ChatClient
  | .received run packet =>
      let after := client.receiver.handleReceiveMessage run packet
      { client with
        db := after.db
        sent := after.sent
        received := after.received
        deliveries := client.deliveries ++ [packet.msgId]
        counted := client.counted ++
          List.replicate (rise client.db after.db packet) packet.msgId }
  | .sending event =>
      let after := event.next client.sender
      { client with
        db := after.db
        timers := after.timers
        signals := after.signals
        acknowledged := client.acknowledged ++ acknowledgedBy event }
  | .otherTables tables => { client with db := client.db.write tables }
  | .activeSession sessionId => { client with activeSessionId := sessionId }
  | .selfUser userId => { client with selfUserId := userId }
  | .connection connected => { client with connected := connected }
  | .restarted =>
      { db := { committed := client.db.committed }
        deliveries := client.deliveries
        acknowledged := client.acknowledged
        counted := client.counted }

end ClientEvent

def clientSystem (tables : LocalTables) : System ChatClient ClientEvent where
  initial := { db := { committed := tables } }
  enabled := ClientEvent.enabled
  next := ClientEvent.next

theorem ServerRowsLe.sending {serverId : String} {bound : Nat} {client : SendMessageUseCase}
    (le : ServerRowsLe serverId bound client.db) (event : SendEvent)
    (own : ∀ tables, event ≠ .elsewhere tables) :
    ServerRowsLe serverId (bound + (ClientEvent.acknowledgedBy event).count serverId)
      (event.next client).db := by
  cases event with
  | sendMessage run sessionId content fresh timestamp =>
      exact le.sendMessage run sessionId content fresh timestamp
  | resendMessage run sessionId msgId => exact le.resendMessage run sessionId msgId
  | recoverPendingMessages fetched run sessionId =>
      exact le.recoverPendingMessages fetched run sessionId
  | ackReceived run msgId named =>
      refine (le.onAckReceived run msgId named).mono (Nat.add_le_add_left ?_ bound)
      by_cases same : named = serverId
      · subst same
        simp only [ClientEvent.acknowledgedBy, List.count_singleton_self]
        split <;> omega
      · rw [if_neg fun both => same both.2]
        exact Nat.zero_le _
  | ackFailed run msgId code reason => exact le.onAckFailed run msgId code reason
  | timerExpired timer updated =>
      simp only [SendEvent.next]
      split
      · exact le
      · apply ServerRowsLe.setStatus
        exact le
  | elsewhere tables => exact absurd rfl (own tables)

theorem ServerRowsLe.handleReceiveMessage {serverId : String} {bound : Nat}
    {client : ReceiveMessageUseCase} (le : ServerRowsLe serverId bound client.db)
    (run : IncomingRun) (packet : Packet) :
    ServerRowsLe serverId (bound + [packet.msgId].count serverId)
      (client.handleReceiveMessage run packet).db := by
  have widened := le.mono (Nat.le_add_right bound ([packet.msgId].count serverId))
  rcases client.handleReceiveMessage_db_cases run packet with same | ran
  · rw [same]
    exact widened
  · rw [ran]
    apply widened.runInTransaction
    intro started after value sameView stored
    have rows := (RowTable.insert?_eq_some (store_eq_some stored).1).2
    rw [sameView] at rows
    have added : ([(messageOf run (incomingOf packet)).toRow].filter fun row =>
        row.serverId = some serverId).length ≤ [packet.msgId].count serverId := by
      have named : (messageOf run (incomingOf packet)).toRow.serverId =
          if packet.msgId = "" then none else some packet.msgId := by
        simp only [messageOf, Message.markDelivered, Message.toRow, incomingOf,
          IncomingMessage.effective]
        by_cases unnamed : packet.msgId = "" <;> simp [unnamed]
      rw [List.count_singleton, List.filter_cons, named]
      by_cases same : packet.msgId = serverId
      · simp only [same, beq_self_eq_true, if_true]
        split <;> simp
      · by_cases unnamed : packet.msgId = "" <;> simp [unnamed, same]
    unfold LocalTables.serverRows
    rw [RowTable.count_append rows]
    exact Nat.add_le_add le.view added

structure DeliveryBounds (tables : LocalTables) (serverId : String) (client : ChatClient) :
    Prop where
  rows : ServerRowsLe serverId (tables.serverRows serverId +
    client.acknowledged.count serverId + client.deliveries.count serverId) client.db
  unread : client.counted.count serverId ≤ client.deliveries.count serverId

theorem DeliveryBounds.step {tables : LocalTables} {serverId : String} {client : ChatClient}
    (bounds : DeliveryBounds tables serverId client) (event : ClientEvent)
    (enabled : event.enabled client) : DeliveryBounds tables serverId (event.next client) := by
  cases event with
  | received run packet =>
      constructor
      · have stored : ServerRowsLe serverId _
            (client.receiver.handleReceiveMessage run packet).db :=
          ServerRowsLe.handleReceiveMessage bounds.rows run packet
        refine stored.mono (le_of_eq ?_)
        simp only [ClientEvent.next, List.count_append]
        omega
      · have rise : ClientEvent.rise client.db
            (client.receiver.handleReceiveMessage run packet).db packet ≤ 1 := by
          have once := (client.receiver.unreadOf_handleReceiveMessage run packet).2
          unfold ClientEvent.rise
          simp only [ChatClient.receiver] at once ⊢
          omega
        have unread := bounds.unread
        simp only [ClientEvent.next, List.count_append, List.count_replicate,
          List.count_singleton]
        split <;> omega
  | sending event =>
      refine ⟨?_, bounds.unread⟩
      have sent : ServerRowsLe serverId _ (event.next client.sender).db :=
        ServerRowsLe.sending bounds.rows event enabled.2
      refine sent.mono (le_of_eq ?_)
      simp only [ClientEvent.next, List.count_append]
      omega
  | otherTables others =>
      refine ⟨bounds.rows.write others ?_, bounds.unread⟩
      have fewer : others.messages.count (fun row => row.serverId = some serverId) ≤
          client.db.view.messages.count (fun row => row.serverId = some serverId) :=
        (enabled.filter _).length_le
      exact fewer.trans bounds.rows.view
  | activeSession sessionId => exact ⟨bounds.rows, bounds.unread⟩
  | selfUser userId => exact ⟨bounds.rows, bounds.unread⟩
  | connection connected => exact ⟨bounds.rows, bounds.unread⟩
  | restarted => exact ⟨⟨bounds.rows.committed, bounds.rows.committed⟩, bounds.unread⟩

/-- Whatever is delivered in whatever order, each delivery of a packet stores at
most one row with its id and counts at most once as unread.  The rows that were
there before and the acknowledgements of own messages come on top. -/
theorem serverRows_le_deliveries (tables : LocalTables) (client : ChatClient)
    (reached : (clientSystem tables).Reachable client) (serverId : String) :
    DeliveryBounds tables serverId client := by
  refine System.Reachable.invariant ?_ ?_ client reached
  · exact ⟨⟨Nat.le_refl _, Nat.le_refl _⟩, Nat.le_refl _⟩
  · intro before event _ bounds enabled
    exact bounds.step event enabled

/-- The packet comes again at the next login, because its acknowledgement was
lost. -/
def bobsPacketTwice : List ClientEvent :=
  [.received ⟨"m1", "2026-01-01T00:00:00Z", "", {}, true, true, true, {}, true, true, {}⟩
      bobsPacket,
    .restarted,
    .received ⟨"m2", "2026-01-01T00:00:00Z", "", {}, true, true, true, {}, true, true, {}⟩
      bobsPacket]

theorem bobsPacketTwice_reachable :
    (clientSystem {}).Reachable (bobsPacketTwice.foldl ClientEvent.next {}) :=
  System.Reachable.run bobsPacketTwice _ System.Reachable.initial
    ⟨trivial, trivial, trivial, trivial⟩

theorem serverRows_le_deliveries_srv_1 :
    DeliveryBounds {} "srv_1" (bobsPacketTwice.foldl ClientEvent.next {}) :=
  serverRows_le_deliveries {} _ bobsPacketTwice_reachable "srv_1"

/-- A packet delivered twice is stored and counted twice. -/
theorem serverRows_redelivered :
    ¬ ∀ client, (clientSystem {}).Reachable client → ∀ serverId,
      client.db.committed.serverRows serverId ≤ 1 ∧ client.counted.count serverId ≤ 1 := by
  intro always
  exact absurd (always _ bobsPacketTwice_reachable "srv_1") (by decide)

end ShirohaChat
