import ShirohaChat.Client.SendStore

/-!
# Texts that are sent and stored

Whatever the sending use case does, it sends texts that are stored, and leaves
the text of a stored message alone.  A message comes into the table with the
signal that it was sent; an acknowledgement alone makes it `Delivered`.
-/

set_option autoImplicit false

namespace ShirohaChat

namespace LocalDatabase

/-- Each message keeps its row, but for a status that is not `Delivered`. -/
def KeepsTexts (before after : LocalDatabase) : Prop :=
  ∀ msgId, after.view.messages.find? msgId = before.view.messages.find? msgId ∨
    ∃ status, status ≠ .delivered ∧ after.view.messages.find? msgId =
      (before.view.messages.find? msgId).map fun row => row.withStatus status ""

def StoresText (db : LocalDatabase) (msgId sessionId content : String) : Prop :=
  ∃ row, db.view.messages.find? msgId = some row ∧ row.sessionId = sessionId ∧
    row.content = content

namespace KeepsTexts

variable {first second third : LocalDatabase}

theorem of_same (messages : second.view.messages = first.view.messages) :
    KeepsTexts first second :=
  fun _ => Or.inl (by rw [messages])

theorem trans (one : KeepsTexts first second) (two : KeepsTexts second third) :
    KeepsTexts first third := by
  intro msgId
  rcases one msgId with same | ⟨status, notDelivered, changed⟩
  · rcases two msgId with same' | ⟨status', notDelivered', changed'⟩
    · exact Or.inl (same'.trans same)
    · exact Or.inr ⟨status', notDelivered', by rw [changed', same]⟩
  · rcases two msgId with same' | ⟨status', notDelivered', changed'⟩
    · exact Or.inr ⟨status, notDelivered, by rw [same', changed]⟩
    · refine Or.inr ⟨status', notDelivered', ?_⟩
      rw [changed', changed, Option.map_map]
      rfl

theorem updateMessageStatus (db : LocalDatabase) (ok : Bool) (msgId : String)
    {status : MessageStatus} (notDelivered : status ≠ .delivered) :
    KeepsTexts db (db.updateMessageStatus ok msgId status "").1 := by
  intro other
  rw [find?_updateMessageStatus]
  by_cases own : ok = true ∧ other = msgId
  · refine Or.inr ⟨status, notDelivered, ?_⟩
    simp only [if_pos own]
  · left
    simp only [if_neg own, Option.map_id']

theorem storesText (kept : KeepsTexts first second) {msgId sessionId content : String} :
    second.StoresText msgId sessionId content ↔ first.StoresText msgId sessionId content := by
  unfold StoresText
  rcases kept msgId with same | ⟨status, _, changed⟩
  · rw [same]
  · rw [changed]
    cases first.view.messages.find? msgId with
    | none => simp
    | some row => simp [LocalMessageRow.withStatus]

end KeepsTexts

theorem storesText_of_row {db : LocalDatabase} {row : LocalMessageRow}
    (stored : row ∈ db.view.messages.rows) :
    db.StoresText row.msgId row.sessionId row.content :=
  ⟨row, (RowTable.find?_eq_some _ _ _).mpr ⟨stored, rfl⟩, rfl, rfl⟩

theorem storesText_of_fetchMessagesForSession {db : LocalDatabase} {ok : Bool}
    {sessionId : String} {limit offset : Nat} {message : Message}
    (fetched : message ∈ db.fetchMessagesForSession ok sessionId limit offset) :
    db.StoresText message.msgId message.sessionId message.content := by
  unfold fetchMessagesForSession at fetched
  split at fetched
  · cases fetched
  · obtain ⟨row, rowIn, rfl⟩ := List.mem_map.mp fetched
    have sorted := List.mem_of_mem_drop (List.mem_of_mem_take rowIn)
    have chosen := (List.perm_insertionSort _ _).mem_iff.mp sorted
    exact storesText_of_row (List.mem_filter.mp chosen).1

theorem storesText_of_fetchPendingMessages {db : LocalDatabase} {ok : Bool} {message : Message}
    (fetched : message ∈ db.fetchPendingMessages ok) :
    db.StoresText message.msgId message.sessionId message.content := by
  unfold fetchPendingMessages at fetched
  split at fetched
  · cases fetched
  · obtain ⟨row, rowIn, rfl⟩ := List.mem_map.mp fetched
    have chosen := (List.perm_insertionSort _ _).mem_iff.mp rowIn
    exact storesText_of_row (List.mem_filter.mp chosen).1

/-- Removing a session takes its messages and no others, or none where it fails. -/
theorem find?_removeSession {db : LocalDatabase} (idle : db.Idle) {run : RemoveSessionRun}
    (closed : run.transaction.commit ≠ .leftOpen) (sessionId : String) :
    ((db.removeSession 0 run sessionId).2 = false ∧ ∀ msgId,
      (db.removeSession 0 run sessionId).1.view.messages.find? msgId =
        db.view.messages.find? msgId) ∨
    ((db.removeSession 0 run sessionId).2 = true ∧ ∀ msgId,
      (db.removeSession 0 run sessionId).1.view.messages.find? msgId =
        (db.view.messages.find? msgId).filter fun row => ¬ row.sessionId = sessionId) := by
  unfold removeSession
  split
  · exact Or.inl ⟨rfl, fun _ => rfl⟩
  simp only
  rcases db.runInTransaction_closed closed _ with undone | ⟨after, value, ran, ended⟩
  · rw [undone]
    exact Or.inl ⟨rfl, fun _ => rfl⟩
  · rw [ended]
    split at ran
    · cases ran
    split at ran
    · cases ran
    split at ran
    · cases ran
    cases ran
    refine Or.inr ⟨rfl, ?_⟩
    intro msgId
    simp only [decide_not]
    rw [idle.view_eq]
    exact db.committed.messages.find?_deleteWhere _ msgId

end LocalDatabase

/-! ## Steps that store nothing -/

namespace SendSignal

/-- A text that is sent is stored; nothing is told to be new. -/
def IsStored (db : LocalDatabase) : SendSignal → Prop
  | .sendText msgId _ sessionId content _ _ => db.StoresText msgId sessionId content
  | .messageSent _ _ _ => False
  | _ => True

end SendSignal

namespace SendMessageUseCase

structure SendsStored (before after : SendMessageUseCase) : Prop where
  texts : before.db.KeepsTexts after.db
  signals : ∃ added, after.signals = before.signals ++ added ∧
    ∀ signal ∈ added, signal.IsStored before.db

namespace SendsStored

variable {client first second third : SendMessageUseCase}

theorem of_texts (texts : first.db.KeepsTexts second.db)
    (signals : second.signals = first.signals) : SendsStored first second :=
  ⟨texts, [], by rw [signals, List.append_nil], fun _ member => absurd member List.not_mem_nil⟩

theorem of_same (messages : second.db.view.messages = first.db.view.messages)
    (signals : second.signals = first.signals) : SendsStored first second :=
  of_texts (LocalDatabase.KeepsTexts.of_same messages) signals

theorem refl (client : SendMessageUseCase) : SendsStored client client := of_same rfl rfl

theorem trans (one : SendsStored first second) (two : SendsStored second third) :
    SendsStored first third := by
  obtain ⟨told, isTold, stored⟩ := one.signals
  obtain ⟨later, isLater, storedLater⟩ := two.signals
  refine ⟨one.texts.trans two.texts, told ++ later, by rw [isLater, isTold, List.append_assoc],
    ?_⟩
  intro signal member
  rcases List.mem_append.mp member with old | new
  · exact stored signal old
  · have isStored := storedLater signal new
    cases signal with
    | sendText => exact one.texts.storesText.mp isStored
    | messageSent => exact isStored
    | _ => exact trivial

theorem emit (client : SendMessageUseCase) {signal : SendSignal}
    (stored : signal.IsStored client.db) : SendsStored client (client.emit signal) := by
  refine ⟨LocalDatabase.KeepsTexts.of_same rfl, _, rfl, ?_⟩
  intro other member
  rw [List.mem_singleton.mp member]
  exact stored

theorem startAckTimer (done : SendsStored first second) (msgId : String) :
    SendsStored first (second.startAckTimer msgId) :=
  done.trans (of_same rfl rfl)

theorem setStatus (client : SendMessageUseCase) (updated : Bool) (msgId : String)
    {status : MessageStatus} (notDelivered : status ≠ .delivered) :
    SendsStored client (client.setStatus updated msgId status) :=
  of_texts (LocalDatabase.KeepsTexts.updateMessageStatus client.db updated msgId notDelivered) rfl

theorem stopAndFail (client : SendMessageUseCase) (updated : Bool) (msgId : String) :
    SendsStored client ((client.stopAckTimer msgId).setStatus updated msgId .failed) :=
  (of_same rfl rfl : SendsStored client (client.stopAckTimer msgId)).trans
    (setStatus _ updated msgId (by decide))

theorem failMessage (client : SendMessageUseCase) (run : StatusRun) (msgId : String)
    (remove : Bool) : SendsStored client (client.failMessage run msgId remove) := by
  have failed := stopAndFail client run.updated msgId
  unfold SendMessageUseCase.failMessage
  refine SendsStored.trans ?_ (emit _ trivial)
  cases remove with
  | true =>
      exact failed.trans (of_same (LocalDatabase.messages_removePendingAck _ _ _) rfl)
  | false => exact failed

theorem dispatch (client : SendMessageUseCase) (route : RouteRun) (failed : StatusRun)
    {message : Message} (reports : Bool)
    (stored : client.db.StoresText message.msgId message.sessionId message.content) :
    SendsStored client (client.dispatch route failed message reports) := by
  rcases client.dispatch_cases route failed message reports with ⟨error, gaveUp⟩ | ⟨_, _, sent⟩
  · have failing := failMessage client failed message.msgId true
    rw [gaveUp, giveUp]
    cases reports with
    | true => exact failing.trans (emit _ trivial)
    | false => exact failing
  · rw [sent]
    exact emit client stored

theorem resendMessage (client : SendMessageUseCase) (run : ResendRun) (sessionId msgId : String) :
    SendsStored client (client.resendMessage run sessionId msgId) := by
  unfold SendMessageUseCase.resendMessage
  split
  · exact refl client
  split
  · exact refl client
  rename_i message found
  split
  · exact refl client
  have fetched := LocalDatabase.storesText_of_fetchMessagesForSession
    (List.mem_of_find?_eq_some found)
  have updated := setStatus client run.restarted.updated msgId
    (show MessageStatus.sending ≠ .delivered by decide)
  have stored : SendsStored (client.setStatus run.restarted.updated msgId .sending)
      { client.setStatus run.restarted.updated msgId .sending with
        db := ((client.setStatus run.restarted.updated msgId .sending).db.upsertPendingAck
          run.restarted.ackChanged msgId).1 } :=
    of_same (LocalDatabase.messages_upsertPendingAck _ _ _) rfl
  have told := (updated.trans stored).trans
    (emit _ (show (SendSignal.messageStatusChanged msgId .sending).IsStored _ from trivial))
  have started := told.startAckTimer msgId
  exact started.trans (dispatch _ run.route run.failed true
    (started.texts.storesText.mpr fetched))

theorem recoverPendingMessages (client : SendMessageUseCase) (fetched : Bool)
    (run : String → RecoverRun) (sessionId : String) :
    SendsStored client (client.recoverPendingMessages fetched run sessionId) := by
  refine List.foldlRecOn (motive := SendsStored client) _ _ (refl client) ?_
  intro before done message member
  have stored := LocalDatabase.storesText_of_fetchPendingMessages (List.mem_filter.mp member).1
  have started := done.startAckTimer message.msgId
  exact started.trans (dispatch _ (run message.msgId).route (run message.msgId).failed false
    (started.texts.storesText.mpr stored))

theorem onAckFailed (client : SendMessageUseCase) (run : StatusRun) (msgId : String)
    (code : Int32) (reason : String) :
    SendsStored client (client.onAckFailed run msgId code reason) := by
  have failed := stopAndFail client run.updated msgId
  unfold SendMessageUseCase.onAckFailed
  simp only
  refine SendsStored.trans ?_ (emit _ trivial)
  refine SendsStored.trans ?_ (emit _ trivial)
  split
  · exact failed.trans (of_same (LocalDatabase.messages_removePendingAck _ _ _) rfl)
  · exact failed

theorem timerExpired (client : SendMessageUseCase) (timer : Nat) (updated : Bool) :
    SendsStored client (SendEvent.next client (.timerExpired timer updated)) := by
  simp only [SendEvent.next]
  split
  · exact refl client
  · rename_i msgId _
    unfold SendMessageUseCase.onSendTimeout
    have stopped : SendsStored client { client with
        timers := (client.timers.removeTimer timer).removeEntry msgId } := of_same rfl rfl
    exact (stopped.trans (setStatus _ updated msgId (by decide))).trans (emit _ trivial)

end SendsStored

/-! ## New messages -/

structure Starts (client : SendMessageUseCase) (message : Message)
    (started : SendMessageUseCase) : Prop where
  isSending : message.status = .sending
  isTrimmed : trimmed message.content = message.content
  unused : client.db.view.messages.find? message.msgId = none
  rows : ∀ other, started.db.view.messages.find? other =
    if other = message.msgId then some message.toRow else client.db.view.messages.find? other
  signals : ∃ sessionType,
    started.signals = client.signals ++ [.messageSent message.msgId message sessionType]

/-- A transaction that is not left open stores the message, or nothing. -/
theorem persist_closed {db : LocalDatabase} (idle : db.Idle) {run : SendRun}
    (closed : run.transaction.commit ≠ .leftOpen) (message : Message) :
    persist db run message = (db, none) ∨
      ∃ stored : LocalDatabase, stored.Idle ∧
        db.view.messages.insert? message.toRow = some stored.view.messages ∧
        persist db run message = (stored, some ()) := by
  unfold persist
  rcases db.runInTransaction_closed closed _ with undone | ⟨after, value, ran, ended⟩
  · exact Or.inl undone
  · refine Or.inr ⟨{ committed := after.view }, rfl, ?_, ended⟩
    cases inserted : LocalDatabase.insertMessage { db with transaction := some db.committed }
      run.inserted message with
    | mk stored ok =>
        rw [inserted] at ran
        cases ok with
        | false => cases ran
        | true =>
            cases ran
            obtain ⟨messages, insertion, rfl⟩ := LocalDatabase.insertMessage_eq_true inserted
            rw [idle.view_eq]
            refine insertion.trans (congrArg some ?_)
            exact ((LocalDatabase.messages_upsertPendingAck _ _ _).trans
              (by rw [LocalDatabase.view_write])).symm

/-- A message that `sendMessage` does not store is not sent either. -/
theorem sendMessage_step {client : SendMessageUseCase} (idle : client.db.Idle) {run : SendRun}
    (closed : run.transaction.commit ≠ .leftOpen) (sessionId content msgId timestamp : String) :
    (client.sendMessage run sessionId content msgId timestamp).db.Idle ∧
    (SendsStored client (client.sendMessage run sessionId content msgId timestamp) ∨
      ∃ message started, message.msgId = msgId ∧ Starts client message started ∧
        SendsStored started (client.sendMessage run sessionId content msgId timestamp)) := by
  unfold sendMessage
  simp only
  split
  · exact ⟨idle, Or.inl (SendsStored.refl client)⟩
  split
  · exact ⟨idle, Or.inl (SendsStored.emit client trivial)⟩
  generalize (if client.db.loadAuthUserId run.route.authLoaded = "" then "me"
    else client.db.loadAuthUserId run.route.authLoaded) = sender
  generalize (if isGroupSession client.db run.route sessionId = true then SessionType.groupChat
    else SessionType.privateChat) = sessionType
  rcases persist_closed idle closed
    ⟨msgId, trimmed content, sender, sessionId, timestamp, .sending, ""⟩ with
    refused | ⟨stored, storedIdle, insertion, isStored⟩
  · rw [refused]
    exact ⟨idle, Or.inl (SendsStored.refl client)⟩
  rw [isStored]
  simp only [Option.isNone_some, Bool.false_eq_true, if_false]
  generalize isStarted : ((startAckTimer { client with db := stored } msgId).emit
    (.messageSent msgId ⟨msgId, trimmed content, sender, sessionId, timestamp, .sending, ""⟩
      sessionType)) = started
  have startedDb : started.db = stored := by
    rw [← isStarted]
    rfl
  have rows := RowTable.find?_insert? insertion
  have starts : Starts client
      ⟨msgId, trimmed content, sender, sessionId, timestamp, .sending, ""⟩ started := by
    refine ⟨rfl, trimmed_trimmed content, ?_, ?_, sessionType, ?_⟩
    · have fresh := (RowTable.insert?_eq_some insertion).1
      exact (RowTable.find?_eq_none _ _).mpr fun row rowIn sameId =>
        fresh (List.mem_map.mpr ⟨row, rowIn, sameId⟩)
    · intro other
      rw [startedDb]
      exact rows other
    · rw [← isStarted]
      rfl
  have own : started.db.StoresText msgId sessionId (trimmed content) := by
    refine ⟨_, (starts.rows msgId).trans (if_pos rfl), rfl, rfl⟩
  have startedIdle : started.db.Idle := startedDb ▸ storedIdle
  split
  · exact ⟨startedIdle, Or.inr ⟨_, started, rfl, starts, SendsStored.emit _ own⟩⟩
  split
  · exact ⟨idle_failMessage startedIdle _ _ _, Or.inr ⟨_, started, rfl, starts,
      (SendsStored.failMessage _ _ _ _).trans (SendsStored.emit _ trivial)⟩⟩
  · exact ⟨startedIdle, Or.inr ⟨_, started, rfl, starts, SendsStored.emit _ own⟩⟩

/-! ## Acknowledgements -/

/-- An acknowledgement sends nothing; it may make its message `Delivered` under
the server id it states. -/
theorem handleIncomingPacket_step (client : SendMessageUseCase) (run : StatusRun)
    (packet : Packet) :
    SendsStored client (client.handleIncomingPacket run packet) ∨
      packet.cmd = .sendMessageAck ∧ packet.code = 200 ∧
      (client.handleIncomingPacket run packet).db.view.messages =
        (client.db.updateMessageStatus run.updated packet.msgId .delivered
          (jsonText (packet.payload.value "serverId"))).1.view.messages := by
  unfold handleIncomingPacket
  split
  · rename_i isAck
    split
    · exact Or.inl (SendsStored.refl client)
    split
    · rename_i accepted
      unfold onAckReceived
      split
      · exact Or.inl (SendsStored.refl client)
      · refine Or.inr ⟨isAck, accepted, ?_⟩
        exact LocalDatabase.messages_removePendingAck _ _ _
    split
    · exact Or.inl (SendsStored.onAckFailed client run packet.msgId packet.code packet.message)
    · exact Or.inl (SendsStored.refl client)
  · exact Or.inl (SendsStored.refl client)

theorem idle_handleIncomingPacket {client : SendMessageUseCase} (idle : client.db.Idle)
    (run : StatusRun) (packet : Packet) : (client.handleIncomingPacket run packet).db.Idle := by
  unfold handleIncomingPacket
  split
  · split
    · exact idle
    split
    · exact idle_onAckReceived idle run packet.msgId _
    split
    · exact idle_onAckFailed idle run packet.msgId packet.code packet.message
    · exact idle
  · exact idle

end SendMessageUseCase
end ShirohaChat
