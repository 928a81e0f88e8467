import ShirohaChat.Client.ChatView
import ShirohaChat.Client.SendStore

/-!
# The open chat

What `ChatViewModel` shows follows the signals of the sending use case; it is
fetched again only when another session is opened or a message is received.
Every operation of the sending use case that changes a stored message tells so,
and the view makes the same change.
-/

set_option autoImplicit false

namespace ShirohaChat

/-! ## The view -/

namespace MessageListModel

def appendMessage (messages : List MessageItem) (message : Message) (isMine : Bool) :
    List MessageItem :=
  messages ++ [⟨message.msgId, message.senderId, message.content, isMine, message.status,
    message.timestamp, ""⟩]

/-- Only the first item of the message is changed. -/
def updateStatus (msgId : String) (newStatus : MessageStatus) :
    List MessageItem → List MessageItem
  | [] => []
  | item :: rest =>
      if item.messageId = msgId then { item with status := newStatus } :: rest
      else item :: updateStatus msgId newStatus rest

end MessageListModel

namespace ChatViewModel

def onMessageSent (view : ChatViewModel) (message : Message) : ChatViewModel :=
  if message.sessionId ≠ view.sessionId then view
  else { view with messages := MessageListModel.appendMessage view.messages message true }

def onMessageStatusChanged (view : ChatViewModel) (msgId : String) (newStatus : MessageStatus) :
    ChatViewModel :=
  { view with messages := MessageListModel.updateStatus msgId newStatus view.messages }

/-- The slots that the signals of the sending use case are connected to. -/
def onSignal (view : ChatViewModel) : SendSignal → ChatViewModel
  | .messageSent _ message _ => view.onMessageSent message
  | .messageStatusChanged msgId newStatus => view.onMessageStatusChanged msgId newStatus
  | .messageError _ => view
  | .sendText _ _ _ _ _ _ => view

theorem sessionId_onSignals (view : ChatViewModel) (signals : List SendSignal) :
    (signals.foldl onSignal view).sessionId = view.sessionId := by
  induction signals generalizing view with
  | nil => rfl
  | cons signal rest ih =>
      refine (ih (view.onSignal signal)).trans ?_
      cases signal with
      | messageSent msgId message sessionType =>
          unfold onSignal onMessageSent
          simp only
          split <;> rfl
      | messageStatusChanged msgId newStatus => rfl
      | messageError error => rfl
      | sendText msgId sender sessionId content sessionType recipient => rfl

end ChatViewModel

/-! ## Stored messages -/

def Message.restated (message : Message) (status : MessageStatus) (serverId : String) : Message :=
  { message with
    status := status
    serverId := if serverId = "" then message.serverId else serverId }

theorem LocalMessageRow.toMessage_withStatus (row : LocalMessageRow) (status : MessageStatus)
    (serverId : String) :
    (row.withStatus status serverId).toMessage = row.toMessage.restated status serverId := by
  unfold withStatus toMessage Message.restated
  split <;> simp

namespace LocalDatabase

variable (db : LocalDatabase)

theorem messagesOf_congr {after : LocalDatabase} (sessionId : String)
    (same : after.view.messages = db.view.messages) :
    after.messagesOf sessionId = db.messagesOf sessionId := by
  rw [messagesOf, messagesOf, same]

theorem messagesOf_updateMessageStatus (msgId sessionId : String) (status : MessageStatus)
    (serverId : String) :
    (db.updateMessageStatus true msgId status serverId).1.messagesOf sessionId =
      (db.messagesOf sessionId).map fun message =>
        if message.msgId = msgId then message.restated status serverId else message := by
  have rows : (db.updateMessageStatus true msgId status serverId).1.view.messages.rows =
      db.view.messages.rows.map fun row =>
        if row.msgId = msgId then row.withStatus status serverId else row := by
    unfold updateMessageStatus
    rw [if_neg (by simp), view_write]
    simp [RowTable.updateWhere]
  have ofSession : ∀ row : LocalMessageRow,
      (if row.msgId = msgId then row.withStatus status serverId else row).sessionId =
        row.sessionId := by
    intro row
    split <;> rfl
  rw [messagesOf, messagesOf, rows, List.filter_map, List.map_map, List.map_map]
  simp only [Function.comp_def, ofSession]
  apply List.map_congr_left
  intro row _
  by_cases own : row.msgId = msgId
  · rw [if_pos own, if_pos (show row.toMessage.msgId = msgId from own),
      LocalMessageRow.toMessage_withStatus]
  · rw [if_neg own, if_neg (show ¬ row.toMessage.msgId = msgId from own)]

theorem messagesOf_insert {after : LocalDatabase} {message : Message}
    (inserted : db.view.messages.insert? message.toRow = some after.view.messages)
    (sessionId : String) :
    after.messagesOf sessionId = db.messagesOf sessionId ++
      if message.sessionId = sessionId then [message.toRow.toMessage] else [] := by
  obtain ⟨_, rows⟩ := RowTable.insert?_eq_some inserted
  have ofSession : message.toRow.sessionId = message.sessionId := rfl
  rw [messagesOf, messagesOf, rows, List.filter_append, List.map_append]
  by_cases own : message.sessionId = sessionId
  · simp [own, ofSession]
  · simp [own, ofSession]

theorem msgId_fresh {message : Message} {messages : LocalMessageTable}
    (inserted : db.view.messages.insert? message.toRow = some messages) (sessionId : String) :
    ∀ stored ∈ db.messagesOf sessionId, stored.msgId ≠ message.msgId := by
  intro stored storedIn same
  obtain ⟨row, rowIn, rfl⟩ := List.mem_map.mp storedIn
  exact (RowTable.insert?_eq_some inserted).1
    (List.mem_map.mpr ⟨row, (List.mem_filter.mp rowIn).1, same⟩)

theorem messagesOf_distinct (sessionId : String) :
    ((db.messagesOf sessionId).map Message.msgId).Nodup := by
  rw [messagesOf, List.map_map]
  exact (List.filter_sublist.map LocalMessageRow.msgId).nodup db.view.messages.keysNodup

end LocalDatabase

/-! ## What is shown -/

structure MessageItem.Shows (item : MessageItem) (message : Message) : Prop where
  messageId : item.messageId = message.msgId
  senderId : item.senderId = message.senderId
  content : item.content = message.content
  status : item.status = message.status
  timestamp : item.timestamp = message.timestamp

/-- Each item shows a stored message of the session, none is shown twice, and
while they fit on the page that is fetched they are all shown. -/
structure ChatViewModel.Mirrors (stored : List Message) (view : ChatViewModel) : Prop where
  distinct : (view.messages.map MessageItem.messageId).Nodup
  shown : ∀ item ∈ view.messages, ∃ message ∈ stored, item.Shows message
  complete : view.sessionId ≠ "" → stored.length ≤ 200 →
    ∀ message ∈ stored, ∃ item ∈ view.messages, item.Shows message

theorem MessageListModel.updateStatus_eq_map (msgId : String) (newStatus : MessageStatus)
    {messages : List MessageItem} (distinct : (messages.map MessageItem.messageId).Nodup) :
    updateStatus msgId newStatus messages = messages.map fun item =>
      if item.messageId = msgId then { item with status := newStatus } else item := by
  induction messages with
  | nil => rfl
  | cons item rest ih =>
      rw [List.map_cons, List.nodup_cons] at distinct
      rw [updateStatus, List.map_cons]
      by_cases own : item.messageId = msgId
      · have others : ∀ other ∈ rest, ¬ other.messageId = msgId := fun other otherIn same =>
          distinct.1 (List.mem_map.mpr ⟨other, otherIn, same.trans own.symm⟩)
        rw [if_pos own, if_pos own, List.map_congr_left fun other otherIn =>
          if_neg (others other otherIn), List.map_id']
      · rw [if_neg own, if_neg own, ih distinct.2]

namespace ChatViewModel.Mirrors

variable {stored : List Message} {view : ChatViewModel}

theorem onMessageStatusChanged (mirrors : Mirrors stored view) (msgId : String)
    (newStatus : MessageStatus) (serverId : String) :
    Mirrors (stored.map fun message =>
        if message.msgId = msgId then message.restated newStatus serverId else message)
      (view.onMessageStatusChanged msgId newStatus) := by
  have restated : ∀ (item : MessageItem) (message : Message), item.Shows message →
      (if item.messageId = msgId then { item with status := newStatus } else item).Shows
        (if message.msgId = msgId then message.restated newStatus serverId else message) := by
    intro item message shows
    by_cases own : message.msgId = msgId
    · rw [if_pos own, if_pos (shows.messageId.trans own)]
      exact ⟨shows.messageId, shows.senderId, shows.content, rfl, shows.timestamp⟩
    · rw [if_neg own, if_neg (shows.messageId ▸ own)]
      exact shows
  have sameIds : ∀ item : MessageItem,
      (if item.messageId = msgId then { item with status := newStatus } else item).messageId =
        item.messageId := by
    intro item
    split <;> rfl
  unfold ChatViewModel.onMessageStatusChanged
  rw [MessageListModel.updateStatus_eq_map msgId newStatus mirrors.distinct]
  constructor
  · simp only [List.map_map, Function.comp_def, sameIds]
    exact mirrors.distinct
  · intro changed changedIn
    obtain ⟨item, itemIn, rfl⟩ := List.mem_map.mp changedIn
    obtain ⟨message, messageIn, shows⟩ := mirrors.shown item itemIn
    exact ⟨_, List.mem_map_of_mem messageIn, restated item message shows⟩
  · intro named fits changed changedIn
    obtain ⟨message, messageIn, rfl⟩ := List.mem_map.mp changedIn
    rw [List.length_map] at fits
    obtain ⟨item, itemIn, shows⟩ := mirrors.complete named fits message messageIn
    exact ⟨_, List.mem_map_of_mem itemIn, restated item message shows⟩

theorem onMessageSent (mirrors : Mirrors stored view) {message : Message}
    (fresh : ∀ other ∈ stored, other.msgId ≠ message.msgId) :
    Mirrors (stored ++ if message.sessionId = view.sessionId then [message.toRow.toMessage] else [])
      (view.onMessageSent message) := by
  unfold ChatViewModel.onMessageSent
  by_cases own : message.sessionId = view.sessionId
  · rw [if_pos own, if_neg (not_not.mpr own)]
    have shows : (⟨message.msgId, message.senderId, message.content, true, message.status,
        message.timestamp, ""⟩ : MessageItem).Shows message.toRow.toMessage :=
      ⟨rfl, rfl, rfl, rfl, rfl⟩
    constructor
    · simp only [MessageListModel.appendMessage, List.map_append, List.map_cons, List.map_nil]
      refine List.nodup_append.mpr ⟨mirrors.distinct, List.nodup_singleton _, ?_⟩
      intro taken takenIn added addedIn same
      obtain ⟨item, itemIn, rfl⟩ := List.mem_map.mp takenIn
      obtain ⟨other, otherIn, showsOther⟩ := mirrors.shown item itemIn
      rw [List.mem_singleton.mp addedIn, showsOther.messageId] at same
      exact fresh other otherIn same
    · intro item itemIn
      rcases List.mem_append.mp itemIn with old | new
      · obtain ⟨other, otherIn, showsOther⟩ := mirrors.shown item old
        exact ⟨other, List.mem_append_left _ otherIn, showsOther⟩
      · rw [List.mem_singleton.mp new]
        exact ⟨_, List.mem_append_right _ (List.mem_singleton_self _), shows⟩
    · intro named fits other otherIn
      rw [List.length_append, List.length_singleton] at fits
      rcases List.mem_append.mp otherIn with old | new
      · obtain ⟨item, itemIn, showsOther⟩ :=
          mirrors.complete named (by omega) other old
        exact ⟨item, List.mem_append_left _ itemIn, showsOther⟩
      · rw [List.mem_singleton.mp new]
        exact ⟨_, List.mem_append_right _ (List.mem_singleton_self _), shows⟩
  · rw [if_neg own, if_pos own, List.append_nil]
    exact mirrors

/-- A fetched page shows what it holds; a session that is not named has none. -/
theorem loadMessagesForSession (view : ChatViewModel) (db : LocalDatabase) {run : ReloadRun}
    (fetched : run.fetched = true) (selfUserId : String) :
    Mirrors (db.messagesOf view.sessionId)
      (view.loadMessagesForSession db run view.sessionId selfUserId) := by
  generalize loadedDef : view.loadMessagesForSession db run view.sessionId selfUserId = loaded
  have sameSession : loaded.sessionId = view.sessionId := by
    rw [← loadedDef]
    rfl
  have page : (db.fetchMessagesForSession run.fetched view.sessionId 200).Sublist
      (db.orderedMessages view.sessionId) := by
    by_cases named : view.sessionId = ""
    · rw [LocalDatabase.fetchMessagesForSession, if_pos (Or.inr (Or.inl named))]
      exact List.nil_sublist _
    · rw [fetched, db.fetchMessagesForSession_eq named (by omega)]
      exact List.take_sublist _ _
  have ids := messageIds_loadMessagesForSession view db run view.sessionId selfUserId
  have items : ∃ item : Message → MessageItem, (∀ message, (item message).Shows message) ∧
      loaded.messages =
        (db.fetchMessagesForSession run.fetched view.sessionId 200).map item := by
    rw [← loadedDef]
    exact ⟨_, fun message => ⟨rfl, rfl, rfl, rfl, rfl⟩, rfl⟩
  rw [loadedDef] at ids
  obtain ⟨item, shows, isLoaded⟩ := items
  constructor
  · rw [ids]
    refine (page.map Message.msgId).nodup ?_
    exact ((db.orderedMessages_perm view.sessionId).map _).nodup_iff.mpr
      (db.messagesOf_distinct view.sessionId)
  · intro listed listedIn
    rw [isLoaded] at listedIn
    obtain ⟨message, onPage, rfl⟩ := List.mem_map.mp listedIn
    exact ⟨message, (db.orderedMessages_perm _).mem_iff.mp (page.subset onPage), shows message⟩
  · intro named fits message messageIn
    rw [sameSession] at named
    have whole : db.fetchMessagesForSession run.fetched view.sessionId 200 =
        db.orderedMessages view.sessionId := by
      rw [fetched, db.fetchMessagesForSession_eq named (by omega)]
      apply List.take_of_length_le
      rw [(db.orderedMessages_perm view.sessionId).length_eq]
      exact fits
    rw [isLoaded, whole]
    exact ⟨item message, List.mem_map_of_mem
      ((db.orderedMessages_perm _).mem_iff.mpr messageIn), shows message⟩

end ChatViewModel.Mirrors

/-! ## What the sending use case tells -/

namespace SendMessageUseCase

/-- The transaction of a new message; inside another one it cannot begin. -/
theorem persist_cases (db : LocalDatabase) {run : SendRun} (message : Message)
    (transaction : run.transaction = {}) (inserted : run.inserted = true)
    (ackStored : run.ackStored = true) :
    persist db run message = (db, none) ∨
      ∃ stored, db.view.messages.insert? message.toRow = some stored.view.messages ∧
        persist db run message = (stored, some ()) := by
  by_cases idle : db.Idle
  · rcases persist_ok idle message transaction inserted ackStored with
      refused | ⟨messages, insertion, isStored⟩
    · exact Or.inl refused
    · refine Or.inr ⟨_, ?_, isStored⟩
      exact insertion
  · have busy : ¬ db.transaction.isNone = true := fun none =>
      idle (Option.isNone_iff_eq_none.mp none)
    left
    unfold persist LocalDatabase.runInTransaction
    rw [transaction]
    simp [busy]

/-- A view that shows what was stored still does when it has heard the signals. -/
def Tells (before after : SendMessageUseCase) : Prop :=
  ∃ told, after.signals = before.signals ++ told ∧
    ∀ view, view.Mirrors (before.db.messagesOf view.sessionId) →
      (told.foldl ChatViewModel.onSignal view).Mirrors (after.db.messagesOf view.sessionId)

namespace Tells

variable {client first second third : SendMessageUseCase}

theorem trans (one : Tells first second) (two : Tells second third) : Tells first third := by
  obtain ⟨told, isTold, mirrors⟩ := one
  obtain ⟨then_, isThen, mirrorsThen⟩ := two
  refine ⟨told ++ then_, by rw [isThen, isTold, List.append_assoc], ?_⟩
  intro view shown
  have next := mirrorsThen (told.foldl ChatViewModel.onSignal view)
  rw [ChatViewModel.sessionId_onSignals] at next
  rw [List.foldl_append]
  exact next (mirrors view shown)

theorem of_same (messages : second.db.view.messages = first.db.view.messages)
    (signals : second.signals = first.signals) : Tells first second := by
  refine ⟨[], by rw [signals, List.append_nil], ?_⟩
  intro view shown
  rw [first.db.messagesOf_congr view.sessionId messages]
  exact shown

theorem refl (client : SendMessageUseCase) : Tells client client := of_same rfl rfl

theorem of_update {msgId : String} {status : MessageStatus} {serverId : String}
    (messages : second.db.view.messages =
      (first.db.updateMessageStatus true msgId status serverId).1.view.messages)
    (signals : second.signals = first.signals ++ [.messageStatusChanged msgId status]) :
    Tells first second := by
  refine ⟨_, signals, ?_⟩
  intro view shown
  rw [LocalDatabase.messagesOf_congr _ view.sessionId messages,
    first.db.messagesOf_updateMessageStatus]
  exact shown.onMessageStatusChanged msgId status serverId

theorem of_insert {message : Message} {sessionType : SessionType}
    (inserted : first.db.view.messages.insert? message.toRow = some second.db.view.messages)
    (signals : second.signals =
      first.signals ++ [.messageSent message.msgId message sessionType]) :
    Tells first second := by
  refine ⟨_, signals, ?_⟩
  intro view shown
  rw [first.db.messagesOf_insert inserted]
  exact shown.onMessageSent (first.db.msgId_fresh inserted view.sessionId)

theorem sendText (client : SendMessageUseCase)
    (msgId sender sessionId content sessionType recipient : String) :
    Tells client (client.emit (.sendText msgId sender sessionId content sessionType recipient)) :=
  ⟨_, rfl, fun _ shown => shown⟩

theorem messageError (client : SendMessageUseCase) (error : SendMessageError) :
    Tells client (client.emit (.messageError error)) :=
  ⟨_, rfl, fun _ shown => shown⟩

theorem failMessage (client : SendMessageUseCase) (msgId : String) (remove : Bool) :
    Tells client (client.failMessage {} msgId remove) := by
  have messages : (client.failMessage {} msgId remove).db.view.messages =
      (client.db.updateMessageStatus true msgId .failed "").1.view.messages := by
    unfold SendMessageUseCase.failMessage
    cases remove with
    | true => exact LocalDatabase.messages_removePendingAck _ _ _
    | false => rfl
  apply of_update messages
  unfold SendMessageUseCase.failMessage
  cases remove <;> rfl

theorem dispatch (client : SendMessageUseCase) (route : RouteRun) (message : Message)
    (reports : Bool) : Tells client (client.dispatch route {} message reports) := by
  rcases client.dispatch_cases route {} message reports with ⟨error, gaveUp⟩ | ⟨_, _, sent⟩
  · have failing := failMessage client message.msgId true
    rw [gaveUp, giveUp]
    cases reports with
    | true => exact failing.trans (messageError _ error)
    | false => exact failing
  · rw [sent]
    exact sendText client _ _ _ _ _ _

theorem sendMessage (client : SendMessageUseCase) {run : SendRun}
    (sessionId content msgId timestamp : String)
    (succeeds : SendEvent.Succeeds client (.sendMessage run sessionId content msgId timestamp)) :
    Tells client (client.sendMessage run sessionId content msgId timestamp) := by
  obtain ⟨transaction, inserted, ackStored, failed⟩ := succeeds
  unfold SendMessageUseCase.sendMessage
  simp only
  split
  · exact refl client
  split
  · exact messageError client _
  generalize (if client.db.loadAuthUserId run.route.authLoaded = "" then "me"
    else client.db.loadAuthUserId run.route.authLoaded) = sender
  generalize (if isGroupSession client.db run.route sessionId = true then SessionType.groupChat
    else SessionType.privateChat) = sessionType
  rcases persist_cases client.db
    ⟨msgId, trimmed content, sender, sessionId, timestamp, .sending, ""⟩
    transaction inserted ackStored with refused | ⟨stored, insertion, isStored⟩
  · rw [refused]
    exact refl client
  rw [isStored]
  simp only [Option.isNone_some, Bool.false_eq_true, if_false]
  have started : Tells client ((startAckTimer { client with db := stored } msgId).emit
      (.messageSent msgId ⟨msgId, trimmed content, sender, sessionId, timestamp, .sending, ""⟩
        sessionType)) := of_insert insertion rfl
  generalize SendMessageUseCase.emit _ _ = sent at started ⊢
  split
  · exact started.trans (sendText _ _ _ _ _ _ _)
  split
  · rw [failed]
    exact (started.trans (failMessage _ msgId true)).trans (messageError _ _)
  · exact started.trans (sendText _ _ _ _ _ _ _)

theorem resendMessage (client : SendMessageUseCase) {run : ResendRun} (sessionId msgId : String)
    (succeeds : SendEvent.Succeeds client (.resendMessage run sessionId msgId)) :
    Tells client (client.resendMessage run sessionId msgId) := by
  obtain ⟨restarted, failed⟩ := succeeds
  unfold SendMessageUseCase.resendMessage
  split
  · exact refl client
  split
  · exact refl client
  split
  · exact refl client
  rw [restarted, failed]
  have updated : Tells client (({ client.setStatus true msgId .sending with
      db := ((client.setStatus true msgId .sending).db.upsertPendingAck true msgId).1 } :
        SendMessageUseCase).emit (.messageStatusChanged msgId .sending)) :=
    of_update (LocalDatabase.messages_upsertPendingAck _ _ _) rfl
  exact (updated.trans (of_same rfl rfl)).trans (dispatch _ run.route _ true)

theorem recoverPendingMessages (client : SendMessageUseCase) {run : String → RecoverRun}
    (fetched : Bool) (sessionId : String) (failed : ∀ msgId, (run msgId).failed = {}) :
    Tells client (client.recoverPendingMessages fetched run sessionId) := by
  refine List.foldlRecOn (motive := Tells client) _ _ (refl client) ?_
  intro before told message _
  refine told.trans ?_
  rw [recoverOne, failed]
  exact (of_same rfl rfl : Tells before (before.startAckTimer message.msgId)).trans
    (dispatch _ _ message false)

theorem onAckReceived (client : SendMessageUseCase) (msgId serverId : String) :
    Tells client (client.onAckReceived {} msgId serverId) := by
  unfold SendMessageUseCase.onAckReceived
  split
  · exact refl client
  · exact of_update (LocalDatabase.messages_removePendingAck _ _ _) rfl

theorem onAckFailed (client : SendMessageUseCase) (msgId : String) (code : Int32)
    (reason : String) : Tells client (client.onAckFailed {} msgId code reason) := by
  have refused : Tells client (((if 0 < code ∧ code < 500 then
      ((client.stopAckTimer msgId).setStatus true msgId .failed).removeAck true msgId
      else (client.stopAckTimer msgId).setStatus true msgId .failed)).emit
        (.messageStatusChanged msgId .failed)) := by
    split
    · exact of_update (LocalDatabase.messages_removePendingAck _ _ _) rfl
    · exact of_update rfl rfl
  exact refused.trans (messageError _ _)

theorem timerExpired (client : SendMessageUseCase) (timer : Nat) :
    Tells client (SendEvent.next client (.timerExpired timer true)) := by
  simp only [SendEvent.next]
  split
  · exact refl client
  · exact of_update rfl rfl

end Tells
end SendMessageUseCase
end ShirohaChat
