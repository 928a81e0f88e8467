import ShirohaChat.Client.ReceiveMessage
import ShirohaChat.Client.SendMessage
import ShirohaChat.Lib.Pages

/-!
# The chat view

`ChatViewModel` with its `MessageListModel`: what is shown of the open session,
and the reload after a message was received.
-/

set_option autoImplicit false

namespace ShirohaChat

open CodeUnits Pages

/-! ## The view -/

structure MessageItem where
  messageId : String
  senderId : String
  content : String
  isMine : Bool
  status : MessageStatus
  timestamp : String
  senderNickname : String
  deriving DecidableEq

namespace MessageListModel

def resetMessages (messages : List Message) (selfUserId : String)
    (senderNicknames : FiniteMap String String) : List MessageItem :=
  messages.map fun message =>
    let isMine : Bool := selfUserId ≠ "" ∧ message.senderId = selfUserId
    ⟨message.msgId, message.senderId, message.content, isMine, message.status,
      message.timestamp,
      if isMine then "" else (senderNicknames.lookup message.senderId).getD ""⟩

end MessageListModel

structure ReloadRun where
  authLoaded : Bool := true
  route : RouteRun := {}
  fetched : Bool := true
  nicknameRead : String → Bool := fun _ => true

structure ChatViewModel where
  sessionId : String := ""
  /-- `m_messages` of the list. -/
  messages : List MessageItem := []

namespace ChatViewModel

def queryUserNickname (db : LocalDatabase) (ok : Bool) (userId : String) : String :=
  if ¬ ok ∨ trimmed userId = "" then ""
  else
    ((db.view.users.find? (trimmed userId)).map fun row => trimmed row.nickname).getD ""

def senderDisplayName (db : LocalDatabase) (ok : Bool) (userId : String) : String :=
  if trimmed (queryUserNickname db ok userId) = "" then userId
  else trimmed (queryUserNickname db ok userId)

/-- The names are asked for in a group only, and not the user's own. -/
def loadMessagesForSession (view : ChatViewModel) (db : LocalDatabase) (run : ReloadRun)
    (sessionId selfUserId : String) : ChatViewModel :=
  let messages := db.fetchMessagesForSession run.fetched sessionId 200
  let senderNicknames :=
    if SendMessageUseCase.isGroupSession db run.route sessionId then
      messages.foldl (fun names message =>
        if selfUserId ≠ "" ∧ message.senderId = selfUserId then names
        else names.insert message.senderId
          (senderDisplayName db (run.nicknameRead message.senderId) message.senderId)) ∅
    else (∅ : FiniteMap String String)
  { view with
    messages := MessageListModel.resetMessages messages selfUserId senderNicknames }

def onMessageReceived (view : ChatViewModel) (db : LocalDatabase) (run : ReloadRun)
    (sessionId : String) : ChatViewModel :=
  if sessionId ≠ view.sessionId then view
  else view.loadMessagesForSession db run view.sessionId (db.loadAuthUserId run.authLoaded)

theorem messageIds_loadMessagesForSession (view : ChatViewModel) (db : LocalDatabase)
    (run : ReloadRun) (sessionId selfUserId : String) :
    (view.loadMessagesForSession db run sessionId selfUserId).messages.map
        MessageItem.messageId =
      (db.fetchMessagesForSession run.fetched sessionId 200).map Message.msgId := by
  simp [loadMessagesForSession, MessageListModel.resetMessages, Function.comp_def]

end ChatViewModel

/-! ## Pages of a session -/

def Message.storedTime (message : Message) : List Nat := utf8 message.timestamp.toList

theorem Message.storedTime_lt (left right : Message) :
    left.storedTime < right.storedTime ↔ sqlLess left.timestamp right.timestamp = true := by
  simp [storedTime, sqlLess]

def LocalDatabase.messagesOf (db : LocalDatabase) (sessionId : String) : List Message :=
  (db.view.messages.rows.filter fun row => row.sessionId = sessionId).map
    LocalMessageRow.toMessage

def LocalDatabase.orderedMessages (db : LocalDatabase) (sessionId : String) : List Message :=
  (oldestFirst LocalMessageRow.timestamp
    (db.view.messages.rows.filter fun row => row.sessionId = sessionId)).map
    LocalMessageRow.toMessage

theorem LocalDatabase.orderedMessages_perm (db : LocalDatabase) (sessionId : String) :
    (db.orderedMessages sessionId).Perm (db.messagesOf sessionId) :=
  (oldestFirst_perm _ _).map _

theorem LocalDatabase.orderedMessages_ordered (db : LocalDatabase) {sessionId : String}
    (distinct : ((db.messagesOf sessionId).map Message.timestamp).Nodup) :
    (db.orderedMessages sessionId).Pairwise fun left right =>
      left.storedTime < right.storedTime := by
  have differ : ((db.orderedMessages sessionId).map Message.timestamp).Nodup :=
    ((db.orderedMessages_perm sessionId).map Message.timestamp).nodup_iff.mpr distinct
  have sorted : (db.orderedMessages sessionId).Pairwise fun left right =>
      sqlLess right.timestamp left.timestamp = false :=
    List.pairwise_map.mpr (oldestFirst_ordered LocalMessageRow.timestamp _)
  apply (sorted.and (List.pairwise_map.mp differ)).imp
  intro left right both
  rw [Message.storedTime_lt]
  rcases sqlLess_total both.2 with less | more
  · exact less
  · rw [both.1] at more
    cases more

theorem LocalDatabase.fetchMessagesForSession_eq (db : LocalDatabase) {sessionId : String}
    (named : sessionId ≠ "") {limit : Nat} (positive : 0 < limit) :
    db.fetchMessagesForSession true sessionId limit =
      (db.orderedMessages sessionId).take limit := by
  unfold fetchMessagesForSession orderedMessages
  rw [if_neg (by simp [named, Nat.ne_of_gt positive])]
  simp only [List.drop_zero]
  exact List.map_take

/-! ## A received message in the reloaded view -/

namespace ReceiveMessageUseCase

def storedMessage (run : IncomingRun) (incoming : IncomingMessage) : Message :=
  (messageOf run incoming).toRow.toMessage

/-- A message that is reported is the last of its session's rows, under an id of
its own. -/
theorem messagesOf_onIncomingMessage {client : ReceiveMessageUseCase} {run : IncomingRun}
    {arrived : IncomingMessage}
    (emitted : (client.onIncomingMessage run arrived).received ≠ client.received) :
    (client.onIncomingMessage run arrived).db.messagesOf arrived.effective.sessionId =
        client.db.messagesOf arrived.effective.sessionId ++
          [storedMessage run arrived.effective] ∧
      ∀ message ∈ client.db.messagesOf arrived.effective.sessionId, message.msgId ≠ run.msgId := by
  obtain ⟨_, started, after, displayName, incrementUnread, sameView, stored, isDb⟩ :=
    onIncomingMessage_emitted emitted
  obtain ⟨fresh, rows⟩ := RowTable.insert?_eq_some (store_eq_some stored).1
  have ownSession : (messageOf run arrived.effective).toRow.sessionId =
      arrived.effective.sessionId := rfl
  rw [isDb, LocalDatabase.messagesOf, LocalDatabase.messagesOf, ← sameView]
  constructor
  · show List.map _ (List.filter _ after.view.messages.rows) = _
    rw [rows, List.filter_append, List.map_append,
      List.filter_cons_of_pos (by simp [ownSession]), List.filter_nil, List.map_cons,
      List.map_nil]
    rfl
  · intro message messageIn taken
    obtain ⟨row, rowIn, rfl⟩ := List.mem_map.mp messageIn
    exact fresh (List.mem_map.mpr ⟨row, (List.mem_filter.mp rowIn).1, taken⟩)

theorem timestamps_distinct_append {messages : List Message} {added : Message}
    (distinct : (messages.map Message.timestamp).Nodup)
    (later : ∀ message ∈ messages, sqlLess message.timestamp added.timestamp = true) :
    ((messages ++ [added]).map Message.timestamp).Nodup := by
  rw [List.map_append, List.nodup_append]
  refine ⟨distinct, List.nodup_singleton _, ?_⟩
  intro old oldIn new newIn same
  obtain ⟨message, messageIn, rfl⟩ := List.mem_map.mp oldIn
  have less := later message messageIn
  rw [same, List.mem_singleton.mp newIn] at less
  exact Bool.false_ne_true ((sqlLess_asymm less).symm.trans less)

/-- The reload after a message that is newer than its session's other messages
shows it only where the page has room for it. -/
theorem shown_iff_room (client : ReceiveMessageUseCase) (view : ChatViewModel)
    (run : IncomingRun) (arrived : IncomingMessage) (reload : ReloadRun)
    (fetched : reload.fetched = true)
    (isOpen : view.sessionId = arrived.effective.sessionId)
    (distinct : ((client.db.messagesOf arrived.effective.sessionId).map Message.timestamp).Nodup)
    (emitted : (client.onIncomingMessage run arrived).received ≠ client.received)
    (later : ∀ message ∈ client.db.messagesOf arrived.effective.sessionId,
      sqlLess message.timestamp run.timestamp = true) :
    run.msgId ∈ ((view.onMessageReceived (client.onIncomingMessage run arrived).db reload
        arrived.effective.sessionId).messages.map MessageItem.messageId) ↔
      (client.db.messagesOf arrived.effective.sessionId).length < 200 := by
  have named := (onIncomingMessage_emitted emitted).1
  obtain ⟨rows, fresh⟩ := messagesOf_onIncomingMessage emitted
  generalize (client.onIncomingMessage run arrived).db = after at rows
  generalize storedDef : storedMessage run arrived.effective = stored at rows
  have ownId : stored.msgId = run.msgId := by
    rw [← storedDef]
    rfl
  have ownTime : stored.timestamp = run.timestamp := by
    rw [← storedDef]
    rfl
  rw [← ownTime] at later
  have differ : ((after.messagesOf arrived.effective.sessionId).map Message.timestamp).Nodup := by
    rw [rows]
    exact timestamps_distinct_append distinct later
  have room : stored ∈ (after.orderedMessages arrived.effective.sessionId).take 200 ↔
      (client.db.messagesOf arrived.effective.sessionId).length < 200 :=
    newest_mem_take_iff (after.orderedMessages_ordered differ)
      (rows ▸ after.orderedMessages_perm arrived.effective.sessionId)
      (fun message messageIn => (message.storedTime_lt stored).mpr (later message messageIn)) 200
  unfold ChatViewModel.onMessageReceived
  rw [if_neg (not_not.mpr isOpen.symm), isOpen,
    ChatViewModel.messageIds_loadMessagesForSession, fetched,
    after.fetchMessagesForSession_eq named (by omega), ← room]
  constructor
  · intro shown
    obtain ⟨message, onPage, sameId⟩ := List.mem_map.mp shown
    have messageIn := (after.orderedMessages_perm _).mem_iff.mp (List.mem_of_mem_take onPage)
    rw [rows, List.mem_append, List.mem_singleton] at messageIn
    rcases messageIn with old | rfl
    · exact absurd sameId (fresh message old)
    · exact onPage
  · intro onPage
    exact List.mem_map.mpr ⟨stored, onPage, ownId⟩

end ReceiveMessageUseCase

theorem LocalDatabase.isNewest_fetch_iff (db : LocalDatabase) {sessionId : String}
    (named : sessionId ≠ "")
    (distinct : ((db.messagesOf sessionId).map Message.timestamp).Nodup) {limit : Nat}
    (positive : 0 < limit) :
    IsNewest Message.storedTime limit (db.messagesOf sessionId)
        (db.fetchMessagesForSession true sessionId limit) ↔
      (db.messagesOf sessionId).length ≤ limit := by
  rw [db.fetchMessagesForSession_eq named positive]
  exact isNewest_take_iff (db.orderedMessages_ordered distinct)
    (db.orderedMessages_perm sessionId) positive

/-- The page that is fetched is the newest one, and the reload after a newer
message was received shows it, exactly while the session fits on a page. -/
theorem fetchMessagesForSession_newest_iff (client : ReceiveMessageUseCase)
    (sessionId : String) (named : sessionId ≠ "")
    (distinct : ((client.db.messagesOf sessionId).map Message.timestamp).Nodup) :
    (∀ limit, 0 < limit →
      (IsNewest Message.storedTime limit (client.db.messagesOf sessionId)
          (client.db.fetchMessagesForSession true sessionId limit) ↔
        (client.db.messagesOf sessionId).length ≤ limit)) ∧
    ∀ (view : ChatViewModel) (run : IncomingRun) (arrived : IncomingMessage)
      (reload : ReloadRun), reload.fetched = true → arrived.effective.sessionId = sessionId →
      view.sessionId = sessionId →
      (client.onIncomingMessage run arrived).received ≠ client.received →
      (∀ message ∈ client.db.messagesOf sessionId,
        sqlLess message.timestamp run.timestamp = true) →
      (run.msgId ∈ ((view.onMessageReceived (client.onIncomingMessage run arrived).db reload
          sessionId).messages.map MessageItem.messageId) ↔
        (client.db.messagesOf sessionId).length < 200) := by
  constructor
  · intro limit positive
    exact client.db.isNewest_fetch_iff named distinct positive
  · rintro view run arrived reload fetched rfl isOpen emitted later
    exact client.shown_iff_room view run arrived reload fetched isOpen distinct emitted later

def twoMessages : ReceiveMessageUseCase where
  db := { committed := { messages := ⟨[
    ⟨"m1", "s1", "bob", "first", .delivered, "2024-05-01T10:00:00Z", none⟩,
    ⟨"m2", "s1", "bob", "second", .delivered, "2024-05-01T10:01:00Z", none⟩], by decide⟩ } }

def thirdMessage : IncomingMessage := ⟨"s1", "bob", "third", "private", "Bob", "", "m3"⟩

def thirdRun : IncomingRun := { msgId := "m3", timestamp := "2024-05-01T10:02:00Z" }

theorem fetchMessagesForSession_newest_iff_two :
    (IsNewest Message.storedTime 1 (twoMessages.db.messagesOf "s1")
        (twoMessages.db.fetchMessagesForSession true "s1" 1) ↔
      (twoMessages.db.messagesOf "s1").length ≤ 1) ∧
    ("m3" ∈ ((ChatViewModel.onMessageReceived ⟨"s1", []⟩
        (twoMessages.onIncomingMessage thirdRun thirdMessage).db {} "s1").messages.map
        MessageItem.messageId) ↔
      (twoMessages.db.messagesOf "s1").length < 200) := by
  obtain ⟨pages, views⟩ :=
    fetchMessagesForSession_newest_iff twoMessages "s1" (by decide) (by decide)
  refine ⟨pages 1 (by decide), views ⟨"s1", []⟩ thirdRun thirdMessage {} rfl rfl rfl ?_ ?_⟩
  · intro same
    have sizes := congrArg List.length same
    revert sizes
    decide
  · decide

theorem fetchMessagesForSession_oldest :
    ¬ ∀ (db : LocalDatabase) (sessionId : String) (limit : Nat), sessionId ≠ "" → 0 < limit →
      ((db.messagesOf sessionId).map Message.timestamp).Nodup →
      IsNewest Message.storedTime limit (db.messagesOf sessionId)
        (db.fetchMessagesForSession true sessionId limit) := by
  intro newest
  have page := newest twoMessages.db "s1" 1 (by decide) (by decide) (by decide)
  have fits := (twoMessages.db.isNewest_fetch_iff (by decide) (by decide) (by decide)).mp page
  revert fits
  decide

end ShirohaChat
