import ShirohaChat.Client.ChatView
import ShirohaChat.Client.GroupStubs

/-!
# Sending a message again

`resendMessage` looks for its message on the first page of the session.  Where
it stands there, it is marked, recorded, timed and handed to the gateway; where
it does not, nothing happens.
-/

set_option autoImplicit false

namespace ShirohaChat

open Pages

/-- The session type and the recipient that a message of the session is sent
with: its group, or the peer of the stored session. -/
inductive RoutedTo (db : LocalDatabase) (sessionId : String) : String → String → Prop where
  | group (stored : (db.loadGroup true true sessionId).isSome = true) :
      RoutedTo db sessionId "group" ""
  | peer (session : Session) (noGroup : db.loadGroup true true sessionId = none)
      (loaded : db.loadSession true true sessionId = some session)
      (isPrivate : session.sessionType ≠ .groupChat) (named : session.peerUserId ≠ "")
      (another : session.peerUserId ≠ db.loadAuthUserId true) :
      RoutedTo db sessionId "private" session.peerUserId

structure Resent (before after : SendMessageUseCase) (message : Message)
    (sessionType recipient : String) : Prop where
  sending : after.statusOf message.msgId = some .sending
  recorded : message.msgId ∈ after.db.view.pendingAcks
  timed : after.timers = before.timers.start message.msgId
  sent : after.signals = before.signals ++
    [.messageStatusChanged message.msgId .sending,
      .sendText message.msgId message.senderId message.sessionId message.content sessionType
        recipient]

/-- How many messages of the session are fetched before the one of the id. -/
def LocalDatabase.positionOf (db : LocalDatabase) (sessionId msgId : String) : Nat :=
  ((db.orderedMessages sessionId).map Message.msgId).idxOf msgId

namespace RoutedTo

variable {db : LocalDatabase} {sessionId sessionType recipient : String}

theorem named (routed : RoutedTo db sessionId sessionType recipient) : sessionId ≠ "" := by
  rintro rfl
  cases routed with
  | group stored => cases stored
  | peer session _ loaded _ _ _ => cases loaded

theorem of_tables {after : LocalDatabase} (routed : RoutedTo db sessionId sessionType recipient)
    (groups : after.loadGroup true true sessionId = db.loadGroup true true sessionId)
    (sessions : after.loadSession true true sessionId = db.loadSession true true sessionId)
    (owner : after.loadAuthUserId true = db.loadAuthUserId true) :
    RoutedTo after sessionId sessionType recipient := by
  cases routed with
  | group stored => exact .group (groups ▸ stored)
  | peer session noGroup loaded isPrivate named another =>
      exact .peer session (groups.trans noGroup) (sessions.trans loaded) isPrivate named
        (owner ▸ another)

theorem dispatch {client : SendMessageUseCase} {message : Message}
    (routed : RoutedTo client.db message.sessionId sessionType recipient) (reports : Bool) :
    client.dispatch {} {} message reports =
      client.emit (.sendText message.msgId message.senderId message.sessionId message.content
        sessionType recipient) := by
  unfold SendMessageUseCase.dispatch SendMessageUseCase.isGroupSession
    SendMessageUseCase.groupMissing SendMessageUseCase.recipientOf
  cases routed with
  | group stored =>
      have known : (client.db.loadGroup true true message.sessionId).isNone = false := by
        rw [← Option.not_isSome, stored]
        rfl
      simp [stored, known]
  | peer session noGroup loaded isPrivate named another =>
      simp [noGroup, loaded, isPrivate, named, another]

end RoutedTo

namespace LocalDatabase

variable (db : LocalDatabase)

theorem messageIds_distinct (sessionId : String) :
    ((db.orderedMessages sessionId).map Message.msgId).Nodup := by
  apply ((db.orderedMessages_perm sessionId).map Message.msgId).nodup_iff.mpr
  rw [messagesOf, List.map_map]
  exact List.Nodup.sublist (List.filter_sublist.map _) db.view.messages.keysNodup

theorem mem_orderedMessages {row : LocalMessageRow} (stored : row ∈ db.view.messages.rows) :
    row.toMessage ∈ db.orderedMessages row.sessionId := by
  apply (db.orderedMessages_perm row.sessionId).mem_iff.mpr
  exact List.mem_map_of_mem (List.mem_filter.mpr ⟨stored, decide_eq_true rfl⟩)

theorem find?_fetchMessagesForSession {row : LocalMessageRow}
    (stored : row ∈ db.view.messages.rows) (named : row.sessionId ≠ "") {limit : Nat}
    (positive : 0 < limit) :
    ((db.fetchMessagesForSession true row.sessionId limit).find?
        fun message => message.msgId = row.msgId) =
      if db.positionOf row.sessionId row.msgId < limit then some row.toMessage else none := by
  rw [db.fetchMessagesForSession_eq named positive]
  exact find?_take_id Message.msgId _ limit (db.messageIds_distinct row.sessionId)
    (db.mem_orderedMessages stored)

theorem view_updateMessageStatus (msgId : String) (status : MessageStatus) :
    ∃ messages, (db.updateMessageStatus true msgId status).1.view =
      { db.view with messages := messages } := by
  unfold updateMessageStatus
  rw [if_neg (by simp), view_write]
  exact ⟨_, rfl⟩

theorem view_upsertPendingAck (ok : Bool) (msgId : String) :
    ∃ pendingAcks, (db.upsertPendingAck ok msgId).1.view =
      { db.view with pendingAcks := pendingAcks } := by
  unfold upsertPendingAck
  split
  · rw [view_write]
    exact ⟨_, rfl⟩
  · exact ⟨db.view.pendingAcks, rfl⟩

end LocalDatabase

namespace SendMessageUseCase

variable {client : SendMessageUseCase} {row : LocalMessageRow}

/-- What `resendMessage` does before it looks for the route. -/
def restart (client : SendMessageUseCase) (msgId : String) : SendMessageUseCase :=
  let updated := client.setStatus true msgId .sending
  let stored := { updated with db := (updated.db.upsertPendingAck true msgId).1 }
  (stored.emit (.messageStatusChanged msgId .sending)).startAckTimer msgId

theorem routed_restart {sessionId sessionType recipient : String}
    (routed : RoutedTo client.db sessionId sessionType recipient) (msgId : String) :
    RoutedTo (client.restart msgId).db sessionId sessionType recipient := by
  obtain ⟨messages, updated⟩ := client.db.view_updateMessageStatus msgId .sending
  obtain ⟨pendingAcks, stored⟩ := (client.db.updateMessageStatus true msgId
    .sending).1.view_upsertPendingAck true msgId
  rw [updated] at stored
  have view : (client.restart msgId).db.view =
      { client.db.view with messages := messages, pendingAcks := pendingAcks } := stored
  apply routed.of_tables
  · unfold LocalDatabase.loadGroup
    rw [view]
  · unfold LocalDatabase.loadSession LocalDatabase.loadAuthUserId
    rw [view]
  · unfold LocalDatabase.loadAuthUserId
    rw [view]

theorem statusOf_restart (stored : row ∈ client.db.view.messages.rows) :
    (client.restart row.msgId).statusOf row.msgId = some .sending := by
  have found := (client.db.view.messages.find?_eq_some row.msgId row).mpr ⟨stored, rfl⟩
  have marked : (client.setStatus true row.msgId .sending).statusOf row.msgId =
      some .sending := by
    rw [statusOf_setStatus, if_pos ⟨rfl, rfl⟩, statusOf, found]
    rfl
  rw [← marked]
  exact statusOf_congr row.msgId (LocalDatabase.messages_upsertPendingAck _ _ _)

theorem recorded_restart (stored : row ∈ client.db.view.messages.rows) :
    row.msgId ∈ (client.restart row.msgId).db.view.pendingAcks := by
  apply LocalDatabase.mem_upsertPendingAck_self
  have found := (client.db.view.messages.find?_eq_some row.msgId row).mpr ⟨stored, rfl⟩
  show (client.db.updateMessageStatus true row.msgId .sending).1.view.messages.find? _ ≠ none
  rw [LocalDatabase.find?_updateMessageStatus, found]
  exact Option.some_ne_none _

theorem resendMessage_of_position {sessionType recipient : String}
    (stored : row ∈ client.db.view.messages.rows) (content : row.content ≠ "")
    (routed : RoutedTo client.db row.sessionId sessionType recipient) (named : row.msgId ≠ "")
    (onPage : client.db.positionOf row.sessionId row.msgId < 1000) :
    Resent client (client.resendMessage {} row.sessionId row.msgId) row.toMessage sessionType
      recipient := by
  have found := client.db.find?_fetchMessagesForSession stored routed.named
    (Nat.succ_pos 999)
  rw [if_pos onPage] at found
  have routedAfter : RoutedTo (client.restart row.msgId).db row.toMessage.sessionId sessionType
      recipient := routed_restart routed row.msgId
  have hasContent : row.toMessage.content ≠ "" := content
  have resent : client.resendMessage {} row.sessionId row.msgId =
      (client.restart row.msgId).emit (.sendText row.msgId row.senderUserId row.sessionId
        row.content sessionType recipient) := by
    unfold resendMessage
    rw [if_neg (by simp [named, routed.named]), found]
    simp only [if_neg hasContent]
    exact routedAfter.dispatch true
  rw [resent]
  refine ⟨statusOf_restart stored, recorded_restart stored, rfl, ?_⟩
  exact List.append_assoc _ _ _

theorem resendMessage_of_not_position (stored : row ∈ client.db.view.messages.rows)
    (named : row.sessionId ≠ "")
    (offPage : ¬ client.db.positionOf row.sessionId row.msgId < 1000) :
    client.resendMessage {} row.sessionId row.msgId = client := by
  have found := client.db.find?_fetchMessagesForSession stored named (Nat.succ_pos 999)
  rw [if_neg offPage] at found
  unfold resendMessage
  rw [found]
  split <;> rfl

theorem not_resent_self {message : Message} {sessionType recipient : String} :
    ¬ Resent client client message sessionType recipient := by
  intro resent
  have sizes := congrArg List.length resent.sent
  rw [List.length_append] at sizes
  simp at sizes

end SendMessageUseCase

/-- A stored message with a route is sent again exactly where it has an id and
fewer than a thousand messages of its session are fetched before it.  Neither
its status nor its sender is looked at. -/
theorem resendMessage_resent_iff (client : SendMessageUseCase) (row : LocalMessageRow)
    (stored : row ∈ client.db.view.messages.rows) (content : row.content ≠ "")
    {sessionType recipient : String}
    (routed : RoutedTo client.db row.sessionId sessionType recipient) :
    Resent client (client.resendMessage {} row.sessionId row.msgId) row.toMessage sessionType
        recipient ↔
      row.msgId ≠ "" ∧ client.db.positionOf row.sessionId row.msgId < 1000 := by
  constructor
  · intro resent
    by_cases named : row.msgId = ""
    · have ignored : client.resendMessage {} row.sessionId row.msgId = client := by
        unfold SendMessageUseCase.resendMessage
        rw [if_pos (Or.inl named)]
      rw [ignored] at resent
      exact absurd resent SendMessageUseCase.not_resent_self
    · refine ⟨named, ?_⟩
      by_contra offPage
      rw [SendMessageUseCase.resendMessage_of_not_position stored routed.named offPage] at resent
      exact SendMessageUseCase.not_resent_self resent
  · rintro ⟨named, onPage⟩
    exact SendMessageUseCase.resendMessage_of_position stored content routed named onPage

/-! ## A session with a long history -/

def backlogRow (index : Nat) : LocalMessageRow :=
  ⟨"r" ++ String.ofList (List.replicate index '+'), "s1", "bob", "news", .delivered,
    "2024-05-01T10:00:00Z", none⟩

def failedRow : LocalMessageRow :=
  ⟨"m1", "s1", "alice", "hello", .failed, "2024-05-01T10:01:00Z", none⟩

theorem backlogRow_distinct (size : Nat) :
    (((List.range size).map backlogRow ++ [failedRow]).map LocalMessageRow.msgId).Nodup := by
  rw [List.map_append, List.map_map, List.nodup_append]
  refine ⟨?_, List.nodup_singleton _, ?_⟩
  · apply List.nodup_range.map
    intro left right same
    have sameList := String.ofList_injective ((String.append_right_inj "r").mp same)
    simpa using congrArg List.length sameList
  · intro old oldIn new newIn same
    obtain ⟨index, _, rfl⟩ := List.mem_map.mp oldIn
    rw [List.mem_singleton.mp newIn] at same
    have texts := congrArg String.toList same
    simp [backlogRow, failedRow, String.toList_append] at texts

def longSession (size : Nat) : SendMessageUseCase where
  db := { committed := {
    messages := ⟨(List.range size).map backlogRow ++ [failedRow], backlogRow_distinct size⟩
    sessions := ⟨[⟨"s1", .privateChat, "Bob", "bob", 0⟩], List.nodup_singleton _⟩
    authUserId := "alice" } }

theorem orderedMessages_longSession (size : Nat) :
    (longSession size).db.orderedMessages "s1" =
      ((List.range size).map backlogRow ++ [failedRow]).map LocalMessageRow.toMessage := by
  have ownSession : ((List.range size).map backlogRow ++ [failedRow]).filter
      (fun row => row.sessionId = "s1") = (List.range size).map backlogRow ++ [failedRow] := by
    apply List.filter_eq_self.mpr
    intro row rowIn
    rcases List.mem_append.mp rowIn with old | new
    · obtain ⟨index, _, rfl⟩ := List.mem_map.mp old
      rfl
    · rw [List.mem_singleton.mp new]
      rfl
  have sorted : ((List.range size).map backlogRow ++ [failedRow]).Pairwise fun left right =>
      sqlLess right.timestamp left.timestamp = false := by
    rw [List.pairwise_append]
    refine ⟨?_, List.pairwise_singleton _ _, ?_⟩
    · rw [List.pairwise_map]
      apply List.pairwise_of_forall
      intro left right
      show sqlLess "2024-05-01T10:00:00Z" "2024-05-01T10:00:00Z" = false
      decide
    · intro old oldIn new newIn
      obtain ⟨index, _, rfl⟩ := List.mem_map.mp oldIn
      rw [List.mem_singleton.mp newIn]
      show sqlLess "2024-05-01T10:01:00Z" "2024-05-01T10:00:00Z" = false
      decide
  show (oldestFirst LocalMessageRow.timestamp (List.filter _
    ((List.range size).map backlogRow ++ [failedRow]))).map _ = _
  rw [ownSession, oldestFirst, sorted.insertionSort_eq]

theorem positionOf_longSession (size : Nat) :
    (longSession size).db.positionOf "s1" "m1" = size := by
  rw [LocalDatabase.positionOf, orderedMessages_longSession, List.map_map]
  have distinct := backlogRow_distinct size
  rw [List.map_append, List.nodup_append] at distinct
  rw [List.map_append, List.idxOf_append_of_notMem ?fresh]
  case fresh =>
    intro old
    exact distinct.2.2 _ old "m1" (List.mem_singleton_self _) rfl
  simp [failedRow, LocalMessageRow.toMessage]

theorem routed_longSession (size : Nat) :
    RoutedTo (longSession size).db "s1" "private" "bob" :=
  .peer ⟨"s1", .privateChat, "alice", "Bob", "bob", 0⟩ rfl rfl (by decide) (by decide)
    (show "bob" ≠ "alice" by decide)

theorem resendMessage_resent_iff_short :
    Resent (longSession 0) ((longSession 0).resendMessage {} "s1" "m1") failedRow.toMessage
        "private" "bob" ↔
      "m1" ≠ "" ∧ (longSession 0).db.positionOf "s1" "m1" < 1000 :=
  resendMessage_resent_iff (longSession 0) failedRow (List.mem_singleton_self _) (by decide)
    (routed_longSession 0)

/-- After a thousand messages of the peer the failed one is not found. -/
theorem resendMessage_off_page :
    ¬ ∀ (client : SendMessageUseCase) (row : LocalMessageRow) (sessionType recipient : String),
      row ∈ client.db.view.messages.rows → row.status = .failed →
      row.senderUserId = client.db.loadAuthUserId true → row.msgId ≠ "" → row.content ≠ "" →
      RoutedTo client.db row.sessionId sessionType recipient →
      Resent client (client.resendMessage {} row.sessionId row.msgId) row.toMessage sessionType
        recipient := by
  intro always
  have stored : failedRow ∈ (longSession 1000).db.view.messages.rows :=
    List.mem_append_right _ (List.mem_singleton_self _)
  have resent := always (longSession 1000) failedRow "private" "bob" stored rfl rfl (by decide)
    (by decide) (routed_longSession 1000)
  rw [SendMessageUseCase.resendMessage_of_not_position stored (by decide)] at resent
  · exact SendMessageUseCase.not_resent_self resent
  · show ¬ (longSession 1000).db.positionOf "s1" "m1" < 1000
    rw [positionOf_longSession]
    omega

end ShirohaChat
