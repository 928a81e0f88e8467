import ShirohaChat.Server.Confidentiality

/-!
# Messages are handed over in the order in which they were let through

Private messages are handed over at once.  Group messages wait for their member
lists, which come back in the order they were asked for, so the messages are
decided one after the other as they were let through.  The offline queue keeps
the order for each recipient.
-/

set_option autoImplicit false

namespace ShirohaChat

open Transition

/-! ## Member lists come back in order -/

def isMessageToken (token : String) : Bool := qStartsWith token "grp_notify_" = false

structure HandledInOrder (queue : LoadQueue) (taken : List String) : Prop where
  asked : queue.loads.map AskedLoad.token = taken ++ queue.inFlight
  handled : queue.handled.map Prod.fst = taken.filter isMessageToken

theorem handledInOrder_of_reachable : ∀ queue, loadSystem.Reachable queue →
    ∃ taken, HandledInOrder queue taken := by
  apply System.Reachable.invariant
  · exact ⟨[], rfl, rfl⟩
  · rintro queue event _ ⟨taken, asked, handled⟩ _
    cases event with
    | ask load =>
        refine ⟨taken, ?_, handled⟩
        simp [loadSystem, LoadEvent.next, LoadQueue.ask, LoadQueue.inFlight, asked,
          AskedLoad.token]
    | read store run =>
        simp only [loadSystem, LoadEvent.next, LoadQueue.read]
        cases calls : queue.calls with
        | nil => exact ⟨taken, asked, handled⟩
        | cons query rest =>
            refine ⟨taken, asked.trans ?_, handled⟩
            simp [LoadQueue.inFlight, calls]
    | take signals =>
        simp only [loadSystem, LoadEvent.next, LoadQueue.take]
        cases replies : queue.replies with
        | nil => exact ⟨taken, asked, handled⟩
        | cons result rest =>
            refine ⟨taken ++ [result.reqMsgId], ?_, ?_⟩
            · refine asked.trans ?_
              simp [LoadQueue.inFlight, replies]
            · simp only [List.map_append, handled, List.filter_append, List.append_cancel_left_eq]
              cases isNotify : qStartsWith result.reqMsgId "grp_notify_" <;>
                simp [isMessageToken, isNotify]

/-- The messages that asked for a list: those decided, then those that wait. -/
theorem messageTokens_of_reachable {queue : LoadQueue} (reached : loadSystem.Reachable queue) :
    (queue.loads.map AskedLoad.token).filter isMessageToken =
      queue.handled.map Prod.fst ++ queue.inFlight.filter isMessageToken := by
  obtain ⟨taken, asked, handled⟩ := handledInOrder_of_reachable queue reached
  rw [asked, List.filter_append, handled]

/-! ## What is handed over -/

def IsMessage (sessionType : String) (packet : Packet) : Bool :=
  packet.cmd = .receiveMessage ∧ jsonText (packet.payload.value "sessionType") = sessionType

theorem kind_receiveMsg (message : AcceptedMessage) :
    jsonText (message.receiveMsg.payload.value "sessionType") = message.params.sessionType := by
  simp [AcceptedMessage.receiveMsg, receiveMessageFor, QJsonObject.value, jsonText, jsonString]

theorem kind_withGroupName (message : AcceptedMessage) (groupName : String) :
    (withGroupName message.receiveMsg groupName).cmd = .receiveMessage ∧
      (withGroupName message.receiveMsg groupName).msgId = message.serverId ∧
      jsonText ((withGroupName message.receiveMsg groupName).payload.value "sessionType") =
        message.params.sessionType := by
  unfold withGroupName
  split
  · exact ⟨rfl, rfl, kind_receiveMsg message⟩
  · refine ⟨rfl, rfl, ?_⟩
    simp [AcceptedMessage.receiveMsg, receiveMessageFor, QJsonObject.insert, QJsonObject.value,
      jsonText, jsonString]

theorem isMessage_receiveMsg (message : AcceptedMessage) (sessionType : String) :
    IsMessage sessionType message.receiveMsg =
      decide (message.params.sessionType = sessionType) := by
  have isReceive : message.receiveMsg.cmd = .receiveMessage := rfl
  simp [IsMessage, kind_receiveMsg, isReceive]

theorem isMessage_withGroupName (message : AcceptedMessage) (groupName sessionType : String) :
    IsMessage sessionType (withGroupName message.receiveMsg groupName) =
      decide (message.params.sessionType = sessionType) := by
  obtain ⟨isReceive, _, kind⟩ := kind_withGroupName message groupName
  simp [IsMessage, kind, isReceive]

theorem isMessage_notice {packet : Packet} (notice : packet.cmd ≠ .receiveMessage)
    (sessionType : String) : IsMessage sessionType packet = false := by
  simp [IsMessage, notice]

section Traced
variable {Text : Type} [JsonDocument Text] (sha256 : List Nat → String)

def packetsFor (userId : String) (handed : List (String × Packet)) : List Packet :=
  (handed.filter fun entry => entry.1 = userId).map Prod.snd

theorem packetsFor_append (userId : String) (first second : List (String × Packet)) :
    packetsFor userId (first ++ second) = packetsFor userId first ++ packetsFor userId second := by
  simp only [packetsFor, List.filter_append, List.map_append]

theorem messagesFor_notices {handed : List (String × Packet)} (notices : Notices handed)
    (userId sessionType : String) :
    (packetsFor userId handed).filter (IsMessage sessionType) = [] := by
  refine List.filter_eq_nil_iff.mpr ?_
  intro packet member
  obtain ⟨entry, entryIn, rfl⟩ := List.mem_map.mp member
  have notice := notices entry (List.mem_filter.mp entryIn).1
  rw [isMessage_notice notice]
  exact Bool.false_ne_true

namespace TracedServer

def groupMessages (traced : TracedServer Text) : List AcceptedMessage :=
  traced.accepted.filter fun message => message.params.sessionType = "group"

def privateMessages (traced : TracedServer Text) (userId : String) : List AcceptedMessage :=
  traced.accepted.filter fun message =>
    message.params.sessionType = "private" ∧ message.params.recipientUserId = userId

def messagesFor (traced : TracedServer Text) (sessionType userId : String) : List Packet :=
  (packetsFor userId traced.handed).filter (IsMessage sessionType)

end TracedServer

/-! ## Group messages wait in the order they were let through -/

theorem loads_owned {server : ChatServer} (reached : (chatSystem sha256).Reachable server) :
    ∀ load ∈ server.loads, load.Owned :=
  (readInOrder_of_reachable _ (loadQueue_reachable sha256 server reached)).owned

theorem groupTokens_of_reachable : ∀ traced, (tracedSystem Text sha256).Reachable traced →
    traced.groupMessages.map AcceptedMessage.reqToken =
      (traced.server.chat.loads.map AskedLoad.token).filter isMessageToken := by
  apply System.Reachable.invariant
  · rfl
  · intro traced event reached tokens enabled
    have reachedChat := chat_reachable sha256 traced.server (acting_reachable sha256 traced reached)
    have owned := loads_owned sha256 (chat_reachable sha256 _
      (acting_reachable sha256 _ (System.Reachable.step event reached enabled)))
    have step := messageStep sha256 (noticesWait_of_reachable sha256 _ reachedChat) event
    have accepted : (traced.next sha256 event).accepted =
        traced.accepted ++ traced.server.acceptedBy sha256 event := rfl
    have after : (traced.next sha256 event).server = event.next sha256 traced.server := rfl
    show (traced.next sha256 event).groupMessages.map _ =
      ((traced.next sha256 event).server.chat.loads.map AskedLoad.token).filter isMessageToken
    change ∀ load ∈ (event.next sha256 traced.server).chat.loads, load.Owned at owned
    unfold TracedServer.groupMessages at tokens ⊢
    rw [accepted, List.filter_append, List.map_append, tokens, after]
    generalize traced.server.acceptedBy sha256 event = letIn at step
    generalize traced.server.handedBy sha256 event = given at step
    cases step with
    | quiet _ _ _ loads =>
        obtain ⟨added, loads, notMessages⟩ := loads
        have silent : (added.map AskedLoad.token).filter isMessageToken = [] := by
          refine List.filter_eq_nil_iff.mpr ?_
          intro token member
          obtain ⟨load, loadIn, rfl⟩ := List.mem_map.mp member
          have own := owned load (loads ▸ List.mem_append_right _ loadIn)
          unfold AskedLoad.Owned at own
          cases isWaiter : load.waiter with
          | message pending => exact absurd isWaiter (notMessages load loadIn pending)
          | notification notice =>
              simp only [isWaiter] at own
              simp [isMessageToken, own]
        rw [loads, List.map_append, List.filter_append, silent]
        rfl
    | delivered message _ isPrivate _ _ _ loads =>
        rw [loads]
        simp [isPrivate]
    | waits message _ isGroup _ _ loads =>
        have own := owned _ (loads ▸ List.mem_append_right _ (List.mem_singleton_self _))
        have isMessage : isMessageToken message.reqToken = true := by
          simpa [isMessageToken, AskedLoad.Owned, AskedLoad.token] using own.1
        rw [loads]
        simp [isGroup, AskedLoad.token, isMessage]
    | decided _ _ _ _ _ loads =>
        rw [loads]
        exact List.append_nil _

structure DecidedFirst (traced : TracedServer Text) (decided waiting : List AcceptedMessage) :
    Prop where
  split : traced.groupMessages = decided ++ waiting
  handled : decided.map AcceptedMessage.reqToken = traced.server.chat.handled.map Prod.fst
  inFlight : waiting.map AcceptedMessage.reqToken =
    traced.server.chat.loadQueue.inFlight.filter isMessageToken

variable {sha256} {traced : TracedServer Text}

theorem decidedFirst_of_reachable (reached : (tracedSystem Text sha256).Reachable traced) :
    ∃ decided waiting, DecidedFirst traced decided waiting := by
  have reachedChat := chat_reachable sha256 traced.server (acting_reachable sha256 traced reached)
  have tokens := (groupTokens_of_reachable sha256 traced reached).trans
    (messageTokens_of_reachable (loadQueue_reachable sha256 _ reachedChat))
  obtain ⟨decided, waiting, split, handled, inFlight⟩ := List.map_eq_append_iff.mp tokens
  exact ⟨decided, waiting, split, handled, inFlight⟩

theorem groupMessages_distinct (reached : (tracedSystem Text sha256).Reachable traced) :
    (traced.groupMessages.map AcceptedMessage.reqToken).Nodup := by
  have reachedChat := chat_reachable sha256 traced.server (acting_reachable sha256 traced reached)
  rw [groupTokens_of_reachable sha256 traced reached]
  exact (readInOrder_of_reachable _ (loadQueue_reachable sha256 _ reachedChat)).distinct.filter _

/-! ## Each recipient gets them in that order -/

theorem packetsFor_enqueueIfOfflineMany (userId : String) (packet : Packet)
    (excludeUserId : String) {members : List String} (distinct : members.Nodup) :
    (packetsFor userId (enqueueIfOfflineMany members packet excludeUserId)).Sublist [packet] := by
  have recipients := recipients_enqueueIfOfflineMany members packet excludeUserId
  have once := distinct.filter fun userId => ¬ (excludeUserId ≠ "" ∧ userId = excludeUserId)
  rw [← recipients] at once
  have packets : ∀ entry ∈ enqueueIfOfflineMany members packet excludeUserId,
      entry.2 = packet := by
    intro entry member
    obtain ⟨_, _, rfl⟩ := List.mem_map.mp member
    rfl
  generalize enqueueIfOfflineMany members packet excludeUserId = handed at once packets
  induction handed with
  | nil => exact List.nil_sublist _
  | cons first rest ih =>
      rw [List.map_cons, List.nodup_cons] at once
      have later := ih once.2 fun entry member => packets entry (List.mem_cons_of_mem _ member)
      unfold packetsFor at later ⊢
      rw [List.filter_cons]
      split
      · rename_i isUser
        have others : rest.filter (fun entry => entry.1 = userId) = [] := by
          refine List.filter_eq_nil_iff.mpr ?_
          intro entry member same
          have isFirst : first.1 = userId := by simpa using isUser
          have sameUser : entry.1 = userId := by simpa using same
          exact once.1 (List.mem_map.mpr ⟨entry, member, sameUser.trans isFirst.symm⟩)
        rw [others, List.map_singleton, packets first List.mem_cons_self]
      · exact later

theorem packetsFor_decided {server : ChatServer} (reached : (chatSystem sha256).Reachable server)
    {request : IssuedRequest} {result : GroupMembersResult}
    {rest : List (IssuedRequest × StoreReply)}
    (replies : server.management.replies = (request, .groupMembersLoaded result) :: rest)
    (isMessage : qStartsWith result.reqMsgId "grp_notify_" = false) {message : AcceptedMessage}
    (waits : server.delivery.pendingGroupMessages.lookup result.reqMsgId = some message.pending)
    (load : LoadStamp) (userId : String) :
    (packetsFor userId ((onGroupMembersForMessage server.delivery load result).2.flatMap
      DeliverySignal.enqueues)).Sublist [withGroupName message.receiveMsg result.groupName] := by
  obtain ⟨_, ran, _, isResult, _, consistent⟩ :=
    ran_for_message sha256 reached replies isMessage waits
  rcases onGroupMembersForMessage_cases server.delivery load result with
    ⟨unknown, _⟩ | ⟨pending, found, ⟨_, handled⟩ | ⟨_, _, handled⟩ | ⟨success, _, handled⟩⟩
  · rw [unknown] at waits
    cases waits
  · rw [handled]
    exact List.nil_sublist _
  · rw [handled]
    exact List.nil_sublist _
  · rw [found] at waits
    cases waits
    have enqueued : (onGroupMembersForMessage server.delivery load result).2.flatMap
        DeliverySignal.enqueues = enqueueIfOfflineMany result.members
          (withGroupName message.receiveMsg result.groupName) message.params.senderUserId := by
      rw [handled]
      exact List.append_nil _
    rw [enqueued]
    rcases ran.result_cases consistent with ⟨failed, _, _⟩ | ⟨_, _, distinct, _⟩
    · rw [isResult, success] at failed
      cases failed
    · rw [isResult] at distinct
      exact packetsFor_enqueueIfOfflineMany userId _ _ distinct

structure KeepsOrder (traced : TracedServer Text) : Prop where
  privates : ∀ userId, traced.messagesFor "private" userId =
    (traced.privateMessages userId).map AcceptedMessage.receiveMsg
  groups : ∀ userId, ((traced.messagesFor "group" userId).map Packet.msgId).Sublist
    ((traced.groupMessages.take traced.server.chat.handled.length).map AcceptedMessage.serverId)

/-- The message decided next is the oldest one that waits. -/
theorem decided_next (reached : (tracedSystem Text sha256).Reachable traced)
    {request : IssuedRequest} {result : GroupMembersResult}
    {rest : List (IssuedRequest × StoreReply)}
    (replies : traced.server.chat.management.replies =
      (request, .groupMembersLoaded result) :: rest)
    (isMessage : qStartsWith result.reqMsgId "grp_notify_" = false) :
    ∃ message ∈ traced.groupMessages,
      traced.groupMessages.take (traced.server.chat.handled.length + 1) =
        traced.groupMessages.take traced.server.chat.handled.length ++ [message] ∧
      ∀ pending, traced.server.chat.delivery.pendingGroupMessages.lookup result.reqMsgId =
        some pending → pending = message.pending := by
  obtain ⟨decided, waiting, first⟩ := decidedFirst_of_reachable reached
  have inFlight := first.inFlight
  have front : traced.server.chat.loadQueue.inFlight.filter isMessageToken =
      result.reqMsgId :: (({ traced.server.chat.loadQueue with
        replies := rest.filterMap fun entry => entry.2.membersResult } :
          LoadQueue).inFlight.filter isMessageToken) := by
    simp [LoadQueue.inFlight, ChatServer.loadQueue, ManagementState.loadReplies, replies,
      StoreReply.membersResult, isMessageToken, isMessage]
  rw [front] at inFlight
  obtain ⟨message, later, isWaiting, token, _⟩ := List.map_eq_cons_iff.mp inFlight
  have count : traced.server.chat.handled.length = decided.length := by
    have lengths := congrArg List.length first.handled
    simpa using lengths.symm
  have known : message ∈ traced.groupMessages := by
    rw [first.split, isWaiting]
    exact List.mem_append_right _ List.mem_cons_self
  refine ⟨message, known, ?_, ?_⟩
  · rw [first.split, isWaiting, count, List.take_left, List.take_append]
    simp
  · intro pending found
    obtain ⟨other, otherIn, isGroup, sameToken, rfl⟩ :=
      (confidential_of_reachable sha256 traced reached).waits result.reqMsgId pending found
    have otherKnown : other ∈ traced.groupMessages :=
      List.mem_filter.mpr ⟨otherIn, decide_eq_true isGroup⟩
    rw [List.inj_on_of_nodup_map (groupMessages_distinct reached) otherKnown known
      (sameToken.trans token.symm)]

theorem handled_le_groups (reached : (tracedSystem Text sha256).Reachable traced) :
    traced.server.chat.handled.length ≤ traced.groupMessages.length := by
  obtain ⟨decided, waiting, first⟩ := decidedFirst_of_reachable reached
  have lengths := congrArg List.length first.handled
  rw [List.length_map, List.length_map] at lengths
  rw [first.split, List.length_append, ← lengths]
  exact Nat.le_add_right _ _

theorem KeepsOrder.next (reached : (tracedSystem Text sha256).Reachable traced)
    (keeps : KeepsOrder traced) (event : ActingEvent) :
    KeepsOrder (traced.next sha256 event) := by
  have reachedChat := chat_reachable sha256 traced.server (acting_reachable sha256 traced reached)
  have step := messageStep sha256 (noticesWait_of_reachable sha256 _ reachedChat) event
  have accepted : (traced.next sha256 event).accepted =
      traced.accepted ++ traced.server.acceptedBy sha256 event := rfl
  have handed : (traced.next sha256 event).handed =
      traced.handed ++ traced.server.handedBy sha256 event := rfl
  have after : (traced.next sha256 event).server = event.next sha256 traced.server := rfl
  generalize traced.server.acceptedBy sha256 event = letIn at step accepted
  generalize traced.server.handedBy sha256 event = given at step handed
  have messages : ∀ sessionType userId,
      (traced.next sha256 event).messagesFor sessionType userId =
        traced.messagesFor sessionType userId ++
          (packetsFor userId given).filter (IsMessage sessionType) := by
    intro sessionType userId
    simp only [TracedServer.messagesFor, handed, packetsFor_append, List.filter_append]
  have privates : ∀ userId, (traced.next sha256 event).privateMessages userId =
      traced.privateMessages userId ++ letIn.filter fun message =>
        message.params.sessionType = "private" ∧ message.params.recipientUserId = userId := by
    intro userId
    simp only [TracedServer.privateMessages, accepted, List.filter_append]
  have groups : (traced.next sha256 event).groupMessages = traced.groupMessages ++
      letIn.filter fun message => message.params.sessionType = "group" := by
    simp only [TracedServer.groupMessages, accepted, List.filter_append]
  cases step with
  | quiet notices _ handled _ =>
      constructor
      · intro userId
        rw [messages, privates, messagesFor_notices notices, keeps.privates]
        simp
      · intro userId
        rw [messages, groups, messagesFor_notices notices, after, handled]
        simpa using keeps.groups userId
  | delivered message _ isPrivate _ _ handled _ =>
      constructor
      · intro userId
        rw [messages, privates, keeps.privates]
        by_cases forUser : message.params.recipientUserId = userId
        · simp [packetsFor, forUser, isPrivate, isMessage_receiveMsg]
        · simp [packetsFor, forUser]
      · intro userId
        have notGroup : (packetsFor userId [(message.params.recipientUserId,
            message.receiveMsg)]).filter (IsMessage "group") = [] := by
          refine List.filter_eq_nil_iff.mpr ?_
          intro packet member
          obtain ⟨entry, entryIn, rfl⟩ := List.mem_map.mp member
          rw [List.mem_singleton.mp (List.mem_filter.mp entryIn).1, isMessage_receiveMsg, isPrivate]
          decide
        rw [messages, groups, notGroup, after, handled]
        simpa [isPrivate] using keeps.groups userId
  | waits message _ isGroup _ handled _ =>
      constructor
      · intro userId
        rw [messages, privates, keeps.privates]
        simp [packetsFor, isGroup]
      · intro userId
        rw [messages, groups, after, handled,
          List.take_append_of_le_length (handled_le_groups reached)]
        simpa [packetsFor] using keeps.groups userId
  | @decided load request result rest replies isMessage _ handled _ =>
      obtain ⟨message, known, decided, waits⟩ := decided_next reached replies isMessage
      have isGroup : message.params.sessionType = "group" :=
        of_decide_eq_true (List.mem_filter.mp known).2
      have delivered : ∀ userId, (packetsFor userId
          ((onGroupMembersForMessage traced.server.chat.delivery load result).2.flatMap
            DeliverySignal.enqueues)).Sublist
              [withGroupName message.receiveMsg result.groupName] := by
        intro userId
        cases waiting : traced.server.chat.delivery.pendingGroupMessages.lookup
          result.reqMsgId with
        | none =>
            simp only [onGroupMembersForMessage, waiting]
            exact List.nil_sublist _
        | some pending =>
            exact packetsFor_decided reachedChat replies isMessage
              (waiting.trans (congrArg some (waits pending waiting))) load userId
      constructor
      · intro userId
        have none : (packetsFor userId
            ((onGroupMembersForMessage traced.server.chat.delivery load result).2.flatMap
              DeliverySignal.enqueues)).filter (IsMessage "private") = [] := by
          refine List.filter_eq_nil_iff.mpr ?_
          intro packet member
          rw [List.mem_singleton.mp ((delivered userId).subset member),
            isMessage_withGroupName, isGroup]
          decide
        rw [messages, privates, none, keeps.privates]
        simp
      · intro userId
        have ids : (((packetsFor userId
            ((onGroupMembersForMessage traced.server.chat.delivery load result).2.flatMap
              DeliverySignal.enqueues)).filter (IsMessage "group")).map Packet.msgId).Sublist
                [message.serverId] := by
          have chosen : ((packetsFor userId
              ((onGroupMembersForMessage traced.server.chat.delivery load result).2.flatMap
                DeliverySignal.enqueues)).filter (IsMessage "group")).Sublist _ :=
            List.filter_sublist
          have kept := (chosen.trans (delivered userId)).map Packet.msgId
          rwa [List.map_singleton, (kind_withGroupName message result.groupName).2.1] at kept
        rw [messages, groups, after, handled, List.length_append, List.map_append]
        simp only [List.filter_nil, List.append_nil, List.length_singleton, decided,
          List.map_append, List.map_singleton]
        exact (keeps.groups userId).append ids

theorem keepsOrder_of_reachable : ∀ traced, (tracedSystem Text sha256).Reachable traced →
    KeepsOrder traced := by
  apply System.Reachable.invariant
  · exact ⟨fun _ => rfl, fun _ => List.Sublist.refl _⟩
  · intro traced event reached keeps _
    exact keeps.next reached event

/-- Private messages are handed over in the order in which they were let
through, none missing and none twice.  Group messages are decided in that order,
the undecided ones are the last, and each member is handed a subsequence of the
decided ones.  What a load result routes to a user are packets handed over for
him, in order. -/
theorem messages_handed_in_order (Text : Type) [JsonDocument Text] (sha256 : List Nat → String)
    (traced : TracedServer Text) (reached : (tracedSystem Text sha256).Reachable traced) :
    (∀ userId, traced.messagesFor "private" userId =
      (traced.privateMessages userId).map AcceptedMessage.receiveMsg) ∧
    (∃ decided waiting, DecidedFirst traced decided waiting ∧
      ∀ userId, ((traced.messagesFor "group" userId).map Packet.msgId).Sublist
        (decided.map AcceptedMessage.serverId)) ∧
    ∀ load ∈ traced.record.loads, load.2.Sublist (packetsFor load.1 traced.handed) := by
  have keeps := keepsOrder_of_reachable traced reached
  obtain ⟨decided, waiting, first⟩ := decidedFirst_of_reachable reached
  have count : traced.server.chat.handled.length = decided.length := by
    have lengths := congrArg List.length first.handled
    simpa using lengths.symm
  refine ⟨keeps.privates, ⟨decided, waiting, first, ?_⟩, ?_⟩
  · intro userId
    have groups := keeps.groups userId
    rwa [first.split, count, List.take_left] at groups
  · intro load member
    have carries := OfflineRecord.carriesPackets_of_reachable _
      (record_reachable sha256 traced reached).1
    have queued := queued_of_reachable sha256 traced reached
    exact (carries.routed load member).trans ((queued.filter _).map _)

end Traced

def aliceTellsBobMore : ActingEvent :=
  .packetReceived "c1" (privatePacket "m2" [("content", .string "still there?")])
    (aliceStamp "srv_2" "grpmsg_2")

theorem messages_handed_in_order_bob :
    (aliceToldBob.next aliceBobDigest aliceTellsBobMore).messagesFor "private" "bob" =
      ((aliceToldBob.next aliceBobDigest aliceTellsBobMore).privateMessages "bob").map
        AcceptedMessage.receiveMsg ∧
    ((aliceToldBob.next aliceBobDigest aliceTellsBobMore).privateMessages "bob").map
      AcceptedMessage.serverId = ["srv_1", "srv_2"] := by
  have reached : (tracedSystem ParsedText aliceBobDigest).Reachable
      (aliceToldBob.next aliceBobDigest aliceTellsBobMore) := by
    refine System.Reachable.step aliceTellsBobMore aliceToldBob_reachable.of_restrict ?_
    exact fun _ => ⟨rfl, ⟨"2", by decide⟩, fun load member => absurd member List.not_mem_nil⟩
  exact ⟨(messages_handed_in_order ParsedText aliceBobDigest _ reached).1 "bob", rfl⟩

end ShirohaChat
