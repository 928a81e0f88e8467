import ShirohaChat.Server.QueuedMessages
import ShirohaChat.Server.RequestKeys

/-!
# What a successful acknowledgement says

A message is acknowledged with code 200 when it is handed on, and again from the
cache when its sender repeats it.  Cached outcomes outlive what they are about,
so each is accounted for by the message behind it: one that was let through
under the same key and handed on.
-/

set_option autoImplicit false

namespace ShirohaChat

open Transition

/-! ## Calls of the delivery service -/

def CacheAccounted (accounts : String → String → Prop) (service : MessageDeliveryService) :
    Prop :=
  ∀ requestKey entry, service.idempotencyCache.lookup requestKey = some entry →
    entry.code = 200 → accounts requestKey entry.serverId

namespace CacheAccounted

variable {accounts : String → String → Prop} {service : MessageDeliveryService}

theorem mono {others : String → String → Prop} (accounted : CacheAccounted accounts service)
    (grows : ∀ key serverId, accounts key serverId → others key serverId) :
    CacheAccounted others service :=
  fun requestKey entry found ok => grows _ _ (accounted requestKey entry found ok)

theorem prune (accounted : CacheAccounted accounts service) (nowMs : Int) :
    CacheAccounted accounts (service.pruneIdempotencyCache nowMs) :=
  fun requestKey entry found ok =>
    accounted requestKey entry (service.lookup_prune nowMs requestKey entry found) ok

theorem remember (accounted : CacheAccounted accounts service) {requestKey : String}
    {entry : IdempotencyEntry} (own : entry.code = 200 → accounts requestKey entry.serverId) :
    CacheAccounted accounts (service.remember requestKey entry) := by
  intro other found isFound ok
  rw [MessageDeliveryService.lookup_remember] at isFound
  split at isFound
  · rename_i isKey
    cases isFound
    rw [isKey]
    exact own ok
  · exact accounted other found isFound ok

/-- A request is acknowledged as successful for what is cached under its key, or
for itself. -/
theorem processSendMessage (accounted : CacheAccounted accounts service)
    (sha256 : List Nat → String) (stamp : SendStamp) (params : SendMessageParams)
    (new : AcceptsPrivate sha256 (service.pruneIdempotencyCache stamp.prunedAt) params →
      accounts (requestKeyFor params.senderUserId params.msgId) stamp.serverId) :
    CacheAccounted accounts (processSendMessage sha256 service stamp params).1 ∧
    ∀ session msgId message serverId, DeliverySignal.ackReady session msgId 200 message serverId ∈
        (ShirohaChat.processSendMessage sha256 service stamp params).2 →
      session = params.senderSession ∧ msgId = params.msgId ∧
        accounts (requestKeyFor params.senderUserId params.msgId) serverId := by
  have pruned := accounted.prune stamp.prunedAt
  rcases processSendMessage_cases sha256 service stamp params with
    ⟨entry, cached, result⟩ | ⟨_, code, message, notOk, result⟩ | ⟨accepts, result⟩ |
    ⟨_, _, result⟩ | ⟨_, _, result⟩
  · rw [result]
    refine ⟨pruned, ?_⟩
    intro session msgId message serverId member
    simp only [List.mem_singleton, DeliverySignal.ackReady.injEq] at member
    obtain ⟨rfl, rfl, ok, _, rfl⟩ := member
    exact ⟨rfl, rfl, pruned _ entry cached ok.symm⟩
  · rw [result]
    refine ⟨pruned, ?_⟩
    intro session msgId text serverId member
    simp only [List.mem_singleton, DeliverySignal.ackReady.injEq] at member
    exact absurd member.2.2.1.symm notOk
  · rw [result]
    refine ⟨(pruned.remember fun _ => new accepts).prune _, ?_⟩
    intro session msgId message serverId member
    simp at member
    obtain ⟨rfl, rfl, _, rfl⟩ := member
    exact ⟨rfl, rfl, new accepts⟩
  · rw [result]
    refine ⟨pruned, ?_⟩
    intro session msgId message serverId member
    cases member
  · rw [result]
    refine ⟨pruned, ?_⟩
    intro session msgId message serverId member
    simp at member

/-- A member list acknowledges the message that waited for it. -/
theorem onGroupMembersForMessage (accounted : CacheAccounted accounts service)
    (stamp : LoadStamp) {result : GroupMembersResult}
    (new : ∀ pending, service.pendingGroupMessages.lookup result.reqMsgId = some pending →
      (result.success = false → result.errorCode = 404 ∨ result.errorCode = 500) ∧
      (result.success = true → pending.senderUserId ∈ result.members →
        accounts pending.requestKey pending.serverId)) :
    CacheAccounted accounts (onGroupMembersForMessage service stamp result).1 ∧
    ∀ session msgId message serverId, DeliverySignal.ackReady session msgId 200 message serverId ∈
        (ShirohaChat.onGroupMembersForMessage service stamp result).2 →
      ∃ pending, service.pendingGroupMessages.lookup result.reqMsgId = some pending ∧
        session = pending.senderSession ∧ msgId = pending.clientMsgId ∧
        accounts pending.requestKey serverId := by
  rcases onGroupMembersForMessage_cases service stamp result with
    ⟨_, handled⟩ | ⟨pending, waits, ⟨failed, handled⟩ | ⟨_, _, handled⟩ |
      ⟨success, insider, handled⟩⟩
  · rw [handled]
    refine ⟨accounted, ?_⟩
    intro session msgId message serverId member
    cases member
  · rw [handled]
    refine ⟨accounted, ?_⟩
    intro session msgId message serverId member
    simp only [List.mem_singleton, DeliverySignal.ackReady.injEq] at member
    rcases (new pending waits).1 failed with notFound | broken
    · rw [notFound] at member
      exact absurd member.2.2.1 (by decide)
    · rw [broken] at member
      exact absurd member.2.2.1 (by decide)
  · rw [handled]
    have notOk : ¬ (403 : Int32) = 200 := by decide
    have taken : CacheAccounted accounts (service.take result.reqMsgId pending.requestKey) :=
      accounted
    refine ⟨(taken.remember fun ok => absurd ok notOk).prune _, ?_⟩
    intro session msgId message serverId member
    simp only [List.mem_singleton, DeliverySignal.ackReady.injEq] at member
    exact absurd member.2.2.1.symm notOk
  · rw [handled]
    have own := (new pending waits).2 success insider
    have taken : CacheAccounted accounts (service.take result.reqMsgId pending.requestKey) :=
      accounted
    refine ⟨(taken.remember fun _ => own).prune _, ?_⟩
    intro session msgId message serverId member
    simp at member
    obtain ⟨rfl, rfl, _, rfl⟩ := member
    exact ⟨pending, waits, rfl, rfl, own⟩

end CacheAccounted

/-! ## Acknowledgements of a step -/

theorem ackReady_of_sentAcks {manager : SessionManager} {signals : List DeliverySignal}
    {ack : SentAck} (member : ack ∈ ChatServer.sentAcks manager signals) :
    ∃ msgId code message serverId,
      DeliverySignal.ackReady ack.session msgId code message serverId ∈ signals ∧
        ack.packet = onAckReady msgId code message serverId := by
  obtain ⟨sent, isSent, rfl⟩ := List.mem_map.mp member
  obtain ⟨signal, emitted, isAck⟩ := List.mem_filterMap.mp isSent
  cases signal with
  | ackReady session msgId code message serverId =>
      cases isAck
      exact ⟨msgId, code, message, serverId, emitted, rfl⟩
  | _ => cases isAck

theorem serverId_onAckReady (msgId message serverId : String) :
    jsonText ((onAckReady msgId 200 message serverId).payload.value "serverId") = serverId := by
  unfold onAckReady
  by_cases named : serverId = ""
  · simp [named, Packet.makeAck, QJsonObject.value, jsonText, jsonString]
  · simp [named, Packet.makeAck, QJsonObject.value, jsonText, jsonString]

theorem acks_runDelivery (server : ChatServer) (request : IssuedRequest)
    (outcome : MessageDeliveryService × List DeliverySignal) :
    (server.runDelivery request outcome).acks =
      server.acks ++ ChatServer.sentAcks server.management.manager outcome.2 := by
  unfold ChatServer.runDelivery
  have emitted : ∀ (signals : List DeliverySignal) (before : ChatServer),
      (signals.foldl (ChatServer.emitDelivery request) before).acks =
        before.acks ++ ChatServer.sentAcks before.management.manager signals := by
    intro signals
    induction signals with
    | nil => exact fun before => (List.append_nil _).symm
    | cons signal rest ih =>
        intro before
        rw [List.foldl_cons, ih]
        cases signal with
        | ackReady session msgId code message serverId =>
            simp [ChatServer.emitDelivery, ChatServer.acknowledge, ChatServer.sentAcks,
              DeliverySignal.ackPacket]
        | _ => rfl
  exact emitted outcome.2 _

inductive DeliveryStep (sha256 : List Nat → String) (before after : ChatServer) :
    ActingEvent → Prop where
  | quiet {event : ActingEvent} (delivery : after.delivery = before.delivery)
      (acks : ∃ added, after.acks = before.acks ++ added ∧
        ∀ ack ∈ added, ack.packet.code ≠ 200) : DeliveryStep sha256 before after event
  | request {connectionId : String} {packet : Packet} {stamp : SendStamp}
      {session : ClientSession} {params : SendMessageParams}
      (isSend : packet.cmd = .sendMessage)
      (found : before.management.manager.findByConnectionId connectionId = some session)
      (handled : handleSendMessage session packet = .ok params)
      (delivery : after.delivery =
        (processSendMessage sha256 before.delivery stamp params).1)
      (acks : after.acks = before.acks ++ ChatServer.sentAcks before.management.manager
        (processSendMessage sha256 before.delivery stamp params).2) :
      DeliveryStep sha256 before after (.packetReceived connectionId packet stamp)
  | members {notify : NotifyStamp} {load : LoadStamp} {request : IssuedRequest}
      {result : GroupMembersResult} {rest : List (IssuedRequest × StoreReply)}
      (replies : before.management.replies = (request, .groupMembersLoaded result) :: rest)
      (isMessage : qStartsWith result.reqMsgId "grp_notify_" = false)
      (delivery : after.delivery = (onGroupMembersForMessage before.delivery load result).1)
      (acks : after.acks = before.acks ++ ChatServer.sentAcks before.management.manager
        (onGroupMembersForMessage before.delivery load result).2) :
      DeliveryStep sha256 before after (.handleNext notify load)

section Acting
variable {Text : Type} [JsonDocument Text] (sha256 : List Nat → String)

theorem DeliveryStep.idle {before after : ChatServer} {event : ActingEvent}
    (delivery : after.delivery = before.delivery) (acks : after.acks = before.acks) :
    DeliveryStep sha256 before after event :=
  .quiet delivery ⟨[], by rw [acks, List.append_nil], fun _ member =>
    absurd member List.not_mem_nil⟩

theorem deliveryStep_sendMessage {server : ChatServer} {connectionId : String}
    {session : ClientSession} {packet : Packet} (stamp : SendStamp)
    (isSend : packet.cmd = .sendMessage)
    (found : server.management.manager.findByConnectionId connectionId = some session) :
    DeliveryStep sha256 server (server.sendMessage sha256 connectionId packet stamp)
      (.packetReceived connectionId packet stamp) := by
  cases handled : handleSendMessage session packet with
  | error refusal =>
      rw [sendMessage_refused sha256 found handled]
      refine .quiet rfl ⟨_, rfl, ?_⟩
      intro ack member ok
      rw [List.mem_singleton.mp member] at ok
      rcases handleSendMessage_refusal handled with unauthenticated | invalid
      · exact absurd (unauthenticated.symm.trans ok) (by decide)
      · exact absurd (invalid.symm.trans ok) (by decide)
  | ok params =>
      refine .request isSend found handled (sendMessage_accepted sha256 stamp found handled).1 ?_
      simp only [ChatServer.sendMessage, found, handled]
      exact acks_runDelivery _ _ _

theorem deliveryStep (server : ActingServer Text) (event : ActingEvent) :
    DeliveryStep sha256 server.chat (event.next sha256 server).chat event := by
  cases event with
  | packetReceived connectionId packet stamp =>
      simp only [ActingEvent.next, ActingServer.onPacketReceived]
      cases found : server.chat.management.manager.findByConnectionId connectionId with
      | none => exact .idle sha256 rfl rfl
      | some session =>
          simp only
          split
          · rename_i isSend
            exact deliveryStep_sendMessage sha256 stamp isSend found
          · exact .idle sha256 rfl rfl
          · exact .idle sha256 rfl rfl
  | handleNext notify load =>
      rw [ActingEvent.next, chat_handleNext]
      rcases server.chat.onManagement_cases (.handleNext notify) load with
        ⟨_, request, result, rest, _, replies, isMessage⟩ | ⟨delivery, acks, _⟩
      · have stepped := ChatServer.onManagement_message replies isMessage notify load
        rw [stepped]
        exact .members replies isMessage rfl rfl
      · exact .idle sha256 delivery acks
  | _ => exact .idle sha256 rfl rfl

/-! ## Messages that were handed on -/

/-- The message has gone to its recipient, or to everybody but its sender who is
a member in the one list read for it. -/
inductive TracedServer.HandedOn (traced : TracedServer Text) (message : AcceptedMessage) :
    Prop where
  | recipient (isPrivate : message.params.sessionType = "private")
      (ownSession : message.params.sessionId = computePrivateSessionId sha256
        message.params.senderUserId message.params.recipientUserId)
      (given : (message.params.recipientUserId, message.receiveMsg) ∈ traced.handed)
  | members (isGroup : message.params.sessionType = "group") (load : RanLoad)
      (read : load ∈ traced.server.chat.ran) (succeeded : load.Succeeded)
      (asked : load.query = ⟨message.params.sessionId, message.reqToken⟩)
      (sender : load.store.IsMember message.params.sessionId message.params.senderUserId)
      (groupName : String)
      (given : ∀ userId, load.store.IsMember message.params.sessionId userId →
        userId ≠ message.params.senderUserId →
          (userId, withGroupName message.receiveMsg groupName) ∈ traced.handed)

def TracedServer.Accounts (traced : TracedServer Text) (requestKey serverId : String) : Prop :=
  ∃ message ∈ traced.accepted, message.pending.requestKey = requestKey ∧
    message.serverId = serverId ∧ traced.HandedOn sha256 message

section Step
variable {sha256} {traced : TracedServer Text}

omit [JsonDocument Text] in
theorem TracedServer.HandedOn.grows {after : TracedServer Text} {message : AcceptedMessage}
    (handedOn : traced.HandedOn sha256 message)
    (handed : ∀ entry ∈ traced.handed, entry ∈ after.handed)
    (ran : ∀ load ∈ traced.server.chat.ran, load ∈ after.server.chat.ran) :
    after.HandedOn sha256 message := by
  cases handedOn with
  | recipient isPrivate ownSession given => exact .recipient isPrivate ownSession (handed _ given)
  | members isGroup load read succeeded asked sender groupName given =>
      refine .members isGroup load (ran load read) succeeded asked sender groupName ?_
      exact fun userId isMember others => handed _ (given userId isMember others)

theorem TracedServer.Accounts.next {requestKey serverId : String}
    (accounts : traced.Accounts sha256 requestKey serverId) (event : ActingEvent) :
    (traced.next sha256 event).Accounts sha256 requestKey serverId := by
  obtain ⟨message, accepted, ownKey, ownId, handedOn⟩ := accounts
  refine ⟨message, List.mem_append_left _ accepted, ownKey, ownId, handedOn.grows ?_ ?_⟩
  · exact fun entry member => List.mem_append_left _ member
  · exact ran_next sha256 traced.server event

/-- Keys of users without a colon in their names tell them and their ids apart. -/
theorem requestKeyFor_inj {userId other msgId otherId : String}
    (plain : ':' ∉ userId.toList) (otherPlain : ':' ∉ other.toList)
    (same : requestKeyFor userId msgId = requestKeyFor other otherId) :
    userId = other ∧ msgId = otherId := by
  rcases (key_eq_iff (userId, msgId) (other, otherId)).mp same with isName | shares
  · exact Prod.mk.inj isName
  · have holdsColon : ∀ {left piece : List Char}, ':' ∈ Joined.join ':' left piece :=
      List.mem_append_right _ List.mem_cons_self
    rcases shares with ⟨piece, isOther, _⟩ | ⟨piece, isUser, _⟩
    · exact absurd (isOther ▸ holdsColon) otherPlain
    · exact absurd (isUser ▸ holdsColon) plain

theorem accounts_request {connectionId : String} {packet : Packet} {stamp : SendStamp}
    {session : ClientSession} {params : SendMessageParams} (isSend : packet.cmd = .sendMessage)
    (found : traced.server.chat.management.manager.findByConnectionId connectionId =
      some session)
    (handled : handleSendMessage session packet = .ok params)
    (accepts : AcceptsPrivate sha256
      (traced.server.chat.delivery.pruneIdempotencyCache stamp.prunedAt) params) :
    (traced.next sha256 (.packetReceived connectionId packet stamp)).Accounts sha256
      (requestKeyFor params.senderUserId params.msgId) stamp.serverId := by
  obtain ⟨uncached, fits, idMatches, isPrivate⟩ := id accepts
  have signals : (processSendMessage sha256 traced.server.chat.delivery stamp params).2 =
      [.ackReady params.senderSession params.msgId 200 "" stamp.serverId,
        .requestStoreMessage ⟨params.msgId, params.sessionId, params.senderUserId,
          params.content, stamp.timestamp, stamp.serverId⟩,
        .enqueueIfOffline params.recipientUserId
          (receiveMessageFor "private" params stamp.serverId stamp.timestamp)] := by
    simp [processSendMessage, uncached, fits, idMatches, isPrivate]
  let message : AcceptedMessage :=
    ⟨session.origin, params, stamp.serverId, stamp.timestamp, stamp.reqToken⟩
  have accepted : traced.server.acceptedBy sha256 (.packetReceived connectionId packet stamp) =
      [message] := by
    simp [ActingServer.acceptedBy, ActingServer.acceptedFrom, found, isSend, handled, signals,
      letThrough, DeliverySignal.enqueues, message]
  have handed : traced.server.handedBy sha256 (.packetReceived connectionId packet stamp) =
      [(params.recipientUserId, message.receiveMsg)] := by
    simp [ActingServer.handedBy, ActingServer.sendSignals, found, isSend, handled, signals,
      DeliverySignal.enqueues, AcceptedMessage.receiveMsg, isPrivate, message]
  have ownSession : params.sessionId =
      computePrivateSessionId sha256 params.senderUserId params.recipientUserId := by
    simpa [sessionIdMismatch, isPrivate] using idMatches
  refine ⟨message, List.mem_append_right _ ?_, rfl, rfl, .recipient isPrivate ownSession ?_⟩
  · rw [accepted]
    exact List.mem_singleton_self _
  · refine List.mem_append_right _ ?_
    rw [handed]
    exact List.mem_singleton_self _

theorem accounts_members (reached : (tracedSystem Text sha256).Reachable traced)
    {notify : NotifyStamp} {load : LoadStamp} {request : IssuedRequest}
    {result : GroupMembersResult} {rest : List (IssuedRequest × StoreReply)}
    (replies : traced.server.chat.management.replies =
      (request, .groupMembersLoaded result) :: rest)
    (isMessage : qStartsWith result.reqMsgId "grp_notify_" = false)
    {pending : PendingGroupMessage}
    (waits : traced.server.chat.delivery.pendingGroupMessages.lookup result.reqMsgId =
      some pending) :
    (result.success = false → result.errorCode = 404 ∨ result.errorCode = 500) ∧
    (result.success = true → pending.senderUserId ∈ result.members →
      (traced.next sha256 (.handleNext notify load)).Accounts sha256 pending.requestKey
        pending.serverId) := by
  have reachedChat := chat_reachable sha256 traced.server (acting_reachable sha256 traced reached)
  obtain ⟨named, ran, ranIn, isResult, query, consistent⟩ :=
    ran_for_message sha256 reachedChat replies isMessage waits
  obtain ⟨message, accepted, isGroup, token, rfl⟩ :=
    (confidential_of_reachable sha256 traced reached).waits result.reqMsgId pending waits
  have asked : ran.query = ⟨message.params.sessionId, message.reqToken⟩ := by
    rw [query, token]
    rfl
  rcases ran.result_cases consistent with ⟨failed, code, _⟩ | ⟨success, succeeded, _, members⟩
  · rw [isResult] at failed code
    exact ⟨fun _ => code, fun success => absurd (success.symm.trans failed) (by decide)⟩
  rw [isResult] at success members
  rw [asked] at members
  refine ⟨fun failed => absurd (failed.symm.trans success) (by decide), ?_⟩
  intro _ insider
  refine ⟨message, List.mem_append_left _ accepted, rfl, rfl, .members isGroup ran
    (ran_next sha256 traced.server _ ran ranIn) succeeded asked ((members _).mp insider)
    result.groupName ?_⟩
  intro userId isMember others
  have front : traced.server.chat.nextMembers = some (request, result) := by
    simp [ChatServer.nextMembers, replies, isMessage]
  have fanOut : (userId, withGroupName message.receiveMsg result.groupName) ∈
      traced.server.fanOut load := by
    rcases onGroupMembersForMessage_cases traced.server.chat.delivery load result with
      ⟨unknown, _⟩ | ⟨found, isFound, ⟨failed, _⟩ | ⟨_, outsider, _⟩ | ⟨_, _, handled⟩⟩
    · rw [unknown] at waits
      cases waits
    · exact absurd (failed.symm.trans success) (by decide)
    · rw [isFound] at waits
      cases waits
      exact absurd insider outsider
    · rw [isFound] at waits
      cases waits
      have chosen : (userId, withGroupName message.pending.receiveMsg result.groupName) ∈
          enqueueIfOfflineMany result.members
            (withGroupName message.pending.receiveMsg result.groupName)
            message.pending.senderUserId := by
        refine List.mem_map.mpr ⟨userId, List.mem_filter.mpr ⟨(members userId).mpr isMember, ?_⟩,
          rfl⟩
        simp [AcceptedMessage.pending, others]
      simp only [ActingServer.fanOut, front, handled]
      simpa [DeliverySignal.enqueues, AcceptedMessage.pending] using chosen
  exact List.mem_append_right _ (List.mem_append_right _ fanOut)

inductive SendsFrom (traced : TracedServer Text) (event : ActingEvent) (connectionId : String)
    (userId : String) : Prop where
  | now {packet : Packet} {stamp : SendStamp} {session : ClientSession}
      (isPacket : event = .packetReceived connectionId packet stamp)
      (found : traced.server.chat.management.manager.findByConnectionId connectionId =
        some session)
      (authenticated : session.isAuthenticated = true) (isUser : session.userId = userId) :
      SendsFrom traced event connectionId userId
  | before (message : AcceptedMessage) (accepted : message ∈ traced.accepted)
      (here : message.params.senderSession = connectionId)
      (isUser : message.params.senderUserId = userId) : SendsFrom traced event connectionId userId

variable (sha256) in
/-- A successful acknowledgement that a step adds goes where a user has sent from,
and the message under his key is accounted for. -/
def AckAccounted (traced : TracedServer Text) (event : ActingEvent) (ack : SentAck) : Prop :=
  ack.packet.code = 200 → ∃ userId, SendsFrom traced event ack.session userId ∧
    (traced.next sha256 event).Accounts sha256 (requestKeyFor userId ack.packet.msgId)
      (jsonText (ack.packet.payload.value "serverId"))

theorem accounted_next (reached : (tracedSystem Text sha256).Reachable traced)
    (accounted : CacheAccounted (traced.Accounts sha256) traced.server.chat.delivery)
    (event : ActingEvent) :
    CacheAccounted ((traced.next sha256 event).Accounts sha256)
      (traced.next sha256 event).server.chat.delivery ∧
    ∃ added, (traced.next sha256 event).server.chat.acks =
        traced.server.chat.acks ++ added ∧
      ∀ ack ∈ added, AckAccounted sha256 traced event ack := by
  have wellFormed := sessionsWellFormed_of_reachable _ (manager_reachable sha256 traced reached)
  have later := accounted.mono fun key serverId known => known.next event
  have step := deliveryStep sha256 traced.server event
  have after : (traced.next sha256 event).server = event.next sha256 traced.server := rfl
  rw [after]
  cases step with
  | quiet delivery acks =>
      obtain ⟨added, acks, unsuccessful⟩ := acks
      rw [delivery]
      exact ⟨later, added, acks, fun ack member ok => absurd ok (unsuccessful ack member)⟩
  | @request connectionId packet stamp session params isSend found handled delivery acks =>
      obtain ⟨authenticated, sender, ownSession, ownId⟩ := handleSendMessage_ok handled
      have here : params.senderSession = connectionId :=
        ownSession.trans (wellFormed.ownId connectionId session found)
      obtain ⟨cached, acked⟩ := later.processSendMessage sha256 stamp params
        (accounts_request isSend found handled)
      rw [delivery]
      refine ⟨cached, _, acks, ?_⟩
      intro ack member ok
      obtain ⟨msgId, code, message, serverId, emitted, isPacket⟩ := ackReady_of_sentAcks member
      rw [isPacket] at ok ⊢
      have isOk : code = 200 := ok
      subst isOk
      obtain ⟨isSession, rfl, known⟩ := acked _ _ _ _ emitted
      rw [serverId_onAckReady]
      refine ⟨params.senderUserId, ?_, known⟩
      rw [isSession, here]
      exact .now rfl found authenticated sender.symm
  | @members notify load request result rest replies isMessage delivery acks =>
      obtain ⟨cached, acked⟩ := later.onGroupMembersForMessage load
        fun pending waits => accounts_members reached replies isMessage waits
      rw [delivery]
      refine ⟨cached, _, acks, ?_⟩
      intro ack member ok
      obtain ⟨msgId, code, message, serverId, emitted, isPacket⟩ := ackReady_of_sentAcks member
      rw [isPacket] at ok ⊢
      have isOk : code = 200 := ok
      subst isOk
      obtain ⟨pending, waits, isSession, rfl, known⟩ := acked _ _ _ _ emitted
      obtain ⟨accepted, isAccepted, _, _, rfl⟩ :=
        (confidential_of_reachable sha256 traced reached).waits _ pending waits
      rw [serverId_onAckReady]
      exact ⟨accepted.params.senderUserId, .before accepted isAccepted isSession.symm rfl, known⟩

end Step

theorem accounted_of_reachable : ∀ traced, (tracedSystem Text sha256).Reachable traced →
    CacheAccounted (traced.Accounts sha256) traced.server.chat.delivery := by
  apply System.Reachable.invariant
  · intro requestKey entry found
    cases found
  · intro traced event reached accounted _
    exact (accounted_next reached accounted event).1

end Acting
end ShirohaChat
