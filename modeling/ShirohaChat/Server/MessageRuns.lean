import ShirohaChat.Lib.Transition
import ShirohaChat.Server.DeliveryRuns
import ShirohaChat.Server.MessageHandler

/-!
# Acknowledged messages are stored

A message is acknowledged when its store request is emitted, and again whenever
the cached result answers a repeated request; the request is executed later by
the database thread.  The row of an acknowledged server id is there then as long
as no executed request is silently ignored.
-/

set_option autoImplicit false

namespace ShirohaChat

open Transition

/-- `received` and `requested` are not state of the program: they record what the
service was given to send, and its store requests. -/
structure MessageServer where
  service : MessageDeliveryService
  acks : List (String × Packet)
  received : List SendMessageParams
  requested : List StoreRequest
  toStore : List StoreRequest
  messages : MessageTable

inductive MessageEvent where
  | sendMessage (session : ClientSession) (packet : Packet) (stamp : SendStamp)
  | groupMembersLoaded (stamp : LoadStamp) (result : GroupMembersResult)
  | storeStep

namespace DeliverySignal

def ackPacket : DeliverySignal → Option (String × Packet)
  | .ackReady session msgId code message serverId =>
      some (session, onAckReady msgId code message serverId)
  | _ => none

def storeRequest : DeliverySignal → Option StoreRequest
  | .requestStoreMessage request => some request
  | _ => none

end DeliverySignal

namespace MessageServer

def empty : MessageServer := ⟨MessageDeliveryService.empty, [], [], [], [], RowTable.empty⟩

def emit (server : MessageServer)
    (outcome : MessageDeliveryService × List DeliverySignal) : MessageServer :=
  { server with
    service := outcome.1
    acks := server.acks ++ outcome.2.filterMap DeliverySignal.ackPacket
    requested := server.requested ++ outcome.2.filterMap DeliverySignal.storeRequest
    toStore := server.toStore ++ outcome.2.filterMap DeliverySignal.storeRequest }

def storeStep (server : MessageServer) : MessageServer :=
  match server.toStore with
  | [] => server
  | request :: rest =>
      { server with
        toStore := rest
        messages := (storeMessage server.messages true request).1 }

end MessageServer

/-- A load that fails says 404 or 500. -/
def MessageEvent.enabled : MessageEvent → Prop
  | .groupMembersLoaded _ result =>
      result.success = false → result.errorCode = 404 ∨ result.errorCode = 500
  | _ => True

def MessageEvent.next (sha256 : List Nat → String) (server : MessageServer) :
    MessageEvent → MessageServer
  | .sendMessage session packet stamp =>
      match handleSendMessage session packet with
      | .error refusal =>
          { server with acks := server.acks ++ [(session.connectionId, refusal)] }
      | .ok params =>
          { server with received := server.received ++ [params] }.emit
            (processSendMessage sha256 server.service stamp params)
  | .groupMembersLoaded stamp result =>
      server.emit (onGroupMembersForMessage server.service stamp result)
  | .storeStep => server.storeStep

def messageSystem (sha256 : List Nat → String) : System MessageServer MessageEvent where
  initial := MessageServer.empty
  enabled := fun _ event => event.enabled
  next := MessageEvent.next sha256

def NotIgnored (server : MessageServer) : MessageEvent → Prop
  | .storeStep => ∀ request, server.toStore.head? = some request →
      Storable server.messages request
  | _ => True

structure StoreRequest.IsFor (request : StoreRequest) (params : SendMessageParams) : Prop where
  msgId : request.msgId = params.msgId
  sender : request.senderUserId = params.senderUserId
  session : request.sessionId = params.sessionId
  content : request.content.getD "" = params.content.getD ""

/-- Each acknowledgement with code 200 answers a message that was received, and
its server id belongs to the request for this message, or for one with its key
that was received as well.  The request waits for the database thread, or its
row is in the table. -/
def AcksStored (server : MessageServer) : Prop :=
  ∀ ack ∈ server.acks, ack.2.code = 200 → ∀ serverId,
    ack.2.payload.value "serverId" = some (.string serverId) →
    ∃ params ∈ server.received, params.senderSession = ack.1 ∧ params.msgId = ack.2.msgId ∧
      ∃ original ∈ server.received,
        requestKeyFor original.senderUserId original.msgId =
          requestKeyFor params.senderUserId params.msgId ∧
        ∃ request ∈ server.requested, request.serverId = serverId ∧ request.IsFor original ∧
          (request ∈ server.toStore ∨ Holds server.messages request)

/-! ## What holds in every run -/

section Backing
variable (received : List SendMessageParams) (requested : List StoreRequest)

def Requested (requestKey serverId : String) : Prop :=
  ∃ original ∈ received, requestKeyFor original.senderUserId original.msgId = requestKey ∧
    ∃ request ∈ requested, request.serverId = serverId ∧ request.IsFor original

def PendingGroupMessage.Waits (pending : PendingGroupMessage) : Prop :=
  ∃ params ∈ received, ∃ timestamp, pending =
    ⟨receiveMessageFor "group" params pending.serverId timestamp,
      requestKeyFor params.senderUserId params.msgId, params.senderUserId, params.sessionId,
      pending.serverId, params.msgId, params.senderSession⟩

structure ServiceBacked (service : MessageDeliveryService) : Prop where
  cached : ∀ requestKey entry, service.idempotencyCache.lookup requestKey = some entry →
    entry.code = 200 → Requested received requested requestKey entry.serverId
  waits : ∀ reqToken pending, service.pendingGroupMessages.lookup reqToken = some pending →
    pending.Waits received

def AcknowledgedAs (session msgId serverId : String) : Prop :=
  ∃ params ∈ received, params.senderSession = session ∧ params.msgId = msgId ∧
    Requested received requested (requestKeyFor params.senderUserId params.msgId) serverId

end Backing

section Grown
variable {received : List SendMessageParams} {requested : List StoreRequest}
  (more : List SendMessageParams) (added : List StoreRequest)

theorem Requested.append {requestKey serverId : String}
    (before : Requested received requested requestKey serverId) :
    Requested (received ++ more) (requested ++ added) requestKey serverId := by
  obtain ⟨original, isReceived, ownKey, request, isRequested, named, isFor⟩ := before
  exact ⟨original, List.mem_append_left _ isReceived, ownKey, request,
    List.mem_append_left _ isRequested, named, isFor⟩

theorem Requested.of_new {params : SendMessageParams} (isReceived : params ∈ received)
    {request : StoreRequest} (isFor : request.IsFor params) :
    Requested received (requested ++ [request])
      (requestKeyFor params.senderUserId params.msgId) request.serverId :=
  ⟨params, isReceived, rfl, request, List.mem_append_right _ (List.mem_singleton_self _), rfl,
    isFor⟩

theorem AcknowledgedAs.append {session msgId serverId : String}
    (before : AcknowledgedAs received requested session msgId serverId) :
    AcknowledgedAs (received ++ more) (requested ++ added) session msgId serverId := by
  obtain ⟨params, isReceived, here, ownId, isRequested⟩ := before
  exact ⟨params, List.mem_append_left _ isReceived, here, ownId, isRequested.append more added⟩

namespace ServiceBacked

variable {service : MessageDeliveryService}

theorem append (backed : ServiceBacked received requested service) :
    ServiceBacked (received ++ more) (requested ++ added) service := by
  refine ⟨fun requestKey entry found ok =>
    (backed.cached requestKey entry found ok).append more added, ?_⟩
  intro reqToken pending found
  obtain ⟨params, isReceived, timestamp, isPending⟩ := backed.waits reqToken pending found
  exact ⟨params, List.mem_append_left _ isReceived, timestamp, isPending⟩

theorem prune (backed : ServiceBacked received requested service) (nowMs : Int) :
    ServiceBacked received requested (service.pruneIdempotencyCache nowMs) :=
  ⟨fun requestKey entry found ok =>
    backed.cached requestKey entry (service.lookup_prune nowMs requestKey entry found) ok,
    backed.waits⟩

theorem take (backed : ServiceBacked received requested service) (token requestKey : String) :
    ServiceBacked received requested (service.take token requestKey) :=
  ⟨backed.cached, fun reqToken pending found =>
    backed.waits reqToken pending (FiniteMap.of_lookup_erase found).2⟩

theorem remember (backed : ServiceBacked received requested service) (requestKey : String)
    (entry : IdempotencyEntry)
    (own : entry.code = 200 → Requested received requested requestKey entry.serverId) :
    ServiceBacked received requested (service.remember requestKey entry) := by
  refine ⟨?_, backed.waits⟩
  intro other found isFound ok
  rw [MessageDeliveryService.lookup_remember] at isFound
  split at isFound
  · rename_i isKey
    cases isFound
    rw [isKey]
    exact own ok
  · exact backed.cached other found isFound ok

end ServiceBacked

end Grown

structure Backs (received : List SendMessageParams) (before : List StoreRequest)
    (outcome : MessageDeliveryService × List DeliverySignal) : Prop where
  backed : ServiceBacked received (before ++ outcome.2.filterMap DeliverySignal.storeRequest)
    outcome.1
  acked : ∀ session msgId message serverId,
    DeliverySignal.ackReady session msgId 200 message serverId ∈ outcome.2 →
    AcknowledgedAs received (before ++ outcome.2.filterMap DeliverySignal.storeRequest)
      session msgId serverId

theorem backs_processSendMessage (sha256 : List Nat → String)
    {service : MessageDeliveryService} {received : List SendMessageParams}
    {before : List StoreRequest} (backed : ServiceBacked received before service)
    (stamp : SendStamp) (params : SendMessageParams) :
    Backs (received ++ [params]) before (processSendMessage sha256 service stamp params) := by
  have pruned := backed.prune stamp.prunedAt
  have isReceived : params ∈ received ++ [params] :=
    List.mem_append_right _ (List.mem_singleton_self _)
  rcases processSendMessage_cases sha256 service stamp params with
    ⟨entry, cached, result⟩ | ⟨_, code, message, notOk, result⟩ | ⟨_, result⟩ |
    ⟨_, _, result⟩ | ⟨_, _, result⟩
  · rw [result]
    refine ⟨pruned.append _ _, ?_⟩
    intro session msgId message serverId member
    simp only [List.mem_singleton, DeliverySignal.ackReady.injEq] at member
    obtain ⟨rfl, rfl, ok, _, rfl⟩ := member
    exact ⟨params, isReceived, rfl, rfl, (pruned.cached _ entry cached ok.symm).append _ _⟩
  · rw [result]
    refine ⟨pruned.append _ _, ?_⟩
    intro session msgId message serverId member
    simp only [List.mem_singleton, DeliverySignal.ackReady.injEq] at member
    exact absurd member.2.2.1.symm notOk
  · rw [result]
    have own : Requested (received ++ [params]) (before ++ [⟨params.msgId, params.sessionId,
        params.senderUserId, params.content, stamp.timestamp, stamp.serverId⟩])
        (requestKeyFor params.senderUserId params.msgId) stamp.serverId :=
      Requested.of_new isReceived ⟨rfl, rfl, rfl, rfl⟩
    refine ⟨((pruned.append _ _).remember _ _ fun _ => own).prune _, ?_⟩
    intro session msgId message serverId member
    simp at member
    obtain ⟨rfl, rfl, _, rfl⟩ := member
    exact ⟨params, isReceived, rfl, rfl, own⟩
  · rw [result]
    refine ⟨pruned.append _ _, ?_⟩
    intro session msgId message serverId member
    cases member
  · rw [result]
    refine ⟨⟨(pruned.append _ _).cached, ?_⟩, ?_⟩
    · intro reqToken pending found
      rcases FiniteMap.of_lookup_insert found with ⟨_, rfl⟩ | ⟨_, old⟩
      · exact ⟨params, isReceived, stamp.timestamp, rfl⟩
      · exact (pruned.append [params] ([] : List StoreRequest)).waits reqToken pending old
    · intro session msgId message serverId member
      simp at member

/-- The content of a group message comes back out of the packet it was put in. -/
theorem content_withGroupName (params : SendMessageParams)
    (sessionType serverId timestamp groupName : String) :
    jsonString ((withGroupName (receiveMessageFor sessionType params serverId timestamp)
      groupName).payload.value "content") = some (params.content.getD "") := by
  unfold withGroupName
  split
  · rfl
  · rfl

theorem backs_onGroupMembersForMessage {service : MessageDeliveryService}
    {received : List SendMessageParams} {before : List StoreRequest}
    (backed : ServiceBacked received before service) (stamp : LoadStamp)
    (result : GroupMembersResult)
    (loads : result.success = false → result.errorCode = 404 ∨ result.errorCode = 500) :
    Backs received before (onGroupMembersForMessage service stamp result) := by
  have grown : ∀ {after : MessageDeliveryService} (added : List StoreRequest),
      ServiceBacked received before after → ServiceBacked received (before ++ added) after := by
    intro after added isBacked
    have appended := isBacked.append [] added
    rwa [List.append_nil] at appended
  rcases onGroupMembersForMessage_cases service stamp result with
    ⟨_, handled⟩ | ⟨pending, found, ⟨failed, handled⟩ | ⟨_, _, handled⟩ | ⟨_, _, handled⟩⟩
  · rw [handled]
    refine ⟨grown _ backed, ?_⟩
    intro session msgId message serverId member
    cases member
  · rw [handled]
    refine ⟨grown _ (backed.take _ _), ?_⟩
    intro session msgId message serverId member
    simp only [List.mem_singleton, DeliverySignal.ackReady.injEq] at member
    rcases loads failed with notFound | broken
    · rw [notFound] at member
      exact absurd member.2.2.1 (by decide)
    · rw [broken] at member
      exact absurd member.2.2.1 (by decide)
  · rw [handled]
    have notOk : ¬ (403 : Int32) = 200 := by decide
    refine ⟨((grown _ (backed.take _ _)).remember _ _ fun ok => absurd ok notOk).prune _, ?_⟩
    intro session msgId message serverId member
    simp only [List.mem_singleton, DeliverySignal.ackReady.injEq] at member
    exact absurd member.2.2.1.symm notOk
  · rw [handled]
    obtain ⟨params, isReceived, timestamp, isPending⟩ := backed.waits _ pending found
    generalize pending.serverId = ownId at isPending ⊢
    subst isPending
    simp only [content_withGroupName]
    have own : Requested received (before ++ [⟨params.msgId, params.sessionId,
        params.senderUserId, some (params.content.getD ""),
        (withGroupName (receiveMessageFor "group" params ownId timestamp)
          result.groupName).timestampUtc, ownId⟩])
        (requestKeyFor params.senderUserId params.msgId) ownId :=
      Requested.of_new isReceived ⟨rfl, rfl, rfl, rfl⟩
    refine ⟨((grown _ (backed.take _ _)).remember _ _ fun _ => own).prune _, ?_⟩
    intro session msgId message serverId member
    simp at member
    obtain ⟨rfl, rfl, _, rfl⟩ := member
    exact ⟨params, isReceived, rfl, rfl, own⟩

/-! ## The invariant -/

structure KeepsStored (server : MessageServer) : Prop where
  backed : ServiceBacked server.received server.requested server.service
  acked : ∀ ack ∈ server.acks, ack.2.code = 200 → ∀ serverId,
    ack.2.payload.value "serverId" = some (.string serverId) →
    AcknowledgedAs server.received server.requested ack.1 ack.2.msgId serverId
  executed : ∀ request ∈ server.requested,
    request ∈ server.toStore ∨ Holds server.messages request

theorem KeepsStored.emit {server : MessageServer} (keeps : KeepsStored server)
    (given : List SendMessageParams) (outcome : MessageDeliveryService × List DeliverySignal)
    (backs : Backs (server.received ++ given) server.requested outcome) :
    KeepsStored ({ server with received := server.received ++ given }.emit outcome) := by
  refine ⟨backs.backed, ?_, ?_⟩
  · intro ack member ok serverId states
    rcases List.mem_append.mp member with old | added
    · exact (keeps.acked ack old ok serverId states).append _ _
    · obtain ⟨signal, emitted, isAck⟩ := List.mem_filterMap.mp added
      cases signal with
      | ackReady session msgId code message ownId =>
          cases isAck
          obtain ⟨rfl, rfl⟩ := onAckReady_serverId states
          exact backs.acked session msgId message ownId emitted
      | _ => cases isAck
  · intro request member
    rcases List.mem_append.mp member with old | added
    · rcases keeps.executed request old with waits | holds
      · exact Or.inl (List.mem_append_left _ waits)
      · exact Or.inr holds
    · exact Or.inl (List.mem_append_right _ added)

theorem handleSendMessage_refusal {session : ClientSession} {packet refusal : Packet}
    (refused : handleSendMessage session packet = .error refusal) :
    refusal.code = 401 ∨ refusal.code = 400 := by
  unfold handleSendMessage at refused
  simp only at refused
  repeat' split at refused
  all_goals cases refused
  · exact Or.inl rfl
  all_goals exact Or.inr rfl

theorem KeepsStored.step {server : MessageServer} (keeps : KeepsStored server)
    (sha256 : List Nat → String) (event : MessageEvent) (enabled : event.enabled)
    (notIgnored : NotIgnored server event) : KeepsStored (event.next sha256 server) := by
  cases event with
  | sendMessage session packet stamp =>
      simp only [MessageEvent.next]
      split
      · rename_i refusal refused
        refine ⟨keeps.backed, ?_, keeps.executed⟩
        intro ack member ok
        rcases List.mem_append.mp member with old | added
        · exact keeps.acked ack old ok
        · rw [List.mem_singleton.mp added] at ok
          rcases handleSendMessage_refusal refused with unauthenticated | invalid
          · exact absurd (unauthenticated.symm.trans ok) (by decide)
          · exact absurd (invalid.symm.trans ok) (by decide)
      · exact keeps.emit [_] _ (backs_processSendMessage sha256 keeps.backed stamp _)
  | groupMembersLoaded stamp result =>
      have backs := backs_onGroupMembersForMessage keeps.backed stamp result enabled
      have kept := keeps.emit [] _ (by rw [List.append_nil]; exact backs)
      rwa [List.append_nil] at kept
  | storeStep =>
      simp only [MessageEvent.next, MessageServer.storeStep]
      split
      · exact keeps
      · rename_i request rest waiting
        have storable := notIgnored request (by rw [waiting, List.head?_cons])
        refine ⟨keeps.backed, keeps.acked, ?_⟩
        intro other member
        rcases keeps.executed other member with waits | holds
        · rw [waiting] at waits
          rcases List.mem_cons.mp waits with rfl | later
          · exact Or.inr ((holds_storeMessage_iff _ _).mpr (Or.inr storable))
          · exact Or.inl later
        · exact Or.inr (holds_storeMessage_of_holds true request holds)

/-- As long as the database thread ignores no request, every acknowledged
message has its row or is on its way; and an executed request leaves its row
behind exactly when it is not ignored. -/
theorem acknowledged_message_stored (sha256 : List Nat → String) (server : MessageServer)
    (reached : ((messageSystem sha256).restrict NotIgnored).Reachable server) :
    AcksStored server ∧
      ∀ request, Holds (storeMessage server.messages true request).1 request ↔
        Holds server.messages request ∨ Storable server.messages request := by
  have keeps : KeepsStored server := by
    refine System.Reachable.invariant ?_ ?_ server reached
    · refine ⟨⟨?_, ?_⟩, ?_, ?_⟩
      · intro requestKey entry found
        cases found
      · intro reqToken pending found
        cases found
      · intro ack member
        cases member
      · intro request member
        cases member
    · intro before event _ keeps enabled
      exact keeps.step sha256 event enabled.1 enabled.2
  refine ⟨?_, fun request => holds_storeMessage_iff server.messages request⟩
  intro ack member ok serverId states
  obtain ⟨params, isReceived, here, ownId, original, alsoReceived, sameKey, request, requested,
    named, isFor⟩ := keeps.acked ack member ok serverId states
  exact ⟨params, isReceived, here, ownId, original, alsoReceived, sameKey, request, requested,
    named, isFor, keeps.executed request requested⟩

def privatePacket (msgId : String) (content : List (String × QJsonValue)) : Packet :=
  { cmd := .sendMessage
    msgId := msgId
    payload := [("sessionType", .string "private"),
      ("sessionId", .string "1e2af26470aae83866fd22e2907b8d1b"),
      ("recipientUserId", .string "bob")] ++ content }

def aliceSession : ClientSession :=
  ⟨"c1", 0, "alice", "Alice", true, .connected⟩

def bobSession : ClientSession :=
  ⟨"c2", 0, "bob", "Bob", true, .connected⟩

def aliceStores : List MessageEvent :=
  [.sendMessage aliceSession (privatePacket "m1" [("content", .string "hi")])
      (aliceStamp "srv_1" "grpmsg_1"),
    .storeStep]

theorem acknowledged_message_stored_alice :
    AcksStored (aliceStores.foldl (MessageEvent.next aliceBobDigest) MessageServer.empty) := by
  have reached : ((messageSystem aliceBobDigest).restrict NotIgnored).Reachable
      (aliceStores.foldl (MessageEvent.next aliceBobDigest) MessageServer.empty) := by
    refine System.Reachable.run aliceStores _ System.Reachable.initial ?_
    refine ⟨⟨trivial, trivial⟩, ⟨trivial, ?_⟩, trivial⟩
    intro request waiting
    cases waiting
    exact ⟨Option.some_ne_none _, nofun⟩
  exact (acknowledged_message_stored aliceBobDigest _ reached).1

def bothUseTheId : List MessageEvent :=
  [.sendMessage aliceSession (privatePacket "m1" [("content", .string "hi")])
      (aliceStamp "srv_1" "grpmsg_1"),
    .sendMessage bobSession
      { cmd := .sendMessage
        msgId := "m1"
        payload := [("sessionType", .string "group"), ("sessionId", .string "grp_1"),
          ("content", .string "hello")] }
      (aliceStamp "srv_2" "grpmsg_2"),
    .groupMembersLoaded ⟨1000, 1000⟩
      { groupId := "grp_1", groupName := "G", members := ["alice", "bob"],
        reqMsgId := "grpmsg_2" },
    .storeStep, .storeStep]

/-- Bob's message is acknowledged as `srv_2` and has no row once both requests
are executed. -/
theorem acknowledged_message_lost :
    ¬ ∀ server, (messageSystem aliceBobDigest).Reachable server → AcksStored server := by
  intro always
  have reached : (messageSystem aliceBobDigest).Reachable
      (bothUseTheId.foldl (MessageEvent.next aliceBobDigest) MessageServer.empty) := by
    refine System.Reachable.run bothUseTheId _ System.Reachable.initial ?_
    exact ⟨trivial, trivial, nofun, trivial, trivial, trivial⟩
  obtain ⟨_, _, _, _, _, _, _, request, _, named, _, waits | ⟨row, member, sameId, _⟩⟩ :=
    always _ reached ("c2", onAckReady "m1" 200 "" "srv_2") (List.Mem.tail _ (List.Mem.head _))
      rfl "srv_2" rfl
  · cases waits
  · rw [named] at sameId
    cases member with
    | head => exact absurd sameId (by decide)
    | tail _ rest => cases rest

end ShirohaChat
