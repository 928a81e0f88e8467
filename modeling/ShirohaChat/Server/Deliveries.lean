import ShirohaChat.Server.RequestActors
import ShirohaChat.Server.SendAcknowledgement
import ShirohaChat.Server.OfflineRoundTrip
import ShirohaChat.Server.Notices

/-!
# Messages from the handler to the wire

The server with a record of the messages that `processSendMessage` lets through,
of the calls of `enqueueIfOffline`, and of what the offline queue does with
them.  A private message is handed over at once, a group message once its member
list has come in; nothing else hands over a `receive_message`.
-/

set_option autoImplicit false

namespace ShirohaChat

open Transition

/-! ## Messages that are let through -/

structure AcceptedMessage where
  origin : PacketOrigin
  params : SendMessageParams
  serverId : String
  timestamp : String
  reqToken : String

namespace AcceptedMessage

def receiveMsg (message : AcceptedMessage) : Packet :=
  receiveMessageFor message.params.sessionType message.params message.serverId message.timestamp

def isGroup (message : AcceptedMessage) : Bool := message.params.sessionType = "group"

def pending (message : AcceptedMessage) : PendingGroupMessage :=
  ⟨message.receiveMsg, requestKeyFor message.params.senderUserId message.params.msgId,
    message.params.senderUserId, message.params.sessionId, message.serverId,
    message.params.msgId, message.params.senderSession⟩

end AcceptedMessage

def letThrough (signals : List DeliverySignal) : Bool :=
  signals.flatMap DeliverySignal.enqueues ≠ [] ∨ signals.filterMap DeliverySignal.loadToken ≠ []

theorem handleSendMessage_kind {session : ClientSession} {packet : Packet}
    {params : SendMessageParams} (accepted : handleSendMessage session packet = .ok params) :
    params.sessionType = "private" ∨ params.sessionType = "group" := by
  unfold handleSendMessage at accepted
  simp only at accepted
  repeat' split at accepted
  case isFalse.isFalse.isFalse.isFalse.isTrue.isFalse.isFalse isPrivate _ _ =>
    cases accepted
    exact Or.inl isPrivate
  case isFalse.isFalse.isFalse.isFalse.isFalse.isFalse isGroup =>
    cases accepted
    exact Or.inr (not_not.mp isGroup)
  all_goals cases accepted

/-- What a request comes to besides an answer: nothing, a delivery to the named
recipient, or a message that waits for its member list. -/
inductive RequestOutcome (sha256 : List Nat → String) (service : MessageDeliveryService)
    (stamp : SendStamp) (params : SendMessageParams) :
    MessageDeliveryService × List DeliverySignal → Prop where
  | answered {after : MessageDeliveryService} {signals : List DeliverySignal}
      (kept : after.pendingGroupMessages = service.pendingGroupMessages)
      (delivers : signals.flatMap DeliverySignal.enqueues = [])
      (asks : signals.filterMap DeliverySignal.loadToken = []) :
      RequestOutcome sha256 service stamp params (after, signals)
  | delivered {after : MessageDeliveryService} {signals : List DeliverySignal}
      (isPrivate : params.sessionType = "private")
      (ownSession : params.sessionId =
        computePrivateSessionId sha256 params.senderUserId params.recipientUserId)
      (kept : after.pendingGroupMessages = service.pendingGroupMessages)
      (delivers : signals.flatMap DeliverySignal.enqueues =
        [(params.recipientUserId,
          receiveMessageFor "private" params stamp.serverId stamp.timestamp)])
      (asks : signals.filterMap DeliverySignal.loadToken = []) :
      RequestOutcome sha256 service stamp params (after, signals)
  | waits {after : MessageDeliveryService} (isGroup : params.sessionType ≠ "private")
      (inserted : after.pendingGroupMessages = service.pendingGroupMessages.insert stamp.reqToken
        ⟨receiveMessageFor "group" params stamp.serverId stamp.timestamp,
          requestKeyFor params.senderUserId params.msgId, params.senderUserId,
          params.sessionId, stamp.serverId, params.msgId, params.senderSession⟩) :
      RequestOutcome sha256 service stamp params
        (after, [.requestLoadGroupMembers ⟨params.sessionId, stamp.reqToken⟩])

theorem processSendMessage_requestOutcome (sha256 : List Nat → String)
    (service : MessageDeliveryService) (stamp : SendStamp) (params : SendMessageParams) :
    RequestOutcome sha256 service stamp params
      (processSendMessage sha256 service stamp params) := by
  unfold processSendMessage
  simp only
  split
  · exact .answered rfl rfl rfl
  split
  · exact .answered rfl rfl rfl
  split
  · exact .answered rfl rfl rfl
  rename_i idMatches
  split
  · rename_i isPrivate
    refine .delivered isPrivate ?_ rfl rfl rfl
    simpa [sessionIdMismatch, isPrivate] using idMatches
  · rename_i isGroup
    split
    · exact .answered rfl rfl rfl
    · exact .waits isGroup rfl

/-! ## The record -/

structure TracedServer (Text : Type) where
  server : ActingServer Text
  accepted : List AcceptedMessage
  handed : List (String × Packet)
  record : OfflineRecord Text

section Traced
variable {Text : Type} [JsonDocument Text] (sha256 : List Nat → String)

namespace ActingServer

/-- The message of a `SendMessage` packet, if it is let through. -/
def acceptedFrom (server : ActingServer Text) (session : ClientSession) (packet : Packet)
    (stamp : SendStamp) : List AcceptedMessage :=
  match handleSendMessage session packet with
  | .error _ => []
  | .ok params =>
      if letThrough (processSendMessage sha256 server.chat.delivery stamp params).2 then
        [⟨session.origin, params, stamp.serverId, stamp.timestamp, stamp.reqToken⟩]
      else []

def acceptedBy (server : ActingServer Text) : ActingEvent → List AcceptedMessage
  | .packetReceived connectionId packet stamp =>
      match server.chat.management.manager.findByConnectionId connectionId with
      | none => []
      | some session =>
          if packet.cmd = .sendMessage then server.acceptedFrom sha256 session packet stamp else []
  | _ => []

def notices (server : ActingServer Text) (notify : NotifyStamp) (load : LoadStamp) :
    List (String × Packet) :=
  (server.chat.onManagement (.handleNext notify) load).management.notified.drop
    server.chat.management.notified.length

def fanOut (server : ActingServer Text) (load : LoadStamp) : List (String × Packet) :=
  match server.chat.nextMembers with
  | none => []
  | some (_, result) =>
      (onGroupMembersForMessage server.chat.delivery load result).2.flatMap
        DeliverySignal.enqueues

def handedBy (server : ActingServer Text) : ActingEvent → List (String × Packet)
  | .packetReceived connectionId packet stamp =>
      match server.chat.management.manager.findByConnectionId connectionId with
      | none => []
      | some session =>
          if packet.cmd = .sendMessage then
            (server.sendSignals sha256 session packet stamp).flatMap DeliverySignal.enqueues
          else []
  | .handleNext notify load => server.notices notify load ++ server.fanOut load
  | _ => []

/-- What a step is for the offline server. -/
def offlineEvents (server : ActingServer Text) : ActingEvent → List OfflineEvent
  | .session event => [.session event]
  | .packetReceived connectionId packet stamp =>
      if packet.cmd = .messageReceivedAck then
        match server.chat.management.manager.findByConnectionId connectionId with
        | none => []
        | some _ => [.messageReceivedAck connectionId packet.msgId]
      else
        (server.handedBy sha256 (.packetReceived connectionId packet stamp)).map fun handed =>
          .enqueueIfOffline handed.1 handed.2
  | .storeStep ok => [.storeStep ok]
  | .offlineLoaded => [.offlineLoaded]
  | event => (server.handedBy sha256 event).map fun handed =>
      .enqueueIfOffline handed.1 handed.2

end ActingServer

namespace TracedServer

def empty : TracedServer Text := ⟨ActingServer.empty, [], [], ⟨OfflineServer.empty, [], [], []⟩⟩

def next (traced : TracedServer Text) (event : ActingEvent) : TracedServer Text :=
  { server := event.next sha256 traced.server
    accepted := traced.accepted ++ traced.server.acceptedBy sha256 event
    handed := traced.handed ++ traced.server.handedBy sha256 event
    record := (traced.server.offlineEvents sha256 event).foldl OfflineRecord.next
      traced.record }

end TracedServer

def tracedSystem (Text : Type) [JsonDocument Text] (sha256 : List Nat → String) :
    System (TracedServer Text) ActingEvent where
  initial := TracedServer.empty
  enabled traced := ActingEvent.enabled traced.server
  next := TracedServer.next sha256

/-! ## The parts of a run -/

theorem acting_reachable : ∀ traced, (tracedSystem Text sha256).Reachable traced →
    (actingSystem Text sha256).Reachable traced.server := by
  refine System.Reachable.simulates TracedServer.server rfl ?_
  intro traced event _ enabled
  exact Or.inr ⟨event, enabled, rfl⟩

section Offline
variable (server : ActingServer Text)

theorem ActingServer.deliver_append (first second : List (String × Packet)) :
    (server.deliver first).deliver second = server.deliver (first ++ second) := by
  simp only [ActingServer.deliver, List.foldl_append]

theorem ActingServer.offline_deliver (handed : List (String × Packet)) :
    (server.deliver handed).offline =
      (handed.map fun handed => OfflineEvent.enqueueIfOffline handed.1 handed.2).foldl
        OfflineEvent.next server.offline := by
  rw [List.foldl_map]
  rfl

theorem offline_next (event : ActingEvent) :
    (event.next sha256 server).offline =
      (server.offlineEvents sha256 event).foldl OfflineEvent.next server.offline := by
  cases event with
  | packetReceived connectionId packet stamp =>
      simp only [ActingEvent.next, ActingServer.onPacketReceived, ActingServer.offlineEvents,
        ActingServer.handedBy]
      cases found : server.chat.management.manager.findByConnectionId connectionId with
      | none =>
          simp only [List.map_nil, ite_self]
          rfl
      | some session =>
          simp only
          split
          · rename_i isSend
            rw [if_neg (by rw [isSend]; decide), if_pos isSend, ← ActingServer.offline_deliver]
            rfl
          · rename_i isAck
            rw [if_pos isAck]
            rfl
          · rename_i notSend notAck
            rw [if_neg notAck, if_neg notSend]
            rfl
  | handleNext notify load =>
      simp only [ActingEvent.next, ActingServer.handleNext, ActingServer.offlineEvents,
        ActingServer.handedBy, ActingServer.fanOut]
      rw [← ActingServer.offline_deliver, ← ActingServer.deliver_append]
      cases server.chat.nextMembers <;> rfl
  | _ => rfl

end Offline

omit [JsonDocument Text] in
/-- A step is one event for the offline server, or its calls of `enqueueIfOffline`. -/
theorem offlineEvents_cases (server : ActingServer Text) (event : ActingEvent) :
    (server.handedBy sha256 event = [] ∧ ∃ offline, server.offlineEvents sha256 event = [offline] ∧
      ∀ userId packet, offline ≠ .enqueueIfOffline userId packet) ∨
    server.offlineEvents sha256 event = (server.handedBy sha256 event).map fun handed =>
      .enqueueIfOffline handed.1 handed.2 := by
  cases event with
  | packetReceived connectionId packet stamp =>
      simp only [ActingServer.offlineEvents, ActingServer.handedBy]
      cases found : server.chat.management.manager.findByConnectionId connectionId with
      | none =>
          refine Or.inr ?_
          simp only [List.map_nil, ite_self]
      | some session =>
          simp only
          by_cases isAck : packet.cmd = .messageReceivedAck
          · rw [if_pos isAck, if_neg (by rw [isAck]; decide)]
            exact Or.inl ⟨rfl, _, rfl, nofun⟩
          · rw [if_neg isAck]
            exact Or.inr rfl
  | session event => exact Or.inl ⟨rfl, _, rfl, nofun⟩
  | storeStep ok => exact Or.inl ⟨rfl, _, rfl, nofun⟩
  | offlineLoaded => exact Or.inl ⟨rfl, _, rfl, nofun⟩
  | _ => exact Or.inr rfl

theorem record_server : ∀ (events : List OfflineEvent) (record : OfflineRecord Text),
    (events.foldl OfflineRecord.next record).server =
      events.foldl OfflineEvent.next record.server := by
  intro events
  induction events with
  | nil => exact fun record => rfl
  | cons event rest ih => exact fun record => ih (record.next event)

theorem enabled_log : ∀ (events : List OfflineEvent) (record : OfflineRecord Text),
    (offlineLogSystem Text).Enabled record events := by
  intro events
  induction events with
  | nil => exact fun record => trivial
  | cons event rest ih => exact fun record => ⟨trivial, ih (record.next event)⟩

/-- The record is a run of the offline server, which is that of the program. -/
theorem record_reachable : ∀ traced, (tracedSystem Text sha256).Reachable traced →
    (offlineLogSystem Text).Reachable traced.record ∧
      traced.record.server = traced.server.offline := by
  apply System.Reachable.invariant
  · exact ⟨System.Reachable.initial, rfl⟩
  · rintro traced event _ ⟨reached, same⟩ _
    constructor
    · exact System.Reachable.run _ _ reached (enabled_log _ _)
    · show ((traced.server.offlineEvents sha256 event).foldl OfflineRecord.next
        traced.record).server = _
      rw [record_server, same]
      exact (offline_next sha256 traced.server event).symm

/-- What calls of `enqueueIfOffline` queue is among what they are given. -/
theorem queued_handed (handed : List (String × Packet)) :
    ∀ record : OfflineRecord Text, ∃ queued : List (String × Packet), queued.Sublist handed ∧
      ((handed.map fun handed => OfflineEvent.enqueueIfOffline handed.1 handed.2).foldl
        OfflineRecord.next record).queued = record.queued ++ queued := by
  induction handed with
  | nil => exact fun record => ⟨[], List.nil_sublist _, (List.append_nil _).symm⟩
  | cons first rest ih =>
      intro record
      obtain ⟨queued, inOrder, after⟩ := ih (record.next (.enqueueIfOffline first.1 first.2))
      have here : (record.next (.enqueueIfOffline first.1 first.2)).queued =
          record.queued ++ if record.Queues first.1 first.2 then [first] else [] := by
        simp only [OfflineRecord.next, OfflineRecord.recordQueued]
        split <;> simp
      refine ⟨(if record.Queues first.1 first.2 then [first] else []) ++ queued, ?_, ?_⟩
      · split
        · exact inOrder.cons_cons first
        · exact inOrder.cons first
      · rw [List.map_cons, List.foldl_cons, after, here, List.append_assoc]

/-- What is queued was handed over, in the same order. -/
theorem queued_of_reachable : ∀ traced, (tracedSystem Text sha256).Reachable traced →
    traced.record.queued.Sublist traced.handed := by
  apply System.Reachable.invariant
  · exact List.Sublist.refl _
  · intro traced event _ inOrder _
    show ((traced.server.offlineEvents sha256 event).foldl OfflineRecord.next
      traced.record).queued.Sublist (traced.handed ++ traced.server.handedBy sha256 event)
    rcases offlineEvents_cases sha256 traced.server event with ⟨none, offline, one, other⟩ | calls
    · rw [one, none, List.append_nil]
      cases offline with
      | enqueueIfOffline userId packet => exact absurd rfl (other userId packet)
      | _ => exact inOrder
    · obtain ⟨queued, now, after⟩ :=
        queued_handed (traced.server.handedBy sha256 event) traced.record
      rw [calls, after]
      exact inOrder.append now

/-! ## What a step does for messages -/

/-- The sender is the authenticated user of the connection. -/
def AcceptedMessage.Own (message : AcceptedMessage) : Prop :=
  message.origin.isAuthenticated = true ∧ message.origin.userId = message.params.senderUserId

inductive MessageStep (before after : ChatServer) :
    List AcceptedMessage → List (String × Packet) → Prop where
  | quiet {handed : List (String × Packet)} (notices : Notices handed)
      (pending : after.delivery.pendingGroupMessages = before.delivery.pendingGroupMessages)
      (handled : after.handled = before.handled)
      (loads : ∃ added, after.loads = before.loads ++ added ∧
        ∀ load ∈ added, ∀ pending, load.waiter ≠ .message pending) :
      MessageStep before after [] handed
  | delivered (message : AcceptedMessage) (own : message.Own)
      (isPrivate : message.params.sessionType = "private")
      (ownSession : message.params.sessionId = computePrivateSessionId sha256
        message.params.senderUserId message.params.recipientUserId)
      (pending : after.delivery.pendingGroupMessages = before.delivery.pendingGroupMessages)
      (handled : after.handled = before.handled) (loads : after.loads = before.loads) :
      MessageStep before after [message] [(message.params.recipientUserId, message.receiveMsg)]
  | waits (message : AcceptedMessage) (own : message.Own)
      (isGroup : message.params.sessionType = "group")
      (pending : after.delivery.pendingGroupMessages =
        before.delivery.pendingGroupMessages.insert message.reqToken message.pending)
      (handled : after.handled = before.handled)
      (loads : after.loads = before.loads ++
        [⟨⟨message.params.sessionId, message.reqToken⟩, .message message.pending⟩]) :
      MessageStep before after [message] []
  | decided (load : LoadStamp) {request : IssuedRequest} {result : GroupMembersResult}
      {rest : List (IssuedRequest × StoreReply)}
      (replies : before.management.replies = (request, .groupMembersLoaded result) :: rest)
      (isMessage : qStartsWith result.reqMsgId "grp_notify_" = false)
      (pending : ∀ token, after.delivery.pendingGroupMessages.lookup token =
        if token = result.reqMsgId then none
        else before.delivery.pendingGroupMessages.lookup token)
      (handled : after.handled = before.handled ++
        [(result.reqMsgId, (onGroupMembersForMessage before.delivery load result).2)])
      (loads : after.loads = before.loads) :
      MessageStep before after []
        ((onGroupMembersForMessage before.delivery load result).2.flatMap DeliverySignal.enqueues)

theorem MessageStep.idle {before after : ChatServer}
    (pending : after.delivery.pendingGroupMessages = before.delivery.pendingGroupMessages)
    (handled : after.handled = before.handled) (loads : after.loads = before.loads) :
    MessageStep sha256 before after [] [] :=
  .quiet notices_nil pending handled
    ⟨[], by rw [loads, List.append_nil], fun _ member => absurd member List.not_mem_nil⟩

theorem quiet_of_asks {signals : List DeliverySignal}
    (asks : signals.filterMap DeliverySignal.loadToken = []) :
    ∀ signal ∈ signals, ∀ query, signal ≠ .requestLoadGroupMembers query := by
  rintro signal member query rfl
  have unasked := List.filterMap_eq_nil_iff.mp asks _ member
  cases unasked

theorem messageStep_onSendMessage {server : ActingServer Text} {connectionId : String}
    {session : ClientSession} {packet : Packet} (stamp : SendStamp)
    (found : server.chat.management.manager.findByConnectionId connectionId = some session) :
    MessageStep sha256 server.chat
      (server.onSendMessage sha256 connectionId session packet stamp).chat
      (server.acceptedFrom sha256 session packet stamp)
      ((server.sendSignals sha256 session packet stamp).flatMap DeliverySignal.enqueues) := by
  have chat : (server.onSendMessage sha256 connectionId session packet stamp).chat =
      server.chat.sendMessage sha256 connectionId packet stamp := rfl
  rw [chat]
  unfold ActingServer.acceptedFrom ActingServer.sendSignals
  cases handled : handleSendMessage session packet with
  | error refusal =>
      rw [sendMessage_refused sha256 found handled]
      exact .idle sha256 rfl rfl rfl
  | ok params =>
      obtain ⟨authenticated, sender, _, _⟩ := handleSendMessage_ok handled
      have own : AcceptedMessage.Own ⟨session.origin, params, stamp.serverId, stamp.timestamp,
          stamp.reqToken⟩ := ⟨authenticated, sender.symm⟩
      have stepped : server.chat.sendMessage sha256 connectionId packet stamp =
          { server.chat with
            sent := server.chat.sent ++ [(params.senderSession, params.msgId)] }.runDelivery
              ⟨0, params.senderSession, packet.cmd, packet.msgId⟩
              (processSendMessage sha256 server.chat.delivery stamp params) := by
        simp only [ChatServer.sendMessage, found, handled]
      rw [stepped]
      simp only
      have outcome := processSendMessage_requestOutcome sha256 server.chat.delivery stamp params
      generalize processSendMessage sha256 server.chat.delivery stamp params = result at outcome
      cases outcome with
      | @answered after signals kept delivers asks =>
          have blocked : letThrough signals = false := by simp [letThrough, delivers, asks]
          rw [ChatServer.runDelivery_of_quiet _ _ (quiet_of_asks asks), delivers, blocked,
            if_neg Bool.false_ne_true]
          exact .idle sha256 kept rfl rfl
      | @delivered after signals isPrivate ownSession kept delivers asks =>
          have passes : letThrough signals = true := by simp [letThrough, delivers]
          rw [ChatServer.runDelivery_of_quiet _ _ (quiet_of_asks asks), delivers, passes,
            if_pos rfl, ← isPrivate]
          exact .delivered ⟨session.origin, params, _, _, _⟩ own isPrivate ownSession kept rfl rfl
      | @waits after notPrivate inserted =>
          have isGroup := (handleSendMessage_kind handled).resolve_left notPrivate
          rw [← isGroup] at inserted
          unfold ChatServer.runDelivery
          rw [List.foldl_cons, List.foldl_nil]
          refine .waits ⟨session.origin, params, _, _, _⟩ own isGroup inserted rfl ?_
          simp only [ChatServer.emitDelivery, inserted, FiniteMap.lookup_insert, if_pos]
          rfl

theorem replies_of_nextMembers {server : ChatServer} {request : IssuedRequest}
    {result : GroupMembersResult} (front : server.nextMembers = some (request, result)) :
    ∃ rest, server.management.replies = (request, .groupMembersLoaded result) :: rest ∧
      qStartsWith result.reqMsgId "grp_notify_" = false := by
  unfold ChatServer.nextMembers at front
  split at front
  · rename_i other members rest replies
    split at front
    · cases front
    · rename_i notNotify
      cases front
      exact ⟨rest, replies, Bool.eq_false_iff.mpr notNotify⟩
  · cases front

theorem chat_handleNext (server : ActingServer Text) (notify : NotifyStamp) (load : LoadStamp) :
    (server.handleNext notify load).chat = server.chat.onManagement (.handleNext notify) load := by
  unfold ActingServer.handleNext
  cases server.chat.nextMembers <;> rfl

theorem messageStep_handleNext {server : ActingServer Text}
    (waits : NoticesWait server.chat.management.group) (notify : NotifyStamp) (load : LoadStamp) :
    MessageStep sha256 server.chat (server.handleNext notify load).chat []
      (server.notices notify load ++ server.fanOut load) := by
  rw [chat_handleNext]
  unfold ActingServer.fanOut
  cases front : server.chat.nextMembers with
  | none =>
      obtain ⟨told, notified, notices⟩ :=
        (ManagementState.tellsNotices_next waits (.handleNext notify)).told
      have tells : server.notices notify load = told := by
        unfold ActingServer.notices
        rw [management_onManagement, notified, List.drop_left]
      simp only [tells, List.append_nil]
      have stepped : server.chat.onManagement (.handleNext notify) load =
          { server.chat with
            management := ManagementEvent.next server.chat.management (.handleNext notify)
            loads := server.chat.loads ++ ChatServer.askedBy server.chat.management
              (ManagementEvent.next server.chat.management (.handleNext notify)) } := by
        simp only [ChatServer.onManagement, front]
      rw [stepped]
      refine .quiet notices rfl rfl ⟨_, rfl, ?_⟩
      intro asked member pending isMessage
      obtain ⟨query, _, isAsked⟩ := List.mem_filterMap.mp member
      obtain ⟨notification, _, rfl⟩ := Option.map_eq_some_iff.mp isAsked
      cases isMessage
  | some taken =>
      obtain ⟨request, result⟩ := taken
      obtain ⟨rest, replies, isMessage⟩ := replies_of_nextMembers front
      have stepped := ChatServer.onManagement_message replies isMessage notify load
      have silent : server.notices notify load = [] := by
        unfold ActingServer.notices
        rw [stepped]
        exact List.drop_length
      rw [silent, List.nil_append, stepped]
      exact .decided load replies isMessage
        (lookup_onGroupMembersForMessage server.chat.delivery load result) rfl rfl

theorem messageStep {server : ActingServer Text}
    (waits : NoticesWait server.chat.management.group) (event : ActingEvent) :
    MessageStep sha256 server.chat (event.next sha256 server).chat
      (server.acceptedBy sha256 event) (server.handedBy sha256 event) := by
  cases event with
  | packetReceived connectionId packet stamp =>
      simp only [ActingEvent.next, ActingServer.onPacketReceived, ActingServer.acceptedBy,
        ActingServer.handedBy]
      cases found : server.chat.management.manager.findByConnectionId connectionId with
      | none => exact .idle sha256 rfl rfl rfl
      | some session =>
          simp only
          split
          · rename_i isSend
            rw [if_pos isSend, if_pos isSend]
            exact messageStep_onSendMessage sha256 stamp found
          · rename_i isAck
            rw [if_neg (by rw [isAck]; decide), if_neg (by rw [isAck]; decide)]
            exact .idle sha256 rfl rfl rfl
          · rename_i notSend notAck
            rw [if_neg notSend, if_neg notSend]
            exact .idle sha256 rfl rfl rfl
  | handleNext notify load => exact messageStep_handleNext sha256 waits notify load
  | _ => exact .idle sha256 rfl rfl rfl

/-! ## The chat server in a run -/

theorem ran_runDelivery (server : ChatServer) (request : IssuedRequest)
    (outcome : MessageDeliveryService × List DeliverySignal) :
    (server.runDelivery request outcome).ran = server.ran := by
  unfold ChatServer.runDelivery
  generalize outcome.2 = signals
  have emitted : ∀ before : ChatServer,
      (signals.foldl (ChatServer.emitDelivery request) before).ran = before.ran := by
    induction signals with
    | nil => exact fun before => rfl
    | cons signal rest ih =>
        intro before
        rw [List.foldl_cons, ih]
        cases signal <;> rfl
  exact emitted _

theorem ran_next (server : ActingServer Text) (event : ActingEvent) :
    ∀ load ∈ server.chat.ran, load ∈ (event.next sha256 server).chat.ran := by
  intro load member
  cases event with
  | packetReceived connectionId packet stamp =>
      simp only [ActingEvent.next, ActingServer.onPacketReceived]
      split
      · exact member
      · split
        · show load ∈ (server.chat.sendMessage sha256 connectionId packet stamp).ran
          unfold ChatServer.sendMessage
          split
          · exact member
          · split
            · exact member
            · rw [ran_runDelivery]
              exact member
        · exact member
        · exact member
  | executeNext run => exact List.mem_append_left _ member
  | handleNext notify stamp =>
      rw [ActingEvent.next, chat_handleNext]
      unfold ChatServer.onManagement
      simp only
      split
      · exact member
      · rw [ran_runDelivery]
        exact member
  | _ => exact member

theorem chat_reachable : ∀ server, (actingSystem Text sha256).Reachable server →
    (chatSystem sha256).Reachable server.chat := by
  refine System.Reachable.simulates ActingServer.chat rfl ?_
  intro server event _ enabled
  cases event with
  | session event =>
      exact Or.inr ⟨.management (.session event) ⟨0, 0⟩,
        ChatEvent.enabled_session enabled.1 ⟨0, 0⟩, rfl⟩
  | sessionDeleted connectionId =>
      exact Or.inr ⟨.management (.sessionDeleted connectionId) ⟨0, 0⟩,
        ⟨trivial, by simp, by simp⟩, rfl⟩
  | ensureUser run userId nickname =>
      exact Or.inr ⟨.management (.ensureUser run userId nickname) ⟨0, 0⟩,
        ⟨trivial, by simp, by simp⟩, rfl⟩
  | packetReceived connectionId packet stamp =>
      simp only [actingSystem, ActingEvent.next, ActingServer.onPacketReceived]
      split
      · exact Or.inl rfl
      · split
        · rename_i isSend
          exact Or.inr ⟨.sendMessage connectionId packet stamp, enabled isSend, rfl⟩
        · exact Or.inl rfl
        · rename_i notSend _
          refine Or.inr ⟨.management (.packetReceived connectionId packet) ⟨0, 0⟩,
            ⟨trivial, ?_, by simp⟩, rfl⟩
          intro other received isPacket
          cases isPacket
          exact notSend
  | executeNext run =>
      exact Or.inr ⟨.management (.executeNext run) ⟨0, 0⟩,
        ChatEvent.enabled_executeNext _ _ ⟨0, 0⟩, rfl⟩
  | handleNext notify load =>
      exact Or.inr ⟨.management (.handleNext notify) load, enabled,
        chat_handleNext server notify load⟩
  | storeStep ok => exact Or.inl rfl
  | offlineLoaded => exact Or.inl rfl

theorem noticesWait_of_reachable : ∀ server : ChatServer, (chatSystem sha256).Reachable server →
    NoticesWait server.management.group := by
  apply System.Reachable.invariant
  · intro token pending found
    cases found
  · intro server event _ waits _
    cases event with
    | management event stamp =>
        simp only [chatSystem, ChatEvent.next, management_onManagement]
        exact (ManagementState.tellsNotices_next waits event).waits
    | sendMessage connectionId packet stamp =>
        simp only [chatSystem, ChatEvent.next]
        rcases management_sendMessage sha256 server connectionId packet stamp with
          same | ⟨request, query, asked⟩
        · rw [same]
          exact waits
        · rw [asked]
          exact waits

/-! ## Sessions -/

theorem sessions_offlineNext (server : OfflineServer Text) (event : OfflineEvent)
    (notSession : ∀ session, event ≠ .session session) :
    (event.next server).sessions = server.sessions := by
  cases event with
  | session event => exact absurd rfl (notSession event)
  | enqueueIfOffline userId packet => rfl
  | messageReceivedAck connectionId msgId => exact (ackHandled server connectionId msgId).sessions
  | storeStep ok =>
      simp only [OfflineEvent.next, OfflineServer.storeStep]
      split <;> rfl
  | offlineLoaded =>
      simp only [OfflineEvent.next, OfflineServer.offlineLoaded]
      split <;> rfl

theorem sessions_offlineEvents (events : List OfflineEvent) :
    ∀ server : OfflineServer Text, (∀ event ∈ events, ∀ session, event ≠ .session session) →
      (events.foldl OfflineEvent.next server).sessions = server.sessions := by
  induction events with
  | nil => exact fun server _ => rfl
  | cons event rest ih =>
      intro server quiet
      have later : ∀ other ∈ rest, ∀ session, other ≠ .session session :=
        fun other member => quiet other (List.mem_cons_of_mem _ member)
      rw [List.foldl_cons, ih _ later]
      exact sessions_offlineNext server event (quiet event List.mem_cons_self)

omit [JsonDocument Text] in
/-- Nothing but a session event has one for the offline server. -/
theorem offlineEvents_quiet (server : ActingServer Text) (event : ActingEvent)
    (notSession : ∀ session, event ≠ .session session) :
    ∀ offline ∈ server.offlineEvents sha256 event, ∀ session, offline ≠ .session session := by
  rintro offline member session rfl
  cases event with
  | session other => exact absurd rfl (notSession other)
  | packetReceived connectionId packet stamp =>
      simp only [ActingServer.offlineEvents] at member
      split at member
      · split at member
        · cases member
        · cases List.mem_singleton.mp member
      · obtain ⟨_, _, isSession⟩ := List.mem_map.mp member
        cases isSession
  | storeStep ok => cases List.mem_singleton.mp member
  | offlineLoaded => cases List.mem_singleton.mp member
  | _ =>
      obtain ⟨_, _, isSession⟩ := List.mem_map.mp member
      cases isSession

theorem manager_actingNext (server : ActingServer Text) (event : ActingEvent)
    (notSession : ∀ session, event ≠ .session session) :
    (event.next sha256 server).chat.management.manager = server.chat.management.manager := by
  have ofManagement : ∀ other : ManagementEvent, (∀ session, other ≠ .session session) →
      (other.next server.chat.management).manager = server.chat.management.manager := by
    intro other quiet
    rcases manager_next server.chat.management other with ⟨session, isSession⟩ | ⟨same, _⟩
    · exact absurd isSession (quiet session)
    · exact same
  cases event with
  | session other => exact absurd rfl (notSession other)
  | packetReceived connectionId packet stamp =>
      simp only [ActingEvent.next, ActingServer.onPacketReceived]
      split
      · rfl
      · split
        · show (server.chat.sendMessage sha256 connectionId packet stamp).management.manager = _
          rcases management_sendMessage sha256 server.chat connectionId packet stamp with
            same | ⟨request, query, asked⟩
          · rw [same]
          · rw [asked]
        · rfl
        · exact ofManagement (.packetReceived connectionId packet) (by simp)
  | executeNext run => exact ofManagement (.executeNext run) (by simp)
  | handleNext notify load =>
      rw [ActingEvent.next, chat_handleNext, management_onManagement]
      exact ofManagement (.handleNext notify) (by simp)
  | _ => rfl

/-- The offline manager and the handlers see the same sessions. -/
theorem sessions_of_reachable : ∀ server, (actingSystem Text sha256).Reachable server →
    server.offline.sessions = server.chat.management.manager := by
  apply System.Reachable.invariant
  · rfl
  · intro server event _ same _
    by_cases isSession : ∃ session, event = .session session
    · obtain ⟨session, rfl⟩ := isSession
      have offline : (server.offline.sessionEvent session).sessions =
          session.next server.offline.sessions := by
        cases session <;> rfl
      exact offline.trans (congrArg session.next same)
    · have notSession : ∀ session, event ≠ .session session :=
        fun session isEvent => isSession ⟨session, isEvent⟩
      show (event.next sha256 server).offline.sessions =
        (event.next sha256 server).chat.management.manager
      rw [manager_actingNext sha256 server event notSession, offline_next,
        sessions_offlineEvents _ _ (offlineEvents_quiet sha256 server event notSession), same]

/-- No `Connect` takes over a connection that the user map points another user at. -/
def KeepsUsers (server : ActingServer Text) : ActingEvent → Prop
  | .session event => KeepsUser server.chat.management.manager event
  | _ => True

theorem sessions_keepUsers : ∀ traced,
    ((tracedSystem Text sha256).restrict fun traced => KeepsUsers traced.server).Reachable
      traced →
    (sessionSystem.restrict KeepsUser).Reachable traced.server.chat.management.manager := by
  refine System.Reachable.simulates (fun traced : TracedServer Text =>
    traced.server.chat.management.manager) rfl ?_
  rintro traced event _ ⟨enabled, keeps⟩
  by_cases isSession : ∃ session, event = .session session
  · obtain ⟨session, rfl⟩ := isSession
    exact Or.inr ⟨session, ⟨enabled.1.1, keeps⟩, rfl⟩
  · exact Or.inl (manager_actingNext sha256 traced.server event
      fun session isEvent => isSession ⟨session, isEvent⟩)

end Traced

end ShirohaChat
