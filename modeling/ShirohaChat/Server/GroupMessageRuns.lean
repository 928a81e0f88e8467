import ShirohaChat.Server.GroupMessageLoads
import ShirohaChat.Server.MemberLoads

/-!
# Group messages are decided by one member list

The server's member lists behave as the queue of member lists: each step of the
server asks for a list, reads one, takes one, or leaves the queue alone.  What
holds in every run of the queue therefore holds of the messages the delivery
service has asked a list for.
-/

set_option autoImplicit false

namespace ShirohaChat

open Transition

theorem not_notify_of_message (uuid : String) :
    qStartsWith ("grpmsg_" ++ uuid) "grp_notify_" = false := by
  unfold qStartsWith
  rw [String.toList_append]
  rfl

namespace ChatServer

def loadWaiter (server : ChatServer) (token : String) : Option LoadWaiter :=
  if qStartsWith token "grp_notify_" then
    (server.management.group.pendingNotifications.lookup token).map .notification
  else (server.delivery.pendingGroupMessages.lookup token).map .message

def loadQueue (server : ChatServer) : LoadQueue :=
  ⟨server.management.loadCalls, server.management.loadReplies, server.loadWaiter, server.loads,
    server.ran, server.handled⟩

def sentAcks (manager : SessionManager) (signals : List DeliverySignal) : List SentAck :=
  (signals.filterMap DeliverySignal.ackPacket).map fun ack =>
    ⟨ack.1, ack.2, manager.connected ack.1⟩

theorem foldl_emitDelivery (request : IssuedRequest) (signals : List DeliverySignal) :
    ∀ server : ChatServer,
      (∀ signal ∈ signals, ∀ query, signal ≠ .requestLoadGroupMembers query) →
      signals.foldl (emitDelivery request) server =
        { server with acks := server.acks ++ sentAcks server.management.manager signals } := by
  induction signals with
  | nil =>
      intro server _
      simp [sentAcks]
  | cons signal rest ih =>
      intro server quiet
      have later : ∀ other ∈ rest, ∀ query, other ≠ .requestLoadGroupMembers query :=
        fun other member => quiet other (List.mem_cons_of_mem _ member)
      rw [List.foldl_cons, ih _ later]
      cases signal with
      | requestLoadGroupMembers query => exact absurd rfl (quiet _ List.mem_cons_self query)
      | ackReady session msgId code message serverId =>
          simp [emitDelivery, acknowledge, sentAcks, DeliverySignal.ackPacket]
      | _ => rfl

theorem runDelivery_of_quiet (server : ChatServer) (request : IssuedRequest)
    {outcome : MessageDeliveryService × List DeliverySignal}
    (quiet : ∀ signal ∈ outcome.2, ∀ query, signal ≠ .requestLoadGroupMembers query) :
    server.runDelivery request outcome =
      { server with
        delivery := outcome.1
        acks := server.acks ++ sentAcks server.management.manager outcome.2 } :=
  foldl_emitDelivery request outcome.2 { server with delivery := outcome.1 } quiet

end ChatServer

/-! ## Calls of the delivery service -/

theorem lookup_onGroupMembersForMessage (service : MessageDeliveryService) (stamp : LoadStamp)
    (result : GroupMembersResult) (token : String) :
    (onGroupMembersForMessage service stamp result).1.pendingGroupMessages.lookup token =
      if token = result.reqMsgId then none else service.pendingGroupMessages.lookup token := by
  rcases onGroupMembersForMessage_cases service stamp result with
    ⟨unknown, handled⟩ | ⟨pending, _, ⟨_, handled⟩ | ⟨_, _, handled⟩ | ⟨_, _, handled⟩⟩
  · rw [handled]
    by_cases same : token = result.reqMsgId
    · rw [if_pos same, same, unknown]
    · rw [if_neg same]
  all_goals
    rw [handled]
    exact service.lookup_take result.reqMsgId pending.requestKey token

theorem quiet_onGroupMembersForMessage (service : MessageDeliveryService) (stamp : LoadStamp)
    (result : GroupMembersResult) :
    ∀ signal ∈ (onGroupMembersForMessage service stamp result).2, ∀ query,
      signal ≠ .requestLoadGroupMembers query := by
  rcases onGroupMembersForMessage_cases service stamp result with
    ⟨_, handled⟩ | ⟨pending, _, ⟨_, handled⟩ | ⟨_, _, handled⟩ | ⟨_, _, handled⟩⟩
  all_goals
    rw [handled]
    simp

theorem answers_onGroupMembersForMessage {service : MessageDeliveryService} (stamp : LoadStamp)
    {result : GroupMembersResult} {pending : PendingGroupMessage}
    (waits : service.pendingGroupMessages.lookup result.reqMsgId = some pending) :
    Answers pending result (onGroupMembersForMessage service stamp result).2 := by
  rcases onGroupMembersForMessage_cases service stamp result with
    ⟨unknown, _⟩ | ⟨other, found, outcome⟩
  · rw [unknown] at waits
    cases waits
  · rw [found] at waits
    cases waits
    rcases outcome with ⟨failed, handled⟩ | ⟨success, outsider, handled⟩ |
      ⟨success, insider, handled⟩
    · rw [handled]
      exact Or.inl ⟨failed, rfl⟩
    · rw [handled]
      exact Or.inr (Or.inl ⟨success, outsider, rfl⟩)
    · rw [handled]
      exact Or.inr (Or.inr ⟨success, insider, _, _, rfl⟩)

/-- What a `SendMessage` with those parameters does to the service: it answers
at once, drops the request as already in flight, or asks for a member list. -/
theorem processSendMessage_outcomes (sha256 : List Nat → String)
    (service : MessageDeliveryService) (stamp : SendStamp) (params : SendMessageParams) :
    let outcome := processSendMessage sha256 service stamp params
    let requestKey := requestKeyFor params.senderUserId params.msgId
    (outcome.1.pendingGroupMessages = service.pendingGroupMessages ∧
      outcome.1.inFlightGroupMsgIds = service.inFlightGroupMsgIds ∧
      (∀ signal ∈ outcome.2, ∀ query, signal ≠ .requestLoadGroupMembers query) ∧
      ∃ code message serverId,
        .ackReady params.senderSession params.msgId code message serverId ∈ outcome.2) ∨
    (outcome.1.pendingGroupMessages = service.pendingGroupMessages ∧
      outcome.1.inFlightGroupMsgIds = service.inFlightGroupMsgIds ∧
      outcome.2 = [] ∧ requestKey ∈ service.inFlightGroupMsgIds) ∨
    ∃ pending : PendingGroupMessage,
      pending.senderSession = params.senderSession ∧ pending.clientMsgId = params.msgId ∧
      pending.senderUserId = params.senderUserId ∧ pending.groupId = params.sessionId ∧
      pending.requestKey = requestKey ∧ requestKey ∉ service.inFlightGroupMsgIds ∧
      outcome.1.inFlightGroupMsgIds = insert requestKey service.inFlightGroupMsgIds ∧
      outcome.1.pendingGroupMessages =
        service.pendingGroupMessages.insert stamp.reqToken pending ∧
      outcome.2 = [.requestLoadGroupMembers ⟨params.sessionId, stamp.reqToken⟩] := by
  intro outcome requestKey
  rcases processSendMessage_cases sha256 service stamp params with
    ⟨entry, _, result⟩ | ⟨_, code, message, _, result⟩ | ⟨_, result⟩ |
    ⟨_, inFlight, result⟩ | ⟨_, notInFlight, result⟩
  · refine Or.inl ?_
    rw [show outcome = _ from result]
    exact ⟨rfl, rfl, by simp, _, _, _, List.mem_cons_self⟩
  · refine Or.inl ?_
    rw [show outcome = _ from result]
    exact ⟨rfl, rfl, by simp, _, _, _, List.mem_cons_self⟩
  · refine Or.inl ?_
    rw [show outcome = _ from result]
    exact ⟨rfl, rfl, by simp, _, _, _, List.mem_cons_self⟩
  · refine Or.inr (Or.inl ?_)
    rw [show outcome = _ from result]
    exact ⟨rfl, rfl, rfl, inFlight⟩
  · refine Or.inr (Or.inr ?_)
    rw [show outcome = _ from result]
    exact ⟨_, rfl, rfl, rfl, rfl, rfl, notInFlight, rfl, rfl, rfl⟩

/-! ## The server refines the queue -/

theorem ChatServer.loadQueue_eq {server after : ChatServer}
    (management : ManagementState.KeepsLoads server.management after.management)
    (pending : after.delivery.pendingGroupMessages = server.delivery.pendingGroupMessages)
    (loads : after.loads = server.loads) (ran : after.ran = server.ran)
    (handled : after.handled = server.handled) : after.loadQueue = server.loadQueue := by
  have waiter : after.loadWaiter = server.loadWaiter := by
    funext token
    unfold ChatServer.loadWaiter
    rw [management.notifications, pending]
  unfold ChatServer.loadQueue
  rw [management.loadCalls, management.loadReplies, waiter, loads, ran, handled]

theorem ChatServer.loadWaiter_message {server after : ChatServer} {token : String}
    {value : Option PendingGroupMessage} (isMessage : qStartsWith token "grp_notify_" = false)
    (notifications : after.management.group.pendingNotifications =
      server.management.group.pendingNotifications)
    (messages : ∀ other, after.delivery.pendingGroupMessages.lookup other =
      if other = token then value else server.delivery.pendingGroupMessages.lookup other) :
    after.loadWaiter = Function.update server.loadWaiter token (value.map .message) := by
  funext other
  unfold ChatServer.loadWaiter
  rw [notifications, messages]
  by_cases same : other = token
  · subst same
    rw [Function.update_self, if_neg (by rw [isMessage]; exact Bool.false_ne_true), if_pos rfl]
  · rw [Function.update_of_ne same, if_neg same]

theorem ChatServer.loadWaiter_notification {server after : ChatServer} {token : String}
    {value : Option PendingNotification} (isNotify : qStartsWith token "grp_notify_" = true)
    (messages : after.delivery.pendingGroupMessages = server.delivery.pendingGroupMessages)
    (notifications : ∀ other, after.management.group.pendingNotifications.lookup other =
      if other = token then value
      else server.management.group.pendingNotifications.lookup other) :
    after.loadWaiter = Function.update server.loadWaiter token (value.map .notification) := by
  funext other
  unfold ChatServer.loadWaiter
  rw [notifications, messages]
  by_cases same : other = token
  · subst same
    rw [Function.update_self, if_pos isNotify, if_pos rfl]
  · rw [Function.update_of_ne same, if_neg same]

theorem ChatServer.loadQueue_ask {server after : ChatServer} {load : AskedLoad}
    (calls : after.management.loadCalls = server.management.loadCalls ++ [load.query])
    (replies : after.management.loadReplies = server.management.loadReplies)
    (waiting : after.loadWaiter =
      Function.update server.loadWaiter load.token (some load.waiter))
    (loads : after.loads = server.loads ++ [load]) (ran : after.ran = server.ran)
    (handled : after.handled = server.handled) :
    after.loadQueue = server.loadQueue.ask load := by
  unfold ChatServer.loadQueue LoadQueue.ask
  rw [calls, replies, waiting, loads, ran, handled]

def QueueStep (server after : ChatServer) : Prop :=
  after.loadQueue = server.loadQueue ∨ ∃ event, LoadEvent.enabled server.loadQueue event ∧
    after.loadQueue = LoadEvent.next server.loadQueue event

theorem queueStep_sendMessage (sha256 : List Nat → String) {server : ChatServer}
    (sessions : SessionsWellFormed server.management.manager) (connectionId : String)
    (packet : Packet) {stamp : SendStamp} (generated : ∃ uuid, stamp.reqToken = "grpmsg_" ++ uuid)
    (fresh : ∀ load ∈ server.loads, load.query.reqMsgId ≠ stamp.reqToken) :
    QueueStep server (server.sendMessage sha256 connectionId packet stamp) := by
  unfold ChatServer.sendMessage
  split
  · exact Or.inl rfl
  · rename_i session found
    split
    · exact Or.inl rfl
    · rename_i params accepted
      obtain ⟨authenticated, sender, _, _⟩ := handleSendMessage_ok accepted
      have named : params.senderUserId ≠ "" := by
        rw [sender]
        exact (sessions.authenticatedIff connectionId session found).mp authenticated
      rcases processSendMessage_outcomes sha256 server.delivery stamp params with
        ⟨pending, _, quiet, _⟩ | ⟨pending, _, silent, _⟩ |
        ⟨pending, _, _, samePerson, sameGroup, _, _, _, inserted, asked⟩
      · rw [ChatServer.runDelivery_of_quiet _ _ quiet]
        exact Or.inl (ChatServer.loadQueue_eq ⟨rfl, rfl, rfl⟩ pending rfl rfl rfl)
      · rw [ChatServer.runDelivery_of_quiet _ _ (by rw [silent]; simp)]
        exact Or.inl (ChatServer.loadQueue_eq ⟨rfl, rfl, rfl⟩ pending rfl rfl rfl)
      · have notNotify : qStartsWith stamp.reqToken "grp_notify_" = false := by
          obtain ⟨uuid, isToken⟩ := generated
          rw [isToken]
          exact not_notify_of_message uuid
        refine Or.inr ⟨.ask ⟨⟨params.sessionId, stamp.reqToken⟩, .message pending⟩,
          ⟨⟨notNotify, sameGroup.symm, samePerson ▸ named⟩, fresh⟩, ?_⟩
        unfold ChatServer.runDelivery
        rw [asked, List.foldl_cons, List.foldl_nil]
        refine ChatServer.loadQueue_ask ?_ rfl ?_ ?_ rfl rfl
        · simp [ChatServer.emitDelivery, ManagementState.loadCalls, StoreCall.membersQuery]
        · refine @ChatServer.loadWaiter_message server _ _ (some pending) notNotify rfl ?_
          intro other
          have waits := FiniteMap.lookup_insert server.delivery.pendingGroupMessages
            stamp.reqToken other pending
          rw [← inserted] at waits
          exact waits
        · simp [ChatServer.emitDelivery, inserted]

theorem queueStep_executeNext {server : ChatServer}
    (consistent : GroupsConsistent server.management.database.groupStore) (run : StoreRun)
    (stamp : LoadStamp) : QueueStep server (server.onManagement (.executeNext run) stamp) := by
  rcases server.management.executeNext_cases run with
    ⟨keeps, notLoad⟩ | ⟨request, query, rest, calls, executed⟩
  · have reads : server.readNext run = [] := by
      unfold ChatServer.readNext
      split
      · rename_i request query rest calls
        exact absurd calls (notLoad request query rest)
      · rfl
    refine Or.inl (ChatServer.loadQueue_eq keeps rfl rfl ?_ rfl)
    simp [ChatServer.onManagement, reads]
  · have reads : server.readNext run =
        [⟨query, server.management.database.groupStore, run.groupMembers⟩] := by
      unfold ChatServer.readNext
      rw [calls]
    refine Or.inr ⟨.read server.management.database.groupStore run.groupMembers, consistent, ?_⟩
    have next : server.loadQueue.calls = query :: rest.filterMap fun entry =>
        entry.2.membersQuery := by
      simp [ChatServer.loadQueue, ManagementState.loadCalls, calls, StoreCall.membersQuery]
    simp only [LoadEvent.next, LoadQueue.read, next, ChatServer.onManagement,
      ManagementEvent.next, executed, reads]
    simp [ChatServer.loadQueue, ManagementState.loadCalls, ManagementState.loadReplies,
      StoreReply.membersResult, RanLoad.result]
    rfl

theorem ChatServer.loadQueue_take {server after : ChatServer} {result : GroupMembersResult}
    {rest : List GroupMembersResult} {signals : List DeliverySignal}
    (replies : server.management.loadReplies = result :: rest)
    (calls : after.management.loadCalls = server.management.loadCalls)
    (taken : after.management.loadReplies = rest)
    (waiting : after.loadWaiter = Function.update server.loadWaiter result.reqMsgId none)
    (loads : after.loads = server.loads) (ran : after.ran = server.ran)
    (handled : after.handled = server.handled ++
      if qStartsWith result.reqMsgId "grp_notify_" then [] else [(result.reqMsgId, signals)]) :
    after.loadQueue = server.loadQueue.take signals := by
  unfold LoadQueue.take
  simp only [ChatServer.loadQueue, replies]
  rw [calls, taken, waiting, loads, ran, handled]

theorem ChatServer.onManagement_message {server : ChatServer} {request : IssuedRequest}
    {result : GroupMembersResult} {rest : List (IssuedRequest × StoreReply)}
    (replies : server.management.replies = (request, .groupMembersLoaded result) :: rest)
    (isMessage : qStartsWith result.reqMsgId "grp_notify_" = false) (notify : NotifyStamp)
    (stamp : LoadStamp) :
    server.onManagement (.handleNext notify) stamp =
      { server with
        management := { server.management with replies := rest }
        delivery := (onGroupMembersForMessage server.delivery stamp result).1
        acks := server.acks ++ sentAcks server.management.manager
          (onGroupMembersForMessage server.delivery stamp result).2
        handled := server.handled ++
          [(result.reqMsgId, (onGroupMembersForMessage server.delivery stamp result).2)] } := by
  have front : server.nextMembers = some (request, result) := by
    simp [nextMembers, replies, isMessage]
  have popped : server.management.handleNext notify =
      { server.management with replies := rest } := by
    simp [ManagementState.handleNext, replies, ManagementState.onStoreReply, isMessage]
  simp only [onManagement, front, ManagementEvent.next, popped]
  rw [runDelivery_of_quiet _ _ (quiet_onGroupMembersForMessage _ _ _)]

theorem queueStep_takeMessage {server : ChatServer} {request : IssuedRequest}
    {result : GroupMembersResult} {rest : List (IssuedRequest × StoreReply)}
    (replies : server.management.replies = (request, .groupMembersLoaded result) :: rest)
    (isMessage : qStartsWith result.reqMsgId "grp_notify_" = false) (notify : NotifyStamp)
    (stamp : LoadStamp) : QueueStep server (server.onManagement (.handleNext notify) stamp) := by
  have front : server.management.loadReplies =
      result :: rest.filterMap fun entry => entry.2.membersResult := by
    simp [ManagementState.loadReplies, replies, StoreReply.membersResult]
  rw [ChatServer.onManagement_message replies isMessage notify stamp]
  refine Or.inr ⟨.take (onGroupMembersForMessage server.delivery stamp result).2, ?_, ?_⟩
  · intro other others pending sameFront waits
    simp only [ChatServer.loadQueue, front, List.cons.injEq] at sameFront
    obtain ⟨rfl, _⟩ := sameFront
    simp only [ChatServer.loadQueue, ChatServer.loadWaiter, isMessage,
      if_neg Bool.false_ne_true] at waits
    cases found : server.delivery.pendingGroupMessages.lookup result.reqMsgId with
    | none =>
        rw [found] at waits
        cases waits
    | some kept =>
        rw [found] at waits
        cases waits
        exact answers_onGroupMembersForMessage stamp found
  · refine ChatServer.loadQueue_take front rfl rfl ?_ rfl rfl ?_
    · exact @ChatServer.loadWaiter_message server _ _ none isMessage rfl
        (lookup_onGroupMembersForMessage server.delivery stamp result)
    · rw [isMessage, if_neg Bool.false_ne_true]

theorem queueStep_takeNotification {server : ChatServer} {request : IssuedRequest}
    {result : GroupMembersResult} {rest : List (IssuedRequest × StoreReply)}
    (replies : server.management.replies = (request, .groupMembersLoaded result) :: rest)
    (isNotify : qStartsWith result.reqMsgId "grp_notify_" = true) {notify : NotifyStamp}
    (loadReplies : server.management.loadReplies =
      result :: (server.management.handleNext notify).loadReplies)
    (loadCalls : (server.management.handleNext notify).loadCalls = server.management.loadCalls)
    (group : (server.management.handleNext notify).group =
      (server.management.group.onGroupMembersForNotify result).1)
    (stamp : LoadStamp) : QueueStep server (server.onManagement (.handleNext notify) stamp) := by
  have front : server.nextMembers = none := by
    simp [ChatServer.nextMembers, replies, isNotify]
  have noneAsked : ChatServer.askedBy server.management
      (server.management.handleNext notify) = [] := by
    simp [ChatServer.askedBy, loadCalls]
  have after : server.onManagement (.handleNext notify) stamp =
      { server with management := server.management.handleNext notify } := by
    simp [ChatServer.onManagement, front, ManagementEvent.next, noneAsked]
  rw [after]
  refine Or.inr ⟨.take [], ?_, ?_⟩
  · intro other others pending sameFront waits
    simp only [ChatServer.loadQueue, loadReplies, List.cons.injEq] at sameFront
    obtain ⟨rfl, _⟩ := sameFront
    simp only [ChatServer.loadQueue, ChatServer.loadWaiter, if_pos isNotify] at waits
    cases found : server.management.group.pendingNotifications.lookup result.reqMsgId with
    | none =>
        rw [found] at waits
        cases waits
    | some kept =>
        rw [found] at waits
        cases waits
  · refine ChatServer.loadQueue_take loadReplies loadCalls rfl ?_ rfl rfl ?_
    · refine @ChatServer.loadWaiter_notification server _ _ none isNotify rfl ?_
      intro other
      have taken := (server.management.group.onGroupMembersForNotify_cases
        (ne_empty_of_notify isNotify)).1 other
      rw [← group] at taken
      exact taken
    · rw [if_pos isNotify, List.append_nil]

theorem queueStep_askedOnce {server : ChatServer} {notify : NotifyStamp}
    (notMembers : ∀ request result rest,
      server.management.replies ≠ (request, .groupMembersLoaded result) :: rest)
    (askedOnce : ManagementState.AskedOnce notify.firstUuid server.management
      (server.management.handleNext notify))
    (fresh : ∀ load ∈ server.loads, load.query.reqMsgId ≠ "grp_notify_" ++ notify.firstUuid)
    (stamp : LoadStamp) : QueueStep server (server.onManagement (.handleNext notify) stamp) := by
  have front : server.nextMembers = none := by
    unfold ChatServer.nextMembers
    split
    · rename_i request result rest replies
      exact absurd replies (notMembers request result rest)
    · rfl
  have after : server.onManagement (.handleNext notify) stamp =
      { server with
        management := server.management.handleNext notify
        loads := server.loads ++ ChatServer.askedBy server.management
          (server.management.handleNext notify) } := by
    simp only [ChatServer.onManagement, front, ManagementEvent.next]
  rw [after]
  obtain ⟨loadReplies, signals, asks, loadCalls⟩ := askedOnce
  rcases asks with ⟨notifications, noQuery⟩ | ⟨groupId, notification, notifications, query⟩
  · rw [noQuery, List.append_nil] at loadCalls
    refine Or.inl (ChatServer.loadQueue_eq ⟨loadCalls, loadReplies, notifications⟩ rfl ?_ rfl rfl)
    simp [ChatServer.askedBy, loadCalls]
  · rw [query] at loadCalls
    have isNotify := notify_of_notification notify.firstUuid
    refine Or.inr ⟨.ask ⟨⟨groupId, "grp_notify_" ++ notify.firstUuid⟩,
      .notification notification⟩, ⟨isNotify, fresh⟩, ?_⟩
    refine ChatServer.loadQueue_ask loadCalls loadReplies ?_ ?_ rfl rfl
    · refine @ChatServer.loadWaiter_notification server _ _ (some notification) isNotify rfl ?_
      intro other
      rw [notifications]
      exact FiniteMap.lookup_insert _ _ _ _
    · simp only [ChatServer.askedBy, loadCalls, List.drop_left, List.filterMap_cons,
        List.filterMap_nil]
      rw [notifications, FiniteMap.lookup_insert, if_pos rfl]
      rfl

theorem queueStep_handleNext {server : ChatServer} (notify : NotifyStamp)
    (fresh : ∀ load ∈ server.loads, load.query.reqMsgId ≠ "grp_notify_" ++ notify.firstUuid)
    (stamp : LoadStamp) : QueueStep server (server.onManagement (.handleNext notify) stamp) := by
  rcases server.management.handleNext_cases notify with
    ⟨request, result, rest, replies, isMessage, _⟩ |
    ⟨request, result, rest, replies, isNotify, loadReplies, loadCalls, group⟩ |
    ⟨notMembers, askedOnce⟩
  · exact queueStep_takeMessage replies isMessage notify stamp
  · exact queueStep_takeNotification replies isNotify loadReplies loadCalls group stamp
  · exact queueStep_askedOnce notMembers askedOnce fresh stamp

/-! ## Runs of the server -/

theorem management_onManagement (server : ChatServer) (event : ManagementEvent)
    (stamp : LoadStamp) :
    (server.onManagement event stamp).management = event.next server.management := by
  cases event with
  | handleNext notify =>
      unfold ChatServer.onManagement
      simp only
      split
      · rfl
      · rw [ChatServer.runDelivery_of_quiet _ _ (quiet_onGroupMembersForMessage _ _ _)]
  | _ => rfl

theorem management_sendMessage (sha256 : List Nat → String) (server : ChatServer)
    (connectionId : String) (packet : Packet) (stamp : SendStamp) :
    (server.sendMessage sha256 connectionId packet stamp).management = server.management ∨
    ∃ request query, (server.sendMessage sha256 connectionId packet stamp).management =
      { server.management with
        calls := server.management.calls ++ [(request, .loadGroupMembers query)] } := by
  unfold ChatServer.sendMessage
  split
  · exact Or.inl rfl
  · split
    · exact Or.inl rfl
    · rename_i params accepted
      rcases processSendMessage_outcomes sha256 server.delivery stamp params with
        ⟨_, _, quiet, _⟩ | ⟨_, _, silent, _⟩ | ⟨pending, _, _, _, _, _, _, _, _, asked⟩
      · rw [ChatServer.runDelivery_of_quiet _ _ quiet]
        exact Or.inl rfl
      · rw [ChatServer.runDelivery_of_quiet _ _ (by rw [silent]; simp)]
        exact Or.inl rfl
      · unfold ChatServer.runDelivery
        rw [asked]
        exact Or.inr ⟨_, _, rfl⟩

structure ServerSound (server : ChatServer) : Prop where
  tagged : WellTagged server.management
  groups : GroupsConsistent server.management.database.groupStore

theorem WellTagged.askMembers {state : ManagementState} (tagged : WellTagged state)
    (request : IssuedRequest) (query : GroupMembersQuery) :
    WellTagged { state with calls := state.calls ++ [(request, .loadGroupMembers query)] } := by
  refine ⟨tagged.sessions, tagged.known, tagged.issuers, tagged.tickets, ?_, tagged.replies⟩
  intro entry member
  rcases List.mem_append.mp member with old | new
  · exact tagged.calls entry old
  · rw [List.mem_singleton.mp new]
    trivial

theorem ServerSound.next (sha256 : List Nat → String) {server : ChatServer}
    (sound : ServerSound server) {event : ChatEvent} (enabled : event.enabled server) :
    ServerSound (event.next sha256 server) := by
  cases event with
  | management event stamp =>
      constructor
      · rw [ChatEvent.next, management_onManagement]
        exact sound.tagged.next event enabled.1
      · rw [ChatEvent.next, management_onManagement]
        exact groupsConsistent_management sound.groups event
  | sendMessage connectionId packet stamp =>
      rcases management_sendMessage sha256 server connectionId packet stamp with
        same | ⟨request, query, asked⟩
      · constructor
        · rw [ChatEvent.next, same]
          exact sound.tagged
        · rw [ChatEvent.next, same]
          exact sound.groups
      · constructor
        · rw [ChatEvent.next, asked]
          exact sound.tagged.askMembers request query
        · rw [ChatEvent.next, asked]
          exact sound.groups

section Reached
variable (sha256 : List Nat → String) (server : ChatServer)

theorem serverSound_of_reachable (reached : (chatSystem sha256).Reachable server) :
    ServerSound server := by
  refine reached.invariant ⟨WellTagged.empty, GroupsConsistent.empty⟩ ?_
  intro before event _ sound enabled
  exact sound.next sha256 enabled

theorem queueStep_next (sound : ServerSound server) {event : ChatEvent}
    (enabled : event.enabled server) : QueueStep server (event.next sha256 server) := by
  cases event with
  | management event stamp =>
      cases event with
      | session event => exact Or.inl rfl
      | sessionDeleted connectionId => exact Or.inl rfl
      | ensureUser run userId nickname => exact Or.inl rfl
      | packetReceived connectionId packet =>
          have keeps := server.management.keepsLoads_packetReceived connectionId packet
          exact Or.inl (ChatServer.loadQueue_eq keeps rfl rfl rfl rfl)
      | executeNext run => exact queueStep_executeNext sound.groups run stamp
      | handleNext notify => exact queueStep_handleNext notify (enabled.2.2 notify rfl) stamp
  | sendMessage connectionId packet stamp =>
      exact queueStep_sendMessage sha256 sound.tagged.sessions connectionId packet enabled.2.1
        enabled.2.2

/-- The member lists of a running server are a run of the queue. -/
theorem loadQueue_reachable (reached : (chatSystem sha256).Reachable server) :
    loadSystem.Reachable server.loadQueue := by
  have start : ChatServer.empty.loadQueue = LoadQueue.empty := by
    have nobody : ChatServer.empty.loadWaiter = fun _ => none := by
      funext token
      unfold ChatServer.loadWaiter
      split <;> rfl
    unfold ChatServer.loadQueue
    rw [nobody]
    rfl
  refine reached.simulates ChatServer.loadQueue start ?_
  intro before event reachedBefore enabled
  exact queueStep_next sha256 before (serverSound_of_reachable sha256 before reachedBefore) enabled

end Reached

/-! ## Group messages and member lists -/

structure MessagesDecided (server : ChatServer) : Prop where
  recorded : server.loads.map AskedLoad.query =
    server.ran.map RanLoad.query ++ server.management.loadCalls
  decided : ∀ load ∈ server.loads, ∀ pending, load.waiter = .message pending →
    load.token ∈ server.management.memberLoads ∨
    ∃ ran ∈ server.ran, ran.query = load.query ∧
      ∃ signals, (load.token, signals) ∈ server.handled ∧ Decided pending ran signals
  readOnce : (server.ran.map fun ran => ran.query.reqMsgId).Nodup
  handledOnce : (server.handled.map Prod.fst).Nodup
  handledLast : ∀ entry ∈ server.handled, entry.1 ∉ server.management.memberLoads ∧
    ∃ load ∈ server.loads, load.token = entry.1 ∧ ∃ pending, load.waiter = .message pending

/-- The list the main thread takes goes to the service that asked for it, which
still waits for it, and to no other. -/
def RoutedToAsker (server : ChatServer) : Prop :=
  ∀ request result rest,
    server.management.replies = (request, .groupMembersLoaded result) :: rest →
    ∃ load ∈ server.loads, load.token = result.reqMsgId ∧
      ∀ notify stamp, let after := server.onManagement (.handleNext notify) stamp
        match load.waiter with
        | .message pending =>
            server.delivery.pendingGroupMessages.lookup load.token = some pending ∧
            after.management = { server.management with replies := rest } ∧
            after.delivery = (onGroupMembersForMessage server.delivery stamp result).1 ∧
            after.handled = server.handled ++
              [(load.token, (onGroupMembersForMessage server.delivery stamp result).2)]
        | .notification pending =>
            server.management.group.pendingNotifications.lookup load.token = some pending ∧
            after.management = { server.management with replies := rest }.runGroup request
              (server.management.group.onGroupMembersForNotify result) ∧
            after.delivery = server.delivery ∧ after.handled = server.handled

theorem routedToAsker_of_reachable (sha256 : List Nat → String) (server : ChatServer)
    (reached : (chatSystem sha256).Reachable server) : RoutedToAsker server := by
  have reachedQueue := loadQueue_reachable sha256 server reached
  intro request result rest replies
  have front : result.reqMsgId ∈ server.loadQueue.inFlight := by
    simp [LoadQueue.inFlight, ChatServer.loadQueue, ManagementState.loadReplies, replies,
      StoreReply.membersResult]
  obtain ⟨load, loadIn, sameToken, waits⟩ := waiting_of_inFlight reachedQueue front
  have owned := (readInOrder_of_reachable _ reachedQueue).owned load loadIn
  refine ⟨load, loadIn, sameToken, ?_⟩
  intro notify stamp
  have waiter : server.loadWaiter result.reqMsgId = some load.waiter := waits
  unfold AskedLoad.Owned at owned
  unfold ChatServer.loadWaiter at waiter
  cases isWaiter : load.waiter with
  | message pending =>
      simp only [isWaiter, sameToken] at owned
      have isMessage := owned.1
      rw [isWaiter, isMessage, if_neg Bool.false_ne_true, Option.map_eq_some_iff] at waiter
      obtain ⟨kept, found, sameWaiter⟩ := waiter
      cases sameWaiter
      rw [ChatServer.onManagement_message replies isMessage notify stamp, sameToken]
      exact ⟨found, rfl, rfl, rfl⟩
  | notification pending =>
      simp only [isWaiter, sameToken] at owned
      rw [isWaiter, if_pos owned, Option.map_eq_some_iff] at waiter
      obtain ⟨kept, found, sameWaiter⟩ := waiter
      cases sameWaiter
      have next : server.nextMembers = none := by
        simp [ChatServer.nextMembers, replies, owned]
      rw [sameToken]
      refine ⟨found, ?_, ?_, ?_⟩
      · simp only [ChatServer.onManagement, next, ManagementEvent.next,
          ManagementState.handleNext, replies, ManagementState.onStoreReply, if_pos owned]
      · simp only [ChatServer.onManagement, next]
      · simp only [ChatServer.onManagement, next]

/-- Whatever the order of messages, group operations and database work, each
group message is decided by the one member list read for it, and each member
list reaches the service that asked for it. -/
theorem group_messages_decided (sha256 : List Nat → String) (server : ChatServer)
    (reached : (chatSystem sha256).Reachable server) :
    MessagesDecided server ∧ RoutedToAsker server := by
  have reachedQueue := loadQueue_reachable sha256 server reached
  have inOrder := readInOrder_of_reachable _ reachedQueue
  have handled := messagesHandled_of_reachable _ reachedQueue
  exact ⟨⟨inOrder.asked, handled.decided, inOrder.ran_nodup, handled.once, handled.settled⟩,
    routedToAsker_of_reachable sha256 server reached⟩

def groupPacket (msgId : String) : Packet :=
  { cmd := .sendMessage
    msgId := msgId
    payload := [("sessionType", .string "group"), ("sessionId", .string "grp_1"),
      ("content", .string "hello")] }

def aliceWritesToGroup : List ChatEvent :=
  [.management (.session (.newConnection "c_alice" 0)) ⟨0, 0⟩,
    .management (.session (.connectAccepted "c_alice" "alice" "Alice")) ⟨0, 0⟩,
    .management (.ensureUser {} "bob" "Bob") ⟨0, 0⟩,
    .management (.packetReceived "c_alice" { createGroupPacket "m1" with
      payload := [("groupName", .string "friends"), ("memberUserIds", .array [.string "bob"])] })
      ⟨0, 0⟩,
    .management (.executeNext (StoreRun.ok "grp_1" "2026-01-01T00:00:00.000Z")) ⟨0, 0⟩,
    .sendMessage "c_alice" (groupPacket "m2") (aliceStamp "srv_1" "grpmsg_1"),
    .management (.handleNext ⟨"u1", "u2"⟩) ⟨0, 0⟩,
    .management (.executeNext (StoreRun.ok "" "")) ⟨0, 0⟩,
    .management (.handleNext ⟨"u3", "u4"⟩) ⟨1000, 1000⟩]

def aliceWroteToGroup : ChatServer :=
  aliceWritesToGroup.foldl (ChatEvent.next aliceBobDigest) ChatServer.empty

theorem group_messages_decided_alice :
    (aliceWroteToGroup.handled.map fun entry =>
      (entry.1, (entry.2.flatMap DeliverySignal.enqueues).map Prod.fst)) =
        [("grpmsg_1", ["bob"])] ∧
      MessagesDecided aliceWroteToGroup ∧ RoutedToAsker aliceWroteToGroup := by
  have enabled : (chatSystem aliceBobDigest).Enabled ChatServer.empty aliceWritesToGroup := by
    refine ⟨?_, ?_, ⟨trivial, nofun, nofun⟩, ?_, ?_, ?_, ?_, ?_, ?_, trivial⟩
    · refine ChatEvent.enabled_session ?_ ⟨0, 0⟩
      refine ⟨?_, ?_⟩
      · exact ⟨by decide, rfl⟩
      · intro connectionId now isNew
        cases isNew
        decide
    · refine ChatEvent.enabled_session ?_ ⟨0, 0⟩
      refine ⟨?_, ?_⟩
      · exact (by decide : "alice" ≠ "")
      · nofun
    · refine ⟨trivial, ?_, nofun⟩
      intro connectionId packet isPacket
      cases isPacket
      decide
    · exact ChatEvent.enabled_executeNext _ _ ⟨0, 0⟩
    · refine ⟨rfl, ⟨"1", by decide⟩, ?_⟩
      decide +kernel
    · refine ChatEvent.enabled_handleNext ?_ ⟨0, 0⟩
      decide +kernel
    · exact ChatEvent.enabled_executeNext _ _ ⟨0, 0⟩
    · refine ChatEvent.enabled_handleNext ?_ ⟨1000, 1000⟩
      decide +kernel
  have reached := System.Reachable.run _ _ System.Reachable.initial enabled
  exact ⟨rfl, group_messages_decided aliceBobDigest aliceWroteToGroup reached⟩

end ShirohaChat
