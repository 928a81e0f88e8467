import ShirohaChat.Server.GroupMessageRuns
import ShirohaChat.Server.MessageRuns
import ShirohaChat.Server.OfflineRuns

/-!
# Requests name the user of their connection

The packets of the twelve commands around the services and the offline manager.
Every request is recorded with the connection its packet came in on and with the
user that connection had then; a group message waits for its member list under a
token, and the token leads back to its packet.
-/

set_option autoImplicit false

namespace ShirohaChat

open Transition

/-! ## Requests and the users they name -/

structure PacketOrigin where
  connectionId : String
  userId : String
  isAuthenticated : Bool
  deriving DecidableEq

def ClientSession.origin (session : ClientSession) : PacketOrigin :=
  ⟨session.connectionId, session.userId, session.isAuthenticated⟩

inductive UserRequest where
  | store (request : StoreRequest)
  | call (call : StoreCall)

/-- The sender, creator, operator, requester or owner; who leaves a group is
operator and target. -/
def UserRequest.actors : UserRequest → List String
  | .store request => [request.senderUserId]
  | .call (.createGroup request) => [request.creatorUserId]
  | .call (.addMember request) => [request.operatorUserId]
  | .call (.removeMember request) => [request.operatorUserId]
  | .call (.leaveGroup request) => [request.operatorUserId, request.targetUserId]
  | .call (.loadGroupMembers _) => []
  | .call (.loadGroupList query) => [query.userId]
  | .call (.createFriendRequest request) => [request.fromUserId]
  | .call (.decideFriendRequest request) => [request.operatorUserId]
  | .call (.loadFriendList query) => [query.userId]
  | .call (.loadFriendRequestList query) => [query.userId]

def UserRequest.NamesOnly (request : UserRequest) (userId : String) : Prop :=
  request.actors ≠ [] ∧ ∀ actor ∈ request.actors, actor = userId

/-! ## What the handlers pass on -/

theorem requireAuthenticated_authenticated {Outcome : Type} {outcome : Outcome}
    {rest : Except Refusal Outcome} {session : ClientSession}
    (handled : requireAuthenticated session rest = .ok outcome) :
    session.isAuthenticated = true := by
  unfold requireAuthenticated at handled
  split at handled
  · cases handled
  · rename_i authenticated
    exact not_not.mp authenticated

theorem UserRequest.namesOnly_singleton {request : UserRequest} {userId : String}
    (actors : request.actors = [userId]) : request.NamesOnly userId := by
  rw [UserRequest.NamesOnly, actors]
  exact ⟨List.cons_ne_nil _ _, fun actor member => List.mem_singleton.mp member⟩

theorem GroupHandler.names_handlePacket {service after : GroupManagementService}
    {session : ClientSession} {packet : Packet} {call : StoreCall}
    (handled : GroupHandler.handlePacket service session packet = some (.ok (after, call))) :
    session.isAuthenticated = true ∧ (UserRequest.call call).NamesOnly session.userId := by
  unfold GroupHandler.handlePacket at handled
  split at handled
  case h_4 =>
      -- who leaves is named twice
      have passed := Option.some.inj handled
      refine ⟨requireAuthenticated_authenticated passed, ?_⟩
      cases requireTexts_ok (requireAuthenticated_ok passed)
      refine ⟨List.cons_ne_nil _ _, ?_⟩
      intro actor member
      rcases List.mem_cons.mp member with rfl | later
      · rfl
      · exact List.mem_singleton.mp later
  case h_5 =>
      have passed := Option.some.inj handled
      refine ⟨requireAuthenticated_authenticated passed, ?_⟩
      cases requireAuthenticated_ok passed
      exact UserRequest.namesOnly_singleton rfl
  case h_6 => cases handled
  all_goals
    have passed := Option.some.inj handled
    refine ⟨requireAuthenticated_authenticated passed, ?_⟩
    cases requireTexts_ok (requireAuthenticated_ok passed)
    exact UserRequest.namesOnly_singleton rfl

theorem FriendHandler.names_handlePacket {service after : FriendManagementService}
    {session : ClientSession} {packet : Packet} {call : StoreCall}
    (handled : FriendHandler.handlePacket service session packet = some (.ok (after, call))) :
    session.isAuthenticated = true ∧ (UserRequest.call call).NamesOnly session.userId := by
  unfold FriendHandler.handlePacket at handled
  split at handled
  case h_6 => cases handled
  all_goals
    have passed := Option.some.inj handled
    refine ⟨requireAuthenticated_authenticated passed, ?_⟩
    first
      | cases requireTexts_ok (requireAuthenticated_ok passed)
      | cases requireAuthenticated_ok passed
    exact UserRequest.namesOnly_singleton rfl

theorem calls_dispatch (state : ManagementState) (session : ClientSession) (packet : Packet) :
    (state.dispatch session packet).calls = state.calls ∨
      ∃ request call, (state.dispatch session packet).calls = state.calls ++ [(request, call)] ∧
        session.isAuthenticated = true ∧ (UserRequest.call call).NamesOnly session.userId := by
  unfold ManagementState.dispatch
  split
  · exact Or.inl rfl
  · rename_i group call handled
    obtain ⟨authenticated, names⟩ := GroupHandler.names_handlePacket handled
    exact Or.inr ⟨_, call, rfl, authenticated, names⟩
  · split
    · exact Or.inl rfl
    · rename_i friend call handled
      obtain ⟨authenticated, names⟩ := FriendHandler.names_handlePacket handled
      exact Or.inr ⟨_, call, rfl, authenticated, names⟩
    · exact Or.inl rfl

def DeliverySignal.loadToken : DeliverySignal → Option String
  | .requestLoadGroupMembers query => some query.reqMsgId
  | _ => none

structure SendsAs (before : MessageDeliveryService) (userId : String)
    (outcome : MessageDeliveryService × List DeliverySignal) : Prop where
  stores : ∀ signal ∈ outcome.2, ∀ request, signal.storeRequest = some request →
    request.senderUserId = userId
  waits : ∀ token pending, outcome.1.pendingGroupMessages.lookup token = some pending →
    if token ∈ outcome.2.filterMap DeliverySignal.loadToken then pending.senderUserId = userId
    else before.pendingGroupMessages.lookup token = some pending

theorem SendsAs.of_kept {before : MessageDeliveryService} {userId : String}
    {outcome : MessageDeliveryService × List DeliverySignal}
    (kept : outcome.1.pendingGroupMessages = before.pendingGroupMessages)
    (silent : outcome.2.filterMap DeliverySignal.loadToken = [])
    (stores : ∀ signal ∈ outcome.2, ∀ request, signal.storeRequest = some request →
      request.senderUserId = userId) : SendsAs before userId outcome := by
  refine ⟨stores, ?_⟩
  intro token pending found
  rw [silent, if_neg List.not_mem_nil, ← kept]
  exact found

theorem sendsAs_processSendMessage (sha256 : List Nat → String)
    (service : MessageDeliveryService) (stamp : SendStamp) (params : SendMessageParams) :
    SendsAs service params.senderUserId (processSendMessage sha256 service stamp params) := by
  rcases processSendMessage_cases sha256 service stamp params with
    ⟨entry, _, sent⟩ | ⟨_, code, message, _, sent⟩ | ⟨_, sent⟩ | ⟨_, _, sent⟩ | ⟨_, _, sent⟩
  · rw [sent]
    refine SendsAs.of_kept rfl rfl ?_
    intro signal member request isStore
    rw [List.mem_singleton.mp member] at isStore
    cases isStore
  · rw [sent]
    refine SendsAs.of_kept rfl rfl ?_
    intro signal member request isStore
    rw [List.mem_singleton.mp member] at isStore
    cases isStore
  · rw [sent]
    refine SendsAs.of_kept rfl rfl ?_
    intro signal member request isStore
    simp only [List.mem_cons, List.not_mem_nil, or_false] at member
    rcases member with rfl | rfl | rfl
    · cases isStore
    · cases isStore
      rfl
    · cases isStore
  · rw [sent]
    exact SendsAs.of_kept rfl rfl fun signal member => nomatch member
  · rw [sent]
    constructor
    · intro signal member request isStore
      rw [List.mem_singleton.mp member] at isStore
      cases isStore
    · intro token pending found
      rw [FiniteMap.lookup_insert] at found
      have asked : ([.requestLoadGroupMembers ⟨params.sessionId, stamp.reqToken⟩] :
          List DeliverySignal).filterMap DeliverySignal.loadToken = [stamp.reqToken] := rfl
      rw [asked]
      by_cases isToken : token = stamp.reqToken
      · rw [if_pos isToken] at found
        cases found
        rw [if_pos (List.mem_singleton.mpr isToken)]
      · rw [if_neg isToken] at found
        rw [if_neg fun member => isToken (List.mem_singleton.mp member)]
        exact found

theorem stores_onGroupMembersForMessage (service : MessageDeliveryService) (stamp : LoadStamp)
    (result : GroupMembersResult) :
    ∀ signal ∈ (onGroupMembersForMessage service stamp result).2, ∀ request,
      signal.storeRequest = some request →
        ∃ pending, service.pendingGroupMessages.lookup result.reqMsgId = some pending ∧
          request.senderUserId = pending.senderUserId := by
  intro signal member request isStore
  rcases onGroupMembersForMessage_cases service stamp result with
    ⟨_, handled⟩ | ⟨pending, found, ⟨_, handled⟩ | ⟨_, _, handled⟩ | ⟨_, _, handled⟩⟩
  · rw [handled] at member
    cases member
  · rw [handled] at member
    rw [List.mem_singleton.mp member] at isStore
    cases isStore
  · rw [handled] at member
    rw [List.mem_singleton.mp member] at isStore
    cases isStore
  · rw [handled] at member
    simp only [List.mem_cons, List.not_mem_nil, or_false] at member
    rcases member with rfl | rfl | rfl
    · cases isStore
    · cases isStore
      exact ⟨pending, found, rfl⟩
    · cases isStore

/-- Signals leave the service alone and ask for member lists only. -/
theorem emitDelivery_loads (request : IssuedRequest) (signals : List DeliverySignal) :
    ∀ server : ChatServer,
      (signals.foldl (ChatServer.emitDelivery request) server).delivery = server.delivery ∧
      ∀ entry ∈ (signals.foldl (ChatServer.emitDelivery request) server).management.calls,
        entry.2.isRequest = true → entry ∈ server.management.calls := by
  induction signals with
  | nil => exact fun server => ⟨rfl, fun entry member _ => member⟩
  | cons signal rest ih =>
      intro server
      obtain ⟨delivery, calls⟩ := ih (ChatServer.emitDelivery request server signal)
      rw [List.foldl_cons]
      cases signal with
      | requestLoadGroupMembers query =>
          refine ⟨delivery, ?_⟩
          intro entry member isRequest
          rcases List.mem_append.mp (calls entry member isRequest) with old | load
          · exact old
          · rw [List.mem_singleton.mp load] at isRequest
            cases isRequest
      | _ => exact ⟨delivery, calls⟩

section SendMessage
variable (sha256 : List Nat → String) {server : ChatServer} {connectionId : String}
  {session : ClientSession} {packet : Packet} {stamp : SendStamp}

theorem sendMessage_refused {refusal : Packet}
    (found : server.management.manager.findByConnectionId connectionId = some session)
    (refused : handleSendMessage session packet = .error refusal) :
    server.sendMessage sha256 connectionId packet stamp =
      server.acknowledge session.connectionId refusal := by
  simp only [ChatServer.sendMessage, found, refused]

theorem sendMessage_accepted (stamp : SendStamp) {params : SendMessageParams}
    (found : server.management.manager.findByConnectionId connectionId = some session)
    (accepted : handleSendMessage session packet = .ok params) :
    (server.sendMessage sha256 connectionId packet stamp).delivery =
      (processSendMessage sha256 server.delivery stamp params).1 ∧
    ∀ entry ∈ (server.sendMessage sha256 connectionId packet stamp).management.calls,
      entry.2.isRequest = true → entry ∈ server.management.calls := by
  simp only [ChatServer.sendMessage, found, accepted]
  exact emitDelivery_loads _ _ _

end SendMessage

/-- Handling a result lets no request out but those of the delivery service. -/
theorem handleNext_calls (server : ChatServer) (notify : NotifyStamp) (load : LoadStamp) :
    ∀ entry ∈ (server.onManagement (.handleNext notify) load).management.calls,
      entry.2.isRequest = true → entry ∈ server.management.calls := by
  have emits : ∀ entry ∈ (server.management.handleNext notify).calls,
      entry.2.isRequest = true → entry ∈ server.management.calls := by
    intro entry member isRequest
    unfold ManagementState.handleNext at member
    split at member
    · exact member
    · rename_i request reply rest _
      rcases (Emits.onStoreReply { server.management with replies := rest } notify request
        reply).calls entry member with old | ⟨query, isLoad⟩
      · exact old
      · rw [isLoad] at isRequest
        cases isRequest
  intro entry member isRequest
  unfold ChatServer.onManagement at member
  simp only at member
  split at member
  · exact emits entry member isRequest
  · exact emits entry ((emitDelivery_loads _ _ _).2 entry member isRequest) isRequest

/-- The delivery service has handled the member list, if one was for it. -/
theorem handleNext_delivery (server : ChatServer) (notify : NotifyStamp) (load : LoadStamp) :
    (server.onManagement (.handleNext notify) load).delivery =
      match server.nextMembers with
      | none => server.delivery
      | some (_, result) => (onGroupMembersForMessage server.delivery load result).1 := by
  unfold ChatServer.onManagement
  cases server.nextMembers with
  | none => rfl
  | some members => exact (emitDelivery_loads _ _ _).1

/-! ## The server -/

/-- `emitted` and `origins` are not state of the program: they record the
requests, and the packet behind each token. -/
structure ActingServer (Text : Type) where
  chat : ChatServer
  offline : OfflineServer Text
  emitted : List (Option PacketOrigin × UserRequest)
  origins : FiniteMap String PacketOrigin

section Acting
variable {Text : Type} [JsonDocument Text] (sha256 : List Nat → String)

namespace ActingServer

def empty : ActingServer Text := ⟨ChatServer.empty, OfflineServer.empty, [], ∅⟩

def deliver (server : ActingServer Text) (deliveries : List (String × Packet)) :
    ActingServer Text :=
  let offline := deliveries.foldl
    (fun offline delivery => offline.enqueue delivery.1 delivery.2) server.offline
  { server with offline := offline }

def emitSignals (server : ActingServer Text) (origin : Option PacketOrigin)
    (signals : List DeliverySignal) : ActingServer Text :=
  let requests := (signals.filterMap DeliverySignal.storeRequest).map UserRequest.store
  let emitted := server.emitted ++ requests.map (Prod.mk origin)
  { server with emitted := emitted }.deliver (signals.flatMap DeliverySignal.enqueues)

def sendSignals (server : ActingServer Text) (session : ClientSession) (packet : Packet)
    (stamp : SendStamp) : List DeliverySignal :=
  match handleSendMessage session packet with
  | .error _ => []
  | .ok params => (processSendMessage sha256 server.chat.delivery stamp params).2

def onSendMessage (server : ActingServer Text) (connectionId : String) (session : ClientSession)
    (packet : Packet) (stamp : SendStamp) : ActingServer Text :=
  let signals := server.sendSignals sha256 session packet stamp
  { server with
    chat := server.chat.sendMessage sha256 connectionId packet stamp
    origins := (signals.filterMap DeliverySignal.loadToken).foldl
      (fun origins token => origins.insert token session.origin) server.origins }.emitSignals
        (some session.origin) signals

def onManagementPacket (server : ActingServer Text) (connectionId : String)
    (session : ClientSession) (packet : Packet) : ActingServer Text :=
  let before := server.chat.management
  let after := before.onPacketReceived connectionId packet
  { server with
    chat := { server.chat with management := after }
    emitted := server.emitted ++ (after.calls.drop before.calls.length).map
      fun entry => (some session.origin, UserRequest.call entry.2) }

def onPacketReceived (server : ActingServer Text) (connectionId : String) (packet : Packet)
    (stamp : SendStamp) : ActingServer Text :=
  match server.chat.management.manager.findByConnectionId connectionId with
  | none => server
  | some session =>
      match packet.cmd with
      | .sendMessage => server.onSendMessage sha256 connectionId session packet stamp
      | .messageReceivedAck =>
          { server with
            offline := server.offline.handleMessageReceivedAck connectionId packet.msgId }
      | _ => server.onManagementPacket connectionId session packet

def handleNext (server : ActingServer Text) (notify : NotifyStamp) (load : LoadStamp) :
    ActingServer Text :=
  let chat := server.chat.onManagement (.handleNext notify) load
  let notices := chat.management.notified.drop server.chat.management.notified.length
  let handled := { server with chat := chat }.deliver notices
  match server.chat.nextMembers with
  | none => handled
  | some (_, result) => handled.emitSignals (server.origins.lookup result.reqMsgId)
      (onGroupMembersForMessage server.chat.delivery load result).2

end ActingServer

inductive ActingEvent where
  | session (event : SessionEvent)
  | sessionDeleted (connectionId : String)
  | ensureUser (run : EnsureUserRun) (userId nickname : String)
  | packetReceived (connectionId : String) (packet : Packet) (stamp : SendStamp)
  | executeNext (run : StoreRun)
  | handleNext (notify : NotifyStamp) (load : LoadStamp)
  | storeStep (ok : Bool)
  | offlineLoaded

namespace ActingEvent

/-- Generated ids never come again. -/
def enabled (server : ActingServer Text) : ActingEvent → Prop
  | .session event =>
      ManagementEvent.enabled server.chat.management (.session event) ∧
        OfflineEvent.enabled server.offline (.session event)
  | .packetReceived connectionId packet stamp => packet.cmd = .sendMessage →
      ChatEvent.enabled server.chat (.sendMessage connectionId packet stamp)
  | .handleNext notify load =>
      ChatEvent.enabled server.chat (.management (.handleNext notify) load)
  | _ => True

def next (server : ActingServer Text) : ActingEvent → ActingServer Text
  | .session event =>
      { server with
        chat := { server.chat with management := server.chat.management.onSession event }
        offline := server.offline.sessionEvent event }
  | .sessionDeleted connectionId =>
      { server with chat := { server.chat with
          management := ManagementEvent.next server.chat.management
            (.sessionDeleted connectionId) } }
  | .ensureUser run userId nickname =>
      { server with chat := { server.chat with
          management := ManagementEvent.next server.chat.management
            (.ensureUser run userId nickname) } }
  | .packetReceived connectionId packet stamp =>
      server.onPacketReceived sha256 connectionId packet stamp
  | .executeNext run =>
      { server with chat := server.chat.onManagement (.executeNext run) ⟨0, 0⟩ }
  | .handleNext notify load => server.handleNext notify load
  | .storeStep ok => { server with offline := server.offline.storeStep ok }
  | .offlineLoaded => { server with offline := server.offline.offlineLoaded }

end ActingEvent

def actingSystem (Text : Type) [JsonDocument Text] (sha256 : List Nat → String) :
    System (ActingServer Text) ActingEvent where
  initial := ActingServer.empty
  enabled := ActingEvent.enabled
  next := ActingEvent.next sha256

/-! ## What holds in every run -/

def Owned (entry : Option PacketOrigin × UserRequest) : Prop :=
  ∃ origin, entry.1 = some origin ∧ origin.isAuthenticated = true ∧
    entry.2.NamesOnly origin.userId

structure ActorsKnown (server : ActingServer Text) : Prop where
  owned : ∀ entry ∈ server.emitted, Owned entry
  waits : ∀ token pending,
    server.chat.delivery.pendingGroupMessages.lookup token = some pending →
      ∃ origin, server.origins.lookup token = some origin ∧ origin.isAuthenticated = true ∧
        origin.userId = pending.senderUserId
  recorded : ∀ entry ∈ server.chat.management.calls, entry.2.isRequest = true →
    ∃ origin, (origin, UserRequest.call entry.2) ∈ server.emitted

namespace ActorsKnown

variable {server : ActingServer Text}

omit [JsonDocument Text] in
/-- A step that emits nothing and lets no new call or group message wait. -/
theorem quiet {after : ActingServer Text} (known : ActorsKnown server)
    (emitted : after.emitted = server.emitted) (origins : after.origins = server.origins)
    (waits : ∀ token pending, after.chat.delivery.pendingGroupMessages.lookup token =
      some pending → server.chat.delivery.pendingGroupMessages.lookup token = some pending)
    (calls : ∀ entry ∈ after.chat.management.calls, entry.2.isRequest = true →
      entry ∈ server.chat.management.calls) : ActorsKnown after := by
  refine ⟨?_, ?_, ?_⟩
  · rw [emitted]
    exact known.owned
  · intro token pending found
    rw [origins]
    exact known.waits token pending (waits token pending found)
  · intro entry member isRequest
    rw [emitted]
    exact known.recorded entry (calls entry member isRequest) isRequest

/-- Requests to the message table are emitted for the user they name. -/
theorem emitSignals {after : ActingServer Text} (known : ActorsKnown after)
    (origin : Option PacketOrigin) (signals : List DeliverySignal)
    (owned : ∀ signal ∈ signals, ∀ request, signal.storeRequest = some request →
      Owned (origin, .store request)) : ActorsKnown (after.emitSignals origin signals) := by
  refine ⟨?_, known.waits, ?_⟩
  · intro entry member
    rcases List.mem_append.mp member with old | new
    · exact known.owned entry old
    · obtain ⟨request, requestIn, rfl⟩ := List.mem_map.mp new
      obtain ⟨stored, storedIn, rfl⟩ := List.mem_map.mp requestIn
      obtain ⟨signal, signalIn, isStore⟩ := List.mem_filterMap.mp storedIn
      exact owned signal signalIn stored isStore
  · intro entry member isRequest
    obtain ⟨origin, recorded⟩ := known.recorded entry member isRequest
    exact ⟨origin, List.mem_append_left _ recorded⟩

theorem lookup_origins (origin : PacketOrigin) (tokens : List String) (token : String) :
    ∀ origins : FiniteMap String PacketOrigin,
      (tokens.foldl (fun origins token => origins.insert token origin) origins).lookup token =
        if token ∈ tokens then some origin else origins.lookup token := by
  induction tokens with
  | nil => exact fun origins => (if_neg List.not_mem_nil).symm
  | cons first rest ih =>
      intro origins
      rw [List.foldl_cons, ih, FiniteMap.lookup_insert]
      by_cases later : token ∈ rest
      · rw [if_pos later, if_pos (List.mem_cons_of_mem _ later)]
      · rw [if_neg later]
        by_cases here : token = first
        · rw [if_pos here, if_pos (here ▸ List.mem_cons_self)]
        · rw [if_neg here, if_neg (fun member => (List.mem_cons.mp member).elim here later)]

theorem onSendMessage (known : ActorsKnown server) {connectionId : String}
    {session : ClientSession}
    (found : server.chat.management.manager.findByConnectionId connectionId = some session)
    (packet : Packet) (stamp : SendStamp) :
    ActorsKnown (server.onSendMessage sha256 connectionId session packet stamp) := by
  unfold ActingServer.onSendMessage ActingServer.sendSignals
  cases accepted : handleSendMessage session packet with
  | error refusal =>
      rw [sendMessage_refused sha256 found accepted]
      apply emitSignals
      · exact known.quiet rfl rfl (fun _ _ waits => waits) (fun _ member _ => member)
      · exact fun signal member => nomatch member
  | ok params =>
      obtain ⟨authenticated, sender, _, _⟩ := handleSendMessage_ok accepted
      obtain ⟨delivery, calls⟩ := sendMessage_accepted sha256 stamp found accepted
      have sends := sendsAs_processSendMessage sha256 server.chat.delivery stamp params
      rw [sender] at sends
      apply emitSignals
      · refine ⟨known.owned, ?_, ?_⟩
        · intro token pending waiting
          rw [delivery] at waiting
          have waits := sends.waits token pending waiting
          rw [lookup_origins]
          by_cases asked : token ∈ (processSendMessage sha256 server.chat.delivery stamp
              params).2.filterMap DeliverySignal.loadToken
          · rw [if_pos asked] at waits
            exact ⟨session.origin, if_pos asked, authenticated, waits.symm⟩
          · rw [if_neg asked] at waits
            obtain ⟨origin, isOrigin, known, same⟩ := known.waits token pending waits
            exact ⟨origin, (if_neg asked).trans isOrigin, known, same⟩
        · intro entry member isRequest
          exact known.recorded entry (calls entry member isRequest) isRequest
      · intro signal member request isStore
        refine ⟨session.origin, rfl, authenticated, UserRequest.namesOnly_singleton ?_⟩
        exact congrArg (fun userId => [userId]) (sends.stores signal member request isStore)

omit [JsonDocument Text] in
theorem onManagementPacket (known : ActorsKnown server) {connectionId : String}
    {session : ClientSession}
    (found : server.chat.management.manager.findByConnectionId connectionId = some session)
    (packet : Packet) :
    ActorsKnown (server.onManagementPacket connectionId session packet) := by
  have dispatched : server.chat.management.onPacketReceived connectionId packet =
      server.chat.management.dispatch session packet := by
    rw [ManagementState.onPacketReceived, found]
  simp only [ActingServer.onManagementPacket, dispatched]
  rcases calls_dispatch server.chat.management session packet with
    same | ⟨request, call, added, authenticated, names⟩
  · refine known.quiet ?_ rfl (fun _ _ waits => waits) ?_
    · simp [same]
    · intro entry member _
      exact same ▸ member
  · have fresh : (server.chat.management.dispatch session packet).calls.drop
        server.chat.management.calls.length = [(request, call)] := by
      rw [added, List.drop_left]
    refine ⟨?_, known.waits, ?_⟩
    · intro entry member
      rcases List.mem_append.mp member with old | new
      · exact known.owned entry old
      · rw [fresh] at new
        rw [List.mem_singleton.mp new]
        exact ⟨session.origin, rfl, authenticated, names⟩
    · intro entry member isRequest
      simp only [fresh]
      rcases List.mem_append.mp (added ▸ member) with old | new
      · obtain ⟨origin, recorded⟩ := known.recorded entry old isRequest
        exact ⟨origin, List.mem_append_left _ recorded⟩
      · rw [List.mem_singleton.mp new]
        exact ⟨some session.origin, List.mem_append_right _ List.mem_cons_self⟩

theorem handleNext (known : ActorsKnown server) (notify : NotifyStamp) (load : LoadStamp) :
    ActorsKnown (server.handleNext notify load) := by
  have delivery := handleNext_delivery server.chat notify load
  have calls := handleNext_calls server.chat notify load
  unfold ActingServer.handleNext
  cases members : server.chat.nextMembers with
  | none =>
      rw [members] at delivery
      refine known.quiet rfl rfl ?_ calls
      intro token pending waiting
      simp only [ActingServer.deliver] at waiting
      rw [delivery] at waiting
      exact waiting
  | some taken =>
      rw [members] at delivery
      apply emitSignals
      · apply known.quiet
        · rfl
        · rfl
        · intro token pending waiting
          simp only [ActingServer.deliver] at waiting
          rw [delivery, lookup_onGroupMembersForMessage] at waiting
          split at waiting
          · cases waiting
          · exact waiting
        · exact calls
      · intro signal member request isStore
        obtain ⟨pending, waiting, sender⟩ := stores_onGroupMembersForMessage
          server.chat.delivery load taken.2 signal member request isStore
        obtain ⟨origin, isOrigin, authenticated, same⟩ := known.waits _ pending waiting
        refine ⟨origin, isOrigin, authenticated, UserRequest.namesOnly_singleton ?_⟩
        exact congrArg (fun userId => [userId]) (sender.trans same.symm)

theorem next (known : ActorsKnown server) (event : ActingEvent) :
    ActorsKnown (event.next sha256 server) := by
  cases event with
  | session event => exact known.quiet rfl rfl (fun _ _ waits => waits) (fun _ member _ => member)
  | sessionDeleted connectionId =>
      exact known.quiet rfl rfl (fun _ _ waits => waits) (fun _ member _ => member)
  | ensureUser run userId nickname =>
      exact known.quiet rfl rfl (fun _ _ waits => waits) (fun _ member _ => member)
  | packetReceived connectionId packet stamp =>
      simp only [ActingEvent.next, ActingServer.onPacketReceived]
      split
      · exact known
      · rename_i session found
        split
        · exact known.onSendMessage sha256 found packet stamp
        · exact known.quiet rfl rfl (fun _ _ waits => waits) (fun _ member _ => member)
        · exact known.onManagementPacket found packet
  | executeNext run =>
      refine known.quiet rfl rfl (fun _ _ waits => waits) ?_
      intro entry member _
      simp only [ActingEvent.next, ChatServer.onManagement, ManagementEvent.next,
        ManagementState.executeNext] at member
      split at member
      · exact member
      · rename_i request call rest waiting
        rw [waiting]
        exact List.mem_cons_of_mem _ member
  | handleNext notify load => exact known.handleNext notify load
  | storeStep ok => exact known.quiet rfl rfl (fun _ _ waits => waits) (fun _ member _ => member)
  | offlineLoaded =>
      exact known.quiet rfl rfl (fun _ _ waits => waits) (fun _ member _ => member)

end ActorsKnown

theorem actorsKnown_of_reachable : ∀ server, (actingSystem Text sha256).Reachable server →
    ActorsKnown server := by
  apply System.Reachable.invariant
  · exact ⟨(fun _ member => nomatch member), (fun _ _ found => nomatch found),
      fun _ member => nomatch member⟩
  · intro server event _ known _
    exact known.next sha256 event

/-! ## Identity fields of the payload -/

def identityFields : List String :=
  ["senderUserId", "senderNickname", "fromUserId", "operatorUserId"]

structure DifferInIdentity (packet twin : Packet) : Prop where
  cmd : twin.cmd = packet.cmd
  msgId : twin.msgId = packet.msgId
  protocolVersion : twin.protocolVersion = packet.protocolVersion
  timestampUtc : twin.timestampUtc = packet.timestampUtc
  code : twin.code = packet.code
  message : twin.message = packet.message
  payload : ∀ key, key ∉ identityFields → twin.payload.value key = packet.payload.value key

namespace DifferInIdentity

variable {packet twin : Packet} (differ : DifferInIdentity packet twin) (session : ClientSession)
include differ

theorem handleSendMessage : handleSendMessage session twin = handleSendMessage session packet := by
  simp only [ShirohaChat.handleSendMessage, differ.msgId, differ.payload "sessionType" (by decide),
    differ.payload "sessionId" (by decide), differ.payload "recipientUserId" (by decide),
    differ.payload "content" (by decide)]

theorem sendMessage (sha256 : List Nat → String) (server : ChatServer) (connectionId : String)
    (stamp : SendStamp) :
    server.sendMessage sha256 connectionId twin stamp =
      server.sendMessage sha256 connectionId packet stamp := by
  simp only [ChatServer.sendMessage, differ.handleSendMessage, differ.cmd, differ.msgId]

theorem groupPacket (service : GroupManagementService) :
    GroupHandler.handlePacket service session twin =
      GroupHandler.handlePacket service session packet := by
  simp only [GroupHandler.handlePacket, GroupHandler.handleCreateGroup,
    GroupHandler.handleAddMember, GroupHandler.handleRemoveMember, GroupHandler.handleLeaveGroup,
    GroupHandler.handleGroupList, Packet.text, differ.cmd, differ.msgId,
    differ.payload "groupName" (by decide), differ.payload "memberUserIds" (by decide),
    differ.payload "groupId" (by decide), differ.payload "userId" (by decide)]

theorem friendPacket (service : FriendManagementService) :
    FriendHandler.handlePacket service session twin =
      FriendHandler.handlePacket service session packet := by
  simp only [FriendHandler.handlePacket, FriendHandler.handleFriendRequest,
    FriendHandler.handleFriendAccept, FriendHandler.handleFriendReject,
    FriendHandler.handleDecision, FriendHandler.handleFriendList,
    FriendHandler.handleFriendRequestList, Packet.text, differ.cmd, differ.msgId,
    differ.payload "toUserId" (by decide), differ.payload "message" (by decide),
    differ.payload "requestId" (by decide)]

theorem managementPacket (state : ManagementState) (connectionId : String) :
    state.onPacketReceived connectionId twin = state.onPacketReceived connectionId packet := by
  simp only [ManagementState.onPacketReceived, ManagementState.dispatch,
    differ.groupPacket, differ.friendPacket, ManagementState.refuse, ManagementState.issue,
    differ.cmd, differ.msgId]

theorem onPacketReceived (sha256 : List Nat → String) (server : ActingServer Text)
    (connectionId : String) (stamp : SendStamp) :
    server.onPacketReceived sha256 connectionId twin stamp =
      server.onPacketReceived sha256 connectionId packet stamp := by
  simp only [ActingServer.onPacketReceived, ActingServer.onSendMessage,
    ActingServer.sendSignals, ActingServer.onManagementPacket, differ.handleSendMessage,
    differ.sendMessage, differ.managementPacket, differ.cmd, differ.msgId]

end DifferInIdentity

end Acting

/-! ## Requests name the user of their connection -/

/-- Every request names the authenticated user its connection had when the
packet arrived, and no payload can change what is requested or delivered. -/
theorem requests_name_their_user (Text : Type) [JsonDocument Text]
    (sha256 : List Nat → String) :
    ∀ server, (actingSystem Text sha256).Reachable server →
      (∀ entry ∈ server.chat.management.calls, entry.2.isRequest = true →
        ∃ origin, (origin, UserRequest.call entry.2) ∈ server.emitted) ∧
      (∀ entry ∈ server.emitted, ∃ origin, entry.1 = some origin ∧
        origin.isAuthenticated = true ∧ entry.2.NamesOnly origin.userId) ∧
      ∀ connectionId packet twin stamp, DifferInIdentity packet twin →
        (ActingEvent.packetReceived connectionId twin stamp).next sha256 server =
          (ActingEvent.packetReceived connectionId packet stamp).next sha256 server := by
  intro server reached
  have known := actorsKnown_of_reachable sha256 server reached
  refine ⟨known.recorded, known.owned, ?_⟩
  intro connectionId packet twin stamp differ
  exact differ.onPacketReceived sha256 server connectionId stamp

def createGroupAs (operatorUserId : String) : Packet :=
  { cmd := .createGroup, msgId := "m1"
    payload := [("groupName", .string "g"), ("operatorUserId", .string operatorUserId)] }

def aliceCreatesAsBob : List ActingEvent :=
  [.session (.newConnection "c1" 0), .session (.connectAccepted "c1" "alice" "Alice"),
    .packetReceived "c1" (createGroupAs "bob") ⟨0, "s1", "t1", 0, 0, "grpmsg_1"⟩]

def aliceActing : ActingServer ParsedText :=
  aliceCreatesAsBob.foldl (ActingEvent.next fun _ => "") ActingServer.empty

theorem aliceActing_reachable : (actingSystem ParsedText fun _ => "").Reachable aliceActing := by
  have named : "alice" ≠ "" := by decide
  refine System.Reachable.run aliceCreatesAsBob _ System.Reachable.initial ?_
  refine ⟨⟨⟨⟨by decide, rfl⟩, ?_⟩, ⟨⟨by decide, rfl⟩, nofun⟩⟩,
    ⟨⟨named, nofun⟩, ⟨named, ?_⟩⟩, nofun, trivial⟩
  · intro connectionId now isNew
    exact List.not_mem_nil
  · intro connectionId userId nickname accepted
    cases accepted
    decide

theorem differInIdentity_createGroupAs :
    DifferInIdentity (createGroupAs "bob") (createGroupAs "carol") := by
  refine ⟨rfl, rfl, rfl, rfl, rfl, rfl, ?_⟩
  intro key outside
  have notOperator : "operatorUserId" ≠ key := by
    rintro rfl
    exact outside (by decide)
  simp [createGroupAs, QJsonObject.value, List.find?_cons, notOperator]

theorem requests_name_their_user_alice :
    (∃ origin, (some ⟨"c1", "alice", true⟩ : Option PacketOrigin) = some origin ∧
      origin.isAuthenticated = true ∧
      (UserRequest.call (.createGroup ⟨"m1", "g", "alice", []⟩)).NamesOnly origin.userId) ∧
    (ActingEvent.packetReceived "c1" (createGroupAs "carol")
        ⟨0, "s1", "t1", 0, 0, "grpmsg_1"⟩).next (fun _ => "") aliceActing =
      (ActingEvent.packetReceived "c1" (createGroupAs "bob")
        ⟨0, "s1", "t1", 0, 0, "grpmsg_1"⟩).next (fun _ => "") aliceActing := by
  obtain ⟨_, owned, same⟩ :=
    requests_name_their_user ParsedText (fun _ => "") aliceActing aliceActing_reachable
  exact ⟨owned (some ⟨"c1", "alice", true⟩, .call (.createGroup ⟨"m1", "g", "alice", []⟩))
    (List.mem_singleton.mpr rfl), same "c1" _ _ _ differInIdentity_createGroupAs⟩

end ShirohaChat
