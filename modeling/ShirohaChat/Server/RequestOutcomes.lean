import ShirohaChat.Server.ManagementRuns

/-!
# Every acknowledgement carries the outcome of its own request

Beside the management server a log is kept: the packet and the user behind each
request, and what the database thread executed.  The program keeps only the
group name of a request; everything else in an acknowledgement travels with the
result, so both have to meet again under the message id.
-/

set_option autoImplicit false

namespace ShirohaChat

open Transition Correlation

/-! ## What a packet asks for -/

/-- The call in the name of a user; `none` for the commands of other handlers. -/
def Packet.storeCall (packet : Packet) (userId : String) : Option StoreCall :=
  match packet.cmd with
  | .createGroup => some (.createGroup ⟨packet.msgId, packet.text "groupName", userId,
      (jsonArray (packet.payload.value "memberUserIds")).map fun item => jsonText (some item)⟩)
  | .addMember => some (.addMember
      ⟨packet.msgId, packet.text "groupId", packet.text "userId", userId, .add⟩)
  | .removeMember => some (.removeMember
      ⟨packet.msgId, packet.text "groupId", packet.text "userId", userId, .remove⟩)
  | .leaveGroup => some (.leaveGroup
      ⟨packet.msgId, packet.text "groupId", userId, userId, .leave⟩)
  | .groupList => some (.loadGroupList ⟨packet.msgId, userId⟩)
  | .friendRequest => some (.createFriendRequest
      ⟨packet.msgId, userId, packet.text "toUserId", packet.text "message"⟩)
  | .friendAccept => some (.decideFriendRequest
      ⟨packet.msgId, packet.text "requestId", userId, .accept⟩)
  | .friendReject => some (.decideFriendRequest
      ⟨packet.msgId, packet.text "requestId", userId, .reject⟩)
  | .friendList => some (.loadFriendList ⟨packet.msgId, userId⟩)
  | .friendRequestList => some (.loadFriendRequestList ⟨packet.msgId, userId⟩)
  | _ => none

def StoreCall.answer : StoreCall → StoreReply → Option Packet
  | .createGroup request, .groupCreated result =>
      some (GroupHandler.onGroupCreated request.groupName result)
  | .addMember _, .memberOpCompleted result =>
      some (GroupHandler.onMemberOpCompleted .add result)
  | .removeMember _, .memberOpCompleted result =>
      some (GroupHandler.onMemberOpCompleted .remove result)
  | .leaveGroup _, .memberOpCompleted result =>
      some (GroupHandler.onMemberOpCompleted .leave result)
  | .loadGroupList _, .groupListLoaded result => some (GroupHandler.onGroupListLoaded result)
  | .createFriendRequest _, .friendRequestCreated result =>
      some (FriendHandler.onCreateCompleted result)
  | .decideFriendRequest request, .friendDecisionCompleted result =>
      some (FriendHandler.onDecisionCompleted request.operation result)
  | .loadFriendList _, .friendListLoaded result =>
      some (FriendHandler.onFriendListCompleted result)
  | .loadFriendRequestList _, .friendRequestListLoaded result =>
      some (FriendHandler.onFriendRequestListCompleted result)
  | _, _ => none

/-! ## The log -/

/-- The user is the one the connection had when the packet came. -/
structure AskedRequest where
  request : IssuedRequest
  userId : String
  packet : Packet
  call : StoreCall

/-- The database is the one the call found. -/
structure Execution where
  request : IssuedRequest
  call : StoreCall
  database : Database
  run : StoreRun

namespace Execution

def reply (execution : Execution) : StoreReply :=
  (executeStoreCall execution.database execution.run execution.call).2

/-- Loads of member lists are nobody's requests. -/
def asked (execution : Execution) : Option (IssuedRequest × StoreCall) :=
  if execution.call.isRequest then some (execution.request, execution.call) else none

def acknowledgement (execution : Execution) : Option (IssuedRequest × String × Packet) :=
  (execution.call.answer execution.reply).map fun packet =>
    (execution.request, execution.request.session, packet)

theorem isAnswer_reply (execution : Execution) :
    execution.reply.isAnswer = execution.call.isRequest := by
  obtain ⟨request, call, database, run⟩ := execution
  cases call <;> rfl

end Execution

structure RequestLog where
  state : ManagementState
  asked : List AskedRequest
  handled : List Execution
  unhandled : List Execution

def askedBy (before after : ManagementState) (connectionId : String) (packet : Packet) :
    List AskedRequest :=
  match before.manager.findByConnectionId connectionId with
  | none => []
  | some session => (after.calls.drop before.calls.length).map fun entry =>
      ⟨entry.1, session.userId, packet, entry.2⟩

namespace RequestLog

def empty : RequestLog := ⟨ManagementState.empty, [], [], []⟩

def next (log : RequestLog) (event : ManagementEvent) : RequestLog :=
  let after := event.next log.state
  match event with
  | .packetReceived connectionId packet =>
      { log with
        state := after
        asked := log.asked ++ askedBy log.state after connectionId packet }
  | .executeNext run =>
      { log with
        state := after
        unhandled := log.unhandled ++ log.state.calls.head?.toList.map fun entry =>
          ⟨entry.1, entry.2, log.state.database, run⟩ }
  | .handleNext _ =>
      { log with
        state := after
        handled := log.handled ++ log.unhandled.head?.toList
        unhandled := log.unhandled.tail }
  | _ => { log with state := after }

@[simp] theorem next_state (log : RequestLog) (event : ManagementEvent) :
    (log.next event).state = event.next log.state := by
  cases event <;> rfl

end RequestLog

/-- No request is issued under a message id still waiting in its map. -/
def requestLogSystem : System RequestLog ManagementEvent where
  initial := RequestLog.empty
  enabled := fun log event => (managementSystem.restrict NotWaiting).enabled log.state event
  next := RequestLog.next

theorem requestLog_state (log : RequestLog) (reached : requestLogSystem.Reachable log) :
    (managementSystem.restrict NotWaiting).Reachable log.state := by
  refine System.Reachable.simulates RequestLog.state rfl ?_ log reached
  intro before event _ enabled
  exact Or.inr ⟨event, enabled, before.next_state event⟩

/-! ## What the handlers pass on -/

/-- A group that is being created waits under its own name. -/
def NameKept (group : GroupManagementService) (entry : IssuedRequest × StoreCall) : Prop :=
  ∀ request pending, entry.2 = .createGroup request →
    group.pendingRequests.lookup entry.1.msgId = some pending →
    pending.groupName = request.groupName

def WaitsForPacket (before after : GroupManagementService) (packet : Packet)
    (call : StoreCall) : Prop :=
  ∀ msgId pending, after.pendingRequests.lookup msgId = some pending →
    before.pendingRequests.lookup msgId = some pending ∨
      (slotFor packet.cmd = .group ∧ packet.msgId = msgId ∧
        ∀ request, call = .createGroup request → pending.groupName = request.groupName)

theorem WaitsForPacket.insert {service : GroupManagementService} {packet : Packet}
    {call : StoreCall} {pending : GroupPendingRequest} (inGroup : slotFor packet.cmd = .group)
    (named : ∀ request, call = .createGroup request →
      pending.groupName = request.groupName) :
    WaitsForPacket service
      { service with pendingRequests := service.pendingRequests.insert packet.msgId pending }
      packet call := by
  intro msgId kept found
  rw [FiniteMap.lookup_insert] at found
  by_cases same : msgId = packet.msgId
  · rw [if_pos same] at found
    cases found
    exact Or.inr ⟨inGroup, same.symm, named⟩
  · rw [if_neg same] at found
    exact Or.inl found

theorem GroupHandler.handlePacket_asks {service after : GroupManagementService}
    {session : ClientSession} {packet : Packet} {call : StoreCall}
    (handled : GroupHandler.handlePacket service session packet = some (.ok (after, call))) :
    packet.storeCall session.userId = some call ∧ WaitsForPacket service after packet call := by
  unfold GroupHandler.handlePacket at handled
  split at handled
  case h_1 isCommand =>
      have passed := requireTexts_ok (requireAuthenticated_ok (Option.some.inj handled))
      cases passed
      refine ⟨by rw [Packet.storeCall, isCommand], WaitsForPacket.insert ?_ ?_⟩
      · rw [isCommand]
        rfl
      · intro request isCreate
        cases isCreate
        rfl
  case h_5 isCommand =>
      -- group lists wait in a map of their own
      have passed := requireAuthenticated_ok (Option.some.inj handled)
      cases passed
      refine ⟨by rw [Packet.storeCall, isCommand], ?_⟩
      intro msgId pending found
      exact Or.inl found
  case h_6 => cases handled
  all_goals
    rename_i isCommand
    have passed := requireTexts_ok (requireAuthenticated_ok (Option.some.inj handled))
    cases passed
    refine ⟨by rw [Packet.storeCall, isCommand], WaitsForPacket.insert ?_ ?_⟩
    · rw [isCommand]
      rfl
    · intro request isCreate
      cases isCreate

theorem FriendHandler.handlePacket_asks {service after : FriendManagementService}
    {session : ClientSession} {packet : Packet} {call : StoreCall}
    (handled : FriendHandler.handlePacket service session packet = some (.ok (after, call))) :
    packet.storeCall session.userId = some call ∧
      ∀ request, call ≠ .createGroup request := by
  unfold FriendHandler.handlePacket at handled
  split at handled
  case h_6 => cases handled
  all_goals
    rename_i isCommand
    have passed := requireAuthenticated_ok (Option.some.inj handled)
    first
      | cases requireTexts_ok passed
      | cases passed
    exact ⟨by rw [Packet.storeCall, isCommand], fun request => StoreCall.noConfusion⟩

theorem handlers_apart (group : GroupManagementService) (friend : FriendManagementService)
    (session : ClientSession) (packet : Packet) :
    GroupHandler.handlePacket group session packet = none ∨
      FriendHandler.handlePacket friend session packet = none := by
  unfold GroupHandler.handlePacket FriendHandler.handlePacket
  cases packet.cmd <;> simp

/-- A packet is passed on as the call it asks for, or nothing but an error
comes of it. -/
theorem dispatch_asks (state : ManagementState) (session : ClientSession) (packet : Packet) :
    (Accepts state session packet ∧ ∃ group friend call,
      state.dispatch session packet =
        { state with group := group, friend := friend }.issue session packet call ∧
      packet.storeCall session.userId = some call ∧
      WaitsForPacket state.group group packet call) ∨
    (¬ Accepts state session packet ∧
      ∃ errors, state.dispatch session packet = { state with errors := errors }) := by
  unfold ManagementState.dispatch
  split
  · rename_i refusal handled
    refine Or.inr ⟨?_, _, rfl⟩
    rintro (⟨outcome, accepted⟩ | ⟨outcome, accepted⟩)
    · rw [handled] at accepted
      cases accepted
    · rcases handlers_apart state.group state.friend session packet with other | other
      · rw [handled] at other
        cases other
      · rw [accepted] at other
        cases other
  · rename_i group call handled
    obtain ⟨asks, waits⟩ := GroupHandler.handlePacket_asks handled
    exact Or.inl ⟨Or.inl ⟨_, handled⟩, group, state.friend, call, rfl, asks, waits⟩
  · rename_i notGroup
    have notAccepted : ∀ friends,
        FriendHandler.handlePacket state.friend session packet = friends →
        (∀ outcome, friends ≠ some (.ok outcome)) → ¬ Accepts state session packet := by
      rintro friends isFriends noOutcome (⟨outcome, accepted⟩ | ⟨outcome, accepted⟩)
      · rw [notGroup] at accepted
        cases accepted
      · exact noOutcome outcome (isFriends ▸ accepted)
    split
    · rename_i refusal handled
      exact Or.inr ⟨notAccepted _ handled (by simp), _, rfl⟩
    · rename_i friend call handled
      obtain ⟨asks, _⟩ := FriendHandler.handlePacket_asks handled
      refine Or.inl ⟨Or.inr ⟨_, handled⟩, state.group, friend, call, rfl, asks, ?_⟩
      intro msgId pending found
      exact Or.inl found
    · rename_i notFriend
      exact Or.inr ⟨notAccepted _ notFriend (by simp), state.errors, rfl⟩

theorem storeCall_carries {packet : Packet} {userId : String} {call : StoreCall}
    (asks : packet.storeCall userId = some call) :
    call.Carries packet.cmd packet.msgId ∧ call.isRequest = true := by
  unfold Packet.storeCall at asks
  split at asks
  case h_11 => cases asks
  all_goals
    rename_i isCommand
    cases asks
    rw [isCommand]
    simp [StoreCall.Carries, StoreCall.isRequest]

/-! ## What handling a result sends -/

def requestsOf (calls : List (IssuedRequest × StoreCall)) : List (IssuedRequest × StoreCall) :=
  calls.filter fun entry => entry.2.isRequest

def Acknowledgement.sent (ack : Acknowledgement) : IssuedRequest × String × Packet :=
  (ack.request, ack.session, ack.packet)

namespace ManagementState

theorem emitGroup_foldl (request : IssuedRequest) (signals : List GroupSignal) :
    ∀ state : ManagementState,
      (signals.foldl (emitGroup request) state).group = state.group ∧
      requestsOf (signals.foldl (emitGroup request) state).calls = requestsOf state.calls ∧
      ((∀ signal ∈ signals, signal.IsNotice) →
        (signals.foldl (emitGroup request) state).acks = state.acks) := by
  induction signals with
  | nil => exact fun state => ⟨rfl, rfl, fun _ => rfl⟩
  | cons signal rest ih =>
      intro state
      obtain ⟨sameGroup, sameCalls, sameAcks⟩ := ih (emitGroup request state signal)
      rw [List.foldl_cons, sameGroup, sameCalls]
      refine ⟨by cases signal <;> rfl, ?_, ?_⟩
      · cases signal with
        | requestLoadGroupMembersForNotify query =>
            simp [requestsOf, emitGroup, StoreCall.isRequest]
        | _ => rfl
      · intro quiet
        rw [sameAcks fun other member => quiet other (List.mem_cons_of_mem _ member)]
        have isNotice := quiet signal List.mem_cons_self
        cases signal with
        | requestLoadGroupMembersForNotify query => rfl
        | enqueueIfOffline userId packet => rfl
        | groupCreated session groupName result => exact isNotice.elim
        | memberOpCompleted session operation operatorUserId result => exact isNotice.elim
        | groupListLoaded session result => exact isNotice.elim

theorem emitFriend_foldl (request : IssuedRequest) (signals : List FriendSignal) :
    ∀ state : ManagementState,
      (signals.foldl (emitFriend request) state).group = state.group ∧
      (signals.foldl (emitFriend request) state).calls = state.calls ∧
      ((∀ signal ∈ signals, signal.IsNotice) →
        (signals.foldl (emitFriend request) state).acks = state.acks) := by
  induction signals with
  | nil => exact fun state => ⟨rfl, rfl, fun _ => rfl⟩
  | cons signal rest ih =>
      intro state
      obtain ⟨sameGroup, sameCalls, sameAcks⟩ := ih (emitFriend request state signal)
      rw [List.foldl_cons, sameGroup, sameCalls]
      refine ⟨by cases signal <;> rfl, by cases signal <;> rfl, ?_⟩
      intro quiet
      rw [sameAcks fun other member => quiet other (List.mem_cons_of_mem _ member)]
      have isNotice := quiet signal List.mem_cons_self
      cases signal with
      | enqueueIfOffline userId packet => rfl
      | createCompleted session pendingMessage result => exact isNotice.elim
      | decisionCompleted session pendingOp result => exact isNotice.elim
      | friendListCompleted session result => exact isNotice.elim
      | friendRequestListCompleted session result => exact isNotice.elim

variable (state : ManagementState) (stamp : NotifyStamp) (request : IssuedRequest)

theorem requests_onStoreReply (reply : StoreReply) :
    requestsOf (state.onStoreReply stamp request reply).calls = requestsOf state.calls := by
  have inGroup : ∀ outcome, requestsOf (state.runGroup request outcome).calls =
      requestsOf state.calls := fun outcome => (emitGroup_foldl request outcome.2 _).2.1
  have inFriend : ∀ outcome, requestsOf (state.runFriend request outcome).calls =
      requestsOf state.calls := by
    intro outcome
    rw [runFriend, (emitFriend_foldl request outcome.2 _).2.1]
  cases reply with
  | groupMembersLoaded result =>
      rw [onStoreReply]
      split
      · exact inGroup _
      · rfl
  | groupCreated result => exact inGroup _
  | memberOpCompleted result => exact inGroup _
  | groupListLoaded result => exact inGroup _
  | friendRequestCreated result => exact inFriend _
  | friendDecisionCompleted result => exact inFriend _
  | friendListLoaded result => exact inFriend _
  | friendRequestListLoaded result => exact inFriend _

theorem acks_onStoreReply_members (result : GroupMembersResult) :
    (state.onStoreReply stamp request (.groupMembersLoaded result)).acks = state.acks := by
  rw [onStoreReply]
  split
  · exact (emitGroup_foldl request _ _).2.2 (state.group.onGroupMembersForNotify_quiet result).2
  · rfl

end ManagementState

def OnlyTakes (before after : GroupManagementService) : Prop :=
  ∀ msgId pending, after.pendingRequests.lookup msgId = some pending →
    before.pendingRequests.lookup msgId = some pending

theorem OnlyTakes.erase (service : GroupManagementService) (reqMsgId : String)
    (notifications : FiniteMap String PendingNotification) :
    OnlyTakes service ⟨service.pendingRequests.erase reqMsgId, notifications,
      service.pendingGroupListRequests⟩ := by
  intro msgId pending found
  exact (FiniteMap.of_lookup_erase found).2

theorem OnlyTakes.onStoreReply (state : ManagementState) (stamp : NotifyStamp)
    (request : IssuedRequest) (reply : StoreReply) :
    OnlyTakes state.group (state.onStoreReply stamp request reply).group := by
  have inGroup : ∀ outcome : GroupManagementService × List GroupSignal,
      OnlyTakes state.group outcome.1 →
      OnlyTakes state.group (state.runGroup request outcome).group := by
    intro outcome takes
    rw [ManagementState.runGroup, (ManagementState.emitGroup_foldl request outcome.2 _).1]
    exact takes
  have inFriend : ∀ outcome, OnlyTakes state.group (state.runFriend request outcome).group := by
    intro outcome
    rw [ManagementState.runFriend, (ManagementState.emitFriend_foldl request outcome.2 _).1]
    exact fun msgId pending found => found
  cases reply with
  | groupCreated result =>
      refine inGroup _ ?_
      rcases state.group.onGroupCreated_cases stamp result with
        ⟨_, outcome⟩ | ⟨pending, notifications, notices, _, outcome, _⟩
      · rw [outcome]
        exact fun msgId pending found => found
      · rw [outcome]
        exact OnlyTakes.erase _ _ _
  | memberOpCompleted result =>
      refine inGroup _ ?_
      rcases state.group.onMemberOpCompleted_cases state.sessionUserId stamp result with
        ⟨_, outcome⟩ | ⟨pending, notifications, notices, operatorUserId, _, outcome, _⟩
      · rw [outcome]
        exact fun msgId pending found => found
      · rw [outcome]
        exact OnlyTakes.erase _ _ _
  | groupMembersLoaded result =>
      rw [ManagementState.onStoreReply]
      split
      · refine inGroup _ ?_
        unfold GroupManagementService.onGroupMembersForNotify
        simp only
        repeat' split
        all_goals exact fun msgId pending found => found
      · exact fun msgId pending found => found
  | groupListLoaded result =>
      refine inGroup _ ?_
      unfold GroupManagementService.onGroupListLoaded
      split
      all_goals exact fun msgId pending found => found
  | friendRequestCreated result => exact inFriend _
  | friendDecisionCompleted result => exact inFriend _
  | friendListLoaded result => exact inFriend _
  | friendRequestListLoaded result => exact inFriend _

/-! ## The result meets the entry of its request -/

section Waits
variable {group : GroupManagementService} {friend : FriendManagementService}
  {request : IssuedRequest}

theorem waits_group (inGroup : slotFor request.cmd = .group)
    (waits : waitingOf group friend request.key = some request.waiter) :
    ∃ pending, group.pendingRequests.lookup request.msgId = some pending ∧
      pending.session = request.session ∧
      PendingOperation.member pending.operation = operationFor request.cmd := by
  rw [IssuedRequest.key, inGroup] at waits
  obtain ⟨pending, found, isWaiter⟩ := Option.map_eq_some_iff.mp waits
  exact ⟨pending, found, congrArg Waiter.session isWaiter, congrArg Waiter.operation isWaiter⟩

theorem waits_friend (inFriend : slotFor request.cmd = .friend)
    (waits : waitingOf group friend request.key = some request.waiter) :
    ∃ pending, friend.pendingRequests.lookup request.msgId = some pending ∧
      pending.session = request.session ∧
      PendingOperation.decision pending.operation = operationFor request.cmd := by
  rw [IssuedRequest.key, inFriend] at waits
  obtain ⟨pending, found, isWaiter⟩ := Option.map_eq_some_iff.mp waits
  exact ⟨pending, found, congrArg Waiter.session isWaiter, congrArg Waiter.operation isWaiter⟩

end Waits

namespace ManagementState

variable {state : ManagementState} {request : IssuedRequest} {packet : Packet}

theorem sent_runGroup {group : GroupManagementService} {ack : GroupSignal}
    {notices : List GroupSignal} (quiet : ∀ signal ∈ notices, signal.IsNotice)
    (sends : ∀ other : ManagementState, emitGroup request other ack =
      other.acknowledge request request.session packet) :
    (state.runGroup request (group, ack :: notices)).acks.map Acknowledgement.sent =
      state.acks.map Acknowledgement.sent ++ [(request, request.session, packet)] := by
  rw [runGroup, List.foldl_cons, (emitGroup_foldl request notices _).2.2 quiet, sends]
  simp [acknowledge, Acknowledgement.sent]

theorem sent_takePending {signals : FriendPendingRequest → List FriendSignal}
    {pending : FriendPendingRequest}
    (found : state.friend.pendingRequests.lookup request.msgId = some pending)
    (acks : ∃ ack notices, signals pending = ack :: notices ∧
      (∀ signal ∈ notices, signal.IsNotice) ∧
      ∀ other : ManagementState, emitFriend request other ack =
        other.acknowledge request request.session packet) :
    (state.runFriend request (state.friend.takePending request.msgId signals)).acks.map
        Acknowledgement.sent =
      state.acks.map Acknowledgement.sent ++ [(request, request.session, packet)] := by
  obtain ⟨ack, notices, emitted, quiet, sends⟩ := acks
  rw [FriendManagementService.takePending, found]
  simp only [runFriend, emitted]
  rw [List.foldl_cons, (emitFriend_foldl request notices _).2.2 quiet, sends]
  simp [acknowledge, Acknowledgement.sent]

theorem sent_groupCreated (stamp : NotifyStamp) {result : GroupCreateResult}
    {groupName : String} (isCommand : request.cmd = .createGroup)
    (sameId : result.reqMsgId = request.msgId)
    (waits : waitingOf state.group state.friend request.key = some request.waiter)
    (named : ∀ pending, state.group.pendingRequests.lookup request.msgId = some pending →
      pending.groupName = groupName) :
    (state.runGroup request (state.group.onGroupCreated stamp result)).acks.map
        Acknowledgement.sent =
      state.acks.map Acknowledgement.sent ++
        [(request, request.session, GroupHandler.onGroupCreated groupName result)] := by
  obtain ⟨pending, found, ownSession, _⟩ := waits_group (by rw [isCommand]; rfl) waits
  rw [← sameId] at found
  rcases state.group.onGroupCreated_cases stamp result with
    ⟨missing, _⟩ | ⟨kept, notifications, notices, foundKept, outcome, quiet⟩
  · rw [found] at missing
    cases missing
  · rw [found] at foundKept
    cases foundKept
    rw [outcome]
    refine sent_runGroup quiet ?_
    intro other
    rw [emitGroup, ownSession, named pending (sameId ▸ found)]

theorem sent_memberOpCompleted (sessionUserId : String → Option String) (stamp : NotifyStamp)
    {result : GroupMemberOpResult} {operation : GroupMemberOp}
    (inGroup : slotFor request.cmd = .group)
    (ownOperation : operationFor request.cmd = .member operation)
    (sameId : result.reqMsgId = request.msgId)
    (waits : waitingOf state.group state.friend request.key = some request.waiter) :
    (state.runGroup request
        (state.group.onMemberOpCompleted sessionUserId stamp result)).acks.map
        Acknowledgement.sent =
      state.acks.map Acknowledgement.sent ++
        [(request, request.session, GroupHandler.onMemberOpCompleted operation result)] := by
  obtain ⟨pending, found, ownSession, kept⟩ := waits_group inGroup waits
  rw [ownOperation] at kept
  have isOperation : pending.operation = operation := PendingOperation.member.inj kept
  rw [← sameId] at found
  rcases state.group.onMemberOpCompleted_cases sessionUserId stamp result with
    ⟨missing, _⟩ | ⟨other, notifications, notices, operatorUserId, foundOther, outcome, quiet⟩
  · rw [found] at missing
    cases missing
  · rw [found] at foundOther
    cases foundOther
    rw [outcome]
    refine sent_runGroup quiet ?_
    intro other
    rw [emitGroup, ownSession, isOperation]

theorem sent_groupListLoaded {result : GroupListResult} (isCommand : request.cmd = .groupList)
    (sameId : result.reqMsgId = request.msgId)
    (waits : waitingOf state.group state.friend request.key = some request.waiter) :
    (state.runGroup request (state.group.onGroupListLoaded result)).acks.map
        Acknowledgement.sent =
      state.acks.map Acknowledgement.sent ++
        [(request, request.session, GroupHandler.onGroupListLoaded result)] := by
  rw [IssuedRequest.key, isCommand] at waits
  obtain ⟨session, found, isWaiter⟩ := Option.map_eq_some_iff.mp waits
  have ownSession : session = request.session := congrArg Waiter.session isWaiter
  rw [GroupManagementService.onGroupListLoaded, sameId, found, ownSession]
  refine sent_runGroup (by simp) ?_
  exact fun other => rfl

theorem sent_friendRequestCreated (stamp : NotifyStamp) {result : FriendRequestCreateResult}
    (inFriend : slotFor request.cmd = .friend) (sameId : result.reqMsgId = request.msgId)
    (waits : waitingOf state.group state.friend request.key = some request.waiter) :
    (state.runFriend request (state.friend.onFriendRequestCreated stamp result)).acks.map
        Acknowledgement.sent =
      state.acks.map Acknowledgement.sent ++
        [(request, request.session, FriendHandler.onCreateCompleted result)] := by
  obtain ⟨pending, found, ownSession, _⟩ := waits_friend inFriend waits
  rw [FriendManagementService.onFriendRequestCreated, sameId]
  refine sent_takePending found ?_
  by_cases success : result.success = true
  · simp only [success, not_true, if_false]
    refine ⟨_, _, rfl, ?_, ?_⟩
    · intro signal member
      rw [List.mem_singleton.mp member]
      trivial
    · intro other
      rw [emitFriend, ownSession]
  · simp only [success]
    refine ⟨_, [], rfl, by simp, ?_⟩
    intro other
    rw [emitFriend, ownSession]

theorem sent_friendDecisionCompleted (stamp : NotifyStamp) {result : FriendDecisionResult}
    {operation : FriendDecisionOp} (inFriend : slotFor request.cmd = .friend)
    (ownOperation : operationFor request.cmd = .decision operation)
    (sameId : result.reqMsgId = request.msgId)
    (waits : waitingOf state.group state.friend request.key = some request.waiter) :
    (state.runFriend request (state.friend.onFriendDecisionCompleted stamp result)).acks.map
        Acknowledgement.sent =
      state.acks.map Acknowledgement.sent ++
        [(request, request.session, FriendHandler.onDecisionCompleted operation result)] := by
  obtain ⟨pending, found, ownSession, kept⟩ := waits_friend inFriend waits
  rw [ownOperation] at kept
  have isOperation : pending.operation = operation := PendingOperation.decision.inj kept
  rw [FriendManagementService.onFriendDecisionCompleted, sameId]
  refine sent_takePending found ?_
  by_cases accepted : result.success = true ∧ result.status = "accepted"
  · simp only [if_pos accepted]
    refine ⟨_, _, rfl, ?_, ?_⟩
    · intro signal member
      rcases List.mem_cons.mp member with rfl | last
      · trivial
      · rw [List.mem_singleton.mp last]
        trivial
    · intro other
      rw [emitFriend, ownSession, isOperation]
  · simp only [if_neg accepted]
    refine ⟨_, [], rfl, by simp, ?_⟩
    intro other
    rw [emitFriend, ownSession, isOperation]

theorem sent_friendListLoaded {result : FriendListResult}
    (inFriend : slotFor request.cmd = .friend) (sameId : result.reqMsgId = request.msgId)
    (waits : waitingOf state.group state.friend request.key = some request.waiter) :
    (state.runFriend request (state.friend.onFriendListLoaded result)).acks.map
        Acknowledgement.sent =
      state.acks.map Acknowledgement.sent ++
        [(request, request.session, FriendHandler.onFriendListCompleted result)] := by
  obtain ⟨pending, found, ownSession, _⟩ := waits_friend inFriend waits
  rw [FriendManagementService.onFriendListLoaded, sameId]
  refine sent_takePending found ⟨_, [], rfl, by simp, ?_⟩
  intro other
  rw [emitFriend, ownSession]

theorem sent_friendRequestListLoaded {result : FriendRequestListResult}
    (inFriend : slotFor request.cmd = .friend) (sameId : result.reqMsgId = request.msgId)
    (waits : waitingOf state.group state.friend request.key = some request.waiter) :
    (state.runFriend request (state.friend.onFriendRequestListLoaded result)).acks.map
        Acknowledgement.sent =
      state.acks.map Acknowledgement.sent ++
        [(request, request.session, FriendHandler.onFriendRequestListCompleted result)] := by
  obtain ⟨pending, found, ownSession, _⟩ := waits_friend inFriend waits
  rw [FriendManagementService.onFriendRequestListLoaded, sameId]
  refine sent_takePending found ⟨_, [], rfl, by simp, ?_⟩
  intro other
  rw [emitFriend, ownSession]

end ManagementState

def IssuedRequest.IssuedFor (request : IssuedRequest) (packet : Packet) : Prop :=
  request.cmd = packet.cmd ∧ request.msgId = packet.msgId

theorem acknowledges_onStoreReply (state : ManagementState) (stamp : NotifyStamp)
    {execution : Execution} {packet : Packet} {userId : String}
    (asks : packet.storeCall userId = some execution.call)
    (follows : execution.request.IssuedFor packet)
    (waits : waitingOf state.group state.friend execution.request.key =
      some execution.request.waiter)
    (named : NameKept state.group (execution.request, execution.call)) :
    ∃ sent, execution.acknowledgement = some sent ∧
      (state.onStoreReply stamp execution.request execution.reply).acks.map
          Acknowledgement.sent =
        state.acks.map Acknowledgement.sent ++ [sent] := by
  obtain ⟨request, call, database, run⟩ := execution
  obtain ⟨sameCmd, sameId⟩ := follows
  unfold Packet.storeCall at asks
  split at asks
  · rename_i isCommand
    cases asks
    refine ⟨_, rfl, ManagementState.sent_groupCreated stamp (sameCmd.trans isCommand)
      ((createGroup_reqMsgId _ _ _).trans sameId.symm) waits ?_⟩
    exact fun pending found => named _ pending rfl found
  · rename_i isCommand
    cases asks
    exact ⟨_, rfl, ManagementState.sent_memberOpCompleted _ stamp
      (by rw [sameCmd, isCommand]; rfl) (by rw [sameCmd, isCommand]; rfl)
      ((addMember_reqMsgId _ _ _).trans sameId.symm) waits⟩
  · rename_i isCommand
    cases asks
    exact ⟨_, rfl, ManagementState.sent_memberOpCompleted _ stamp
      (by rw [sameCmd, isCommand]; rfl) (by rw [sameCmd, isCommand]; rfl)
      ((removeMember_reqMsgId _ _ _).trans sameId.symm) waits⟩
  · rename_i isCommand
    cases asks
    exact ⟨_, rfl, ManagementState.sent_memberOpCompleted _ stamp
      (by rw [sameCmd, isCommand]; rfl) (by rw [sameCmd, isCommand]; rfl)
      ((leaveGroup_reqMsgId _ _ _).trans sameId.symm) waits⟩
  · rename_i isCommand
    cases asks
    exact ⟨_, rfl, ManagementState.sent_groupListLoaded (sameCmd.trans isCommand)
      ((loadGroupList_reqMsgId _ _ _).trans sameId.symm) waits⟩
  · rename_i isCommand
    cases asks
    exact ⟨_, rfl, ManagementState.sent_friendRequestCreated stamp
      (by rw [sameCmd, isCommand]; rfl)
      ((createFriendRequest_reqMsgId _ _ _).trans sameId.symm) waits⟩
  · rename_i isCommand
    cases asks
    exact ⟨_, rfl, ManagementState.sent_friendDecisionCompleted stamp
      (by rw [sameCmd, isCommand]; rfl) (by rw [sameCmd, isCommand]; rfl)
      ((decideFriendRequest_reqMsgId _ _ _).trans sameId.symm) waits⟩
  · rename_i isCommand
    cases asks
    exact ⟨_, rfl, ManagementState.sent_friendDecisionCompleted stamp
      (by rw [sameCmd, isCommand]; rfl) (by rw [sameCmd, isCommand]; rfl)
      ((decideFriendRequest_reqMsgId _ _ _).trans sameId.symm) waits⟩
  · rename_i isCommand
    cases asks
    exact ⟨_, rfl, ManagementState.sent_friendListLoaded (by rw [sameCmd, isCommand]; rfl)
      ((loadFriendList_reqMsgId _ _ _ _).trans sameId.symm) waits⟩
  · rename_i isCommand
    cases asks
    exact ⟨_, rfl, ManagementState.sent_friendRequestListLoaded
      (by rw [sameCmd, isCommand]; rfl)
      ((loadFriendRequestList_reqMsgId _ _ _ _).trans sameId.symm) waits⟩
  · cases asks

/-! ## Runs -/

namespace AskedRequest

def entry (asked : AskedRequest) : IssuedRequest × StoreCall := (asked.request, asked.call)

def Own (asked : AskedRequest) : Prop :=
  asked.packet.storeCall asked.userId = some asked.call ∧ asked.request.IssuedFor asked.packet

end AskedRequest

def Execution.entry (execution : Execution) : IssuedRequest × StoreCall :=
  (execution.request, execution.call)

namespace RequestLog

def inFlight (log : RequestLog) : List (IssuedRequest × StoreCall) :=
  log.unhandled.map Execution.entry ++ log.state.calls

structure InOrder (log : RequestLog) : Prop where
  replies : log.state.replies =
    log.unhandled.map fun execution => (execution.request, execution.reply)
  order : (log.handled ++ log.unhandled).filterMap Execution.asked ++
    requestsOf log.state.calls = log.asked.map AskedRequest.entry
  issued : log.asked.map AskedRequest.request = log.state.issued
  own : ∀ asked ∈ log.asked, asked.Own
  acks : log.state.acks.map Acknowledgement.sent =
    log.handled.filterMap Execution.acknowledgement
  named : ∀ entry ∈ log.inFlight, NameKept log.state.group entry

namespace InOrder

variable {log : RequestLog}

theorem empty : InOrder RequestLog.empty := by
  refine ⟨rfl, rfl, rfl, ?_, rfl, ?_⟩
  · intro asked member
    cases member
  · intro entry member
    cases member

theorem inFlight_exchange (inOrder : InOrder log) :
    (requestsOf log.inFlight).map Prod.fst = log.state.exchange.inFlight := by
  have answers : ((log.unhandled.map Execution.entry).filter fun entry =>
      entry.2.isRequest).map Prod.fst =
      ((log.unhandled.map fun execution => (execution.request, execution.reply)).filter
        fun entry => entry.2.isAnswer).map Prod.fst := by
    simp only [List.filter_map, List.map_map]
    congr 1
    refine List.filter_congr ?_
    intro execution _
    exact execution.isAnswer_reply.symm
  rw [requestsOf, inFlight, List.filter_append, List.map_append, answers, ← inOrder.replies]
  rfl

theorem asked_inFlight (inOrder : InOrder log) {entry : IssuedRequest × StoreCall}
    (member : entry ∈ log.inFlight) (isRequest : entry.2.isRequest = true) :
    ∃ asked : AskedRequest, asked.Own ∧ asked.entry = entry := by
  have recorded : entry ∈ log.asked.map AskedRequest.entry := by
    rw [← inOrder.order]
    rcases List.mem_append.mp member with executed | waiting
    · obtain ⟨execution, isOne, rfl⟩ := List.mem_map.mp executed
      refine List.mem_append_left _ (List.mem_filterMap.mpr
        ⟨execution, List.mem_append_right _ isOne, ?_⟩)
      exact if_pos isRequest
    · exact List.mem_append_right _ (List.mem_filter.mpr ⟨waiting, isRequest⟩)
  obtain ⟨asked, isOne, same⟩ := List.mem_map.mp recorded
  exact ⟨asked, inOrder.own asked isOne, same⟩

section Correlates
variable (correlated : Correlated IssuedRequest.key IssuedRequest.waiter
  IssuedRequest.respond log.state.exchange)
include correlated

theorem waits_inFlight (inOrder : InOrder log) {entry : IssuedRequest × StoreCall}
    (member : entry ∈ log.inFlight) (isRequest : entry.2.isRequest = true) :
    waitingOf log.state.group log.state.friend entry.1.key = some entry.1.waiter := by
  refine correlated.found entry.1 ?_
  rw [← inOrder.inFlight_exchange]
  exact List.mem_map.mpr ⟨entry, List.mem_filter.mpr ⟨member, isRequest⟩, rfl⟩

theorem named_issue (inOrder : InOrder log) {packet : Packet} {userId : String}
    {group : GroupManagementService} {call : StoreCall} {request : IssuedRequest}
    (asks : packet.storeCall userId = some call) (follows : request.IssuedFor packet)
    (free : waitingOf log.state.group log.state.friend
      (slotFor packet.cmd, packet.msgId) = none)
    (waits : WaitsForPacket log.state.group group packet call) :
    ∀ entry ∈ log.inFlight ++ [(request, call)], NameKept group entry := by
  intro entry member create pending isCreate found
  rcases List.mem_append.mp member with old | new
  · have isRequest : entry.2.isRequest = true := by
      rw [isCreate]
      rfl
    rcases waits entry.1.msgId pending found with before | ⟨inGroup, sameId, _⟩
    · exact inOrder.named entry old create pending isCreate before
    · -- the packet would have found the entry of this request
      obtain ⟨asked, ⟨asksOld, followsOld⟩, rfl⟩ := inOrder.asked_inFlight old isRequest
      have carries := (storeCall_carries asksOld).1
      rw [show asked.call = .createGroup create from isCreate] at carries
      have kept := inOrder.waits_inFlight correlated old isRequest
      have sameKey : asked.entry.1.key = (slotFor packet.cmd, packet.msgId) := by
        rw [inGroup, sameId, IssuedRequest.key]
        rw [show asked.entry.1.cmd = asked.packet.cmd from followsOld.1, carries.1]
        rfl
      rw [sameKey, free] at kept
      cases kept
  · obtain rfl := List.mem_singleton.mp new
    have isCall : call = .createGroup create := isCreate
    rcases waits request.msgId pending found with before | ⟨_, _, named⟩
    · have carries := (storeCall_carries asks).1
      rw [isCall] at carries
      rw [carries.1, ← follows.2] at free
      have kept : waitingOf log.state.group log.state.friend (.group, request.msgId) =
          some ⟨pending.session, .member pending.operation⟩ := by
        rw [waitingOf, before]
        rfl
      rw [show slotFor Command.createGroup = .group from rfl, kept] at free
      cases free
    · exact named create isCall

/-- A packet is asked for as a call of its own, or leaves the log alone. -/
theorem packetReceived (inOrder : InOrder log) {connectionId : String} {packet : Packet}
    (condition : NotWaiting log.state (.packetReceived connectionId packet)) :
    InOrder (log.next (.packetReceived connectionId packet)) := by
  unfold RequestLog.next
  simp only [ManagementEvent.next, ManagementState.onPacketReceived, askedBy]
  cases found : log.state.manager.findByConnectionId connectionId with
  | none =>
      simp only [List.append_nil]
      exact inOrder
  | some session =>
      simp only
      rcases dispatch_asks log.state session packet with
        ⟨accepts, group, friend, call, issued, asks, waits⟩ | ⟨_, errors, refused⟩
      · rw [issued]
        simp only [ManagementState.issue, List.drop_left, List.map_cons, List.map_nil]
        have isRequest := (storeCall_carries asks).2
        refine ⟨inOrder.replies, ?_, ?_, ?_, inOrder.acks, ?_⟩
        · simp only [requestsOf, List.filter_append, List.map_append, List.map_cons,
            List.map_nil, AskedRequest.entry]
          rw [← List.append_assoc, ← requestsOf, inOrder.order]
          simp [isRequest]
        · simp [inOrder.issued]
        · intro asked member
          rcases List.mem_append.mp member with old | new
          · exact inOrder.own asked old
          · rw [List.mem_singleton.mp new]
            exact ⟨asks, rfl, rfl⟩
        · simp only [inFlight, ← List.append_assoc]
          exact inOrder.named_issue correlated asks ⟨rfl, rfl⟩
            (condition session found accepts) waits
      · rw [refused]
        simp only [List.drop_length, List.map_nil, List.append_nil]
        exact ⟨inOrder.replies, inOrder.order, inOrder.issued, inOrder.own, inOrder.acks,
          inOrder.named⟩

/-- Handling a result sends the acknowledgement of its own execution. -/
theorem handleNext (inOrder : InOrder log) (stamp : NotifyStamp) :
    InOrder (log.next (.handleNext stamp)) := by
  unfold RequestLog.next
  simp only [ManagementEvent.next, ManagementState.handleNext]
  cases waiting : log.unhandled with
  | nil =>
      have noReplies := inOrder.replies
      rw [waiting, List.map_nil] at noReplies
      rw [noReplies]
      simp only [List.head?_nil, Option.toList_none, List.append_nil, List.tail_nil]
      rw [← waiting]
      exact inOrder
  | cons execution rest =>
      have replies := inOrder.replies
      rw [waiting, List.map_cons] at replies
      simp only [replies, List.head?_cons, Option.toList_some, List.tail_cons]
      have emitted := Emits.onStoreReply
        { log.state with replies := rest.map fun later => (later.request, later.reply) }
        stamp execution.request execution.reply
      have sameRequests := ManagementState.requests_onStoreReply
        { log.state with replies := rest.map fun later => (later.request, later.reply) }
        stamp execution.request execution.reply
      have takes := OnlyTakes.onStoreReply
        { log.state with replies := rest.map fun later => (later.request, later.reply) }
        stamp execution.request execution.reply
      have first : execution.entry ∈ log.inFlight := by
        rw [inFlight, waiting]
        exact List.mem_cons_self
      refine ⟨emitted.replies, ?_, inOrder.issued.trans emitted.issued.symm, inOrder.own, ?_, ?_⟩
      · rw [sameRequests, List.append_assoc, List.singleton_append, ← waiting]
        exact inOrder.order
      · rw [List.filterMap_append, ← inOrder.acks]
        cases isRequest : execution.call.isRequest with
        | true =>
            obtain ⟨asked, ⟨asks, follows⟩, same⟩ := inOrder.asked_inFlight first isRequest
            obtain ⟨sameRequest, sameCall⟩ := Prod.mk.inj same
            rw [sameCall] at asks
            rw [sameRequest] at follows
            obtain ⟨sent, isSent, sends⟩ := acknowledges_onStoreReply
              { log.state with replies := rest.map fun later => (later.request, later.reply) }
              stamp asks follows (inOrder.waits_inFlight correlated first isRequest)
              (inOrder.named _ first)
            rw [sends]
            simp [isSent]
        | false =>
            obtain ⟨request, call, database, run⟩ := execution
            cases call with
            | loadGroupMembers query =>
                rw [Execution.reply, executeStoreCall,
                  ManagementState.acks_onStoreReply_members]
                simp [Execution.acknowledgement, StoreCall.answer]
            | _ => cases isRequest
      · intro entry member
        rcases List.mem_append.mp member with later | waits
        · have old : entry ∈ log.inFlight := by
            rw [inFlight, waiting, List.map_cons]
            exact List.mem_cons_of_mem _ (List.mem_append_left _ later)
          exact fun create pending isCreate found =>
            inOrder.named entry old create pending isCreate (takes _ pending found)
        · rcases emitted.calls entry waits with before | ⟨query, isLoad⟩
          · exact fun create pending isCreate found =>
              inOrder.named entry (List.mem_append_right _ before) create pending isCreate
                (takes _ pending found)
          · intro create pending isCreate found
            rw [isLoad] at isCreate
            cases isCreate

end Correlates

theorem executeNext (inOrder : InOrder log) (run : StoreRun) :
    InOrder (log.next (.executeNext run)) := by
  unfold RequestLog.next
  simp only [ManagementEvent.next, ManagementState.executeNext]
  cases waiting : log.state.calls with
  | nil =>
      simp only [List.head?_nil, Option.toList_none, List.map_nil, List.append_nil]
      exact inOrder
  | cons entry rest =>
      obtain ⟨request, call⟩ := entry
      simp only [List.head?_cons, Option.toList_some, List.map_cons, List.map_nil]
      obtain ⟨replies, order, issued, own, acks, named⟩ := inOrder
      refine ⟨?_, ?_, issued, own, acks, ?_⟩
      · simp only [replies, List.map_append, List.map_cons, List.map_nil, Execution.reply]
      · rw [← order, waiting]
        cases isRequest : call.isRequest with
        | true => simp [requestsOf, Execution.asked, isRequest]
        | false => simp [requestsOf, Execution.asked, isRequest]
      · rw [inFlight, waiting] at named
        simpa [inFlight, Execution.entry] using named

end InOrder

end RequestLog

theorem inOrder_of_reachable :
    ∀ log, requestLogSystem.Reachable log → log.InOrder := by
  refine System.Reachable.invariant RequestLog.InOrder.empty ?_
  intro log event reached inOrder enabled
  have correlated := correlated_of_notWaiting log.state (requestLog_state log reached)
  cases event with
  | session event =>
      exact ⟨inOrder.replies, inOrder.order, inOrder.issued, inOrder.own, inOrder.acks,
        inOrder.named⟩
  | sessionDeleted connectionId =>
      exact ⟨inOrder.replies, inOrder.order, inOrder.issued, inOrder.own, inOrder.acks,
        inOrder.named⟩
  | ensureUser run userId nickname =>
      exact ⟨inOrder.replies, inOrder.order, inOrder.issued, inOrder.own, inOrder.acks,
        inOrder.named⟩
  | packetReceived connectionId packet => exact inOrder.packetReceived correlated enabled.2
  | executeNext run => exact inOrder.executeNext run
  | handleNext stamp => exact inOrder.handleNext correlated stamp

/-- The requests that passed their handlers are executed one by one, in the order
their packets came in, each as the call its own packet asks for in the name of
the user its connection had; the acknowledgements go out in that order to the
connections of their requests, and each is made of its own call and result. -/
theorem requests_executed_in_order :
    ∀ log, requestLogSystem.Reachable log →
      (∀ asked ∈ log.asked, asked.packet.storeCall asked.userId = some asked.call ∧
        asked.request.cmd = asked.packet.cmd ∧ asked.request.msgId = asked.packet.msgId) ∧
      log.asked.map AskedRequest.request = log.state.issued ∧
      (log.handled ++ log.unhandled).filterMap Execution.asked ++ requestsOf log.state.calls =
        log.asked.map AskedRequest.entry ∧
      log.state.acks.map Acknowledgement.sent =
        log.handled.filterMap Execution.acknowledgement ∧
      log.unhandled.length = log.state.replies.length := by
  intro log reached
  have inOrder := inOrder_of_reachable log reached
  refine ⟨inOrder.own, inOrder.issued, inOrder.order, inOrder.acks, ?_⟩
  rw [inOrder.replies, List.length_map]

theorem requests_executed_in_order_alice :
    let log := (aliceAndBobCreate "m1" "m2" ++ restOfCreate).foldl RequestLog.next
      RequestLog.empty
    log.state.calls = [] ∧ log.state.replies = [] ∧ log.asked.length = 2 ∧
      log.state.acks.map Acknowledgement.sent =
        log.handled.filterMap Execution.acknowledgement := by
  have enabled : requestLogSystem.Enabled RequestLog.empty
      (aliceAndBobCreate "m1" "m2" ++ restOfCreate) := by
    refine ⟨⟨⟨⟨by decide, rfl⟩, ?_⟩, trivial⟩, ⟨⟨⟨by decide, rfl⟩, ?_⟩, trivial⟩,
      ⟨⟨(by decide : "alice" ≠ ""), nofun⟩, trivial⟩, ⟨⟨(by decide : "bob" ≠ ""), nofun⟩, trivial⟩,
      ⟨trivial, fun _ _ _ => rfl⟩, ⟨trivial, fun _ _ _ => rfl⟩,
      ⟨trivial, trivial⟩, ⟨trivial, trivial⟩, ⟨trivial, trivial⟩, ⟨trivial, trivial⟩,
      ⟨trivial, trivial⟩, ⟨trivial, trivial⟩, ⟨trivial, trivial⟩, ⟨trivial, trivial⟩, trivial⟩
    · intro connectionId now isNew
      cases isNew
      decide
    · intro connectionId now isNew
      cases isNew
      decide
  have reached := System.Reachable.run _ _ System.Reachable.initial enabled
  exact ⟨rfl, rfl, rfl, (requests_executed_in_order _ reached).2.2.2.1⟩

end ShirohaChat
