import ShirohaChat.Lib.Correlation
import ShirohaChat.Server.ManagementServer

/-!
# The exchange behind the management server

The three pending maps, the two queues and the log of acknowledgements form an
exchange of requests and replies: a request that passes its handler is issued
there, and its result settles it.
-/

set_option autoImplicit false

namespace ShirohaChat

open Transition Correlation

/-! ## What a request leaves behind -/

inductive Slot where
  | group
  | groupList
  | friend
  deriving DecidableEq, Repr

inductive PendingOperation where
  | member (operation : GroupMemberOp)
  | list
  | decision (operation : FriendDecisionOp)
  deriving DecidableEq, Repr

structure Waiter where
  session : String
  operation : PendingOperation
  deriving DecidableEq

def slotFor : Command → Slot
  | .groupList => .groupList
  | .friendRequest => .friend
  | .friendAccept => .friend
  | .friendReject => .friend
  | .friendList => .friend
  | .friendRequestList => .friend
  | _ => .group

def operationFor : Command → PendingOperation
  | .removeMember => .member .remove
  | .leaveGroup => .member .leave
  | .groupList => .list
  | .friendRequest => .decision .accept
  | .friendAccept => .decision .accept
  | .friendReject => .decision .reject
  | .friendList => .decision .accept
  | .friendRequestList => .decision .accept
  | _ => .member .add

def ackCommandOf : Command → Command
  | .createGroup => .createGroupAck
  | .addMember => .addMemberAck
  | .removeMember => .removeMemberAck
  | .leaveGroup => .leaveGroupAck
  | .groupList => .groupListAck
  | .friendRequest => .friendRequestAck
  | .friendAccept => .friendAcceptAck
  | .friendReject => .friendRejectAck
  | .friendList => .friendListAck
  | .friendRequestList => .friendRequestListAck
  | _ => .unknown

/-- The command the result of a request leads to when it meets an entry. -/
def ackCommandFrom (cmd : Command) (operation : PendingOperation) : Command :=
  match cmd, operation with
  | .addMember, .member operation => GroupHandler.memberOpAck operation
  | .removeMember, .member operation => GroupHandler.memberOpAck operation
  | .leaveGroup, .member operation => GroupHandler.memberOpAck operation
  | .friendAccept, .decision operation => FriendHandler.decisionAck operation
  | .friendReject, .decision operation => FriendHandler.decisionAck operation
  | cmd, _ => ackCommandOf cmd

theorem ackCommandFrom_own (cmd : Command) :
    ackCommandFrom cmd (operationFor cmd) = ackCommandOf cmd := by
  cases cmd <;> rfl

namespace IssuedRequest

def key (request : IssuedRequest) : Slot × String := (slotFor request.cmd, request.msgId)

def waiter (request : IssuedRequest) : Waiter := ⟨request.session, operationFor request.cmd⟩

def respond (request : IssuedRequest) (waiter : Waiter) : String × Command × String :=
  (waiter.session, ackCommandFrom request.cmd waiter.operation, request.msgId)

end IssuedRequest

/-! ## The pending maps as one table -/

def waitingOf (group : GroupManagementService) (friend : FriendManagementService) :
    Slot × String → Option Waiter
  | (.group, msgId) =>
      (group.pendingRequests.lookup msgId).map fun pending =>
        ⟨pending.session, .member pending.operation⟩
  | (.groupList, msgId) =>
      (group.pendingGroupListRequests.lookup msgId).map fun session => ⟨session, .list⟩
  | (.friend, msgId) =>
      (friend.pendingRequests.lookup msgId).map fun pending =>
        ⟨pending.session, .decision pending.operation⟩

section Table
variable (group : GroupManagementService) (friend : FriendManagementService) (msgId : String)
  (notifications : FiniteMap String PendingNotification)

theorem waitingOf_insert_group (pending : GroupPendingRequest) :
    waitingOf { group with pendingRequests := group.pendingRequests.insert msgId pending }
        friend =
      Function.update (waitingOf group friend) (.group, msgId)
        (some ⟨pending.session, .member pending.operation⟩) := by
  funext key
  obtain ⟨slot, other⟩ := key
  by_cases same : other = msgId
  · subst same
    cases slot <;> simp [waitingOf]
  · cases slot <;> simp [waitingOf, same]

theorem waitingOf_insert_groupList (session : String) :
    waitingOf { group with pendingGroupListRequests :=
        group.pendingGroupListRequests.insert msgId session } friend =
      Function.update (waitingOf group friend) (.groupList, msgId)
        (some ⟨session, .list⟩) := by
  funext key
  obtain ⟨slot, other⟩ := key
  by_cases same : other = msgId
  · subst same
    cases slot <;> simp [waitingOf]
  · cases slot <;> simp [waitingOf, same]

theorem waitingOf_waitFor (pending : FriendPendingRequest) :
    waitingOf group (friend.waitFor msgId pending) =
      Function.update (waitingOf group friend) (.friend, msgId)
        (some ⟨pending.session, .decision pending.operation⟩) := by
  funext key
  obtain ⟨slot, other⟩ := key
  by_cases same : other = msgId
  · subst same
    cases slot <;> simp [waitingOf, FriendManagementService.waitFor]
  · cases slot <;> simp [waitingOf, FriendManagementService.waitFor, same]

theorem waitingOf_erase_group :
    waitingOf ⟨group.pendingRequests.erase msgId, notifications,
        group.pendingGroupListRequests⟩ friend =
      Function.update (waitingOf group friend) (.group, msgId) none := by
  funext key
  obtain ⟨slot, other⟩ := key
  by_cases same : other = msgId
  · subst same
    cases slot <;> simp [waitingOf]
  · cases slot <;> simp [waitingOf, same]

theorem waitingOf_erase_groupList :
    waitingOf { group with pendingGroupListRequests :=
        group.pendingGroupListRequests.erase msgId } friend =
      Function.update (waitingOf group friend) (.groupList, msgId) none := by
  funext key
  obtain ⟨slot, other⟩ := key
  by_cases same : other = msgId
  · subst same
    cases slot <;> simp [waitingOf]
  · cases slot <;> simp [waitingOf, same]

theorem waitingOf_erase_friend :
    waitingOf group ⟨friend.pendingRequests.erase msgId⟩ =
      Function.update (waitingOf group friend) (.friend, msgId) none := by
  funext key
  obtain ⟨slot, other⟩ := key
  by_cases same : other = msgId
  · subst same
    cases slot <;> simp [waitingOf]
  · cases slot <;> simp [waitingOf, same]

end Table

/-! ## Calls and results of a request -/

/-- The call belongs to a request with this command and message id; member
lists for notifications belong to any. -/
def StoreCall.Carries (cmd : Command) (msgId : String) : StoreCall → Prop
  | .createGroup request => cmd = .createGroup ∧ request.reqMsgId = msgId
  | .addMember request => cmd = .addMember ∧ request.reqMsgId = msgId
  | .removeMember request => cmd = .removeMember ∧ request.reqMsgId = msgId
  | .leaveGroup request => cmd = .leaveGroup ∧ request.reqMsgId = msgId
  | .loadGroupMembers _ => True
  | .loadGroupList query => cmd = .groupList ∧ query.reqMsgId = msgId
  | .createFriendRequest request => cmd = .friendRequest ∧ request.reqMsgId = msgId
  | .decideFriendRequest request =>
      (cmd = .friendAccept ∨ cmd = .friendReject) ∧ request.reqMsgId = msgId
  | .loadFriendList query => cmd = .friendList ∧ query.reqMsgId = msgId
  | .loadFriendRequestList query => cmd = .friendRequestList ∧ query.reqMsgId = msgId

def StoreReply.Carries (cmd : Command) (msgId : String) : StoreReply → Prop
  | .groupCreated result => cmd = .createGroup ∧ result.reqMsgId = msgId
  | .memberOpCompleted result =>
      (cmd = .addMember ∨ cmd = .removeMember ∨ cmd = .leaveGroup) ∧ result.reqMsgId = msgId
  | .groupMembersLoaded _ => True
  | .groupListLoaded result => cmd = .groupList ∧ result.reqMsgId = msgId
  | .friendRequestCreated result => cmd = .friendRequest ∧ result.reqMsgId = msgId
  | .friendDecisionCompleted result =>
      (cmd = .friendAccept ∨ cmd = .friendReject) ∧ result.reqMsgId = msgId
  | .friendListLoaded result => cmd = .friendList ∧ result.reqMsgId = msgId
  | .friendRequestListLoaded result => cmd = .friendRequestList ∧ result.reqMsgId = msgId

def StoreCall.isRequest : StoreCall → Bool
  | .loadGroupMembers _ => false
  | _ => true

def StoreReply.isAnswer : StoreReply → Bool
  | .groupMembersLoaded _ => false
  | _ => true

theorem executeStoreCall_carries (database : Database) (run : StoreRun) {call : StoreCall}
    {cmd : Command} {msgId : String} (carries : call.Carries cmd msgId) :
    (executeStoreCall database run call).2.Carries cmd msgId ∧
      (executeStoreCall database run call).2.isAnswer = call.isRequest := by
  cases call with
  | createGroup request =>
      exact ⟨⟨carries.1, (createGroup_reqMsgId _ _ _).trans carries.2⟩, rfl⟩
  | addMember request =>
      exact ⟨⟨Or.inl carries.1, (addMember_reqMsgId _ _ _).trans carries.2⟩, rfl⟩
  | removeMember request =>
      exact ⟨⟨Or.inr (Or.inl carries.1), (removeMember_reqMsgId _ _ _).trans carries.2⟩, rfl⟩
  | leaveGroup request =>
      exact ⟨⟨Or.inr (Or.inr carries.1), (leaveGroup_reqMsgId _ _ _).trans carries.2⟩, rfl⟩
  | loadGroupMembers query => exact ⟨trivial, rfl⟩
  | loadGroupList query =>
      exact ⟨⟨carries.1, (loadGroupList_reqMsgId _ _ _).trans carries.2⟩, rfl⟩
  | createFriendRequest request =>
      exact ⟨⟨carries.1, (createFriendRequest_reqMsgId _ _ _).trans carries.2⟩, rfl⟩
  | decideFriendRequest request =>
      exact ⟨⟨carries.1, (decideFriendRequest_reqMsgId _ _ _).trans carries.2⟩, rfl⟩
  | loadFriendList query =>
      exact ⟨⟨carries.1, (loadFriendList_reqMsgId _ _ _ _).trans carries.2⟩, rfl⟩
  | loadFriendRequestList query =>
      exact ⟨⟨carries.1, (loadFriendRequestList_reqMsgId _ _ _ _).trans carries.2⟩, rfl⟩

/-! ## What the handlers pass on -/

section Checks
variable {Outcome : Type} {outcome : Outcome} {rest : Except Refusal Outcome}

theorem requireAuthenticated_ok {session : ClientSession}
    (handled : requireAuthenticated session rest = .ok outcome) : rest = .ok outcome := by
  unfold requireAuthenticated at handled
  split at handled
  · cases handled
  · exact handled

theorem requireTexts_ok {texts : List String} {missing : String}
    (handled : requireTexts texts missing rest = .ok outcome) : rest = .ok outcome := by
  unfold requireTexts at handled
  split at handled
  · cases handled
  · exact handled

end Checks

/-- A request that passes its checks leaves the entry of its kind behind and
sends the call of its kind. -/
theorem GroupHandler.handlePacket_ok {service after : GroupManagementService}
    {session : ClientSession} {packet : Packet} {call : StoreCall}
    (handled : GroupHandler.handlePacket service session packet = some (.ok (after, call))) :
    call.Carries packet.cmd packet.msgId ∧ call.isRequest = true ∧
      ∀ friend, waitingOf after friend =
        Function.update (waitingOf service friend) (slotFor packet.cmd, packet.msgId)
          (some ⟨session.connectionId, operationFor packet.cmd⟩) := by
  unfold GroupHandler.handlePacket at handled
  split at handled
  case h_5 isCommand =>
      -- group lists wait in a map of their own
      have passed := requireAuthenticated_ok (Option.some.inj handled)
      cases passed
      rw [isCommand]
      exact ⟨⟨rfl, rfl⟩, rfl, fun friend => waitingOf_insert_groupList _ _ _ _⟩
  case h_6 => cases handled
  all_goals
    rename_i isCommand
    have passed := requireTexts_ok (requireAuthenticated_ok (Option.some.inj handled))
    cases passed
    rw [isCommand]
    exact ⟨⟨rfl, rfl⟩, rfl, fun friend => waitingOf_insert_group _ _ _ _⟩

theorem FriendHandler.handlePacket_ok {service after : FriendManagementService}
    {session : ClientSession} {packet : Packet} {call : StoreCall}
    (handled : FriendHandler.handlePacket service session packet = some (.ok (after, call))) :
    call.Carries packet.cmd packet.msgId ∧ call.isRequest = true ∧
      ∀ group, waitingOf group after =
        Function.update (waitingOf group service) (slotFor packet.cmd, packet.msgId)
          (some ⟨session.connectionId, operationFor packet.cmd⟩) := by
  unfold FriendHandler.handlePacket at handled
  split at handled
  · rename_i isCommand
    have passed := requireTexts_ok (requireAuthenticated_ok (Option.some.inj handled))
    cases passed
    rw [isCommand]
    exact ⟨⟨rfl, rfl⟩, rfl, fun group => waitingOf_waitFor _ _ _ _⟩
  · rename_i isCommand
    have passed := requireTexts_ok (requireAuthenticated_ok (Option.some.inj handled))
    cases passed
    rw [isCommand]
    exact ⟨⟨Or.inl rfl, rfl⟩, rfl, fun group => waitingOf_waitFor _ _ _ _⟩
  · rename_i isCommand
    have passed := requireTexts_ok (requireAuthenticated_ok (Option.some.inj handled))
    cases passed
    rw [isCommand]
    exact ⟨⟨Or.inr rfl, rfl⟩, rfl, fun group => waitingOf_waitFor _ _ _ _⟩
  · rename_i isCommand
    have passed := requireAuthenticated_ok (Option.some.inj handled)
    cases passed
    rw [isCommand]
    exact ⟨⟨rfl, rfl⟩, rfl, fun group => waitingOf_waitFor _ _ _ _⟩
  · rename_i isCommand
    have passed := requireAuthenticated_ok (Option.some.inj handled)
    cases passed
    rw [isCommand]
    exact ⟨⟨rfl, rfl⟩, rfl, fun group => waitingOf_waitFor _ _ _ _⟩
  · cases handled

/-! ## The exchange behind a state -/

namespace ManagementState

/-- Results come before calls: that is the order in which they are handled. -/
def exchange (state : ManagementState) :
    Exchange IssuedRequest (Slot × String) Waiter (String × Command × String) where
  waiting := waitingOf state.group state.friend
  inFlight := (state.replies.filter fun entry => entry.2.isAnswer).map Prod.fst ++
    (state.calls.filter fun entry => entry.2.isRequest).map Prod.fst
  issued := state.issued
  answered := state.acks.map fun ack => (ack.request, ack.session, ack.packet.cmd, ack.packet.msgId)

theorem exchange_acknowledge (state : ManagementState) (request : IssuedRequest)
    (session : String) (packet : Packet) :
    (state.acknowledge request session packet).exchange =
      { state.exchange with answered :=
          state.exchange.answered ++ [(request, session, packet.cmd, packet.msgId)] } := by
  simp [exchange, acknowledge]

end ManagementState

def GroupSignal.IsNotice : GroupSignal → Prop
  | .requestLoadGroupMembersForNotify _ => True
  | .enqueueIfOffline _ _ => True
  | _ => False

def FriendSignal.IsNotice : FriendSignal → Prop
  | .enqueueIfOffline _ _ => True
  | _ => False

namespace ManagementState

theorem exchange_emitGroup_notices (request : IssuedRequest) (notices : List GroupSignal) :
    ∀ state : ManagementState, (∀ signal ∈ notices, signal.IsNotice) →
      (notices.foldl (emitGroup request) state).exchange = state.exchange := by
  induction notices with
  | nil => intro state _; rfl
  | cons signal rest ih =>
      intro state quiet
      rw [List.foldl_cons, ih _ fun other member => quiet other (List.mem_cons_of_mem _ member)]
      have isNotice := quiet signal List.mem_cons_self
      cases signal with
      | requestLoadGroupMembersForNotify query =>
          simp [exchange, emitGroup, StoreCall.isRequest]
      | enqueueIfOffline userId packet => rfl
      | groupCreated session groupName result => exact isNotice.elim
      | memberOpCompleted session operation operatorUserId result => exact isNotice.elim
      | groupListLoaded session result => exact isNotice.elim

theorem exchange_emitFriend_notices (request : IssuedRequest) (notices : List FriendSignal) :
    ∀ state : ManagementState, (∀ signal ∈ notices, signal.IsNotice) →
      (notices.foldl (emitFriend request) state).exchange = state.exchange := by
  induction notices with
  | nil => intro state _; rfl
  | cons signal rest ih =>
      intro state quiet
      rw [List.foldl_cons, ih _ fun other member => quiet other (List.mem_cons_of_mem _ member)]
      have isNotice := quiet signal List.mem_cons_self
      cases signal with
      | enqueueIfOffline userId packet => rfl
      | createCompleted session pendingMessage result => exact isNotice.elim
      | decisionCompleted session pendingOp result => exact isNotice.elim
      | friendListCompleted session result => exact isNotice.elim
      | friendRequestListCompleted session result => exact isNotice.elim

end ManagementState

/-! ## What the slots do with a result -/

theorem GroupManagementService.onGroupCreated_cases (service : GroupManagementService)
    (stamp : NotifyStamp) (result : GroupCreateResult) :
    (service.pendingRequests.lookup result.reqMsgId = none ∧
      service.onGroupCreated stamp result = (service, [])) ∨
    ∃ pending notifications notices,
      service.pendingRequests.lookup result.reqMsgId = some pending ∧
      service.onGroupCreated stamp result =
        (⟨service.pendingRequests.erase result.reqMsgId, notifications,
          service.pendingGroupListRequests⟩,
          .groupCreated pending.session pending.groupName result :: notices) ∧
      ∀ signal ∈ notices, signal.IsNotice := by
  unfold GroupManagementService.onGroupCreated
  cases found : service.pendingRequests.lookup result.reqMsgId with
  | none => exact Or.inl ⟨rfl, rfl⟩
  | some pending =>
      refine Or.inr ⟨pending, ?_⟩
      by_cases success : result.success = true
      · simp only [success, not_true, if_false]
        refine ⟨_, _, trivial, rfl, ?_⟩
        intro signal member
        rw [List.mem_singleton.mp member]
        trivial
      · simp only [success]
        exact ⟨_, [], trivial, rfl, by simp⟩

theorem GroupManagementService.onMemberOpCompleted_cases (service : GroupManagementService)
    (sessionUserId : String → Option String) (stamp : NotifyStamp)
    (result : GroupMemberOpResult) :
    (service.pendingRequests.lookup result.reqMsgId = none ∧
      service.onMemberOpCompleted sessionUserId stamp result = (service, [])) ∨
    ∃ pending notifications notices operatorUserId,
      service.pendingRequests.lookup result.reqMsgId = some pending ∧
      service.onMemberOpCompleted sessionUserId stamp result =
        (⟨service.pendingRequests.erase result.reqMsgId, notifications,
          service.pendingGroupListRequests⟩,
          .memberOpCompleted pending.session pending.operation operatorUserId result ::
            notices) ∧
      ∀ signal ∈ notices, signal.IsNotice := by
  unfold GroupManagementService.onMemberOpCompleted
  cases found : service.pendingRequests.lookup result.reqMsgId with
  | none => exact Or.inl ⟨rfl, rfl⟩
  | some pending =>
      refine Or.inr ⟨pending, ?_⟩
      by_cases success : result.success = true
      · simp only [success, not_true, if_false]
        refine ⟨_, _, _, trivial, rfl, ?_⟩
        intro signal member
        rw [List.mem_singleton.mp member]
        trivial
      · simp only [success]
        exact ⟨_, [], _, trivial, rfl, by simp⟩

theorem GroupManagementService.onGroupMembersForNotify_quiet (service : GroupManagementService)
    (result : GroupMembersResult) :
    (∀ friend, waitingOf (service.onGroupMembersForNotify result).1 friend =
      waitingOf service friend) ∧
    ∀ signal ∈ (service.onGroupMembersForNotify result).2, signal.IsNotice := by
  have told : ∀ (members : List String) (packet : Packet),
      ∀ signal ∈ members.map fun userId => GroupSignal.enqueueIfOffline userId packet,
        signal.IsNotice := by
    intro members packet signal member
    obtain ⟨userId, _, rfl⟩ := List.mem_map.mp member
    trivial
  have sameMaps : ∀ (notifications : FiniteMap String PendingNotification)
      (friend : FriendManagementService),
      waitingOf { service with pendingNotifications := notifications } friend =
        waitingOf service friend := by
    intro notifications friend
    funext key
    obtain ⟨slot, msgId⟩ := key
    cases slot <;> rfl
  unfold GroupManagementService.onGroupMembersForNotify
  split
  · exact ⟨fun _ => rfl, by simp⟩
  split
  · exact ⟨fun _ => rfl, by simp⟩
  simp only
  split
  · exact ⟨sameMaps _, by simp⟩
  split
  · refine ⟨sameMaps _, ?_⟩
    intro signal member
    rcases List.mem_append.mp member with inGroup | left
    · exact told _ _ signal inGroup
    · rw [List.mem_singleton.mp left]
      trivial
  · exact ⟨sameMaps _, told _ _⟩

namespace ManagementState

variable {state : ManagementState} {request : IssuedRequest}

theorem settle_some {kept : Waiter} (waits : state.exchange.waiting request.key = some kept) :
    state.exchange.settle IssuedRequest.key IssuedRequest.respond request =
      { state.exchange with
        waiting := Function.update state.exchange.waiting request.key none
        answered := state.exchange.answered ++ [(request, request.respond kept)] } := by
  simp only [Exchange.settle, waits]

theorem settle_none (waits : state.exchange.waiting request.key = none) :
    state.exchange.settle IssuedRequest.key IssuedRequest.respond request =
      state.exchange := by
  simp only [Exchange.settle, waits]

theorem exchange_runGroup_taken (inGroup : request.key = (.group, request.msgId))
    {pending : GroupPendingRequest} {notifications : FiniteMap String PendingNotification}
    {ack : GroupSignal} {packet : Packet} {notices : List GroupSignal}
    (found : state.group.pendingRequests.lookup request.msgId = some pending)
    (sends : ∀ other : ManagementState, emitGroup request other ack =
      other.acknowledge request pending.session packet)
    (sameCmd : packet.cmd = ackCommandFrom request.cmd (.member pending.operation))
    (sameId : packet.msgId = request.msgId) (quiet : ∀ signal ∈ notices, signal.IsNotice) :
    (state.runGroup request (⟨state.group.pendingRequests.erase request.msgId, notifications,
        state.group.pendingGroupListRequests⟩, ack :: notices)).exchange =
      state.exchange.settle IssuedRequest.key IssuedRequest.respond request := by
  have waits : state.exchange.waiting request.key =
      some ⟨pending.session, .member pending.operation⟩ := by
    rw [inGroup]
    simp [exchange, waitingOf, found]
  rw [settle_some waits, runGroup, List.foldl_cons, sends,
    exchange_emitGroup_notices request notices _ quiet, exchange_acknowledge, inGroup, sameCmd,
    sameId]
  simp [exchange, waitingOf_erase_group, IssuedRequest.respond]

theorem exchange_takePending (inFriend : request.key = (.friend, request.msgId))
    {signals : FriendPendingRequest → List FriendSignal}
    (acks : ∀ pending, ∃ ack packet notices, signals pending = ack :: notices ∧
      (∀ other : ManagementState, emitFriend request other ack =
        other.acknowledge request pending.session packet) ∧
      packet.cmd = ackCommandFrom request.cmd (.decision pending.operation) ∧
      packet.msgId = request.msgId ∧ ∀ signal ∈ notices, signal.IsNotice) :
    (state.runFriend request (state.friend.takePending request.msgId signals)).exchange =
      state.exchange.settle IssuedRequest.key IssuedRequest.respond request := by
  unfold FriendManagementService.takePending
  cases found : state.friend.pendingRequests.lookup request.msgId with
  | none =>
      have waits : state.exchange.waiting request.key = none := by
        rw [inFriend]
        simp [exchange, waitingOf, found]
      rw [settle_none waits]
      rfl
  | some pending =>
      have waits : state.exchange.waiting request.key =
          some ⟨pending.session, .decision pending.operation⟩ := by
        rw [inFriend]
        simp [exchange, waitingOf, found]
      obtain ⟨ack, packet, notices, emitted, sends, sameCmd, sameId, quiet⟩ := acks pending
      rw [settle_some waits, runFriend]
      simp only [emitted]
      rw [List.foldl_cons, sends, exchange_emitFriend_notices request notices _ quiet,
        exchange_acknowledge, inFriend, sameCmd, sameId]
      simp [exchange, waitingOf_erase_friend, IssuedRequest.respond]

theorem settles_groupCreated (stamp : NotifyStamp) {result : GroupCreateResult}
    (isCommand : request.cmd = .createGroup) (sameId : result.reqMsgId = request.msgId) :
    (state.runGroup request (state.group.onGroupCreated stamp result)).exchange =
      state.exchange.settle IssuedRequest.key IssuedRequest.respond request := by
  have inGroup : request.key = (.group, request.msgId) := by
    simp [IssuedRequest.key, slotFor, isCommand]
  rcases state.group.onGroupCreated_cases stamp result with
    ⟨missing, outcome⟩ | ⟨pending, notifications, notices, found, outcome, quiet⟩
  · rw [sameId] at missing
    rw [outcome, settle_none (by rw [inGroup]; simp [exchange, waitingOf, missing])]
    rfl
  · rw [sameId] at found
    rw [outcome, sameId]
    refine exchange_runGroup_taken inGroup found (fun _ => rfl) ?_ sameId quiet
    rw [isCommand]
    rfl

theorem settles_memberOpCompleted (sessionUserId : String → Option String)
    (stamp : NotifyStamp) {result : GroupMemberOpResult}
    (isCommand : request.cmd = .addMember ∨ request.cmd = .removeMember ∨
      request.cmd = .leaveGroup) (sameId : result.reqMsgId = request.msgId) :
    (state.runGroup request
        (state.group.onMemberOpCompleted sessionUserId stamp result)).exchange =
      state.exchange.settle IssuedRequest.key IssuedRequest.respond request := by
  have inGroup : request.key = (.group, request.msgId) := by
    rcases isCommand with isCommand | isCommand | isCommand <;>
      simp [IssuedRequest.key, slotFor, isCommand]
  rcases state.group.onMemberOpCompleted_cases sessionUserId stamp result with
    ⟨missing, outcome⟩ |
    ⟨pending, notifications, notices, operatorUserId, found, outcome, quiet⟩
  · rw [sameId] at missing
    rw [outcome, settle_none (by rw [inGroup]; simp [exchange, waitingOf, missing])]
    rfl
  · rw [sameId] at found
    rw [outcome, sameId]
    refine exchange_runGroup_taken inGroup found (fun _ => rfl) ?_ sameId quiet
    rcases isCommand with isCommand | isCommand | isCommand <;> rw [isCommand] <;> rfl

theorem settles_groupListLoaded {result : GroupListResult} (isCommand : request.cmd = .groupList)
    (sameId : result.reqMsgId = request.msgId) :
    (state.runGroup request (state.group.onGroupListLoaded result)).exchange =
      state.exchange.settle IssuedRequest.key IssuedRequest.respond request := by
  have inGroupList : request.key = (.groupList, request.msgId) := by
    simp [IssuedRequest.key, slotFor, isCommand]
  rw [GroupManagementService.onGroupListLoaded, sameId]
  cases found : state.group.pendingGroupListRequests.lookup request.msgId with
  | none =>
      rw [settle_none (by rw [inGroupList]; simp [exchange, waitingOf, found])]
      rfl
  | some session =>
      have waits : state.exchange.waiting request.key = some ⟨session, .list⟩ := by
        rw [inGroupList]
        simp [exchange, waitingOf, found]
      simp only [runGroup, List.foldl_cons, List.foldl_nil, emitGroup]
      rw [settle_some waits, exchange_acknowledge, inGroupList,
        GroupHandler.onGroupListLoaded_cmd, GroupHandler.onGroupListLoaded_msgId, sameId]
      simp [exchange, waitingOf_erase_groupList, IssuedRequest.respond, isCommand,
        ackCommandFrom, ackCommandOf]

theorem settles_friendRequestCreated (stamp : NotifyStamp) {result : FriendRequestCreateResult}
    (isCommand : request.cmd = .friendRequest) (sameId : result.reqMsgId = request.msgId) :
    (state.runFriend request (state.friend.onFriendRequestCreated stamp result)).exchange =
      state.exchange.settle IssuedRequest.key IssuedRequest.respond request := by
  have inFriend : request.key = (.friend, request.msgId) := by
    simp [IssuedRequest.key, slotFor, isCommand]
  rw [FriendManagementService.onFriendRequestCreated, sameId]
  refine exchange_takePending inFriend ?_
  intro pending
  rw [isCommand]
  by_cases success : result.success = true
  · simp only [success, not_true, if_false]
    refine ⟨_, _, _, rfl, fun _ => rfl, rfl, sameId, ?_⟩
    intro signal member
    rw [List.mem_singleton.mp member]
    trivial
  · simp only [success]
    exact ⟨_, _, [], rfl, fun _ => rfl, rfl, sameId, by simp⟩

theorem settles_friendDecisionCompleted (stamp : NotifyStamp) {result : FriendDecisionResult}
    (isCommand : request.cmd = .friendAccept ∨ request.cmd = .friendReject)
    (sameId : result.reqMsgId = request.msgId) :
    (state.runFriend request (state.friend.onFriendDecisionCompleted stamp result)).exchange =
      state.exchange.settle IssuedRequest.key IssuedRequest.respond request := by
  have inFriend : request.key = (.friend, request.msgId) := by
    rcases isCommand with isCommand | isCommand <;>
      simp [IssuedRequest.key, slotFor, isCommand]
  have ownCommand : ∀ op, FriendHandler.decisionAck op =
      ackCommandFrom request.cmd (.decision op) := by
    intro op
    rcases isCommand with isCommand | isCommand <;> rw [isCommand] <;> rfl
  rw [FriendManagementService.onFriendDecisionCompleted, sameId]
  refine exchange_takePending inFriend ?_
  intro pending
  by_cases accepted : result.success = true ∧ result.status = "accepted"
  · simp only [if_pos accepted]
    refine ⟨_, _, _, rfl, fun _ => rfl, ownCommand pending.operation, sameId, ?_⟩
    intro signal member
    rcases List.mem_cons.mp member with rfl | last
    · trivial
    · rw [List.mem_singleton.mp last]
      trivial
  · simp only [if_neg accepted]
    exact ⟨_, _, [], rfl, fun _ => rfl, ownCommand pending.operation, sameId, by simp⟩

theorem settles_friendListLoaded {result : FriendListResult}
    (isCommand : request.cmd = .friendList) (sameId : result.reqMsgId = request.msgId) :
    (state.runFriend request (state.friend.onFriendListLoaded result)).exchange =
      state.exchange.settle IssuedRequest.key IssuedRequest.respond request := by
  have inFriend : request.key = (.friend, request.msgId) := by
    simp [IssuedRequest.key, slotFor, isCommand]
  rw [FriendManagementService.onFriendListLoaded, sameId]
  refine exchange_takePending inFriend ?_
  intro pending
  refine ⟨_, _, [], rfl, fun _ => rfl, ?_, ?_, by simp⟩
  · simp [isCommand, ackCommandFrom, ackCommandOf]
  · simp [sameId]

theorem settles_friendRequestListLoaded {result : FriendRequestListResult}
    (isCommand : request.cmd = .friendRequestList)
    (sameId : result.reqMsgId = request.msgId) :
    (state.runFriend request (state.friend.onFriendRequestListLoaded result)).exchange =
      state.exchange.settle IssuedRequest.key IssuedRequest.respond request := by
  have inFriend : request.key = (.friend, request.msgId) := by
    simp [IssuedRequest.key, slotFor, isCommand]
  rw [FriendManagementService.onFriendRequestListLoaded, sameId]
  refine exchange_takePending inFriend ?_
  intro pending
  refine ⟨_, _, [], rfl, fun _ => rfl, ?_, ?_, by simp⟩
  · simp [isCommand, ackCommandFrom, ackCommandOf]
  · simp [sameId]

theorem exchange_onStoreReply (stamp : NotifyStamp) {reply : StoreReply}
    (carries : reply.Carries request.cmd request.msgId) (answers : reply.isAnswer = true) :
    (state.onStoreReply stamp request reply).exchange =
      state.exchange.settle IssuedRequest.key IssuedRequest.respond request := by
  cases reply with
  | groupCreated result => exact settles_groupCreated stamp carries.1 carries.2
  | memberOpCompleted result => exact settles_memberOpCompleted _ stamp carries.1 carries.2
  | groupMembersLoaded result => cases answers
  | groupListLoaded result => exact settles_groupListLoaded carries.1 carries.2
  | friendRequestCreated result => exact settles_friendRequestCreated stamp carries.1 carries.2
  | friendDecisionCompleted result =>
      exact settles_friendDecisionCompleted stamp carries.1 carries.2
  | friendListLoaded result => exact settles_friendListLoaded carries.1 carries.2
  | friendRequestListLoaded result =>
      exact settles_friendRequestListLoaded carries.1 carries.2

theorem exchange_onStoreReply_members (stamp : NotifyStamp) {reply : StoreReply}
    (noAnswer : reply.isAnswer = false) :
    (state.onStoreReply stamp request reply).exchange = state.exchange := by
  cases reply with
  | groupMembersLoaded result =>
      rw [onStoreReply]
      split
      · obtain ⟨sameMaps, quiet⟩ := state.group.onGroupMembersForNotify_quiet result
        rw [runGroup, exchange_emitGroup_notices request _ _ quiet]
        simp only [exchange, sameMaps]
      · rfl
  | _ => cases noAnswer

end ManagementState

end ShirohaChat
