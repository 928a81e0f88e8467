import ShirohaChat.Server.ChatServer
import ShirohaChat.Server.GroupRuns
import ShirohaChat.Server.ManagementRuns

/-!
# What the management steps do with member lists

Packets and sessions leave the member lists in flight alone, the database thread
turns the oldest one asked for into the newest one read, and the main thread
takes the oldest one read and may ask for one more, for a notification that
waits under a generated id.
-/

set_option autoImplicit false

namespace ShirohaChat

theorem ne_empty_of_notify {token : String} (isNotify : qStartsWith token "grp_notify_" = true) :
    token ≠ "" := by
  rintro rfl
  exact absurd isNotify (by decide)

theorem notify_of_notification (uuid : String) :
    qStartsWith ("grp_notify_" ++ uuid) "grp_notify_" = true := by
  unfold qStartsWith
  rw [String.toList_append, List.isPrefixOf_iff_prefix]
  exact List.prefix_append _ _

def GroupSignal.membersQuery : GroupSignal → Option GroupMembersQuery
  | .requestLoadGroupMembersForNotify query => some query
  | _ => none

namespace ManagementState

/-! ## Signals -/

theorem loadCalls_emitGroup (request : IssuedRequest) (state : ManagementState)
    (signal : GroupSignal) :
    (emitGroup request state signal).loadCalls =
      state.loadCalls ++ signal.membersQuery.toList := by
  cases signal <;>
    simp [emitGroup, acknowledge, loadCalls, GroupSignal.membersQuery, StoreCall.membersQuery]

theorem loadCalls_foldl_emitGroup (request : IssuedRequest) (signals : List GroupSignal) :
    ∀ state : ManagementState, (signals.foldl (emitGroup request) state).loadCalls =
      state.loadCalls ++ signals.filterMap GroupSignal.membersQuery := by
  induction signals with
  | nil => simp
  | cons signal rest ih =>
      intro state
      rw [List.foldl_cons, ih, loadCalls_emitGroup, List.append_assoc]
      cases query : signal.membersQuery <;> simp [query]

structure SameStores (before after : ManagementState) : Prop where
  database : after.database = before.database
  group : after.group = before.group
  replies : after.replies = before.replies

theorem sameStores_foldl {Signal : Type} {emit : ManagementState → Signal → ManagementState}
    (each : ∀ state signal, SameStores state (emit state signal)) (signals : List Signal) :
    ∀ state, SameStores state (signals.foldl emit state) := by
  induction signals with
  | nil => exact fun state => ⟨rfl, rfl, rfl⟩
  | cons signal rest ih =>
      intro state
      have first := each state signal
      have later := ih (emit state signal)
      exact ⟨later.database.trans first.database, later.group.trans first.group,
        later.replies.trans first.replies⟩

theorem sameStores_emitGroup (request : IssuedRequest) (state : ManagementState)
    (signal : GroupSignal) : SameStores state (emitGroup request state signal) := by
  cases signal <;> exact ⟨rfl, rfl, rfl⟩

theorem sameStores_emitFriend (request : IssuedRequest) (state : ManagementState)
    (signal : FriendSignal) : SameStores state (emitFriend request state signal) := by
  cases signal <;> exact ⟨rfl, rfl, rfl⟩

theorem calls_emitFriend (request : IssuedRequest) (signals : List FriendSignal) :
    ∀ state : ManagementState,
      (signals.foldl (emitFriend request) state).calls = state.calls := by
  induction signals with
  | nil => exact fun state => rfl
  | cons signal rest ih =>
      intro state
      rw [List.foldl_cons, ih]
      cases signal <;> rfl

/-! ## Packets -/

structure KeepsLoads (before after : ManagementState) : Prop where
  loadCalls : after.loadCalls = before.loadCalls
  loadReplies : after.loadReplies = before.loadReplies
  notifications : after.group.pendingNotifications = before.group.pendingNotifications

end ManagementState

theorem GroupHandler.pendingNotifications_handlePacket {service after : GroupManagementService}
    {session : ClientSession} {packet : Packet} {call : StoreCall}
    (handled : GroupHandler.handlePacket service session packet = some (.ok (after, call))) :
    after.pendingNotifications = service.pendingNotifications ∧ call.membersQuery = none := by
  unfold GroupHandler.handlePacket at handled
  split at handled
  · cases requireTexts_ok (requireAuthenticated_ok (Option.some.inj handled))
    exact ⟨rfl, rfl⟩
  · cases requireTexts_ok (requireAuthenticated_ok (Option.some.inj handled))
    exact ⟨rfl, rfl⟩
  · cases requireTexts_ok (requireAuthenticated_ok (Option.some.inj handled))
    exact ⟨rfl, rfl⟩
  · cases requireTexts_ok (requireAuthenticated_ok (Option.some.inj handled))
    exact ⟨rfl, rfl⟩
  · cases requireAuthenticated_ok (Option.some.inj handled)
    exact ⟨rfl, rfl⟩
  · cases handled

theorem StoreCall.membersQuery_of_isRequest {call : StoreCall} (isRequest : call.isRequest = true) :
    call.membersQuery = none := by
  cases call with
  | loadGroupMembers query => cases isRequest
  | _ => rfl

namespace ManagementState

theorem keepsLoads_issue {state after : ManagementState} (session : ClientSession)
    (packet : Packet) {call : StoreCall} (noQuery : call.membersQuery = none)
    (calls : after.calls = state.calls) (replies : after.replies = state.replies)
    (notifications : after.group.pendingNotifications = state.group.pendingNotifications) :
    KeepsLoads state (after.issue session packet call) := by
  refine ⟨?_, ?_, notifications⟩
  · simp [ManagementState.loadCalls, issue, noQuery, calls]
  · simp [ManagementState.loadReplies, issue, replies]

theorem keepsLoads_packetReceived (state : ManagementState) (connectionId : String)
    (packet : Packet) : KeepsLoads state (state.onPacketReceived connectionId packet) := by
  unfold onPacketReceived
  split
  · exact ⟨rfl, rfl, rfl⟩
  · rename_i session found
    unfold dispatch
    split
    · exact ⟨rfl, rfl, rfl⟩
    · rename_i group call handled
      obtain ⟨notifications, noQuery⟩ := GroupHandler.pendingNotifications_handlePacket handled
      exact keepsLoads_issue session packet noQuery rfl rfl notifications
    · split
      · exact ⟨rfl, rfl, rfl⟩
      · rename_i friend call handled
        have isRequest := (FriendHandler.handlePacket_ok handled).2.1
        exact keepsLoads_issue session packet (StoreCall.membersQuery_of_isRequest isRequest)
          rfl rfl rfl
      · exact ⟨rfl, rfl, rfl⟩

theorem database_packetReceived (state : ManagementState) (connectionId : String)
    (packet : Packet) :
    (state.onPacketReceived connectionId packet).database = state.database := by
  unfold onPacketReceived
  split
  · rfl
  · rename_i session found
    rcases dispatch_cases state session packet with
      ⟨_, group, friend, call, issued, _⟩ | ⟨refusal, refused⟩ | ⟨_, same⟩
    · rw [issued]
      rfl
    · rw [refused]
      rfl
    · rw [same]

/-! ## The database thread -/

theorem membersResult_executeStoreCall (database : Database) (run : StoreRun) (call : StoreCall) :
    (executeStoreCall database run call).2.membersResult =
      call.membersQuery.map (loadGroupMembers database.groupStore run.groupMembers) := by
  cases call <;> rfl

/-- The oldest member list asked for is read; other calls concern none. -/
theorem executeNext_cases (state : ManagementState) (run : StoreRun) :
    (KeepsLoads state (state.executeNext run) ∧
      ∀ request query rest, state.calls ≠ (request, .loadGroupMembers query) :: rest) ∨
    ∃ request query rest, state.calls = (request, .loadGroupMembers query) :: rest ∧
      state.executeNext run =
        { state with
          calls := rest
          replies := state.replies ++ [(request, .groupMembersLoaded
            (loadGroupMembers state.database.groupStore run.groupMembers query))] } := by
  unfold executeNext
  cases waiting : state.calls with
  | nil => exact Or.inl ⟨⟨rfl, rfl, rfl⟩, fun _ _ _ same => by cases same⟩
  | cons entry rest =>
      obtain ⟨request, call⟩ := entry
      have result := membersResult_executeStoreCall state.database run call
      cases query : call.membersQuery with
      | none =>
          rw [query, Option.map_none] at result
          refine Or.inl ⟨⟨?_, ?_, rfl⟩, ?_⟩
          · simp [ManagementState.loadCalls, waiting, query]
          · simp [ManagementState.loadReplies, result]
          · intro other otherQuery otherRest same
            cases same
            cases query
      | some found =>
          cases call with
          | loadGroupMembers other =>
              cases query
              exact Or.inr ⟨request, found, rest, rfl, rfl⟩
          | _ => cases query

end ManagementState

/-! ## The main thread -/

namespace GroupManagementService

def AsksOnce (uuid : String) (service : GroupManagementService)
    (outcome : GroupManagementService × List GroupSignal) : Prop :=
  (outcome.1.pendingNotifications = service.pendingNotifications ∧
    outcome.2.filterMap GroupSignal.membersQuery = []) ∨
  ∃ groupId notification,
    outcome.1.pendingNotifications =
      service.pendingNotifications.insert ("grp_notify_" ++ uuid) notification ∧
    outcome.2.filterMap GroupSignal.membersQuery = [⟨groupId, "grp_notify_" ++ uuid⟩]

variable (service : GroupManagementService) (stamp : NotifyStamp)

theorem asksOnce_onGroupCreated (result : GroupCreateResult) :
    AsksOnce stamp.firstUuid service (service.onGroupCreated stamp result) := by
  unfold onGroupCreated
  split
  · exact Or.inl ⟨rfl, rfl⟩
  · simp only
    split
    · exact Or.inl ⟨rfl, rfl⟩
    · exact Or.inr ⟨result.groupId, _, rfl, rfl⟩

theorem asksOnce_onMemberOpCompleted (sessionUserId : String → Option String)
    (result : GroupMemberOpResult) :
    AsksOnce stamp.firstUuid service
      (service.onMemberOpCompleted sessionUserId stamp result) := by
  unfold onMemberOpCompleted
  split
  · exact Or.inl ⟨rfl, rfl⟩
  · simp only
    split
    · exact Or.inl ⟨rfl, rfl⟩
    · exact Or.inr ⟨result.groupId, _, rfl, rfl⟩

theorem asksOnce_onGroupListLoaded (uuid : String) (result : GroupListResult) :
    AsksOnce uuid service (service.onGroupListLoaded result) := by
  unfold onGroupListLoaded
  split <;> exact Or.inl ⟨rfl, rfl⟩

/-- A notification's member list takes that notification out and asks for nothing. -/
theorem onGroupMembersForNotify_cases {result : GroupMembersResult}
    (named : result.reqMsgId ≠ "") :
    (∀ other, (service.onGroupMembersForNotify result).1.pendingNotifications.lookup other =
      if other = result.reqMsgId then none else service.pendingNotifications.lookup other) ∧
    (service.onGroupMembersForNotify result).2.filterMap GroupSignal.membersQuery = [] := by
  have erased := FiniteMap.lookup_erase service.pendingNotifications result.reqMsgId
  have told : ∀ (members : List String) (packet : Packet),
      (members.map fun userId => GroupSignal.enqueueIfOffline userId packet).filterMap
        GroupSignal.membersQuery = [] := by
    intro members packet
    simp [List.filterMap_map, Function.comp_def, GroupSignal.membersQuery]
  unfold onGroupMembersForNotify
  rw [if_neg named]
  split
  · rename_i unknown
    refine ⟨?_, rfl⟩
    intro other
    by_cases same : other = result.reqMsgId
    · rw [if_pos same, same, unknown]
    · rw [if_neg same]
  · simp only
    split
    · exact ⟨erased, rfl⟩
    · split
      · refine ⟨erased, ?_⟩
        rw [List.filterMap_append, told]
        rfl
      · exact ⟨erased, told _ _⟩

end GroupManagementService

namespace ManagementState

theorem sameStores_runGroup (state : ManagementState) (request : IssuedRequest)
    (outcome : GroupManagementService × List GroupSignal) :
    SameStores { state with group := outcome.1 } (state.runGroup request outcome) :=
  sameStores_foldl (sameStores_emitGroup request) outcome.2 _

theorem sameStores_runFriend (state : ManagementState) (request : IssuedRequest)
    (outcome : FriendManagementService × List FriendSignal) :
    SameStores { state with friend := outcome.1 } (state.runFriend request outcome) :=
  sameStores_foldl (sameStores_emitFriend request) outcome.2 _

theorem database_onStoreReply (state : ManagementState) (stamp : NotifyStamp)
    (request : IssuedRequest) (reply : StoreReply) :
    (state.onStoreReply stamp request reply).database = state.database := by
  have ofGroup : ∀ outcome, (state.runGroup request outcome).database = state.database :=
    fun outcome => (sameStores_runGroup state request outcome).database
  have ofFriend : ∀ outcome, (state.runFriend request outcome).database = state.database :=
    fun outcome => (sameStores_runFriend state request outcome).database
  cases reply with
  | groupMembersLoaded result =>
      rw [onStoreReply]
      split
      · exact ofGroup _
      · rfl
  | groupCreated result => exact ofGroup _
  | memberOpCompleted result => exact ofGroup _
  | groupListLoaded result => exact ofGroup _
  | friendRequestCreated result => exact ofFriend _
  | friendDecisionCompleted result => exact ofFriend _
  | friendListLoaded result => exact ofFriend _
  | friendRequestListLoaded result => exact ofFriend _

theorem database_handleNext (state : ManagementState) (stamp : NotifyStamp) :
    (state.handleNext stamp).database = state.database := by
  unfold handleNext
  split
  · rfl
  · exact database_onStoreReply _ stamp _ _

structure AskedOnce (uuid : String) (before after : ManagementState) : Prop where
  loadReplies : after.loadReplies = before.loadReplies
  asked : ∃ signals, before.group.AsksOnce uuid (after.group, signals) ∧
    after.loadCalls = before.loadCalls ++ signals.filterMap GroupSignal.membersQuery

theorem askedOnce_runGroup {uuid : String} (state : ManagementState) (request : IssuedRequest)
    {outcome : GroupManagementService × List GroupSignal}
    (asks : state.group.AsksOnce uuid outcome) :
    AskedOnce uuid state (state.runGroup request outcome) := by
  have same := sameStores_runGroup state request outcome
  refine ⟨?_, outcome.2, ?_, ?_⟩
  · simp only [ManagementState.loadReplies, same.replies]
  · rw [same.group]
    exact asks
  · exact loadCalls_foldl_emitGroup request outcome.2 _

theorem askedOnce_runFriend (uuid : String) (state : ManagementState) (request : IssuedRequest)
    (outcome : FriendManagementService × List FriendSignal) :
    AskedOnce uuid state (state.runFriend request outcome) := by
  have same := sameStores_runFriend state request outcome
  refine ⟨?_, [], ?_, ?_⟩
  · simp only [ManagementState.loadReplies, same.replies]
  · rw [same.group]
    exact Or.inl ⟨rfl, rfl⟩
  · simp only [ManagementState.loadCalls, runFriend, calls_emitFriend, List.filterMap_nil,
      List.append_nil]

theorem askedOnce_onStoreReply (state : ManagementState) (stamp : NotifyStamp)
    (request : IssuedRequest) {reply : StoreReply} (notMembers : reply.membersResult = none) :
    AskedOnce stamp.firstUuid state (state.onStoreReply stamp request reply) := by
  cases reply with
  | groupMembersLoaded result => cases notMembers
  | groupCreated result =>
      exact askedOnce_runGroup state request (state.group.asksOnce_onGroupCreated stamp result)
  | memberOpCompleted result =>
      exact askedOnce_runGroup state request
        (state.group.asksOnce_onMemberOpCompleted stamp _ result)
  | groupListLoaded result =>
      exact askedOnce_runGroup state request (state.group.asksOnce_onGroupListLoaded _ result)
  | friendRequestCreated result => exact askedOnce_runFriend _ state request _
  | friendDecisionCompleted result => exact askedOnce_runFriend _ state request _
  | friendListLoaded result => exact askedOnce_runFriend _ state request _
  | friendRequestListLoaded result => exact askedOnce_runFriend _ state request _

/-- A member list is taken out for the group service, the others for nobody
here; any other result may ask for one. -/
theorem handleNext_cases (state : ManagementState) (stamp : NotifyStamp) :
    (∃ request result rest, state.replies = (request, .groupMembersLoaded result) :: rest ∧
      qStartsWith result.reqMsgId "grp_notify_" = false ∧
      state.handleNext stamp = { state with replies := rest }) ∨
    (∃ request result rest, state.replies = (request, .groupMembersLoaded result) :: rest ∧
      qStartsWith result.reqMsgId "grp_notify_" = true ∧
      state.loadReplies = result :: (state.handleNext stamp).loadReplies ∧
      (state.handleNext stamp).loadCalls = state.loadCalls ∧
      (state.handleNext stamp).group = (state.group.onGroupMembersForNotify result).1) ∨
    ((∀ request result rest, state.replies ≠ (request, .groupMembersLoaded result) :: rest) ∧
      AskedOnce stamp.firstUuid state (state.handleNext stamp)) := by
  unfold handleNext
  cases waiting : state.replies with
  | nil =>
      refine Or.inr (Or.inr ⟨fun _ _ _ same => (by cases same), rfl, [], Or.inl ⟨rfl, rfl⟩, ?_⟩)
      rw [List.filterMap_nil, List.append_nil]
  | cons entry rest =>
      obtain ⟨request, reply⟩ := entry
      cases members : reply.membersResult with
      | none =>
          refine Or.inr (Or.inr ⟨?_, ?_⟩)
          · intro other result otherRest same
            cases same
            cases members
          · obtain ⟨replies, signals, asks, calls⟩ :=
              askedOnce_onStoreReply { state with replies := rest } stamp request members
            refine ⟨?_, signals, asks, calls⟩
            rw [replies]
            simp [ManagementState.loadReplies, waiting, members]
      | some result =>
          cases reply with
          | groupMembersLoaded other =>
              cases members
              simp only [onStoreReply]
              cases isNotify : qStartsWith result.reqMsgId "grp_notify_" with
              | false =>
                  exact Or.inl ⟨request, result, rest, rfl, isNotify, if_neg Bool.false_ne_true⟩
              | true =>
                  rw [if_pos rfl]
                  have same := sameStores_runGroup { state with replies := rest } request
                    (state.group.onGroupMembersForNotify result)
                  have named := ne_empty_of_notify isNotify
                  have calls := loadCalls_foldl_emitGroup request
                    (state.group.onGroupMembersForNotify result).2
                    { state with replies := rest,
                                 group := (state.group.onGroupMembersForNotify result).1 }
                  rw [(state.group.onGroupMembersForNotify_cases named).2,
                    List.append_nil] at calls
                  refine Or.inr (Or.inl
                    ⟨request, result, rest, rfl, isNotify, ?_, calls, same.group⟩)
                  simp [ManagementState.loadReplies, same.replies, waiting,
                    StoreReply.membersResult]
          | _ => cases members

end ManagementState

/-! ## The group tables -/

theorem groupsConsistent_executeStoreCall {database : Database}
    (consistent : GroupsConsistent database.groupStore) (run : StoreRun) (call : StoreCall) :
    GroupsConsistent (executeStoreCall database run call).1.groupStore := by
  cases call with
  | createGroup request => exact consistent.next (.createGroup run.createGroup request)
  | addMember request => exact consistent.next (.addMember run.memberOp request)
  | removeMember request => exact consistent.next (.removeMember run.memberOp request)
  | leaveGroup request => exact consistent.next (.leaveGroup run.memberOp request)
  | loadGroupMembers query => exact consistent
  | loadGroupList query => exact consistent
  | createFriendRequest request => exact consistent.withUsers _
  | decideFriendRequest request => exact consistent.withUsers _
  | loadFriendList query => exact consistent
  | loadFriendRequestList query => exact consistent

theorem groupsConsistent_management {state : ManagementState}
    (consistent : GroupsConsistent state.database.groupStore) (event : ManagementEvent) :
    GroupsConsistent (event.next state).database.groupStore := by
  cases event with
  | session event => exact consistent
  | sessionDeleted connectionId => exact consistent
  | ensureUser run userId nickname => exact consistent.withUsers _
  | packetReceived connectionId packet =>
      rw [ManagementEvent.next, state.database_packetReceived connectionId packet]
      exact consistent
  | executeNext run =>
      rw [ManagementEvent.next, ManagementState.executeNext]
      split
      · exact consistent
      · exact groupsConsistent_executeStoreCall consistent run _
  | handleNext notify =>
      rw [ManagementEvent.next, state.database_handleNext notify]
      exact consistent

end ShirohaChat
