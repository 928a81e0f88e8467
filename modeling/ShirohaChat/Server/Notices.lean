import ShirohaChat.Server.NotificationRuns

/-!
# Notices are no messages

Whatever the management services hand out in a run, at once or when a member
list has come in, is a notice of a group or a friend and no `receive_message`.
-/

set_option autoImplicit false

namespace ShirohaChat

def Notices (told : List (String × Packet)) : Prop :=
  ∀ entry ∈ told, entry.2.cmd ≠ .receiveMessage

theorem notices_nil : Notices [] := fun _ member => absurd member List.not_mem_nil

theorem cmd_named (unnamed : Prop) [Decidable unnamed] (packet : Packet)
    (payload : QJsonObject) :
    (if unnamed then packet else { packet with payload := payload }).cmd = packet.cmd := by
  split <;> rfl

def NoticesWait (service : GroupManagementService) : Prop :=
  ∀ token pending, service.pendingNotifications.lookup token = some pending →
    pending.packet.cmd ≠ .receiveMessage

namespace NoticesWait

variable {service : GroupManagementService} (waits : NoticesWait service)
include waits

theorem notifyMembers (stamp : NotifyStamp) (groupId targetUserId groupName : String)
    (payload : QJsonObject) :
    NoticesWait (service.notifyMembers stamp groupId targetUserId groupName payload).1 := by
  intro token pending found
  rcases FiniteMap.of_lookup_insert found with ⟨_, rfl⟩ | ⟨_, old⟩
  · exact (by decide : Command.groupMemberChanged ≠ .receiveMessage)
  · exact waits token pending old

theorem onGroupCreated (stamp : NotifyStamp) (result : GroupCreateResult) :
    NoticesWait (service.onGroupCreated stamp result).1 ∧
      Notices ((service.onGroupCreated stamp result).2.filterMap GroupSignal.told) := by
  unfold GroupManagementService.onGroupCreated
  split
  · exact ⟨waits, notices_nil⟩
  · rename_i pending _
    simp only
    split
    · exact ⟨waits, notices_nil⟩
    · have taken : NoticesWait { service with
          pendingRequests := service.pendingRequests.erase result.reqMsgId } := waits
      exact ⟨taken.notifyMembers stamp result.groupId "" pending.groupName _, notices_nil⟩

theorem onMemberOpCompleted (sessionUserId : String → Option String) (stamp : NotifyStamp)
    (result : GroupMemberOpResult) :
    NoticesWait (service.onMemberOpCompleted sessionUserId stamp result).1 ∧
      Notices ((service.onMemberOpCompleted sessionUserId stamp result).2.filterMap
        GroupSignal.told) := by
  unfold GroupManagementService.onMemberOpCompleted
  split
  · exact ⟨waits, notices_nil⟩
  · rename_i pending _
    simp only
    split
    · exact ⟨waits, notices_nil⟩
    · have taken : NoticesWait { service with
          pendingRequests := service.pendingRequests.erase result.reqMsgId } := waits
      exact ⟨taken.notifyMembers stamp result.groupId _ "" _, notices_nil⟩

theorem onGroupMembersForNotify (result : GroupMembersResult) :
    NoticesWait (service.onGroupMembersForNotify result).1 ∧
      Notices ((service.onGroupMembersForNotify result).2.filterMap GroupSignal.told) := by
  unfold GroupManagementService.onGroupMembersForNotify
  split
  · exact ⟨waits, notices_nil⟩
  split
  · exact ⟨waits, notices_nil⟩
  rename_i pending found
  have erased : NoticesWait { service with
      pendingNotifications := service.pendingNotifications.erase result.reqMsgId } :=
    fun token other present => waits token other (FiniteMap.of_lookup_erase present).2
  have isNotice := waits result.reqMsgId pending found
  simp only
  split
  · exact ⟨erased, notices_nil⟩
  split
  · refine ⟨erased, ?_⟩
    intro entry member
    simp only [List.filterMap_append, List.filterMap_map, List.mem_append, List.mem_filterMap,
      Function.comp_apply, GroupSignal.told, List.filterMap_cons, List.filterMap_nil,
      Option.some.injEq, List.mem_singleton] at member
    rcases member with ⟨userId, _, rfl⟩ | rfl
    · exact (cmd_named _ _ _).trans_ne isNotice
    · exact (cmd_named _ _ _).trans_ne isNotice
  · refine ⟨erased, ?_⟩
    intro entry member
    simp only [List.filterMap_map, List.mem_filterMap, Function.comp_apply, GroupSignal.told,
      Option.some.injEq] at member
    obtain ⟨userId, _, rfl⟩ := member
    exact (cmd_named _ _ _).trans_ne isNotice

end NoticesWait

theorem notices_takePending (service : FriendManagementService) (reqMsgId : String)
    {signals : FriendPendingRequest → List FriendSignal}
    (told : ∀ pending, Notices ((signals pending).filterMap FriendSignal.told)) :
    Notices ((service.takePending reqMsgId signals).2.filterMap FriendSignal.told) := by
  unfold FriendManagementService.takePending
  split
  · exact notices_nil
  · exact told _

theorem notices_onFriendRequestCreated (service : FriendManagementService) (stamp : NotifyStamp)
    (result : FriendRequestCreateResult) :
    Notices ((service.onFriendRequestCreated stamp result).2.filterMap FriendSignal.told) := by
  apply notices_takePending
  intro pending
  simp only
  split
  · exact notices_nil
  · intro entry member
    rw [List.mem_singleton.mp member]
    exact (by decide : Command.friendRequestNotify ≠ .receiveMessage)

theorem notices_onFriendDecisionCompleted (service : FriendManagementService)
    (stamp : NotifyStamp) (result : FriendDecisionResult) :
    Notices ((service.onFriendDecisionCompleted stamp result).2.filterMap FriendSignal.told) := by
  have isNotice : Command.friendChanged ≠ .receiveMessage := by decide
  apply notices_takePending
  intro pending
  simp only
  split
  · intro entry member
    simp only [FriendManagementService.notifyFriendChanged, FriendSignal.told,
      List.filterMap_cons, List.filterMap_nil, List.mem_cons, List.not_mem_nil, or_false] at member
    rcases member with rfl | rfl <;> exact isNotice
  · exact notices_nil

namespace ManagementState

structure TellsNotices (before after : ManagementState) : Prop where
  waits : NoticesWait after.group
  told : ∃ told, after.notified = before.notified ++ told ∧ Notices told

variable {state : ManagementState} (waits : NoticesWait state.group)
include waits

theorem TellsNotices.quiet {after : ManagementState}
    (pending : after.group.pendingNotifications = state.group.pendingNotifications)
    (notified : after.notified = state.notified) : TellsNotices state after := by
  refine ⟨?_, [], by rw [notified, List.append_nil], notices_nil⟩
  unfold NoticesWait
  rw [pending]
  exact waits

omit waits in
theorem tellsNotices_runGroup (request : IssuedRequest)
    {outcome : GroupManagementService × List GroupSignal}
    (tells : NoticesWait outcome.1 ∧ Notices (outcome.2.filterMap GroupSignal.told)) :
    TellsNotices state (state.runGroup request outcome) := by
  refine ⟨?_, _, (Reacts.runGroup request state outcome).notified, tells.2⟩
  rw [(sameStores_runGroup state request outcome).group]
  exact tells.1

theorem tellsNotices_runFriend (request : IssuedRequest)
    {outcome : FriendManagementService × List FriendSignal}
    (tells : Notices (outcome.2.filterMap FriendSignal.told)) :
    TellsNotices state (state.runFriend request outcome) := by
  refine ⟨?_, _, (Reacts.runFriend request state outcome).notified, tells⟩
  rw [(sameStores_runFriend state request outcome).group]
  exact waits

theorem tellsNotices_onStoreReply (stamp : NotifyStamp) (request : IssuedRequest)
    (reply : StoreReply) : TellsNotices state (state.onStoreReply stamp request reply) := by
  cases reply with
  | groupMembersLoaded result =>
      rw [onStoreReply]
      split
      · exact tellsNotices_runGroup request (waits.onGroupMembersForNotify result)
      · exact .quiet waits rfl rfl
  | groupCreated result =>
      exact tellsNotices_runGroup request (waits.onGroupCreated stamp result)
  | memberOpCompleted result =>
      exact tellsNotices_runGroup request (waits.onMemberOpCompleted _ stamp result)
  | groupListLoaded result =>
      refine tellsNotices_runGroup request ?_
      unfold GroupManagementService.onGroupListLoaded
      split
      · exact ⟨waits, notices_nil⟩
      · exact ⟨waits, notices_nil⟩
  | friendRequestCreated result =>
      exact tellsNotices_runFriend waits request (notices_onFriendRequestCreated _ stamp result)
  | friendDecisionCompleted result =>
      exact tellsNotices_runFriend waits request (notices_onFriendDecisionCompleted _ stamp result)
  | friendListLoaded result =>
      exact tellsNotices_runFriend waits request (notices_takePending _ _ fun _ => notices_nil)
  | friendRequestListLoaded result =>
      exact tellsNotices_runFriend waits request (notices_takePending _ _ fun _ => notices_nil)

omit waits in
theorem notified_packetReceived (connectionId : String) (packet : Packet) :
    (state.onPacketReceived connectionId packet).notified = state.notified := by
  unfold onPacketReceived
  split
  · rfl
  · rename_i session found
    rcases dispatch_cases state session packet with
      ⟨_, group, friend, call, issued, _⟩ | ⟨refusal, refused⟩ | ⟨_, same⟩
    · rw [issued]
      rfl
    · rw [refused]
      rfl
    · rw [same]

theorem tellsNotices_next (event : ManagementEvent) : TellsNotices state (event.next state) := by
  cases event with
  | packetReceived connectionId packet =>
      have keeps := state.keepsLoads_packetReceived connectionId packet
      exact .quiet waits keeps.notifications (notified_packetReceived connectionId packet)
  | executeNext run =>
      rw [ManagementEvent.next, executeNext]
      split
      · exact .quiet waits rfl rfl
      · exact .quiet waits rfl rfl
  | handleNext stamp =>
      rw [ManagementEvent.next, handleNext]
      split
      · exact .quiet waits rfl rfl
      · rename_i request reply rest _
        have popped : NoticesWait ({ state with replies := rest } : ManagementState).group := waits
        have told := tellsNotices_onStoreReply popped stamp request reply
        exact ⟨told.waits, told.told⟩
  | _ => exact .quiet waits rfl rfl

end ManagementState
end ShirohaChat
