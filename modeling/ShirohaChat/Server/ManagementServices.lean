import ShirohaChat.Lib.FiniteMap
import ShirohaChat.Server.MessageStore
import ShirohaChat.Shared.Packet

/-!
# The group and friend management services

A request waits in a map under its client's message id while the database
thread works on it.  The generated ids a slot draws are arguments, and the
signals it emits and its calls into the offline manager are returned in order.
-/

set_option autoImplicit false

namespace ShirohaChat

structure NotifyStamp where
  firstUuid : String
  secondUuid : String

/-! ## Groups -/

/-- `session` is the connection behind the guarded pointer. -/
structure GroupPendingRequest where
  session : String
  operation : GroupMemberOp
  groupName : String := ""

structure PendingNotification where
  packet : Packet
  targetUserId : String
  groupName : String

structure GroupManagementService where
  pendingRequests : FiniteMap String GroupPendingRequest
  pendingNotifications : FiniteMap String PendingNotification
  pendingGroupListRequests : FiniteMap String String

inductive GroupSignal where
  | groupCreated (session groupName : String) (result : GroupCreateResult)
  | memberOpCompleted (session : String) (operation : GroupMemberOp) (operatorUserId : String)
      (result : GroupMemberOpResult)
  | groupListLoaded (session : String) (result : GroupListResult)
  | requestLoadGroupMembersForNotify (query : GroupMembersQuery)
  | enqueueIfOffline (userId : String) (packet : Packet)

def GroupMemberOp.changeType : GroupMemberOp → String
  | .add => "add_member"
  | .remove => "remove_member"
  | .leave => "leave_group"

namespace GroupManagementService

def empty : GroupManagementService := ⟨∅, ∅, ∅⟩

def createGroup (service : GroupManagementService)
    (reqMsgId groupName creatorUserId : String) (memberUserIds : List String)
    (session : String) : GroupManagementService × StoreCall :=
  ({ service with pendingRequests :=
      service.pendingRequests.insert reqMsgId ⟨session, .add, groupName⟩ },
    .createGroup ⟨reqMsgId, groupName, creatorUserId, memberUserIds⟩)

def requestMemberOp (operation : GroupMemberOp) (service : GroupManagementService)
    (reqMsgId groupId targetUserId operatorUserId session : String) :
    GroupManagementService × GroupMemberOpRequest :=
  ({ service with pendingRequests :=
      service.pendingRequests.insert reqMsgId ⟨session, operation, ""⟩ },
    ⟨reqMsgId, groupId, targetUserId, operatorUserId, operation⟩)

def addMember (service : GroupManagementService)
    (reqMsgId groupId targetUserId operatorUserId session : String) :
    GroupManagementService × StoreCall :=
  (requestMemberOp .add service reqMsgId groupId targetUserId operatorUserId session).map id
    .addMember

def removeMember (service : GroupManagementService)
    (reqMsgId groupId targetUserId operatorUserId session : String) :
    GroupManagementService × StoreCall :=
  (requestMemberOp .remove service reqMsgId groupId targetUserId operatorUserId session).map id
    .removeMember

/-- Who leaves is both the target and the operator. -/
def leaveGroup (service : GroupManagementService) (reqMsgId groupId userId session : String) :
    GroupManagementService × StoreCall :=
  (requestMemberOp .leave service reqMsgId groupId userId userId session).map id .leaveGroup

def loadGroupList (service : GroupManagementService) (reqMsgId userId session : String) :
    GroupManagementService × StoreCall :=
  ({ service with pendingGroupListRequests :=
      service.pendingGroupListRequests.insert reqMsgId session },
    .loadGroupList ⟨reqMsgId, userId⟩)

/-- A notification waits for the member list under a generated id. -/
def notifyMembers (service : GroupManagementService) (stamp : NotifyStamp)
    (groupId targetUserId groupName : String) (payload : QJsonObject) :
    GroupManagementService × GroupSignal :=
  let notifyReqId := "grp_notify_" ++ stamp.firstUuid
  let notify : Packet :=
    { cmd := .groupMemberChanged, msgId := stamp.secondUuid, payload := payload }
  ({ service with pendingNotifications :=
      service.pendingNotifications.insert notifyReqId ⟨notify, targetUserId, groupName⟩ },
    .requestLoadGroupMembersForNotify ⟨groupId, notifyReqId⟩)

def onGroupCreated (service : GroupManagementService) (stamp : NotifyStamp)
    (result : GroupCreateResult) : GroupManagementService × List GroupSignal :=
  match service.pendingRequests.lookup result.reqMsgId with
  | none => (service, [])
  | some pending =>
      let service :=
        { service with pendingRequests := service.pendingRequests.erase result.reqMsgId }
      let created := GroupSignal.groupCreated pending.session pending.groupName result
      if ¬ result.success then (service, [created])
      else
        let (service, load) := service.notifyMembers stamp result.groupId "" pending.groupName
          [("groupId", .string result.groupId), ("changeType", .string "created"),
            ("groupName", .string pending.groupName)]
        (service, [created, load])

/-- `sessionUserId` reads the user id of a session object that still exists. -/
def onMemberOpCompleted (service : GroupManagementService)
    (sessionUserId : String → Option String) (stamp : NotifyStamp)
    (result : GroupMemberOpResult) : GroupManagementService × List GroupSignal :=
  match service.pendingRequests.lookup result.reqMsgId with
  | none => (service, [])
  | some pending =>
      let operatorUserId := (sessionUserId pending.session).getD ""
      let service :=
        { service with pendingRequests := service.pendingRequests.erase result.reqMsgId }
      let completed :=
        GroupSignal.memberOpCompleted pending.session pending.operation operatorUserId result
      if ¬ result.success then (service, [completed])
      else
        let targetUserId :=
          if pending.operation = .remove ∨ pending.operation = .leave then result.targetUserId
          else ""
        let (service, load) := service.notifyMembers stamp result.groupId targetUserId ""
          [("groupId", .string result.groupId),
            ("changeType", .string pending.operation.changeType),
            ("targetUserId", .string result.targetUserId),
            ("operatorUserId", .string operatorUserId)]
        (service, [completed, load])

def onGroupMembersForNotify (service : GroupManagementService) (result : GroupMembersResult) :
    GroupManagementService × List GroupSignal :=
  if result.reqMsgId = "" then (service, [])
  else
    match service.pendingNotifications.lookup result.reqMsgId with
    | none => (service, [])
    | some pending =>
        let service := { service with pendingNotifications :=
          service.pendingNotifications.erase result.reqMsgId }
        if ¬ result.success then (service, [])
        else
          let effectiveGroupName :=
            if trimmed pending.groupName = "" then trimmed result.groupName
            else trimmed pending.groupName
          let notifyPacket :=
            if effectiveGroupName = "" then pending.packet
            else { pending.packet with payload :=
              pending.packet.payload.insert "groupName" (.string effectiveGroupName) }
          let members := result.members.map fun userId =>
            GroupSignal.enqueueIfOffline userId notifyPacket
          if pending.targetUserId ≠ "" ∧ pending.targetUserId ∉ result.members then
            (service, members ++ [.enqueueIfOffline pending.targetUserId notifyPacket])
          else (service, members)

def onGroupListLoaded (service : GroupManagementService) (result : GroupListResult) :
    GroupManagementService × List GroupSignal :=
  match service.pendingGroupListRequests.lookup result.reqMsgId with
  | none => (service, [])
  | some session =>
      ({ service with pendingGroupListRequests :=
          service.pendingGroupListRequests.erase result.reqMsgId },
        [.groupListLoaded session result])

end GroupManagementService

/-! ## Friends -/

structure FriendPendingRequest where
  session : String
  operation : FriendDecisionOp
  message : String := ""

structure FriendManagementService where
  pendingRequests : FiniteMap String FriendPendingRequest

inductive FriendSignal where
  | createCompleted (session pendingMessage : String) (result : FriendRequestCreateResult)
  | decisionCompleted (session : String) (pendingOp : FriendDecisionOp)
      (result : FriendDecisionResult)
  | friendListCompleted (session : String) (result : FriendListResult)
  | friendRequestListCompleted (session : String) (result : FriendRequestListResult)
  | enqueueIfOffline (userId : String) (packet : Packet)

namespace FriendManagementService

def empty : FriendManagementService := ⟨∅⟩

def waitFor (service : FriendManagementService) (reqMsgId : String)
    (pending : FriendPendingRequest) : FriendManagementService :=
  ⟨service.pendingRequests.insert reqMsgId pending⟩

def createFriendRequest (service : FriendManagementService)
    (reqMsgId fromUserId toUserId message session : String) :
    FriendManagementService × StoreCall :=
  (service.waitFor reqMsgId ⟨session, .accept, message⟩,
    .createFriendRequest ⟨reqMsgId, fromUserId, toUserId, message⟩)

def decideFriendRequest (service : FriendManagementService)
    (reqMsgId requestId operatorUserId : String) (op : FriendDecisionOp) (session : String) :
    FriendManagementService × StoreCall :=
  (service.waitFor reqMsgId ⟨session, op, ""⟩,
    .decideFriendRequest ⟨reqMsgId, requestId, operatorUserId, op⟩)

def loadFriendList (service : FriendManagementService) (reqMsgId userId session : String) :
    FriendManagementService × StoreCall :=
  (service.waitFor reqMsgId ⟨session, .accept, ""⟩, .loadFriendList ⟨reqMsgId, userId⟩)

def loadFriendRequestList (service : FriendManagementService)
    (reqMsgId userId session : String) : FriendManagementService × StoreCall :=
  (service.waitFor reqMsgId ⟨session, .accept, ""⟩, .loadFriendRequestList ⟨reqMsgId, userId⟩)

/-- The slots take the pending request out and emit what it and the result
call for; a result nobody waits for is dropped. -/
def takePending (service : FriendManagementService) (reqMsgId : String)
    (signals : FriendPendingRequest → List FriendSignal) :
    FriendManagementService × List FriendSignal :=
  match service.pendingRequests.lookup reqMsgId with
  | none => (service, [])
  | some pending => (⟨service.pendingRequests.erase reqMsgId⟩, signals pending)

def onFriendRequestCreated (service : FriendManagementService) (stamp : NotifyStamp)
    (result : FriendRequestCreateResult) : FriendManagementService × List FriendSignal :=
  service.takePending result.reqMsgId fun pending =>
    let completed := FriendSignal.createCompleted pending.session pending.message result
    if ¬ result.success then [completed]
    else
      let notify : Packet :=
        { cmd := .friendRequestNotify
          msgId := "frn_" ++ stamp.firstUuid
          payload := [("requestId", .string result.requestId),
            ("fromUserId", .string result.fromUserId), ("toUserId", .string result.toUserId),
            ("status", .string result.status), ("message", .string pending.message),
            ("createdAt", .string result.createdAt)] }
      [completed, .enqueueIfOffline result.toUserId notify]

def notifyFriendChanged (uuid userId friendUserId requestId : String) : FriendSignal :=
  .enqueueIfOffline userId
    { cmd := .friendChanged
      msgId := "frc_" ++ uuid
      payload := [("userId", .string userId), ("friendUserId", .string friendUserId),
        ("requestId", .string requestId), ("changeType", .string "accepted")] }

def onFriendDecisionCompleted (service : FriendManagementService) (stamp : NotifyStamp)
    (result : FriendDecisionResult) : FriendManagementService × List FriendSignal :=
  service.takePending result.reqMsgId fun pending =>
    let completed := FriendSignal.decisionCompleted pending.session pending.operation result
    if result.success ∧ result.status = "accepted" then
      [completed,
        notifyFriendChanged stamp.firstUuid result.fromUserId result.toUserId result.requestId,
        notifyFriendChanged stamp.secondUuid result.toUserId result.fromUserId result.requestId]
    else [completed]

def onFriendListLoaded (service : FriendManagementService) (result : FriendListResult) :
    FriendManagementService × List FriendSignal :=
  service.takePending result.reqMsgId fun pending =>
    [.friendListCompleted pending.session result]

def onFriendRequestListLoaded (service : FriendManagementService)
    (result : FriendRequestListResult) : FriendManagementService × List FriendSignal :=
  service.takePending result.reqMsgId fun pending =>
    [.friendRequestListCompleted pending.session result]

end FriendManagementService

end ShirohaChat
