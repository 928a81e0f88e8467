import ShirohaChat.Server.ManagementServices
import ShirohaChat.Server.SessionManager

/-!
# The group and friend handlers

A handler checks a packet and passes it to its service, or refuses it.  What a
service reports back becomes the acknowledgement packet.
-/

set_option autoImplicit false

namespace ShirohaChat

/-- The arguments of `sendError`. -/
structure Refusal where
  code : Int32
  message : String
  deriving DecidableEq, Repr

section Checks
variable {Outcome : Type}

def requireAuthenticated (session : ClientSession) (rest : Except Refusal Outcome) :
    Except Refusal Outcome :=
  if ¬ session.isAuthenticated then .error ⟨401, "Not authenticated"⟩ else rest

def requireTexts (texts : List String) (missing : String) (rest : Except Refusal Outcome) :
    Except Refusal Outcome :=
  if "" ∈ texts then .error ⟨400, missing⟩ else rest

end Checks

def Packet.text (packet : Packet) (key : String) : String := jsonText (packet.payload.value key)

def toJsonArray (values : List String) : QJsonValue := .array (values.map QJsonValue.string)

def ackCode (success : Bool) (errorCode : Int32) : Int32 := if success then 200 else errorCode

/-! ## Groups -/

namespace GroupHandler

variable (service : GroupManagementService) (session : ClientSession) (packet : Packet)

def handleCreateGroup : Except Refusal (GroupManagementService × StoreCall) :=
  requireAuthenticated session <|
    let groupName := packet.text "groupName"
    requireTexts [groupName] "Missing groupName" <|
      let memberUserIds := (jsonArray (packet.payload.value "memberUserIds")).map fun item =>
        jsonText (some item)
      .ok (service.createGroup packet.msgId groupName session.userId memberUserIds
        session.connectionId)

def handleAddMember : Except Refusal (GroupManagementService × StoreCall) :=
  requireAuthenticated session <|
    let groupId := packet.text "groupId"
    let userId := packet.text "userId"
    requireTexts [groupId, userId] "Missing groupId or userId" <|
      .ok (service.addMember packet.msgId groupId userId session.userId session.connectionId)

def handleRemoveMember : Except Refusal (GroupManagementService × StoreCall) :=
  requireAuthenticated session <|
    let groupId := packet.text "groupId"
    let userId := packet.text "userId"
    requireTexts [groupId, userId] "Missing groupId or userId" <|
      .ok (service.removeMember packet.msgId groupId userId session.userId session.connectionId)

def handleLeaveGroup : Except Refusal (GroupManagementService × StoreCall) :=
  requireAuthenticated session <|
    let groupId := packet.text "groupId"
    requireTexts [groupId] "Missing groupId" <|
      .ok (service.leaveGroup packet.msgId groupId session.userId session.connectionId)

def handleGroupList : Except Refusal (GroupManagementService × StoreCall) :=
  requireAuthenticated session <|
    .ok (service.loadGroupList packet.msgId session.userId session.connectionId)

/-- `none` for the other commands. -/
def handlePacket : Option (Except Refusal (GroupManagementService × StoreCall)) :=
  match packet.cmd with
  | .createGroup => some (handleCreateGroup service session packet)
  | .addMember => some (handleAddMember service session packet)
  | .removeMember => some (handleRemoveMember service session packet)
  | .leaveGroup => some (handleLeaveGroup service session packet)
  | .groupList => some (handleGroupList service session packet)
  | _ => none

def onGroupCreated (groupName : String) (result : GroupCreateResult) : Packet :=
  Packet.makeAck .createGroupAck result.reqMsgId (ackCode result.success result.errorCode)
    result.errorMessage
    [("groupId", .string result.groupId),
      ("groupName", .string (if result.success then groupName else "")),
      ("memberUserIds", toJsonArray result.memberUserIds)]

def memberOpAck : GroupMemberOp → Command
  | .add => .addMemberAck
  | .remove => .removeMemberAck
  | .leave => .leaveGroupAck

def onMemberOpCompleted (operation : GroupMemberOp) (result : GroupMemberOpResult) : Packet :=
  Packet.makeAck (memberOpAck operation) result.reqMsgId
    (ackCode result.success result.errorCode) result.errorMessage
    [("groupId", .string result.groupId)]

def onGroupListLoaded (result : GroupListResult) : Packet :=
  if ¬ result.success then
    Packet.makeAck .groupListAck result.reqMsgId 500 result.errorMessage []
  else
    let groups := result.groups.map fun item => QJsonValue.object
      [("groupId", .string item.groupId), ("groupName", .string item.groupName),
        ("creatorUserId", .string item.creatorUserId), ("createdAt", .string item.createdAt),
        ("updatedAt", .string item.updatedAt),
        ("memberUserIds", toJsonArray item.memberUserIds)]
    Packet.makeAck .groupListAck result.reqMsgId 200 "" [("groups", .array groups)]

end GroupHandler

/-! ## Friends -/

namespace FriendHandler

variable (service : FriendManagementService) (session : ClientSession) (packet : Packet)

def handleFriendRequest : Except Refusal (FriendManagementService × StoreCall) :=
  requireAuthenticated session <|
    let toUserId := packet.text "toUserId"
    let message := packet.text "message"
    requireTexts [toUserId] "Missing toUserId" <|
      .ok (service.createFriendRequest packet.msgId session.userId toUserId message
        session.connectionId)

def handleDecision (op : FriendDecisionOp) :
    Except Refusal (FriendManagementService × StoreCall) :=
  requireAuthenticated session <|
    let requestId := packet.text "requestId"
    requireTexts [requestId] "Missing requestId" <|
      .ok (service.decideFriendRequest packet.msgId requestId session.userId op
        session.connectionId)

def handleFriendAccept : Except Refusal (FriendManagementService × StoreCall) :=
  handleDecision service session packet .accept

def handleFriendReject : Except Refusal (FriendManagementService × StoreCall) :=
  handleDecision service session packet .reject

def handleFriendList : Except Refusal (FriendManagementService × StoreCall) :=
  requireAuthenticated session <|
    .ok (service.loadFriendList packet.msgId session.userId session.connectionId)

def handleFriendRequestList : Except Refusal (FriendManagementService × StoreCall) :=
  requireAuthenticated session <|
    .ok (service.loadFriendRequestList packet.msgId session.userId session.connectionId)

/-- `none` for the other commands. -/
def handlePacket : Option (Except Refusal (FriendManagementService × StoreCall)) :=
  match packet.cmd with
  | .friendRequest => some (handleFriendRequest service session packet)
  | .friendAccept => some (handleFriendAccept service session packet)
  | .friendReject => some (handleFriendReject service session packet)
  | .friendList => some (handleFriendList service session packet)
  | .friendRequestList => some (handleFriendRequestList service session packet)
  | _ => none

def onCreateCompleted (result : FriendRequestCreateResult) : Packet :=
  Packet.makeAck .friendRequestAck result.reqMsgId (ackCode result.success result.errorCode)
    result.errorMessage
    [("requestId", .string result.requestId), ("fromUserId", .string result.fromUserId),
      ("toUserId", .string result.toUserId), ("status", .string result.status),
      ("createdAt", .string result.createdAt)]

def decisionAck : FriendDecisionOp → Command
  | .accept => .friendAcceptAck
  | .reject => .friendRejectAck

def onDecisionCompleted (pendingOp : FriendDecisionOp) (result : FriendDecisionResult) :
    Packet :=
  Packet.makeAck (decisionAck pendingOp) result.reqMsgId
    (ackCode result.success result.errorCode) result.errorMessage
    [("requestId", .string result.requestId), ("fromUserId", .string result.fromUserId),
      ("toUserId", .string result.toUserId), ("status", .string result.status),
      ("handledAt", .string result.handledAt)]

def onFriendListCompleted (result : FriendListResult) : Packet :=
  if ¬ result.success then
    Packet.makeAck .friendListAck result.reqMsgId 500 result.errorMessage []
  else
    Packet.makeAck .friendListAck result.reqMsgId 200 ""
      [("friends", toJsonArray result.friendUserIds)]

def onFriendRequestListCompleted (result : FriendRequestListResult) : Packet :=
  if ¬ result.success then
    Packet.makeAck .friendRequestListAck result.reqMsgId 500 result.errorMessage []
  else
    let requests := result.requests.map fun item => QJsonValue.object
      [("requestId", .string item.requestId), ("fromUserId", .string item.fromUserId),
        ("toUserId", .string item.toUserId), ("status", .string item.status),
        ("message", .string item.message), ("createdAt", .string item.createdAt),
        ("handledAt", .string item.handledAt)]
    Packet.makeAck .friendRequestListAck result.reqMsgId 200 "" [("requests", .array requests)]

end FriendHandler

/-! ## Every acknowledgement names its request -/

@[simp] theorem GroupHandler.onGroupListLoaded_cmd (result : GroupListResult) :
    (GroupHandler.onGroupListLoaded result).cmd = .groupListAck := by
  unfold GroupHandler.onGroupListLoaded
  split <;> rfl

@[simp] theorem GroupHandler.onGroupListLoaded_msgId (result : GroupListResult) :
    (GroupHandler.onGroupListLoaded result).msgId = result.reqMsgId := by
  unfold GroupHandler.onGroupListLoaded
  split <;> rfl

@[simp] theorem FriendHandler.onFriendListCompleted_cmd (result : FriendListResult) :
    (FriendHandler.onFriendListCompleted result).cmd = .friendListAck := by
  unfold FriendHandler.onFriendListCompleted
  split <;> rfl

@[simp] theorem FriendHandler.onFriendListCompleted_msgId (result : FriendListResult) :
    (FriendHandler.onFriendListCompleted result).msgId = result.reqMsgId := by
  unfold FriendHandler.onFriendListCompleted
  split <;> rfl

@[simp] theorem FriendHandler.onFriendRequestListCompleted_cmd
    (result : FriendRequestListResult) :
    (FriendHandler.onFriendRequestListCompleted result).cmd = .friendRequestListAck := by
  unfold FriendHandler.onFriendRequestListCompleted
  split <;> rfl

@[simp] theorem FriendHandler.onFriendRequestListCompleted_msgId
    (result : FriendRequestListResult) :
    (FriendHandler.onFriendRequestListCompleted result).msgId = result.reqMsgId := by
  unfold FriendHandler.onFriendRequestListCompleted
  split <;> rfl

end ShirohaChat
