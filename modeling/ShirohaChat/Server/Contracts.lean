/-!
# Requests and results of the message store

The records that cross between the main thread and the database thread.  A
string that can reach an SQL parameter as the null `QString` is optional.
-/

set_option autoImplicit false

namespace ShirohaChat

/-! ## Messages -/

structure StoreRequest where
  msgId : String
  sessionId : String
  senderUserId : String
  content : Option String
  timestamp : String
  serverId : String
  deriving DecidableEq

structure StoreResult where
  msgId : String
  serverId : String
  success : Bool
  deriving DecidableEq

/-! ## Groups -/

inductive GroupMemberOp where
  | add
  | remove
  | leave
  deriving DecidableEq, Repr

structure GroupCreateRequest where
  reqMsgId : String
  groupName : String
  creatorUserId : String
  memberUserIds : List String
  deriving DecidableEq

structure GroupCreateResult where
  reqMsgId : String
  groupId : String
  memberUserIds : List String
  success : Bool
  errorCode : Int32
  errorMessage : String
  deriving DecidableEq

structure GroupMemberOpRequest where
  reqMsgId : String
  groupId : String
  targetUserId : String
  operatorUserId : String
  operation : GroupMemberOp
  deriving DecidableEq

structure GroupMemberOpResult where
  reqMsgId : String
  groupId : String
  targetUserId : String
  success : Bool
  errorCode : Int32
  errorMessage : String
  deriving DecidableEq

structure GroupMembersQuery where
  groupId : String
  reqMsgId : String
  deriving DecidableEq

structure GroupMembersResult where
  groupId : String
  groupName : String
  members : List String
  reqMsgId : String
  success : Bool := true
  errorCode : Int32 := 0
  errorMessage : String := ""
  deriving DecidableEq

structure GroupListQuery where
  reqMsgId : String
  userId : String
  deriving DecidableEq

structure GroupListEntry where
  groupId : String
  groupName : String
  creatorUserId : String
  createdAt : String
  updatedAt : String
  memberUserIds : List String
  deriving DecidableEq

structure GroupListResult where
  reqMsgId : String
  userId : String
  groups : List GroupListEntry
  success : Bool := true
  errorMessage : String := ""
  deriving DecidableEq

/-! ## Friends -/

inductive FriendDecisionOp where
  | accept
  | reject
  deriving DecidableEq, Repr

structure FriendRequestCreateRequest where
  reqMsgId : String
  fromUserId : String
  toUserId : String
  message : String
  deriving DecidableEq

structure FriendRequestCreateResult where
  reqMsgId : String
  requestId : String
  fromUserId : String
  toUserId : String
  status : String
  createdAt : String
  success : Bool
  errorCode : Int32
  errorMessage : String
  deriving DecidableEq

structure FriendDecisionRequest where
  reqMsgId : String
  requestId : String
  operatorUserId : String
  operation : FriendDecisionOp
  deriving DecidableEq

structure FriendDecisionResult where
  reqMsgId : String
  requestId : String
  fromUserId : String
  toUserId : String
  status : String
  handledAt : String
  success : Bool
  errorCode : Int32
  errorMessage : String
  deriving DecidableEq

structure FriendListQuery where
  reqMsgId : String
  userId : String
  deriving DecidableEq

structure FriendListResult where
  reqMsgId : String
  userId : String
  friendUserIds : List String
  success : Bool := true
  errorMessage : String := ""
  deriving DecidableEq

structure FriendRequestRecord where
  requestId : String
  fromUserId : String
  toUserId : String
  status : String
  message : String
  createdAt : String
  handledAt : String
  deriving DecidableEq

structure FriendRequestListQuery where
  reqMsgId : String
  userId : String
  deriving DecidableEq

structure FriendRequestListResult where
  reqMsgId : String
  userId : String
  requests : List FriendRequestRecord
  success : Bool := true
  errorMessage : String := ""
  deriving DecidableEq

end ShirohaChat
