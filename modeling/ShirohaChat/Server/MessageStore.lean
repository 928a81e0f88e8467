import ShirohaChat.Server.FriendRepository
import ShirohaChat.Server.GroupRepository

/-!
# The message store

The database thread executes the calls of the two management services in order
and answers each with one result.  A result carries the message id of its
request.
-/

set_option autoImplicit false

namespace ShirohaChat

inductive StoreCall where
  | createGroup (request : GroupCreateRequest)
  | addMember (request : GroupMemberOpRequest)
  | removeMember (request : GroupMemberOpRequest)
  | leaveGroup (request : GroupMemberOpRequest)
  | loadGroupMembers (query : GroupMembersQuery)
  | loadGroupList (query : GroupListQuery)
  | createFriendRequest (request : FriendRequestCreateRequest)
  | decideFriendRequest (request : FriendDecisionRequest)
  | loadFriendList (query : FriendListQuery)
  | loadFriendRequestList (query : FriendRequestListQuery)

inductive StoreReply where
  | groupCreated (result : GroupCreateResult)
  | memberOpCompleted (result : GroupMemberOpResult)
  | groupMembersLoaded (result : GroupMembersResult)
  | groupListLoaded (result : GroupListResult)
  | friendRequestCreated (result : FriendRequestCreateResult)
  | friendDecisionCompleted (result : FriendDecisionResult)
  | friendListLoaded (result : FriendListResult)
  | friendRequestListLoaded (result : FriendRequestListResult)

structure Database where
  users : UserTable
  groups : GroupTable
  members : MemberTable
  friendRequests : FriendRequestTable
  friendships : FriendshipTable

namespace Database

def empty : Database :=
  ⟨RowTable.empty, RowTable.empty, RowTable.empty, RowTable.empty, RowTable.empty⟩

def groupStore (database : Database) : GroupStore :=
  ⟨database.users, database.groups, database.members⟩

def friendStore (database : Database) : FriendStore :=
  ⟨database.users, database.friendRequests, database.friendships⟩

def withGroupStore (database : Database) (store : GroupStore) : Database :=
  { database with users := store.users, groups := store.groups, members := store.members }

def withFriendStore (database : Database) (store : FriendStore) : Database :=
  { database with
    users := store.users
    friendRequests := store.friendRequests
    friendships := store.friendships }

end Database

structure StoreRun where
  createGroup : GroupCreateRun
  memberOp : MemberOpRun
  groupMembers : GroupMembersRun := {}
  groupList : GroupListRun := {}
  createFriendRequest : FriendCreateRun
  decideFriendRequest : FriendDecideRun
  friendListOpen : Bool := true
  friendListExecuted : Bool := true

/-- Every step succeeds; `id` and `now` are what the call draws. -/
def StoreRun.ok (id now : String) : StoreRun where
  createGroup := { groupId := id, now := now }
  memberOp := { now := now }
  createFriendRequest := { requestId := id, createdAt := now }
  decideFriendRequest := { handledAt := now }

def executeStoreCall (database : Database) (run : StoreRun) : StoreCall → Database × StoreReply
  | .createGroup request =>
      let (store, result) := createGroup database.groupStore run.createGroup request
      (database.withGroupStore store, .groupCreated result)
  | .addMember request =>
      let (store, result) := addMember database.groupStore run.memberOp request
      (database.withGroupStore store, .memberOpCompleted result)
  | .removeMember request =>
      let (store, result) := removeMember database.groupStore run.memberOp request
      (database.withGroupStore store, .memberOpCompleted result)
  | .leaveGroup request =>
      let (store, result) := leaveGroup database.groupStore run.memberOp request
      (database.withGroupStore store, .memberOpCompleted result)
  | .loadGroupMembers query =>
      (database, .groupMembersLoaded
        (loadGroupMembers database.groupStore run.groupMembers query))
  | .loadGroupList query =>
      (database, .groupListLoaded (loadGroupList database.groupStore run.groupList query))
  | .createFriendRequest request =>
      let (store, result) :=
        createFriendRequest database.friendStore run.createFriendRequest request
      (database.withFriendStore store, .friendRequestCreated result)
  | .decideFriendRequest request =>
      let (store, result) :=
        decideFriendRequest database.friendStore run.decideFriendRequest request
      (database.withFriendStore store, .friendDecisionCompleted result)
  | .loadFriendList query =>
      (database, .friendListLoaded (loadFriendList database.friendStore run.friendListOpen
        run.friendListExecuted query))
  | .loadFriendRequestList query =>
      (database, .friendRequestListLoaded (loadFriendRequestList database.friendStore
        run.friendListOpen run.friendListExecuted query))

/-! ## Results carry the message id of their requests -/

section ReqMsgId
variable (groups : GroupStore) (friends : FriendStore)

theorem createGroup_reqMsgId (run : GroupCreateRun) (request : GroupCreateRequest) :
    (createGroup groups run request).2.reqMsgId = request.reqMsgId := by
  unfold createGroup
  simp only
  repeat' split
  all_goals rfl

theorem addMember_reqMsgId (run : MemberOpRun) (request : GroupMemberOpRequest) :
    (addMember groups run request).2.reqMsgId = request.reqMsgId := by
  unfold addMember
  simp only
  repeat' split
  all_goals rfl

theorem removeMember_reqMsgId (run : MemberOpRun) (request : GroupMemberOpRequest) :
    (removeMember groups run request).2.reqMsgId = request.reqMsgId := by
  unfold removeMember
  simp only
  repeat' split
  all_goals rfl

theorem leaveGroup_reqMsgId (run : MemberOpRun) (request : GroupMemberOpRequest) :
    (leaveGroup groups run request).2.reqMsgId = request.reqMsgId := by
  unfold leaveGroup
  simp only
  repeat' split
  all_goals rfl

theorem loadGroupList_reqMsgId (run : GroupListRun) (query : GroupListQuery) :
    (loadGroupList groups run query).reqMsgId = query.reqMsgId := by
  unfold loadGroupList
  simp only
  repeat' split
  all_goals rfl

theorem createFriendRequest_reqMsgId (run : FriendCreateRun)
    (request : FriendRequestCreateRequest) :
    (createFriendRequest friends run request).2.reqMsgId = request.reqMsgId := by
  unfold createFriendRequest
  simp only
  repeat' split
  all_goals rfl

theorem decideFriendRequest_reqMsgId (run : FriendDecideRun) (request : FriendDecisionRequest) :
    (decideFriendRequest friends run request).2.reqMsgId = request.reqMsgId := by
  unfold decideFriendRequest
  simp only
  repeat' split
  all_goals rfl

theorem loadFriendList_reqMsgId (isOpen executed : Bool) (query : FriendListQuery) :
    (loadFriendList friends isOpen executed query).reqMsgId = query.reqMsgId := by
  unfold loadFriendList
  repeat' split
  all_goals rfl

theorem loadFriendRequestList_reqMsgId (isOpen executed : Bool)
    (query : FriendRequestListQuery) :
    (loadFriendRequestList friends isOpen executed query).reqMsgId = query.reqMsgId := by
  unfold loadFriendRequestList
  repeat' split
  all_goals rfl

end ReqMsgId

end ShirohaChat
