import ShirohaChat.Lib.FiniteMap
import ShirohaChat.Shared.Domain
import ShirohaChat.Server.Contracts
import ShirohaChat.Server.Users

/-!
# Groups and their members in the database

Every call carries which of its statements succeed, and the id and time it
draws.  A member row needs its group (the foreign key), and deleting a group
deletes its members (the cascade).
-/

set_option autoImplicit false

namespace ShirohaChat

structure GroupRow where
  groupId : String
  name : String
  creatorUserId : String
  createdAt : String
  updatedAt : String
  deriving DecidableEq

inductive MemberRole where
  | creator
  | member
  deriving DecidableEq, Repr

structure MemberRow where
  groupId : String
  userId : String
  role : MemberRole
  joinedAt : String
  deriving DecidableEq

abbrev GroupTable := RowTable GroupRow String GroupRow.groupId

abbrev MemberTable :=
  RowTable MemberRow (String × String) fun row => (row.groupId, row.userId)

structure GroupStore where
  users : UserTable
  groups : GroupTable
  members : MemberTable

namespace GroupStore

def empty : GroupStore := ⟨RowTable.empty, RowTable.empty, RowTable.empty⟩

/-- `SELECT COUNT(*) FROM group_members WHERE group_id = ?`. -/
def memberCount (store : GroupStore) (groupId : String) : Nat :=
  store.members.count fun row => row.groupId = groupId

/-- `SELECT COUNT(*) FROM group_members WHERE group_id = ? AND user_id = ?`. -/
def membership (store : GroupStore) (groupId userId : String) : Nat :=
  store.members.count fun row => row.groupId = groupId ∧ row.userId = userId

/-- `INSERT INTO group_members`: fails on the primary key or the foreign key. -/
def insertMember (store : GroupStore) (row : MemberRow) : Option GroupStore :=
  match store.groups.find? row.groupId with
  | none => none
  | some _ => (store.members.insert? row).map fun members => { store with members := members }

/-- `DELETE FROM group_members WHERE group_id = ? AND user_id = ?`. -/
def deleteMember (store : GroupStore) (groupId userId : String) : GroupStore :=
  { store with members :=
      store.members.deleteWhere fun row => row.groupId = groupId ∧ row.userId = userId }

/-- `DELETE FROM groups WHERE group_id = ?`, with the cascade. -/
def deleteGroup (store : GroupStore) (groupId : String) : GroupStore :=
  { store with
    groups := store.groups.deleteWhere fun row => row.groupId = groupId
    members := store.members.deleteWhere fun row => row.groupId = groupId }

end GroupStore

/-! ## Creating a group -/

/-- The loop that trims the invited ids and drops empty and repeated ones. -/
def cleanedMembers (seen : List String) : List String → List String
  | [] => []
  | memberId :: rest =>
      if trimmed memberId ≠ "" ∧ trimmed memberId ∉ seen then
        trimmed memberId :: cleanedMembers (trimmed memberId :: seen) rest
      else cleanedMembers seen rest

structure GroupCreateRun where
  isOpen : Bool := true
  userChecked : String → Bool := fun _ => true
  begun : Bool := true
  groupInserted : Bool := true
  creatorInserted : Bool := true
  memberInserted : String → Bool := fun _ => true
  committed : Bool := true
  groupId : String
  now : String

/-- The insertion loop; an error names the member whose insert failed. -/
def insertMembers (run : GroupCreateRun) :
    List String → GroupStore → Except String GroupStore
  | [], store => .ok store
  | memberId :: rest, store =>
      match if run.memberInserted memberId then
          store.insertMember ⟨run.groupId, memberId, .member, run.now⟩ else none with
      | none => .error memberId
      | some store => insertMembers run rest store

/-- A rollback leaves the store as it was before the transaction. -/
def createGroup (store : GroupStore) (run : GroupCreateRun) (request : GroupCreateRequest) :
    GroupStore × GroupCreateResult :=
  let refuse (errorCode : Int32) (errorMessage : String) : GroupStore × GroupCreateResult :=
    (store, ⟨request.reqMsgId, "", [], false, errorCode, errorMessage⟩)
  if ¬ run.isOpen then refuse 500 "Database not open"
  else
    let memberUserIds := cleanedMembers [request.creatorUserId] request.memberUserIds
    let totalMembers := 1 + memberUserIds.length
    if totalMembers > maxGroupMembers then refuse 400 "Member count exceeds limit"
    else
      match memberUserIds.find? fun memberId =>
          ¬ run.userChecked memberId ∨ store.users.countOf memberId = 0 with
      | some memberId => refuse 404 ("Invited user not found: " ++ memberId)
      | none =>
          if ¬ run.begun then refuse 500 "Transaction begin failed"
          else
            match if run.groupInserted then
                store.groups.insert? ⟨run.groupId, request.groupName, request.creatorUserId,
                  run.now, run.now⟩ else none with
            | none => refuse 500 "Failed to insert group"
            | some groups =>
                match if run.creatorInserted then
                    GroupStore.insertMember { store with groups := groups }
                      ⟨run.groupId, request.creatorUserId, .creator, run.now⟩ else none with
                | none => refuse 500 "Failed to insert creator member"
                | some withCreator =>
                    match insertMembers run memberUserIds withCreator with
                    | .error memberId => refuse 500 ("Failed to insert member: " ++ memberId)
                    | .ok inserted =>
                        if ¬ run.committed then refuse 500 "Transaction commit failed"
                        else
                          (inserted, ⟨request.reqMsgId, run.groupId,
                            request.creatorUserId :: memberUserIds, true, 0, ""⟩)

/-! ## Members -/

structure MemberOpRun where
  isOpen : Bool := true
  groupSelected : Bool := true
  userChecked : Bool := true
  counted : Bool := true
  membershipChecked : Bool := true
  executed : Bool := true
  now : String

def memberOpFailed (request : GroupMemberOpRequest) (errorCode : Int32)
    (errorMessage : String) : GroupMemberOpResult :=
  ⟨request.reqMsgId, request.groupId, request.targetUserId, false, errorCode, errorMessage⟩

def memberOpDone (request : GroupMemberOpRequest) : GroupMemberOpResult :=
  ⟨request.reqMsgId, request.groupId, request.targetUserId, true, 0, ""⟩

def addMember (store : GroupStore) (run : MemberOpRun) (request : GroupMemberOpRequest) :
    GroupStore × GroupMemberOpResult :=
  let refuse (errorCode : Int32) (errorMessage : String) : GroupStore × GroupMemberOpResult :=
    (store, memberOpFailed request errorCode errorMessage)
  if ¬ run.isOpen then refuse 500 "Database not open"
  else
    match if run.groupSelected then store.groups.find? request.groupId else none with
    | none => refuse 404 "Group not found"
    | some group =>
        if request.operatorUserId ≠ group.creatorUserId then
          refuse 403 "Only creator can add members"
        else if ¬ run.userChecked ∨ store.users.countOf request.targetUserId = 0 then
          refuse 404 "Target user not found"
        else if ¬ run.counted then refuse 500 "Failed to count members"
        else if store.memberCount request.groupId ≥ maxGroupMembers then
          refuse 400 "Group member limit reached"
        else if ¬ run.membershipChecked then refuse 500 "Failed to check membership"
        else if store.membership request.groupId request.targetUserId > 0 then
          refuse 409 "User already in group"
        else
          match if run.executed then
              store.insertMember ⟨request.groupId, request.targetUserId, .member, run.now⟩
            else none with
          | none => refuse 500 "Failed to add member"
          | some after => (after, memberOpDone request)

def removeMember (store : GroupStore) (run : MemberOpRun) (request : GroupMemberOpRequest) :
    GroupStore × GroupMemberOpResult :=
  let refuse (errorCode : Int32) (errorMessage : String) : GroupStore × GroupMemberOpResult :=
    (store, memberOpFailed request errorCode errorMessage)
  if ¬ run.isOpen then refuse 500 "Database not open"
  else
    match if run.groupSelected then store.groups.find? request.groupId else none with
    | none => refuse 404 "Group not found"
    | some group =>
        if request.operatorUserId ≠ group.creatorUserId then
          refuse 403 "Only creator can remove members"
        else if request.targetUserId = group.creatorUserId then
          refuse 403 "Cannot remove creator from group"
        else if ¬ run.membershipChecked then refuse 500 "Failed to check membership"
        else if store.membership request.groupId request.targetUserId = 0 then
          refuse 404 "User not in group"
        else if ¬ run.executed then refuse 500 "Failed to remove member"
        else (store.deleteMember request.groupId request.targetUserId, memberOpDone request)

def leaveGroup (store : GroupStore) (run : MemberOpRun) (request : GroupMemberOpRequest) :
    GroupStore × GroupMemberOpResult :=
  let refuse (errorCode : Int32) (errorMessage : String) : GroupStore × GroupMemberOpResult :=
    (store, memberOpFailed request errorCode errorMessage)
  if ¬ run.isOpen then refuse 500 "Database not open"
  else
    match if run.groupSelected then store.groups.find? request.groupId else none with
    | none => refuse 404 "Group not found"
    | some group =>
        if ¬ run.membershipChecked then refuse 500 "Failed to check membership"
        else if store.membership request.groupId request.operatorUserId = 0 then
          refuse 404 "User not in group"
        else if request.operatorUserId = group.creatorUserId then
          if ¬ run.counted then refuse 500 "Failed to count members"
          else if store.memberCount request.groupId = 1 then
            if ¬ run.executed then refuse 500 "Failed to dissolve group"
            else (store.deleteGroup request.groupId, memberOpDone request)
          else refuse 403 "Creator cannot leave group with remaining members"
        else if ¬ run.executed then refuse 500 "Failed to leave group"
        else (store.deleteMember request.groupId request.operatorUserId, memberOpDone request)

/-! ## Lists -/

structure GroupMembersRun where
  isOpen : Bool := true
  groupSelected : Bool := true
  executed : Bool := true

def loadGroupMembers (store : GroupStore) (run : GroupMembersRun) (query : GroupMembersQuery) :
    GroupMembersResult :=
  let refuse (groupName : String) (errorCode : Int32) (errorMessage : String) :
      GroupMembersResult :=
    ⟨query.groupId, groupName, [], query.reqMsgId, false, errorCode, errorMessage⟩
  if ¬ run.isOpen then refuse "" 500 "Database not open"
  else if ¬ run.groupSelected then refuse "" 500 "Failed to load group info"
  else
    match store.groups.find? query.groupId with
    | none => refuse "" 404 "Group not found"
    | some group =>
        if ¬ run.executed then refuse group.name 500 "Database query failed"
        else
          let rows := store.members.select fun row => row.groupId = query.groupId
          ⟨query.groupId, group.name, (oldestFirst MemberRow.joinedAt rows).map MemberRow.userId,
            query.reqMsgId, true, 0, ""⟩

structure GroupListRun where
  isOpen : Bool := true
  executed : Bool := true
  membersSelected : Bool := true

/-- The join of `groups` with the member rows of the user. -/
def GroupStore.groupsOf (store : GroupStore) (userId : String) : List GroupRow :=
  store.groups.rows.flatMap fun group =>
    (store.members.select fun row => row.groupId = group.groupId ∧ row.userId = userId).map
      fun _ => group

def loadGroupList (store : GroupStore) (run : GroupListRun) (query : GroupListQuery) :
    GroupListResult :=
  let refuse (errorMessage : String) : GroupListResult :=
    ⟨query.reqMsgId, query.userId, [], false, errorMessage⟩
  if ¬ run.isOpen then refuse "Database not open"
  else if ¬ run.executed then refuse "Database query failed"
  else
    -- the second column decides where the first one ties
    let groups := newestFirst GroupRow.updatedAt
      (newestFirst GroupRow.createdAt (store.groupsOf query.userId))
    let groupIds := groups.map GroupRow.groupId
    if groupIds ≠ [] ∧ ¬ run.membersSelected then refuse "Failed to load group members"
    else
      let rows := oldestFirst MemberRow.joinedAt
        (store.members.select fun row => row.groupId ∈ groupIds)
      ⟨query.reqMsgId, query.userId,
        groups.map fun group => ⟨group.groupId, group.name, group.creatorUserId,
          group.createdAt, group.updatedAt,
          (rows.filter fun row => row.groupId = group.groupId).map MemberRow.userId⟩,
        true, ""⟩

end ShirohaChat
