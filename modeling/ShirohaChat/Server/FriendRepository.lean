import ShirohaChat.Shared.QtText
import ShirohaChat.Server.Contracts
import ShirohaChat.Server.Users

/-!
# Friend requests and friendships in the database

Every call carries which of its statements succeed, and the id and time it
draws.  A pair is normalised by the order of the program and checked by the
order of the database; `INSERT OR IGNORE` skips a row that fails the check.
-/

set_option autoImplicit false

namespace ShirohaChat

/-- The values the `CHECK` on `status` admits. -/
inductive FriendStatus where
  | pending
  | accepted
  | rejected
  deriving DecidableEq, Repr

def FriendStatus.toString : FriendStatus → String
  | .pending => "pending"
  | .accepted => "accepted"
  | .rejected => "rejected"

structure FriendRequestRow where
  requestId : String
  fromUserId : String
  toUserId : String
  status : FriendStatus
  message : String
  createdAt : String
  handledAt : Option String
  deriving DecidableEq

/-- A row that satisfies `CHECK (user_low < user_high)`. -/
structure FriendshipRow where
  userLow : String
  userHigh : String
  createdAt : String
  checked : sqlLess userLow userHigh = true

abbrev FriendRequestTable := RowTable FriendRequestRow String FriendRequestRow.requestId

abbrev FriendshipTable :=
  RowTable FriendshipRow (String × String) fun row => (row.userLow, row.userHigh)

structure FriendStore where
  users : UserTable
  friendRequests : FriendRequestTable
  friendships : FriendshipTable

def FriendStore.empty : FriendStore := ⟨RowTable.empty, RowTable.empty, RowTable.empty⟩

/-- The pair as the program normalises it. -/
def pairLow (left right : String) : String := if qLess left right then left else right
def pairHigh (left right : String) : String := if qLess left right then right else left

/-- `(from = ? AND to = ?) OR (from = ? AND to = ?)`, in both directions. -/
def FriendRequestRow.between (row : FriendRequestRow) (left right : String) : Prop :=
  (row.fromUserId = left ∧ row.toUserId = right) ∨
    (row.fromUserId = right ∧ row.toUserId = left)

instance (row : FriendRequestRow) (left right : String) : Decidable (row.between left right) :=
  inferInstanceAs (Decidable (_ ∨ _))

structure FriendCreateRun where
  isOpen : Bool := true
  userChecked : Bool := true
  friendshipChecked : Bool := true
  pendingChecked : Bool := true
  inserted : Bool := true
  requestId : String
  createdAt : String

def createFriendRequest (store : FriendStore) (run : FriendCreateRun)
    (request : FriendRequestCreateRequest) : FriendStore × FriendRequestCreateResult :=
  let refuse (status : String) (errorCode : Int32) (errorMessage : String) :
      FriendStore × FriendRequestCreateResult :=
    (store, ⟨request.reqMsgId, "", request.fromUserId, request.toUserId, status, "", false,
      errorCode, errorMessage⟩)
  if ¬ run.isOpen then refuse "" 500 "Database not open"
  else if request.fromUserId = "" ∨ request.toUserId = "" then
    refuse "" 400 "Missing fromUserId or toUserId"
  else if request.fromUserId = request.toUserId then refuse "" 400 "Cannot add yourself"
  else if ¬ run.userChecked ∨ store.users.countOf request.toUserId = 0 then
    refuse "" 404 "Target user not found"
  else
    let userLow := pairLow request.fromUserId request.toUserId
    let userHigh := pairHigh request.fromUserId request.toUserId
    if ¬ run.friendshipChecked then refuse "" 500 "Failed to check existing friendship"
    else if store.friendships.count
        (fun row => row.userLow = userLow ∧ row.userHigh = userHigh) > 0 then
      refuse "" 409 "Already friends"
    else if ¬ run.pendingChecked then refuse "" 500 "Failed to check pending request"
    else if store.friendRequests.count
        (fun row => row.between request.fromUserId request.toUserId ∧ row.status = .pending) >
          0 then
      refuse "pending" 409 "Friend request already pending"
    else
      let row : FriendRequestRow := ⟨run.requestId, request.fromUserId, request.toUserId,
        .pending, request.message, run.createdAt, none⟩
      match if run.inserted then store.friendRequests.insert? row else none with
      | none => refuse "" 500 "Failed to create friend request"
      | some friendRequests =>
          ({ store with friendRequests := friendRequests },
            ⟨request.reqMsgId, run.requestId, request.fromUserId, request.toUserId, "pending",
              run.createdAt, true, 0, ""⟩)

/-- `UPDATE friend_requests SET status = ?, handled_at = ? WHERE request_id = ?
AND status = 'pending'`. -/
def FriendRequestTable.handle (friendRequests : FriendRequestTable) (requestId : String)
    (status : FriendStatus) (handledAt : String) : FriendRequestTable :=
  friendRequests.updateWhere (fun row => row.requestId = requestId ∧ row.status = .pending)
    (fun row => { row with status := status, handledAt := some handledAt }) fun _ => rfl

/-- `numRowsAffected` of that update. -/
def FriendRequestTable.affected (friendRequests : FriendRequestTable) (requestId : String) :
    Nat :=
  friendRequests.count fun row => row.requestId = requestId ∧ row.status = .pending

/-- `INSERT OR IGNORE INTO friendships`. -/
def FriendshipTable.befriend (friendships : FriendshipTable) (userLow userHigh : String)
    (createdAt : String) : FriendshipTable :=
  if checked : sqlLess userLow userHigh = true then
    friendships.insertOrIgnore ⟨userLow, userHigh, createdAt, checked⟩
  else friendships

structure FriendDecideRun where
  isOpen : Bool := true
  selected : Bool := true
  begun : Bool := true
  updated : Bool := true
  inserted : Bool := true
  committed : Bool := true
  handledAt : String

/-- A rollback leaves the store as it was before the transaction. -/
def decideFriendRequest (store : FriendStore) (run : FriendDecideRun)
    (request : FriendDecisionRequest) : FriendStore × FriendDecisionResult :=
  let refuse (fromUserId toUserId status : String) (errorCode : Int32) (errorMessage : String) :
      FriendStore × FriendDecisionResult :=
    (store, ⟨request.reqMsgId, request.requestId, fromUserId, toUserId, status, "", false,
      errorCode, errorMessage⟩)
  if ¬ run.isOpen then refuse "" "" "" 500 "Database not open"
  else if request.requestId = "" ∨ request.operatorUserId = "" then
    refuse "" "" "" 400 "Missing requestId or operatorUserId"
  else
    match if run.selected then store.friendRequests.find? request.requestId else none with
    | none => refuse "" "" "" 404 "Friend request not found"
    | some row =>
        if request.operatorUserId ≠ row.toUserId then
          refuse row.fromUserId row.toUserId row.status.toString 403
            "Only recipient can handle friend request"
        else if row.status ≠ .pending then
          refuse row.fromUserId row.toUserId row.status.toString 409
            "Friend request already handled"
        else
          match request.operation with
          | .reject =>
              if ¬ run.updated ∨ store.friendRequests.affected request.requestId = 0 then
                refuse row.fromUserId row.toUserId "" 409 "Friend request already handled"
              else
                ({ store with friendRequests :=
                    store.friendRequests.handle request.requestId .rejected run.handledAt },
                  ⟨request.reqMsgId, request.requestId, row.fromUserId, row.toUserId,
                    "rejected", run.handledAt, true, 0, ""⟩)
          | .accept =>
              if ¬ run.begun then
                refuse row.fromUserId row.toUserId "" 500 "Transaction begin failed"
              else if ¬ run.updated ∨ store.friendRequests.affected request.requestId = 0 then
                refuse row.fromUserId row.toUserId "" 409 "Friend request already handled"
              else if ¬ run.inserted then
                refuse row.fromUserId row.toUserId "" 500 "Failed to create friendship"
              else if ¬ run.committed then
                refuse row.fromUserId row.toUserId "" 500 "Transaction commit failed"
              else
                ({ store with
                    friendRequests :=
                      store.friendRequests.handle request.requestId .accepted run.handledAt
                    friendships := store.friendships.befriend
                      (pairLow row.fromUserId row.toUserId)
                      (pairHigh row.fromUserId row.toUserId) run.handledAt },
                  ⟨request.reqMsgId, request.requestId, row.fromUserId, row.toUserId,
                    "accepted", run.handledAt, true, 0, ""⟩)

/-! ## Lists -/

/-- `CASE WHEN user_low = ? THEN user_high ELSE user_low END`. -/
def FriendshipRow.friendOf (row : FriendshipRow) (userId : String) : String :=
  if row.userLow = userId then row.userHigh else row.userLow

def loadFriendList (store : FriendStore) (isOpen executed : Bool) (query : FriendListQuery) :
    FriendListResult :=
  if ¬ isOpen then ⟨query.reqMsgId, query.userId, [], false, "Database not open"⟩
  else if ¬ executed then ⟨query.reqMsgId, query.userId, [], false, "Database query failed"⟩
  else
    let rows := store.friendships.select fun row =>
      row.userLow = query.userId ∨ row.userHigh = query.userId
    ⟨query.reqMsgId, query.userId,
      (newestFirst FriendshipRow.createdAt rows).map fun row => row.friendOf query.userId,
      true, ""⟩

def FriendRequestRow.record (row : FriendRequestRow) : FriendRequestRecord :=
  ⟨row.requestId, row.fromUserId, row.toUserId, row.status.toString, row.message,
    row.createdAt, row.handledAt.getD ""⟩

def loadFriendRequestList (store : FriendStore) (isOpen executed : Bool)
    (query : FriendRequestListQuery) : FriendRequestListResult :=
  if ¬ isOpen then ⟨query.reqMsgId, query.userId, [], false, "Database not open"⟩
  else if ¬ executed then ⟨query.reqMsgId, query.userId, [], false, "Database query failed"⟩
  else
    let rows := store.friendRequests.select fun row =>
      row.fromUserId = query.userId ∨ row.toUserId = query.userId
    ⟨query.reqMsgId, query.userId,
      (newestFirst FriendRequestRow.createdAt rows).map FriendRequestRow.record, true, ""⟩

end ShirohaChat
