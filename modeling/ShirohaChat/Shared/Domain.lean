import ShirohaChat.Shared.QtText

/-!
# Messages, sessions and groups of the shared domain

The aggregates of the client.  A date is its ISO text, and a string that can be
the null `QString` when it is stored is optional.  What only the user interface
reads (a session's last message, a group's dates) is left out.
-/

set_option autoImplicit false

namespace ShirohaChat

/-! ## Messages -/

inductive MessageStatus where
  | sending
  | delivered
  | failed
  deriving DecidableEq, Repr

structure Message where
  msgId : String
  content : String
  senderId : String
  sessionId : String
  timestamp : String
  status : MessageStatus := .sending
  serverId : String := ""

namespace Message

/-- The flag is the returned `bool`; a delivered message stays as it is. -/
def markDelivered (message : Message) (serverId : String) : Message × Bool :=
  match message.status with
  | .delivered => (message, true)
  | .failed => (message, false)
  | .sending =>
      ({ message with
          status := .delivered
          serverId := if serverId = "" then message.serverId else serverId }, true)

end Message

/-! ## Sessions -/

inductive SessionType where
  | privateChat
  | groupChat
  deriving DecidableEq, Repr

structure Session where
  sessionId : String
  sessionType : SessionType
  ownerUserId : String
  sessionName : String
  peerUserId : String
  unreadCount : Int
  deriving DecidableEq

namespace Session

/-- The constructor that rebuilds a session from its stored state. -/
def restore (sessionId : String) (sessionType : SessionType)
    (ownerUserId sessionName peerUserId : String) (unreadCount : Int) : Session :=
  ⟨sessionId, sessionType, ownerUserId, sessionName, peerUserId,
    if unreadCount < 0 then 0 else unreadCount⟩

/-- Messages of the owner do not count as unread. -/
def processIncomingMessage (session : Session) (senderId : String) : Session :=
  if senderId ≠ session.ownerUserId then
    { session with unreadCount := session.unreadCount + 1 }
  else session

def markRead (session : Session) : Session := { session with unreadCount := 0 }

def updateMetadata (session : Session) (sessionName peerUserId : String) : Session :=
  { session with
    sessionName := sessionName
    peerUserId := if peerUserId = "" then session.peerUserId else peerUserId }

@[simp] theorem processIncomingMessage_sessionId (session : Session) (senderId : String) :
    (session.processIncomingMessage senderId).sessionId = session.sessionId := by
  unfold processIncomingMessage
  split <;> rfl

theorem processIncomingMessage_unreadCount_le (session : Session) (senderId : String) :
    (session.processIncomingMessage senderId).unreadCount ≤ session.unreadCount + 1 := by
  unfold processIncomingMessage
  split
  · exact Int.le_refl _
  · exact Int.le_add_one (Int.le_refl _)

@[simp] theorem markRead_sessionId (session : Session) :
    session.markRead.sessionId = session.sessionId := rfl

@[simp] theorem markRead_unreadCount (session : Session) : session.markRead.unreadCount = 0 := rfl

@[simp] theorem updateMetadata_sessionId (session : Session) (name peer : String) :
    (session.updateMetadata name peer).sessionId = session.sessionId := rfl

@[simp] theorem updateMetadata_unreadCount (session : Session) (name peer : String) :
    (session.updateMetadata name peer).unreadCount = session.unreadCount := rfl

end Session

/-! ## Groups -/

inductive GroupMemberRole where
  | creator
  | admin
  | member
  deriving DecidableEq, Repr

structure GroupMember where
  userId : String
  role : GroupMemberRole
  deriving DecidableEq

inductive GroupOperationResult where
  | success
  | memberLimitReached
  | alreadyMember
  | notMember
  | cannotRemoveCreator
  | creatorCannotLeave
  | groupDissolved
  deriving DecidableEq, Repr

structure Group where
  groupId : String
  groupName : Option String
  creatorUserId : Option String
  members : List GroupMember := []
  isDissolved : Bool := false
  deriving DecidableEq

/-- `Config::Group::MAX_MEMBERS`. -/
def maxGroupMembers : Nat := 50

namespace Group

/-- `creatorUserId()` as it compares: the null string equals the empty one. -/
def creator (group : Group) : String := group.creatorUserId.getD ""

def isMember (group : Group) (userId : String) : Bool :=
  group.members.any fun member => member.userId = userId

def addMember (group : Group) (memberId : String) (role : GroupMemberRole := .member) :
    Group × GroupOperationResult :=
  if group.isMember memberId then (group, .alreadyMember)
  else if ¬ group.members.length < maxGroupMembers then (group, .memberLimitReached)
  else ({ group with members := group.members ++ [⟨memberId, role⟩] }, .success)

/-- The actor is not looked at. -/
def removeMember (group : Group) (_actorId targetId : String) : Group × GroupOperationResult :=
  if targetId = group.creator then (group, .cannotRemoveCreator)
  else if ¬ group.isMember targetId then (group, .notMember)
  else
    ({ group with members := group.members.eraseP fun member => member.userId = targetId },
      .success)

/-- The creator leaves last, and dissolves the group. -/
def leave (group : Group) (actorId : String) : Group × GroupOperationResult :=
  if ¬ group.isMember actorId then (group, .notMember)
  else if actorId = group.creator then
    if group.members.length > 1 then (group, .creatorCannotLeave)
    else ({ group with members := [], isDissolved := true }, .groupDissolved)
  else
    ({ group with members := group.members.eraseP fun member => member.userId = actorId },
      .success)

theorem isMember_iff (group : Group) (userId : String) :
    group.isMember userId = true ↔ userId ∈ group.members.map GroupMember.userId := by
  rw [isMember, List.any_eq_true, List.mem_map]
  simp only [decide_eq_true_eq]

end Group

/-! ## Friend requests -/

inductive FriendRequestStatus where
  | pending
  | accepted
  | rejected
  | cancelled
  deriving DecidableEq, Repr

/-- `handledAt` is empty while the date is not valid. -/
structure FriendRequest where
  requestId : String
  fromUserId : String
  toUserId : String
  message : String
  status : FriendRequestStatus := .pending
  createdAt : String
  handledAt : String := ""
  deriving DecidableEq

namespace FriendRequest

/-- The flag is the returned `bool`; only the receiver decides, and only once. -/
def accept (request : FriendRequest) (actorId now : String) : FriendRequest × Bool :=
  if request.status ≠ .pending ∨ actorId ≠ request.toUserId then (request, false)
  else ({ request with status := .accepted, handledAt := now }, true)

def reject (request : FriendRequest) (actorId now : String) : FriendRequest × Bool :=
  if request.status ≠ .pending ∨ actorId ≠ request.toUserId then (request, false)
  else ({ request with status := .rejected, handledAt := now }, true)

@[simp] theorem accept_requestId (request : FriendRequest) (actorId now : String) :
    (request.accept actorId now).1.requestId = request.requestId := by
  unfold accept
  split <;> rfl

@[simp] theorem reject_requestId (request : FriendRequest) (actorId now : String) :
    (request.reject actorId now).1.requestId = request.requestId := by
  unfold reject
  split <;> rfl

/-- A decided request refuses both decisions. -/
theorem decided_stays {request : FriendRequest} (decided : request.status ≠ .pending)
    (actorId now : String) :
    (request.accept actorId now).1 = request ∧ (request.reject actorId now).1 = request := by
  unfold accept reject
  rw [if_pos (Or.inl decided), if_pos (Or.inl decided)]
  exact ⟨rfl, rfl⟩

end FriendRequest

end ShirohaChat
