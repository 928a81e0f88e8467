import ShirohaChat.Lib.Transition
import ShirohaChat.Server.ManagementHandlers
import ShirohaChat.Server.SessionRuns

/-!
# The server around the management services

Packets are dispatched on the main thread, the database thread executes the
calls in order, and its results come back in order.  Every request a handler
passes on is numbered, and its number travels with the call, the result and
whatever is sent because of it; the program reads none of these numbers.
-/

set_option autoImplicit false

namespace ShirohaChat

open Transition

structure IssuedRequest where
  ticket : Nat
  session : String
  cmd : Command
  msgId : String
  deriving DecidableEq

/-- `delivered` says whether the packet reached the web socket. -/
structure Acknowledgement where
  request : IssuedRequest
  session : String
  packet : Packet
  delivered : Bool

/-- A detached session object lives on until its deferred deletion. -/
structure ManagementState where
  manager : SessionManager
  detached : FiniteMap String ClientSession
  group : GroupManagementService
  friend : FriendManagementService
  database : Database
  calls : List (IssuedRequest × StoreCall)
  replies : List (IssuedRequest × StoreReply)
  attached : List String
  issued : List IssuedRequest
  acks : List Acknowledgement
  errors : List (String × Packet)
  notified : List (String × Packet)

/-- The connection is attached and its socket valid. -/
def SessionManager.connected (manager : SessionManager) (connectionId : String) : Bool :=
  match manager.findByConnectionId connectionId with
  | none => false
  | some session => session.socketValid

/-- `connected` says whether `sendPacket` writes. -/
theorem SessionManager.sendPacket_connected {Text : Type} [JsonDocument Text]
    {manager : SessionManager} {connectionId : String} {session : ClientSession}
    (found : manager.findByConnectionId connectionId = some session) (packet : Packet) :
    (session.sendPacket packet : List (SocketWrite Text)) =
      if manager.connected connectionId then [⟨session.connectionId, packet.encode⟩] else [] := by
  rw [connected, found, ClientSession.sendPacket]

namespace ManagementState

def empty : ManagementState :=
  ⟨SessionManager.empty, ∅, GroupManagementService.empty, FriendManagementService.empty,
    Database.empty, [], [], [], [], [], [], []⟩

/-- The user id of a session object that has not been deleted. -/
def sessionUserId (state : ManagementState) (connectionId : String) : Option String :=
  ((state.manager.findByConnectionId connectionId).or (state.detached.lookup connectionId)).map
    ClientSession.userId

/-! ## Packets -/

def issue (state : ManagementState) (session : ClientSession) (packet : Packet)
    (call : StoreCall) : ManagementState :=
  let request : IssuedRequest :=
    ⟨state.issued.length, session.connectionId, packet.cmd, packet.msgId⟩
  { state with
    calls := state.calls ++ [(request, call)]
    issued := state.issued ++ [request] }

/-- `sendError`, at packet level. -/
def refuse (state : ManagementState) (session : ClientSession) (packet : Packet)
    (refusal : Refusal) : ManagementState :=
  let sent := if session.socketValid then
      [(session.connectionId,
        Packet.makeAck .unknown packet.msgId refusal.code refusal.message [])]
    else []
  { state with errors := state.errors ++ sent }

/-- The other commands belong to other handlers. -/
def dispatch (state : ManagementState) (session : ClientSession) (packet : Packet) :
    ManagementState :=
  match GroupHandler.handlePacket state.group session packet with
  | some (.error refusal) => state.refuse session packet refusal
  | some (.ok (group, call)) => { state with group := group }.issue session packet call
  | none =>
      match FriendHandler.handlePacket state.friend session packet with
      | some (.error refusal) => state.refuse session packet refusal
      | some (.ok (friend, call)) => { state with friend := friend }.issue session packet call
      | none => state

def onPacketReceived (state : ManagementState) (connectionId : String) (packet : Packet) :
    ManagementState :=
  match state.manager.findByConnectionId connectionId with
  | none => state
  | some session => state.dispatch session packet

/-! ## Calls and results -/

def executeNext (state : ManagementState) (run : StoreRun) : ManagementState :=
  match state.calls with
  | [] => state
  | (request, call) :: rest =>
      let (database, reply) := executeStoreCall state.database run call
      { state with
        database := database
        calls := rest
        replies := state.replies ++ [(request, reply)] }

/-- `if (session) session->sendPacket(ack)`. -/
def acknowledge (state : ManagementState) (request : IssuedRequest) (session : String)
    (packet : Packet) : ManagementState :=
  { state with acks :=
      state.acks ++ [⟨request, session, packet, state.manager.connected session⟩] }

def emitGroup (request : IssuedRequest) (state : ManagementState) :
    GroupSignal → ManagementState
  | .groupCreated session groupName result =>
      state.acknowledge request session (GroupHandler.onGroupCreated groupName result)
  | .memberOpCompleted session operation _ result =>
      state.acknowledge request session (GroupHandler.onMemberOpCompleted operation result)
  | .groupListLoaded session result =>
      state.acknowledge request session (GroupHandler.onGroupListLoaded result)
  | .requestLoadGroupMembersForNotify query =>
      { state with calls := state.calls ++ [(request, .loadGroupMembers query)] }
  | .enqueueIfOffline userId packet =>
      { state with notified := state.notified ++ [(userId, packet)] }

def emitFriend (request : IssuedRequest) (state : ManagementState) :
    FriendSignal → ManagementState
  | .createCompleted session _ result =>
      state.acknowledge request session (FriendHandler.onCreateCompleted result)
  | .decisionCompleted session pendingOp result =>
      state.acknowledge request session (FriendHandler.onDecisionCompleted pendingOp result)
  | .friendListCompleted session result =>
      state.acknowledge request session (FriendHandler.onFriendListCompleted result)
  | .friendRequestListCompleted session result =>
      state.acknowledge request session (FriendHandler.onFriendRequestListCompleted result)
  | .enqueueIfOffline userId packet =>
      { state with notified := state.notified ++ [(userId, packet)] }

def runGroup (state : ManagementState) (request : IssuedRequest)
    (outcome : GroupManagementService × List GroupSignal) : ManagementState :=
  outcome.2.foldl (emitGroup request) { state with group := outcome.1 }

def runFriend (state : ManagementState) (request : IssuedRequest)
    (outcome : FriendManagementService × List FriendSignal) : ManagementState :=
  outcome.2.foldl (emitFriend request) { state with friend := outcome.1 }

/-- A member list without the notification mark goes to the message service. -/
def onStoreReply (state : ManagementState) (stamp : NotifyStamp) (request : IssuedRequest) :
    StoreReply → ManagementState
  | .groupCreated result => state.runGroup request (state.group.onGroupCreated stamp result)
  | .memberOpCompleted result =>
      state.runGroup request
        (state.group.onMemberOpCompleted state.sessionUserId stamp result)
  | .groupMembersLoaded result =>
      if qStartsWith result.reqMsgId "grp_notify_" then
        state.runGroup request (state.group.onGroupMembersForNotify result)
      else state
  | .groupListLoaded result => state.runGroup request (state.group.onGroupListLoaded result)
  | .friendRequestCreated result =>
      state.runFriend request (state.friend.onFriendRequestCreated stamp result)
  | .friendDecisionCompleted result =>
      state.runFriend request (state.friend.onFriendDecisionCompleted stamp result)
  | .friendListLoaded result =>
      state.runFriend request (state.friend.onFriendListLoaded result)
  | .friendRequestListLoaded result =>
      state.runFriend request (state.friend.onFriendRequestListLoaded result)

def handleNext (state : ManagementState) (stamp : NotifyStamp) : ManagementState :=
  match state.replies with
  | [] => state
  | (request, reply) :: rest => { state with replies := rest }.onStoreReply stamp request reply

/-! ## Sessions -/

def onSession (state : ManagementState) (event : SessionEvent) : ManagementState :=
  { state with
    manager := event.next state.manager
    attached :=
      match event with
      | .newConnection connectionId _ => state.attached ++ [connectionId]
      | _ => state.attached
    detached :=
      match event with
      | .disconnected connectionId =>
          match state.manager.findByConnectionId connectionId with
          | some session => state.detached.insert connectionId session
          | none => state.detached
      | _ => state.detached }

end ManagementState

inductive ManagementEvent where
  | session (event : SessionEvent)
  | sessionDeleted (connectionId : String)
  | ensureUser (run : EnsureUserRun) (userId nickname : String)
  | packetReceived (connectionId : String) (packet : Packet)
  | executeNext (run : StoreRun)
  | handleNext (stamp : NotifyStamp)

namespace ManagementEvent

/-- Connection ids are generated and never come again. -/
def enabled (state : ManagementState) : ManagementEvent → Prop
  | .session event => event.enabled state.manager ∧
      ∀ connectionId now, event = .newConnection connectionId now →
        connectionId ∉ state.attached
  | _ => True

def next (state : ManagementState) : ManagementEvent → ManagementState
  | .session event => state.onSession event
  | .sessionDeleted connectionId =>
      { state with detached := state.detached.erase connectionId }
  | .ensureUser run userId nickname =>
      { state with database := { state.database with
          users := (ensureUserAndGetNickname state.database.users run userId nickname).1 } }
  | .packetReceived connectionId packet => state.onPacketReceived connectionId packet
  | .executeNext run => state.executeNext run
  | .handleNext stamp => state.handleNext stamp

end ManagementEvent

def managementSystem : System ManagementState ManagementEvent where
  initial := ManagementState.empty
  enabled := ManagementEvent.enabled
  next := ManagementEvent.next

end ShirohaChat
