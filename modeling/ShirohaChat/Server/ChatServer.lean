import ShirohaChat.Server.ManagementServer
import ShirohaChat.Server.MessageRuns

/-!
# The server around messages and groups

`SendMessage` packets go through the message handler to the delivery service,
which shares the database thread with the management services.  The member list
of a group comes back to the service that asked for it: a list under a
notification id goes to the group service, any other to the delivery service.
-/

set_option autoImplicit false

namespace ShirohaChat

open Transition

/-! ## Member lists in flight -/

def StoreCall.membersQuery : StoreCall → Option GroupMembersQuery
  | .loadGroupMembers query => some query
  | _ => none

def StoreReply.membersResult : StoreReply → Option GroupMembersResult
  | .groupMembersLoaded result => some result
  | _ => none

namespace ManagementState

def loadCalls (state : ManagementState) : List GroupMembersQuery :=
  state.calls.filterMap fun entry => entry.2.membersQuery

def loadReplies (state : ManagementState) : List GroupMembersResult :=
  state.replies.filterMap fun entry => entry.2.membersResult

/-- The ids of the member lists in flight, the next one to be handled first. -/
def memberLoads (state : ManagementState) : List String :=
  state.loadReplies.map GroupMembersResult.reqMsgId ++
    state.loadCalls.map GroupMembersQuery.reqMsgId

end ManagementState

/-! ## The server -/

/-- `delivered` says whether the packet reached the web socket. -/
structure SentAck where
  session : String
  packet : Packet
  delivered : Bool

inductive LoadWaiter where
  | message (pending : PendingGroupMessage)
  | notification (pending : PendingNotification)

structure AskedLoad where
  query : GroupMembersQuery
  waiter : LoadWaiter

structure RanLoad where
  query : GroupMembersQuery
  store : GroupStore
  run : GroupMembersRun

def RanLoad.result (load : RanLoad) : GroupMembersResult :=
  loadGroupMembers load.store load.run load.query

/-- The last four are not state of the program: they record the requests that
passed the handler, the member lists asked for, the lists read, and what the
delivery service did with each of its own. -/
structure ChatServer where
  management : ManagementState
  delivery : MessageDeliveryService
  acks : List SentAck
  sent : List (String × String)
  loads : List AskedLoad
  ran : List RanLoad
  handled : List (String × List DeliverySignal)

namespace ChatServer

def empty : ChatServer :=
  ⟨ManagementState.empty, MessageDeliveryService.empty, [], [], [], [], []⟩

/-- `if (session) session->sendPacket(ack)`. -/
def acknowledge (server : ChatServer) (session : String) (packet : Packet) : ChatServer :=
  { server with acks :=
      server.acks ++ [⟨session, packet, server.management.manager.connected session⟩] }

def emitDelivery (request : IssuedRequest) (server : ChatServer) : DeliverySignal → ChatServer
  | .ackReady session msgId code message serverId =>
      server.acknowledge session (onAckReady msgId code message serverId)
  | .requestLoadGroupMembers query =>
      { server with
        management := { server.management with
          calls := server.management.calls ++ [(request, .loadGroupMembers query)] }
        loads := server.loads ++
          ((server.delivery.pendingGroupMessages.lookup query.reqMsgId).map fun pending =>
            ⟨query, .message pending⟩).toList }
  | .requestStoreMessage _ => server
  | .enqueueIfOffline _ _ => server
  | .enqueueIfOfflineMany _ _ _ => server

def runDelivery (server : ChatServer) (request : IssuedRequest)
    (outcome : MessageDeliveryService × List DeliverySignal) : ChatServer :=
  outcome.2.foldl (emitDelivery request) { server with delivery := outcome.1 }

def sendMessage (sha256 : List Nat → String) (server : ChatServer) (connectionId : String)
    (packet : Packet) (stamp : SendStamp) : ChatServer :=
  match server.management.manager.findByConnectionId connectionId with
  | none => server
  | some session =>
      match handleSendMessage session packet with
      | .error refusal => server.acknowledge session.connectionId refusal
      | .ok params =>
          { server with
            sent := server.sent ++ [(params.senderSession, params.msgId)] }.runDelivery
              ⟨0, params.senderSession, packet.cmd, packet.msgId⟩
              (processSendMessage sha256 server.delivery stamp params)

/-- What the next call of the database thread reads, when it reads a member list. -/
def readNext (server : ChatServer) (run : StoreRun) : List RanLoad :=
  match server.management.calls with
  | (_, .loadGroupMembers query) :: _ =>
      [⟨query, server.management.database.groupStore, run.groupMembers⟩]
  | _ => []

def nextMembers (server : ChatServer) : Option (IssuedRequest × GroupMembersResult) :=
  match server.management.replies with
  | (request, .groupMembersLoaded result) :: _ =>
      if qStartsWith result.reqMsgId "grp_notify_" then none else some (request, result)
  | _ => none

def askedBy (before after : ManagementState) : List AskedLoad :=
  (after.loadCalls.drop before.loadCalls.length).filterMap fun query =>
    (after.group.pendingNotifications.lookup query.reqMsgId).map fun pending =>
      ⟨query, .notification pending⟩

def onManagement (server : ChatServer) (event : ManagementEvent) (stamp : LoadStamp) :
    ChatServer :=
  let after : ChatServer := { server with management := event.next server.management }
  match event with
  | .executeNext run => { after with ran := server.ran ++ server.readNext run }
  | .handleNext _ =>
      match server.nextMembers with
      | none =>
          { after with loads := server.loads ++ askedBy server.management after.management }
      | some (request, result) =>
          let outcome := onGroupMembersForMessage server.delivery stamp result
          { after with handled := server.handled ++ [(result.reqMsgId, outcome.2)] }.runDelivery
            request outcome
  | _ => after

end ChatServer

inductive ChatEvent where
  | management (event : ManagementEvent) (stamp : LoadStamp)
  | sendMessage (connectionId : String) (packet : Packet) (stamp : SendStamp)

namespace ChatEvent

/-- Generated ids never come again; `SendMessage` packets go to the message
handler and the other ones to the other handlers. -/
def enabled (server : ChatServer) : ChatEvent → Prop
  | .management event _ => event.enabled server.management ∧
      (∀ connectionId packet, event = .packetReceived connectionId packet →
        packet.cmd ≠ .sendMessage) ∧
      ∀ stamp, event = .handleNext stamp →
        ∀ load ∈ server.loads, load.query.reqMsgId ≠ "grp_notify_" ++ stamp.firstUuid
  | .sendMessage _ packet stamp => packet.cmd = .sendMessage ∧
      (∃ uuid, stamp.reqToken = "grpmsg_" ++ uuid) ∧
      ∀ load ∈ server.loads, load.query.reqMsgId ≠ stamp.reqToken

theorem enabled_session {server : ChatServer} {event : SessionEvent}
    (enabled : ManagementEvent.enabled server.management (.session event)) (stamp : LoadStamp) :
    ChatEvent.enabled server (.management (.session event) stamp) :=
  ⟨enabled, nofun, nofun⟩

theorem enabled_executeNext (server : ChatServer) (run : StoreRun) (stamp : LoadStamp) :
    ChatEvent.enabled server (.management (.executeNext run) stamp) :=
  ⟨trivial, nofun, nofun⟩

theorem enabled_handleNext {server : ChatServer} {notify : NotifyStamp}
    (fresh : ∀ load ∈ server.loads, load.query.reqMsgId ≠ "grp_notify_" ++ notify.firstUuid)
    (stamp : LoadStamp) : ChatEvent.enabled server (.management (.handleNext notify) stamp) := by
  refine ⟨trivial, nofun, ?_⟩
  intro drawn isNext
  cases isNext
  exact fresh

def next (sha256 : List Nat → String) (server : ChatServer) : ChatEvent → ChatServer
  | .management event stamp => server.onManagement event stamp
  | .sendMessage connectionId packet stamp => server.sendMessage sha256 connectionId packet stamp

end ChatEvent

def chatSystem (sha256 : List Nat → String) : System ChatServer ChatEvent where
  initial := ChatServer.empty
  enabled := ChatEvent.enabled
  next := ChatEvent.next sha256

end ShirohaChat
