import ShirohaChat.Client.ReceiveRuns
import ShirohaChat.Server.QueuedMessages
import ShirohaChat.Wire.RequestLoop

/-!
# Messages from the offline queue to the client's tables

The whole server and the client of one user, who opens connections, loses them
and opens others.  What a connection carries arrives in order, or not at all
once the connection is lost.  The server deletes a queued message only when the
client has acknowledged it, and the client acknowledges only what it has taken
from its socket.
-/

set_option autoImplicit false

namespace ShirohaChat

open Transition ReceiveMessageUseCase

structure Reception where
  client : ReceiveMessageUseCase
  run : IncomingRun
  packet : Packet

/-- `links` are the connections the client has opened, `link` is the one that is
open; `received` is a record of what the client has done. -/
structure MessageLoop (Text : Type) where
  traced : TracedServer Text
  client : ReceiveMessageUseCase
  links : List String
  link : Option String
  upstream : List (SocketWrite Text)
  downstream : List (SocketWrite Text)
  received : List Reception

inductive MessageLoopEvent where
  | server (event : ActingEvent)
  | serverWrites (connectionId : String) (packet : Packet)
  | serverReads (place : Nat) (stamp : SendStamp)
  | opens (connectionId : String) (now : Int)
  | closes
  | clientSends (packet : Packet)
  | clientReads (run : IncomingRun)
  | clientTurns (db : LocalDatabase) (activeSessionId : String)

section Loop
variable {Text : Type} [JsonDocument Text] (sha256 : List Nat → String)

namespace MessageLoop

def onServer (loop : MessageLoop Text) (event : ActingEvent) : MessageLoop Text :=
  let traced := loop.traced.next sha256 event
  let written := traced.server.offline.wire.drop loop.traced.server.offline.wire.length
  { loop with
    traced := traced
    downstream := loop.downstream ++
      written.filter fun write => write.connectionId ∈ loop.links }

/-- `ClientSession::onTextMessageReceived` with a text that has arrived. -/
def serverReads (loop : MessageLoop Text) (place : Nat) (stamp : SendStamp) : MessageLoop Text :=
  match loop.upstream[place]? with
  | none => loop
  | some write =>
      let taken := { loop with upstream := loop.upstream.eraseIdx place }
      match decode write.text with
      | .error _ => taken
      | .ok packet => taken.onServer sha256 (.packetReceived write.connectionId packet stamp)

def opens (loop : MessageLoop Text) (connectionId : String) (now : Int) : MessageLoop Text :=
  { loop with
    client := { loop.client with connected := true }
    links := connectionId :: loop.links
    link := some connectionId }.onServer sha256 (.session (.newConnection connectionId now))

def clientSends (loop : MessageLoop Text) (packet : Packet) : MessageLoop Text :=
  match loop.link with
  | none => loop
  | some connectionId =>
      { loop with upstream := loop.upstream ++ [⟨connectionId, packet.encode⟩] }

def clientReads (loop : MessageLoop Text) (run : IncomingRun) : MessageLoop Text :=
  match loop.link with
  | none => loop
  | some connectionId =>
      match loop.downstream.find? fun write => write.connectionId = connectionId with
      | none => loop
      | some write =>
          let client := loop.client.handleIncomingPacket run write.text
          { loop with
            client := client
            upstream := loop.upstream ++ (client.sent.drop loop.client.sent.length).map
              fun packet => ⟨connectionId, packet.encode⟩
            downstream := loop.downstream.eraseP fun write => write.connectionId = connectionId
            received := loop.received ++
              match decode write.text with
              | .error _ => []
              | .ok packet =>
                  if packet.cmd = .receiveMessage then [⟨loop.client, run, packet⟩] else [] }

end MessageLoop

namespace MessageLoopEvent

/-- The client's connections are its own, and it logs in as one user, who is
logged in nowhere else. -/
def LeavesLinks (userId : String) (links : List String) : ActingEvent → Prop
  | .packetReceived connectionId _ _ => connectionId ∉ links
  | .session (.connectAccepted connectionId user _) => connectionId ∈ links ↔ user = userId
  | _ => True

variable (userId : String)

/-- A generated connection id or server id never comes again.  Of two texts of
one connection the older arrives first. -/
def enabled (loop : MessageLoop Text) : MessageLoopEvent → Prop
  | .server event => event.enabled loop.traced.server ∧ FreshServerId loop.traced event ∧
      LeavesLinks userId loop.links event
  | .serverWrites _ packet => packet.cmd ≠ .receiveMessage
  | .serverReads place stamp => ∀ write, loop.upstream[place]? = some write →
      (∀ earlier ∈ loop.upstream.take place, earlier.connectionId ≠ write.connectionId) ∧
      ∀ packet, decode write.text = .ok packet →
        ActingEvent.enabled loop.traced.server
          (.packetReceived write.connectionId packet stamp) ∧
        FreshServerId loop.traced (.packetReceived write.connectionId packet stamp)
  | .opens connectionId now => loop.link = none ∧
      ActingEvent.enabled loop.traced.server (.session (.newConnection connectionId now))
  | .clientSends packet => packet.cmd ≠ .messageReceivedAck
  | _ => True

def next (loop : MessageLoop Text) : MessageLoopEvent → MessageLoop Text
  | .server event => loop.onServer sha256 event
  | .serverWrites connectionId packet =>
      { loop with downstream := loop.downstream ++ [⟨connectionId, packet.encode⟩] }
  | .serverReads place stamp => loop.serverReads sha256 place stamp
  | .opens connectionId now => loop.opens sha256 connectionId now
  | .closes => { loop with link := none, client := { loop.client with connected := false } }
  | .clientSends packet => loop.clientSends packet
  | .clientReads run => loop.clientReads run
  | .clientTurns db activeSessionId =>
      { loop with client := { loop.client with db := db, activeSessionId := activeSessionId } }

/-- Statements on the queue succeed, and no load shows an unacknowledged message
again. -/
def Keeping (loop : MessageLoop Text) : MessageLoopEvent → Prop
  | .server event => QueueKept loop.traced event
  | _ => True

end MessageLoopEvent

def messageLoopSystem (Text : Type) [JsonDocument Text] (sha256 : List Nat → String)
    (userId : String) (tables : LocalTables) : System (MessageLoop Text) MessageLoopEvent where
  initial := ⟨TracedServer.empty, { db := { committed := tables }, selfUserId := userId },
    [], none, [], [], []⟩
  enabled := MessageLoopEvent.enabled userId
  next := MessageLoopEvent.next sha256

/-! ## What a step of the server does to sessions -/

theorem attached_actingNext (server : ActingServer Text) (event : ActingEvent)
    {connectionId : String} (attached : connectionId ∈ server.chat.management.attached) :
    connectionId ∈ (event.next sha256 server).chat.management.attached := by
  cases event with
  | session event => exact ManagementEvent.stays_attached (.session event) attached
  | sessionDeleted other => exact ManagementEvent.stays_attached (.sessionDeleted other) attached
  | ensureUser run user nickname =>
      exact ManagementEvent.stays_attached (.ensureUser run user nickname) attached
  | packetReceived other packet stamp =>
      simp only [ActingEvent.next, ActingServer.onPacketReceived]
      split
      · exact attached
      split
      · show connectionId ∈
          (server.chat.sendMessage sha256 other packet stamp).management.attached
        rcases management_sendMessage sha256 server.chat other packet stamp with
          same | ⟨request, query, asked⟩
        · rw [same]
          exact attached
        · rw [asked]
          exact attached
      · exact attached
      · exact ManagementEvent.stays_attached (.packetReceived other packet) attached
  | executeNext run => exact ManagementEvent.stays_attached (.executeNext run) attached
  | handleNext notify load =>
      rw [ActingEvent.next, chat_handleNext, management_onManagement]
      exact ManagementEvent.stays_attached (.handleNext notify) attached
  | storeStep ok => exact attached
  | offlineLoaded => exact attached

theorem userMap_sweepTimeouts (manager : SessionManager) (now : Int) :
    (manager.sweepTimeouts now).userMap = manager.userMap :=
  SessionManager.userMap_closeAll _ manager

/-- A user comes to be mapped to a connection by his `Connect` there. -/
theorem mapped_next {manager : SessionManager} (event : SessionEvent)
    {userId connectionId : String}
    (mapped : (event.next manager).userMap.lookup userId = some connectionId) :
    manager.userMap.lookup userId = some connectionId ∨
      manager.findByConnectionId connectionId ≠ none ∧
        ∃ nickname, event = .connectAccepted connectionId userId nickname := by
  cases event with
  | newConnection fresh now => exact Or.inl mapped
  | connectAccepted accepted user nickname =>
      rw [SessionEvent.next, SessionManager.userMap_connectAccepted] at mapped
      split at mapped
      · rename_i both
        cases mapped
        exact Or.inr ⟨both.1, nickname, by rw [both.2]⟩
      · exact Or.inl mapped
  | heartbeat touched now =>
      rw [SessionEvent.next, SessionManager.touchHeartbeat,
        SessionManager.userMap_updateSession] at mapped
      exact Or.inl mapped
  | sweepTimeouts now =>
      rw [SessionEvent.next, userMap_sweepTimeouts] at mapped
      exact Or.inl mapped
  | socketClosing closing =>
      rw [SessionEvent.next, SessionManager.userMap_updateSession] at mapped
      exact Or.inl mapped
  | disconnected gone =>
      rw [SessionEvent.next, SessionManager.userMap_detach] at mapped
      split at mapped
      · cases mapped
      · exact Or.inl mapped

structure OwnsLinks (userId : String) (links : List String) (server : ActingServer Text) :
    Prop where
  known : ∀ connectionId session,
    server.chat.management.manager.findByConnectionId connectionId = some session →
      connectionId ∈ server.chat.management.attached
  sessions : ∀ connectionId session,
    server.chat.management.manager.findByConnectionId connectionId = some session →
      session.isAuthenticated = true → (connectionId ∈ links ↔ session.userId = userId)
  mapped : ∀ user connectionId,
    server.chat.management.manager.userMap.lookup user = some connectionId →
      connectionId ∈ server.chat.management.attached ∧ (connectionId ∈ links ↔ user = userId)

namespace OwnsLinks

variable {userId : String} {links : List String} {server : ActingServer Text}
  {connectionId : String}

omit [JsonDocument Text] in
theorem empty : OwnsLinks userId [] (ActingServer.empty : ActingServer Text) := by
  constructor
  · intro connectionId session found
    cases found
  · intro connectionId session found
    cases found
  · intro user connectionId mapped
    cases mapped

theorem next (owns : OwnsLinks userId links server)
    {event : ActingEvent} (leaves : MessageLoopEvent.LeavesLinks userId links event ∨
      ∀ connectionId user nickname,
        event ≠ .session (.connectAccepted connectionId user nickname)) :
    OwnsLinks userId links (event.next sha256 server) := by
  by_cases isSession : ∃ session, event = .session session
  · obtain ⟨sessionEvent, rfl⟩ := isSession
    have isOwn : ∀ connectionId user nickname,
        sessionEvent = .connectAccepted connectionId user nickname →
          (connectionId ∈ links ↔ user = userId) := by
      rintro connectionId user nickname rfl
      rcases leaves with leaves | other
      · exact leaves
      · exact absurd rfl (other connectionId user nickname)
    constructor
    · intro connectionId session found
      rcases session_cases server.chat.management.manager sessionEvent found with
        ⟨now, rfl, _⟩ | ⟨before, _, _, old, _, _⟩ | ⟨before, _, old, _, _⟩
      · exact List.mem_append_right _ (List.mem_singleton_self _)
      · exact attached_actingNext sha256 server (.session sessionEvent)
          (owns.known connectionId before old)
      · exact attached_actingNext sha256 server (.session sessionEvent)
          (owns.known connectionId before old)
    · intro connectionId session found authenticated
      rcases session_cases server.chat.management.manager sessionEvent found with
        ⟨now, _, rfl⟩ | ⟨before, user, nickname, _, isConnect, rfl⟩ |
        ⟨before, change, old, quiet, rfl⟩
      · cases authenticated
      · exact isOwn connectionId user nickname isConnect
      · obtain ⟨_, sameUser, sameAuth⟩ := quiet.keepsIdentity before
        rw [sameUser]
        rw [sameAuth] at authenticated
        exact owns.sessions connectionId before old authenticated
    · intro user connectionId mapped
      rcases mapped_next sessionEvent mapped with old | ⟨present, nickname, isConnect⟩
      · obtain ⟨attached, own⟩ := owns.mapped user connectionId old
        exact ⟨attached_actingNext sha256 server (.session sessionEvent) attached, own⟩
      · obtain ⟨session, found⟩ := Option.ne_none_iff_exists'.mp present
        exact ⟨attached_actingNext sha256 server (.session sessionEvent)
          (owns.known connectionId session found), isOwn connectionId user nickname isConnect⟩
  · have same := manager_actingNext sha256 server event
      fun session isEvent => isSession ⟨session, isEvent⟩
    constructor
    · rw [same]
      intro connectionId session found
      exact attached_actingNext sha256 server event (owns.known connectionId session found)
    · rw [same]
      exact owns.sessions
    · rw [same]
      intro user connectionId mapped
      obtain ⟨attached, own⟩ := owns.mapped user connectionId mapped
      exact ⟨attached_actingNext sha256 server event attached, own⟩

omit [JsonDocument Text] in
theorem extend (owns : OwnsLinks userId links server)
    (fresh : connectionId ∉ server.chat.management.attached)
    (free : server.chat.management.manager.findByConnectionId connectionId = none) :
    OwnsLinks userId (connectionId :: links) server := by
  refine ⟨owns.known, ?_, ?_⟩
  · intro other session found authenticated
    have differs : other ≠ connectionId := by
      rintro rfl
      rw [free] at found
      cases found
    rw [List.mem_cons, or_iff_right differs]
    exact owns.sessions other session found authenticated
  · intro user other mapped
    obtain ⟨attached, own⟩ := owns.mapped user other mapped
    have differs : other ≠ connectionId := fun same => fresh (same ▸ attached)
    rw [List.mem_cons, or_iff_right differs]
    exact ⟨attached, own⟩

end OwnsLinks

/-- Messages written to the client's connections were handed over for its user. -/
theorem handed_of_written {traced : TracedServer Text} {userId : String} {links : List String}
    (reached : (tracedSystem Text sha256).Reachable traced)
    (owns : OwnsLinks userId links traced.server) (event : ActingEvent)
    {write : SocketWrite Text} {packet : Packet}
    (written : write ∈ (traced.next sha256 event).server.offline.wire.drop
      traced.server.offline.wire.length)
    (isLink : write.connectionId ∈ links) (decoded : decode write.text = .ok packet)
    (isMessage : packet.cmd = .receiveMessage) :
    (userId, packet) ∈ (traced.next sha256 event).handed := by
  have wellFormed := sessionsWellFormed_of_reachable _ (manager_reachable sha256 traced reached)
  obtain ⟨writes, wire, origin⟩ := wire_next sha256 reached event
  rw [show (traced.next sha256 event).server = event.next sha256 traced.server from rfl, wire,
    List.drop_left] at written
  cases origin write written with
  | answer other noMessage text =>
      rw [text, decode_encode] at decoded
      cases decoded
      exact absurd isMessage noMessage
  | routed user other given routed =>
      rw [text_routeToUser routed, decode_encode] at decoded
      cases decoded
      unfold routeToUser at routed
      split at routed
      · cases routed
      rename_i session found
      obtain ⟨connectionId, mapped, _, attached⟩ :=
        (SessionManager.findByUserId_eq_some _ _ _).mp found
      have ownId := wellFormed.ownId connectionId session attached
      have here : write.connectionId = connectionId := by
        unfold ClientSession.sendPacket at routed
        split at routed
        · rw [List.mem_singleton.mp routed]
          exact ownId
        · cases routed
      have isUser := ((owns.mapped user connectionId mapped).2).mp (here ▸ isLink)
      exact isUser ▸ given

/-! ## What a reception does -/

structure CarriesMessage (incoming : IncomingMessage) (message : AcceptedMessage) : Prop where
  sender : incoming.sender = message.params.senderUserId
  sessionId : incoming.sessionId = message.params.sessionId
  content : incoming.content = message.params.content.getD ""
  serverId : incoming.serverId = message.serverId

theorem carriesMessage_of_mayRead {ran : List RanLoad} {message : AcceptedMessage}
    {userId : String} {packet : Packet} (mayRead : MayRead sha256 ran message userId packet)
    (named : message.Named) : CarriesMessage (incomingOf packet) message := by
  have plain : CarriesMessage (incomingOf message.receiveMsg) message := by
    constructor <;>
      simp [incomingOf, IncomingMessage.effective, AcceptedMessage.receiveMsg,
        receiveMessageFor, QJsonObject.value, jsonText, jsonString, named.sessionId]
  cases mayRead with
  | recipient _ _ _ isPacket =>
      rw [isPacket]
      exact plain
  | member _ _ _ _ _ _ _ _ groupName isPacket =>
      rw [isPacket]
      unfold withGroupName
      split
      · exact plain
      · constructor <;>
          simp [incomingOf, IncomingMessage.effective, AcceptedMessage.receiveMsg,
            receiveMessageFor, QJsonObject.insert, QJsonObject.value, jsonText, jsonString,
            named.sessionId]

theorem db_handleReceiveMessage (client : ReceiveMessageUseCase) (run : IncomingRun)
    {packet : Packet} (sender : (incomingOf packet).sender ≠ "")
    (content : (incomingOf packet).content ≠ "")
    (notMine : client.isMine (incomingOf packet) = false) :
    (client.handleReceiveMessage run packet).db =
      (client.db.runInTransaction 0 run.transaction (client.store run (incomingOf packet))).1 := by
  have named : (incomingOf packet).sessionId ≠ "" :=
    IncomingMessage.effective_sessionId_ne _ sender
  have sameMessage : (incomingOf packet).effective = incomingOf packet :=
    IncomingMessage.effective_effective _
  have stored := client.onIncomingMessage_db run (incomingOf packet)
    (by rw [sameMessage]; simp [named, sender, content])
    (by rw [sameMessage]; simp [notMine])
  rw [sameMessage] at stored
  unfold handleReceiveMessage
  simp only [if_pos (And.intro named (And.intro sender content))]
  split
  · exact stored
  · exact stored

namespace Reception

def after (reception : Reception) : ReceiveMessageUseCase :=
  reception.client.handleReceiveMessage reception.run reception.packet

def Stores (reception : Reception) (message : AcceptedMessage) : Prop :=
  reception.after.db.committed.messages.find? reception.run.msgId =
    some ⟨reception.run.msgId, message.params.sessionId, message.params.senderUserId,
      message.params.content.getD "", .delivered, reception.run.timestamp,
      some message.serverId⟩

theorem stores {reception : Reception} {message : AcceptedMessage} (named : message.Named)
    (carries : CarriesMessage (incomingOf reception.packet) message)
    (content : message.params.content.getD "" ≠ "")
    (foreign : message.params.senderUserId ≠ reception.client.selfUserId)
    (succeeds : StoreSucceeds reception.client reception.run) : reception.Stores message := by
  have sender : (incomingOf reception.packet).sender ≠ "" := by
    rw [carries.sender]
    exact named.senderUserId
  have notMine : reception.client.isMine (incomingOf reception.packet) = false := by
    simp [isMine, carries.sender, foreign]
  have outcome := committed_runInTransaction_store reception.client reception.run
    (incomingOf reception.packet) (IncomingMessage.effective_sessionId_ne _ sender)
  rw [← db_handleReceiveMessage reception.client reception.run sender
    (by rw [carries.content]; exact content) notMine] at outcome
  rcases outcome with ⟨_, stored⟩ | ⟨fails, _⟩
  · refine stored.trans ?_
    simp [messageOf, Message.markDelivered, Message.toRow, carries.sender, carries.sessionId,
      carries.content, carries.serverId, named.serverId]
  · exact absurd succeeds fails

end Reception

/-- A reception leaves the user alone, and acknowledges the packet or writes nothing. -/
theorem handleReceiveMessage_frame (client : ReceiveMessageUseCase) (run : IncomingRun)
    (packet : Packet) :
    (client.handleReceiveMessage run packet).selfUserId = client.selfUserId ∧
    ((client.handleReceiveMessage run packet).sent = client.sent ∨
      (client.handleReceiveMessage run packet).sent =
        client.sent ++ [receivedAck packet run.sentAt]) := by
  have selfUser : (client.onIncomingMessage run (incomingOf packet)).selfUserId =
      client.selfUserId := by
    unfold onIncomingMessage
    simp only
    split
    · rfl
    split
    · rfl
    split <;> rfl
  have kept : ∀ handled : ReceiveMessageUseCase,
      handled = client.onIncomingMessage run (incomingOf packet) ∨ handled = client →
        handled.selfUserId = client.selfUserId ∧ handled.sent = client.sent := by
    rintro handled (rfl | rfl)
    · exact ⟨selfUser, (client.onIncomingMessage_sent run (incomingOf packet)).1⟩
    · exact ⟨rfl, rfl⟩
  have looked := kept (if (incomingOf packet).sessionId ≠ "" ∧ (incomingOf packet).sender ≠ "" ∧
      (incomingOf packet).content ≠ "" then client.onIncomingMessage run (incomingOf packet)
    else client) (by split <;> simp)
  unfold handleReceiveMessage
  simp only
  generalize (if (incomingOf packet).sessionId ≠ "" ∧ (incomingOf packet).sender ≠ "" ∧
      (incomingOf packet).content ≠ "" then client.onIncomingMessage run (incomingOf packet)
    else client) = handled at looked ⊢
  split
  · exact ⟨looked.1, Or.inr (by rw [looked.2])⟩
  · exact ⟨looked.1, Or.inl looked.2⟩

theorem handleIncomingPacket_frame (client : ReceiveMessageUseCase) (run : IncomingRun)
    (text : Text) :
    (client.handleIncomingPacket run text).selfUserId = client.selfUserId ∧
    ((client.handleIncomingPacket run text).sent = client.sent ∨
      ∃ packet, decode text = .ok packet ∧ packet.cmd = .receiveMessage ∧
        (client.handleIncomingPacket run text).sent =
          client.sent ++ [receivedAck packet run.sentAt]) := by
  unfold handleIncomingPacket
  split
  · exact ⟨rfl, Or.inl rfl⟩
  rename_i packet decoded
  split
  · rename_i isMessage
    obtain ⟨selfUser, written⟩ := handleReceiveMessage_frame client run packet
    exact ⟨selfUser, written.imp id fun sent => ⟨packet, decoded, isMessage, sent⟩⟩
  · exact ⟨rfl, Or.inl rfl⟩

/-! ## The two ends -/

def MessageLoop.Taken (loop : MessageLoop Text) (msgId : String) : Prop :=
  ∃ reception ∈ loop.received, reception.packet.msgId = msgId

/-- What is on its way to the client was handed over for its user, what the
client has acknowledged it has taken, and the server knows of no other
acknowledgements. -/
structure MessagesReach (userId : String) (loop : MessageLoop Text) : Prop where
  reached : (tracedSystem Text sha256).Reachable loop.traced
  keeps : KeepsMessages loop.traced
  owns : OwnsLinks userId loop.links loop.traced.server
  selfUser : loop.client.selfUserId = userId
  downstream : ∀ write ∈ loop.downstream, ∀ packet, decode write.text = .ok packet →
    packet.cmd = .receiveMessage → (userId, packet) ∈ loop.traced.handed
  upstream : ∀ write ∈ loop.upstream, ∀ packet, decode write.text = .ok packet →
    packet.cmd = .messageReceivedAck → loop.Taken packet.msgId
  acknowledged : ∀ msgId, (userId, msgId) ∈ loop.traced.server.offline.acknowledged →
    loop.Taken msgId
  received : ∀ reception ∈ loop.received, reception.packet.cmd = .receiveMessage ∧
    (userId, reception.packet) ∈ loop.traced.handed ∧ reception.client.selfUserId = userId

namespace MessagesReach

variable {sha256} {userId : String} {loop : MessageLoop Text}

theorem initial (tables : LocalTables) :
    MessagesReach sha256 userId (messageLoopSystem Text sha256 userId tables).initial := by
  refine ⟨System.Reachable.initial, ?_, OwnsLinks.empty, rfl, ?_, ?_, ?_, ?_⟩
  · exact keepsMessages_of_reachable sha256 _ System.Reachable.initial
  · exact fun write member => absurd member List.not_mem_nil
  · exact fun write member => absurd member List.not_mem_nil
  · exact fun msgId member => absurd member List.not_mem_nil
  · exact fun reception member => absurd member List.not_mem_nil

/-- A step of the server, once it is known whose acknowledgement it reads. -/
theorem onServer (reach : MessagesReach sha256 userId loop) {event : ActingEvent}
    (enabled : event.enabled loop.traced.server) (fresh : FreshServerId loop.traced event)
    (queueKept : QueueKept loop.traced event)
    (leaves : MessageLoopEvent.LeavesLinks userId loop.links event ∨
      ∀ connectionId user nickname,
        event ≠ .session (.connectAccepted connectionId user nickname))
    (reads : ∀ connectionId packet stamp, event = .packetReceived connectionId packet stamp →
      connectionId ∈ loop.links → packet.cmd = .messageReceivedAck → loop.Taken packet.msgId) :
    MessagesReach sha256 userId (loop.onServer sha256 event) := by
  refine ⟨System.Reachable.step event reach.reached enabled,
    reach.keeps.next reach.reached enabled fresh queueKept,
    reach.owns.next sha256 leaves, reach.selfUser, ?_, reach.upstream, ?_, ?_⟩
  · intro write member packet decoded isMessage
    rcases List.mem_append.mp member with old | new
    · exact List.mem_append_left _ (reach.downstream write old packet decoded isMessage)
    · obtain ⟨written, isLink⟩ := List.mem_filter.mp new
      exact handed_of_written sha256 reach.reached reach.owns event written
        (of_decide_eq_true isLink) decoded isMessage
  · intro msgId member
    rcases acknowledged_next sha256 reach.reached event _ member with
      old | ⟨connectionId, packet, stamp, session, isPacket, isAck, found, authenticated, same⟩
    · exact reach.acknowledged msgId old
    · obtain ⟨isUser, rfl⟩ := Prod.mk.inj same
      have isLink := (reach.owns.sessions connectionId session found authenticated).mpr
        isUser.symm
      exact reads connectionId packet stamp isPacket isLink isAck
  · intro reception member
    obtain ⟨isMessage, handed, same⟩ := reach.received reception member
    exact ⟨isMessage, List.mem_append_left _ handed, same⟩

theorem withUpstream (reach : MessagesReach sha256 userId loop)
    {upstream : List (SocketWrite Text)} (fewer : ∀ write ∈ upstream, write ∈ loop.upstream) :
    MessagesReach sha256 userId { loop with upstream := upstream } :=
  ⟨reach.reached, reach.keeps, reach.owns, reach.selfUser, reach.downstream,
    fun write member => reach.upstream write (fewer write member), reach.acknowledged,
    reach.received⟩

theorem serverReads (reach : MessagesReach sha256 userId loop) {place : Nat} {stamp : SendStamp}
    (enabled : MessageLoopEvent.enabled userId loop (.serverReads place stamp)) :
    MessagesReach sha256 userId (loop.serverReads sha256 place stamp) := by
  unfold MessageLoop.serverReads
  split
  · exact reach
  rename_i write found
  have taken : MessagesReach sha256 userId
      { loop with upstream := loop.upstream.eraseIdx place } :=
    reach.withUpstream fun _ member => List.mem_of_mem_eraseIdx member
  simp only
  split
  · exact taken
  · rename_i packet decoded
    obtain ⟨allowed, fresh⟩ := (enabled write found).2 packet decoded
    refine taken.onServer allowed fresh trivial (Or.inr (by simp)) ?_
    intro connectionId other otherStamp isPacket _ isAck
    cases isPacket
    exact reach.upstream write (List.mem_of_getElem? found) packet decoded isAck

theorem opens (reach : MessagesReach sha256 userId loop) {connectionId : String} {now : Int}
    (enabled : ActingEvent.enabled loop.traced.server
      (.session (.newConnection connectionId now))) :
    MessagesReach sha256 userId (loop.opens sha256 connectionId now) := by
  have opened : MessagesReach sha256 userId { loop with
      client := { loop.client with connected := true }
      links := connectionId :: loop.links
      link := some connectionId } :=
    ⟨reach.reached, reach.keeps,
      reach.owns.extend (enabled.1.2 connectionId now rfl) enabled.1.1.2, reach.selfUser,
      reach.downstream, reach.upstream, reach.acknowledged, reach.received⟩
  exact opened.onServer enabled trivial trivial (Or.inr (by simp)) (by simp)

theorem clientSends (reach : MessagesReach sha256 userId loop) {packet : Packet}
    (other : packet.cmd ≠ .messageReceivedAck) :
    MessagesReach sha256 userId (loop.clientSends packet) := by
  unfold MessageLoop.clientSends
  split
  · exact reach
  refine ⟨reach.reached, reach.keeps, reach.owns, reach.selfUser, reach.downstream, ?_,
    reach.acknowledged, reach.received⟩
  intro write member read decoded isAck
  rcases List.mem_append.mp member with old | new
  · exact reach.upstream write old read decoded isAck
  · rw [List.mem_singleton.mp new, decode_encode] at decoded
    cases decoded
    exact absurd isAck other

/-- The client acknowledges the message that it has just taken. -/
theorem clientReads (reach : MessagesReach sha256 userId loop) (run : IncomingRun) :
    MessagesReach sha256 userId (loop.clientReads run) := by
  unfold MessageLoop.clientReads
  split
  · exact reach
  rename_i connectionId _
  split
  · exact reach
  rename_i write found
  have arrived := List.mem_of_find?_eq_some found
  have later : ∀ {receptions : List Reception} {msgId : String}, loop.Taken msgId →
      ∃ reception ∈ loop.received ++ receptions, reception.packet.msgId = msgId := by
    rintro receptions msgId ⟨reception, member, same⟩
    exact ⟨reception, List.mem_append_left _ member, same⟩
  refine ⟨reach.reached, reach.keeps, reach.owns, ?_, ?_, ?_, ?_, ?_⟩
  · exact (handleIncomingPacket_frame loop.client run write.text).1.trans reach.selfUser
  · intro other member
    exact reach.downstream other (List.mem_of_mem_eraseP member)
  · intro other member packet decoded isAck
    rcases List.mem_append.mp member with old | new
    · exact later (reach.upstream other old packet decoded isAck)
    · obtain ⟨reply, isReply, rfl⟩ := List.mem_map.mp new
      rw [decode_encode] at decoded
      cases decoded
      rcases (handleIncomingPacket_frame loop.client run write.text).2 with
        same | ⟨message, read, isMessage, sent⟩
      · rw [same, List.drop_length] at isReply
        cases isReply
      · rw [sent, List.drop_left, List.mem_singleton] at isReply
        refine ⟨⟨loop.client, run, message⟩, ?_, by rw [isReply]; rfl⟩
        simp [read, isMessage]
  · exact fun msgId member => later (reach.acknowledged msgId member)
  · intro reception member
    rcases List.mem_append.mp member with old | new
    · exact reach.received reception old
    · split at new
      · cases new
      rename_i packet read
      split at new
      · rename_i isMessage
        rw [List.mem_singleton.mp new]
        exact ⟨isMessage, reach.downstream write arrived packet read isMessage, reach.selfUser⟩
      · cases new

end MessagesReach

theorem messagesReach_of_reachable (userId : String) (tables : LocalTables) :
    ∀ loop, ((messageLoopSystem Text sha256 userId tables).restrict
      MessageLoopEvent.Keeping).Reachable loop → MessagesReach sha256 userId loop := by
  refine System.Reachable.invariant (MessagesReach.initial tables) ?_
  rintro loop event _ reach ⟨enabled, keeping⟩
  cases event with
  | server event =>
      obtain ⟨allowed, fresh, leaves⟩ := enabled
      refine reach.onServer allowed fresh keeping (Or.inl leaves) ?_
      rintro connectionId packet stamp rfl isLink _
      exact absurd isLink leaves
  | serverWrites connectionId packet =>
      refine ⟨reach.reached, reach.keeps, reach.owns, reach.selfUser, ?_, reach.upstream,
        reach.acknowledged, reach.received⟩
      intro write member read decoded isMessage
      rcases List.mem_append.mp member with old | new
      · exact reach.downstream write old read decoded isMessage
      · rw [List.mem_singleton.mp new, decode_encode] at decoded
        cases decoded
        exact absurd isMessage enabled
  | serverReads place stamp => exact reach.serverReads enabled
  | opens connectionId now => exact reach.opens enabled.2
  | closes =>
      exact ⟨reach.reached, reach.keeps, reach.owns, reach.selfUser, reach.downstream,
        reach.upstream, reach.acknowledged, reach.received⟩
  | clientSends packet => exact reach.clientSends enabled
  | clientReads run => exact reach.clientReads run
  | clientTurns db activeSessionId =>
      exact ⟨reach.reached, reach.keeps, reach.owns, reach.selfUser, reach.downstream,
        reach.upstream, reach.acknowledged, reach.received⟩

/-- A message queued for the user waits in the queue, or on its way there, until
his client has taken that very message from its socket, whatever connections
are lost meanwhile.  All that the client takes are messages that authenticated
senders sent to him, and where its local transaction succeeds the message is in
its tables as it was sent. -/
theorem queued_messages_reach_store (Text : Type) [JsonDocument Text]
    (sha256 : List Nat → String) (userId : String) (tables : LocalTables)
    (loop : MessageLoop Text) (reached : ((messageLoopSystem Text sha256 userId tables).restrict
      MessageLoopEvent.Keeping).Reachable loop) :
    (∀ packet, (userId, packet) ∈ loop.traced.record.queued → packet.cmd = .receiveMessage →
      packet.encode ∈ loop.traced.record.stored userId ∨
        ∃ reception ∈ loop.received, reception.packet = packet) ∧
    ∀ reception ∈ loop.received, ∃ message ∈ loop.traced.accepted, message.Own ∧
      MayRead sha256 loop.traced.server.chat.ran message userId reception.packet ∧
      (message.params.content.getD "" ≠ "" → message.params.senderUserId ≠ userId →
        StoreSucceeds reception.client reception.run → reception.Stores message) := by
  have reach := messagesReach_of_reachable sha256 userId tables loop reached
  constructor
  · intro packet queued isMessage
    have handed := (queued_of_reachable sha256 loop.traced reach.reached).subset queued
    have forUser : packet ∈ loop.traced.record.queuedFor userId :=
      List.mem_map.mpr ⟨(userId, packet), List.mem_filter.mpr ⟨queued, decide_eq_true rfl⟩, rfl⟩
    rcases reach.keeps.kept userId packet forUser isMessage with waits | acknowledged
    · exact Or.inl waits
    · rw [(record_reachable sha256 loop.traced reach.reached).2] at acknowledged
      obtain ⟨reception, member, sameId⟩ := reach.acknowledged _ acknowledged
      obtain ⟨isReception, receptionHanded, _⟩ := reach.received reception member
      exact Or.inr ⟨reception, member, reach.keeps.eq_of_handed reach.reached receptionHanded
        handed isReception isMessage sameId⟩
  · intro reception member
    obtain ⟨isMessage, handed, selfUser⟩ := reach.received reception member
    obtain ⟨message, accepted, mayRead, _, named⟩ :=
      reach.keeps.message_of_handed reach.reached handed isMessage
    refine ⟨message, accepted,
      (confidential_of_reachable sha256 loop.traced reach.reached).own message accepted,
      mayRead, ?_⟩
    intro content foreign succeeds
    exact Reception.stores named (carriesMessage_of_mayRead sha256 mayRead named) content
      (selfUser ▸ foreign) succeeds

end Loop

/-- Alice writes to bob, who logs in later, takes the message and acknowledges it. -/
def bobComesBack : List MessageLoopEvent :=
  [.server (.session (.newConnection "c1" 0)),
    .server (.session (.connectAccepted "c1" "alice" "Alice")),
    .server (.packetReceived "c1" (privatePacket "m1" [("content", .string "hi")])
      (aliceStamp "srv_1" "grpmsg_1")),
    .server (.storeStep true), .server .offlineLoaded, .server (.storeStep true), .opens "c2" 1,
    .server (.session (.connectAccepted "c2" "bob" "Bob")), .server (.storeStep true),
    .server .offlineLoaded, .clientReads { msgId := "local_1", timestamp := "t1" },
    .serverReads 0 (aliceStamp "srv_2" "grpmsg_2"), .server (.storeStep true)]

def bobBack : MessageLoop ParsedText :=
  bobComesBack.foldl (MessageLoopEvent.next aliceBobDigest)
    (messageLoopSystem ParsedText aliceBobDigest "bob" {}).initial

theorem bobBack_reachable : ((messageLoopSystem ParsedText aliceBobDigest "bob" {}).restrict
    MessageLoopEvent.Keeping).Reachable bobBack := by
  have alice : "alice" ≠ "" := by decide
  have bob : "bob" ≠ "" := by decide
  refine System.Reachable.run bobComesBack _ System.Reachable.initial ?_
  refine ⟨⟨⟨⟨⟨⟨by decide, rfl⟩, ?_⟩, ⟨⟨by decide, rfl⟩, by simp⟩⟩, trivial, trivial⟩, trivial⟩,
    ⟨⟨⟨⟨alice, by simp⟩, ⟨alice, ?_⟩⟩, trivial,
      (by decide : "c1" ∈ ([] : List String) ↔ "alice" = "bob")⟩, trivial⟩,
    ⟨⟨fun _ => ⟨rfl, ⟨"1", by decide⟩, ?_⟩, fun _ => ⟨by decide, List.not_mem_nil⟩,
      List.not_mem_nil⟩, trivial⟩,
    ⟨⟨trivial, trivial, trivial⟩, rfl⟩, ⟨⟨trivial, trivial, trivial⟩, ?_⟩,
    ⟨⟨trivial, trivial, trivial⟩, rfl⟩,
    ⟨⟨rfl, ⟨⟨by decide, rfl⟩, ?_⟩, ⟨⟨by decide, rfl⟩, by simp⟩⟩, trivial⟩,
    ⟨⟨⟨⟨bob, by simp⟩, ⟨bob, ?_⟩⟩, trivial, (by decide : "c2" ∈ ["c2"] ↔ "bob" = "bob")⟩,
      trivial⟩,
    ⟨⟨trivial, trivial, trivial⟩, rfl⟩, ⟨⟨trivial, trivial, trivial⟩, ?_⟩,
    ⟨trivial, trivial⟩, ⟨?_, trivial⟩, ⟨⟨trivial, trivial, trivial⟩, rfl⟩, trivial⟩
  · intro connectionId now isNew
    exact List.not_mem_nil
  · intro connectionId userId nickname accepted
    cases accepted
    decide
  · exact fun load member => absurd member List.not_mem_nil
  · intro result _ packet _ msgId _ _
    exact (Option.some_ne_none _).symm
  · intro connectionId now isNew
    cases isNew
    decide
  · intro connectionId userId nickname accepted
    cases accepted
    decide
  · intro result _ packet _ msgId _ _
    exact (Option.some_ne_none _).symm
  · intro write found
    cases found
    refine ⟨fun earlier member => absurd member List.not_mem_nil, ?_⟩
    intro packet decoded
    cases decoded
    exact ⟨fun isSend => absurd isSend (by decide), fun isSend => absurd isSend (by decide)⟩

theorem queued_messages_reach_store_bob :
    bobBack.traced.record.stored "bob" = [] ∧
      ∃ reception ∈ bobBack.received, reception.packet = messageForBob := by
  have gone : bobBack.traced.record.stored "bob" = [] := rfl
  have queued : ("bob", messageForBob) ∈ bobBack.traced.record.queued := List.mem_singleton_self _
  refine ⟨gone, ?_⟩
  rcases (queued_messages_reach_store ParsedText aliceBobDigest "bob" {} bobBack
    bobBack_reachable).1 messageForBob queued rfl with waits | taken
  · rw [gone] at waits
    cases waits
  · exact taken

end ShirohaChat
