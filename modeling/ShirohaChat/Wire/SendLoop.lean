import ShirohaChat.Client.Gateway
import ShirohaChat.Client.StoredTexts
import ShirohaChat.Server.Acceptance
import ShirohaChat.Wire.MessageLoop

/-!
# Messages from the client's tables to their readers

The whole server and the sending client of one user, who opens connections,
loses them and starts his program anew.  Requests and acknowledgements may be
lost, come late, and come for messages sent on other connections.  Nevertheless
a message that its sender sees as `Delivered` has been handed on as he wrote it.
-/

set_option autoImplicit false

namespace ShirohaChat

open Transition SendMessageUseCase

/-- `written`, `removed` and `sent` are not state of the program: they record the
messages that were new, those of them whose session has been removed since, and
the requests to send one. -/
structure SendLoop (Text : Type) where
  traced : TracedServer Text
  client : SendMessageUseCase
  gateway : NetworkGateway
  links : List String
  link : Option String
  upstream : List (SocketWrite Text)
  downstream : List (SocketWrite Text)
  written : List Message
  removed : List Message
  sent : List Packet

inductive SendLoopEvent where
  | server (event : ActingEvent)
  | serverWrites (connectionId : String) (packet : Packet)
  | serverReads (place : Nat) (stamp : SendStamp)
  | opens (connectionId : String) (now : Int)
  | closes
  | clientSends (packet : Packet)
  | clientActs (event : SendEvent) (now : String)
  | clientReads (run : StatusRun)
  | gatewayTurns (gateway : NetworkGateway)
  | sessionDeleted (run : RemoveSessionRun) (sessionId : String)
  | restarted

namespace SendSignal

def newMessage : SendSignal → Option Message
  | .messageSent _ message _ => some message
  | _ => none

def request (gateway : NetworkGateway) (now : String) : SendSignal → Option Packet
  | .sendText msgId sender sessionId content sessionType recipient =>
      gateway.sendText ⟨msgId, now⟩ sender sessionId content sessionType recipient
  | _ => none

end SendSignal

section Loop
variable {Text : Type} [JsonDocument Text] (sha256 : List Nat → String)

namespace SendLoop

/-- The server takes a step; its acknowledgements of messages go out. -/
def onServer (loop : SendLoop Text) (event : ActingEvent) : SendLoop Text :=
  let traced := loop.traced.next sha256 event
  let acks := traced.server.chat.acks.drop loop.traced.server.chat.acks.length
  { loop with
    traced := traced
    downstream := loop.downstream ++
      (acks.filter fun ack => ack.delivered ∧ ack.session ∈ loop.links).map
        fun ack => ⟨ack.session, ack.packet.encode⟩ }

/-- `ClientSession::onTextMessageReceived` with a text that has arrived. -/
def serverReads (loop : SendLoop Text) (place : Nat) (stamp : SendStamp) : SendLoop Text :=
  match loop.upstream[place]? with
  | none => loop
  | some write =>
      let taken := { loop with upstream := loop.upstream.eraseIdx place }
      match decode write.text with
      | .error _ => taken
      | .ok packet => taken.onServer sha256 (.packetReceived write.connectionId packet stamp)

def opens (loop : SendLoop Text) (connectionId : String) (now : Int) : SendLoop Text :=
  { loop with
    links := connectionId :: loop.links
    link := some connectionId }.onServer sha256 (.session (.newConnection connectionId now))

/-- Packets are written to the open connection, or are lost. -/
def writes (loop : SendLoop Text) (packets : List Packet) : SendLoop Text :=
  match loop.link with
  | none => loop
  | some connectionId =>
      { loop with
        upstream := loop.upstream ++ packets.map fun packet => ⟨connectionId, packet.encode⟩ }

def clientActs (loop : SendLoop Text) (event : SendEvent) (now : String) : SendLoop Text :=
  let client := event.next loop.client
  let signals := client.signals.drop loop.client.signals.length
  let requests := signals.filterMap (SendSignal.request loop.gateway now)
  { loop with
    client := client
    written := loop.written ++ signals.filterMap SendSignal.newMessage
    sent := loop.sent ++ requests }.writes requests

/-- `SessionRepository::remove` takes the messages of the session as well. -/
def removesSession (loop : SendLoop Text) (run : RemoveSessionRun) (sessionId : String) :
    SendLoop Text :=
  let (db, isRemoved) := loop.client.db.removeSession 0 run sessionId
  { loop with
    client := { loop.client with db := db }
    removed := if isRemoved then
      loop.removed ++ loop.written.filter fun message => message.sessionId = sessionId
      else loop.removed }

def clientReads (loop : SendLoop Text) (run : StatusRun) : SendLoop Text :=
  match loop.link with
  | none => loop
  | some connectionId =>
      match loop.downstream.find? fun write => write.connectionId = connectionId with
      | none => loop
      | some write =>
          { loop with
            client := match decode write.text with
              | .error _ => loop.client
              | .ok packet => loop.client.handleIncomingPacket run packet
            downstream := loop.downstream.eraseP fun write => write.connectionId = connectionId }

end SendLoop

namespace SendLoopEvent

/-- A new message draws an id that was not used before.  Other use cases leave
its row alone: they store received messages under ids of their own. -/
def ActsAlone (loop : SendLoop Text) : SendEvent → Prop
  | .sendMessage _ _ _ msgId _ =>
      msgId ∉ loop.written.map Message.msgId ∧ msgId ∉ loop.sent.map Packet.msgId
  | .elsewhere tables => ∀ message ∈ loop.written,
      tables.messages.find? message.msgId =
        loop.client.db.view.messages.find? message.msgId
  | .ackReceived _ _ _ => False
  | .ackFailed _ _ _ _ => False
  | _ => True

variable (userId : String)

/-- A generated connection id or server id never comes again.  Of two texts of
one connection the older arrives first. -/
def enabled (loop : SendLoop Text) : SendLoopEvent → Prop
  | .server event => event.enabled loop.traced.server ∧ FreshServerId loop.traced event ∧
      MessageLoopEvent.LeavesLinks userId loop.links event
  | .serverWrites _ packet => packet.cmd ≠ .sendMessageAck
  | .serverReads place stamp => ∀ write, loop.upstream[place]? = some write →
      (∀ earlier ∈ loop.upstream.take place, earlier.connectionId ≠ write.connectionId) ∧
      ∀ packet, decode write.text = .ok packet →
        ActingEvent.enabled loop.traced.server
          (.packetReceived write.connectionId packet stamp) ∧
        FreshServerId loop.traced (.packetReceived write.connectionId packet stamp)
  | .opens connectionId now => loop.link = none ∧
      ActingEvent.enabled loop.traced.server (.session (.newConnection connectionId now))
  | .clientSends packet => packet.cmd ≠ .sendMessage
  | .clientActs event _ => event.enabled loop.client ∧ ActsAlone loop event
  | _ => True

def next (loop : SendLoop Text) : SendLoopEvent → SendLoop Text
  | .server event => loop.onServer sha256 event
  | .serverWrites connectionId packet =>
      { loop with downstream := loop.downstream ++ [⟨connectionId, packet.encode⟩] }
  | .serverReads place stamp => loop.serverReads sha256 place stamp
  | .opens connectionId now => loop.opens sha256 connectionId now
  | .closes => { loop with link := none }
  | .clientSends packet => loop.writes [packet]
  | .clientActs event now => loop.clientActs event now
  | .clientReads run => loop.clientReads run
  | .gatewayTurns gateway => { loop with gateway := gateway }
  | .sessionDeleted run sessionId => loop.removesSession run sessionId
  | .restarted => { loop with
      client := { db := { committed := loop.client.db.committed } }
      gateway := {}
      link := none }

/-- Users have names without a colon, and no commit leaves its transaction open. -/
def Plain : SendLoopEvent → Prop
  | .server (.session (.connectAccepted _ user _)) => ':' ∉ user.toList
  | .clientActs (.sendMessage run _ _ _ _) _ => run.transaction.commit ≠ .leftOpen
  | .sessionDeleted run _ => run.transaction.commit ≠ .leftOpen
  | _ => True

end SendLoopEvent

def sendLoopSystem (Text : Type) [JsonDocument Text] (sha256 : List Nat → String)
    (userId : String) (tables : LocalTables) : System (SendLoop Text) SendLoopEvent where
  initial :=
    ⟨TracedServer.empty, { db := { committed := tables } }, {}, [], none, [], [], [], [], []⟩
  enabled := SendLoopEvent.enabled userId
  next := SendLoopEvent.next sha256

/-! ## What is asked for and accepted -/

/-- A request under that id was made, with the text that was written under it. -/
def Asked (written : List Message) (sent : List Packet) (msgId sessionId : String)
    (content : Option String) : Prop :=
  msgId ∈ sent.map Packet.msgId ∧ ∀ message ∈ written, message.msgId = msgId →
    sessionId = message.sessionId ∧ content = some message.content

theorem Asked.grow {written new : List Message} {sent requests : List Packet}
    {msgId sessionId : String} {content : Option String}
    (asked : Asked written sent msgId sessionId content)
    (unused : ∀ message ∈ new, message.msgId ∉ sent.map Packet.msgId) :
    Asked (written ++ new) (sent ++ requests) msgId sessionId content := by
  obtain ⟨isSent, texts⟩ := asked
  refine ⟨?_, ?_⟩
  · rw [List.map_append]
    exact List.mem_append_left _ isSent
  · intro message member same
    rcases List.mem_append.mp member with old | isNew
    · exact texts message old same
    · exact absurd (same ▸ isSent) (unused message isNew)

theorem handleSendMessage_text {session : ClientSession} {packet : Packet}
    {params : SendMessageParams} (accepted : handleSendMessage session packet = .ok params) :
    params.sessionId = jsonText (packet.payload.value "sessionId") ∧
      params.content = jsonString (packet.payload.value "content") := by
  unfold handleSendMessage at accepted
  simp only at accepted
  repeat' split at accepted
  all_goals cases accepted
  all_goals exact ⟨rfl, rfl⟩

omit [JsonDocument Text] in
/-- A message that is let through comes in a packet of its sender. -/
theorem acceptedBy_packet {server : ActingServer Text} {event : ActingEvent}
    {message : AcceptedMessage} (accepted : message ∈ server.acceptedBy sha256 event) :
    ∃ connectionId packet stamp session, event = .packetReceived connectionId packet stamp ∧
      packet.cmd = .sendMessage ∧
      server.chat.management.manager.findByConnectionId connectionId = some session ∧
      handleSendMessage session packet = .ok message.params ∧
      message.serverId = stamp.serverId := by
  cases event with
  | packetReceived connectionId packet stamp =>
      simp only [ActingServer.acceptedBy] at accepted
      split at accepted
      · cases accepted
      rename_i session found
      split at accepted
      · rename_i isSend
        unfold ActingServer.acceptedFrom at accepted
        split at accepted
        · cases accepted
        rename_i params handled
        split at accepted
        · rw [List.mem_singleton.mp accepted]
          exact ⟨connectionId, packet, stamp, session, rfl, isSend, found, handled, rfl⟩
        · cases accepted
      · cases accepted
  | _ => cases accepted

structure AcceptedOwn (userId : String) (links : List String) (written : List Message)
    (sent : List Packet) (server : ActingServer Text) (message : AcceptedMessage) : Prop where
  plain : ':' ∉ message.params.senderUserId.toList
  named : message.serverId ≠ ""
  known : message.params.senderSession ∈ server.chat.management.attached
  own : message.params.senderSession ∈ links ↔ message.params.senderUserId = userId
  asked : message.params.senderUserId = userId →
    Asked written sent message.params.msgId message.params.sessionId message.params.content

structure ServerSide (userId : String) (links : List String) (written : List Message)
    (sent : List Packet) (traced : TracedServer Text) : Prop where
  reached : (tracedSystem Text sha256).Reachable traced
  owns : OwnsLinks userId links traced.server
  plain : ∀ connectionId session,
    traced.server.chat.management.manager.findByConnectionId connectionId = some session →
      session.isAuthenticated = true → ':' ∉ session.userId.toList
  accepted : ∀ message ∈ traced.accepted,
    AcceptedOwn userId links written sent traced.server message

def TracedServer.Took (traced : TracedServer Text) (userId msgId serverId : String) : Prop :=
  ∃ message ∈ traced.accepted, message.params.senderUserId = userId ∧
    message.params.msgId = msgId ∧ message.serverId = serverId ∧ traced.HandedOn sha256 message

theorem TracedServer.Took.next {traced : TracedServer Text} {userId msgId serverId : String}
    (took : traced.Took sha256 userId msgId serverId) (event : ActingEvent) :
    (traced.next sha256 event).Took sha256 userId msgId serverId := by
  obtain ⟨message, accepted, sender, ownId, isServerId, handedOn⟩ := took
  refine ⟨message, List.mem_append_left _ accepted, sender, ownId, isServerId,
    handedOn.grows ?_ ?_⟩
  · exact fun entry member => List.mem_append_left _ member
  · exact ran_next sha256 traced.server event

namespace ServerSide

variable {sha256} {userId : String} {links : List String} {written : List Message}
  {sent : List Packet} {traced : TracedServer Text} {event : ActingEvent}

theorem plain_next (side : ServerSide sha256 userId links written sent traced)
    (names : ∀ connectionId user nickname,
      event = .session (.connectAccepted connectionId user nickname) → ':' ∉ user.toList)
    {connectionId : String} {session : ClientSession}
    (found : (event.next sha256 traced.server).chat.management.manager.findByConnectionId
      connectionId = some session) (authenticated : session.isAuthenticated = true) :
    ':' ∉ session.userId.toList := by
  by_cases isSession : ∃ session, event = .session session
  · obtain ⟨sessionEvent, rfl⟩ := isSession
    rcases session_cases traced.server.chat.management.manager sessionEvent found with
      ⟨now, _, rfl⟩ | ⟨before, user, nickname, _, isConnect, rfl⟩ |
      ⟨before, change, old, quiet, rfl⟩
    · cases authenticated
    · exact names connectionId user nickname (congrArg ActingEvent.session isConnect)
    · obtain ⟨_, sameUser, sameAuth⟩ := quiet.keepsIdentity before
      rw [sameUser]
      rw [sameAuth] at authenticated
      exact side.plain connectionId before old authenticated
  · rw [manager_actingNext sha256 traced.server event
      fun session isEvent => isSession ⟨session, isEvent⟩] at found
    exact side.plain connectionId session found authenticated

theorem next (side : ServerSide sha256 userId links written sent traced)
    (enabled : event.enabled traced.server) (fresh : FreshServerId traced event)
    (leaves : MessageLoopEvent.LeavesLinks userId links event ∨
      ∀ connectionId user nickname,
        event ≠ .session (.connectAccepted connectionId user nickname))
    (names : ∀ connectionId user nickname,
      event = .session (.connectAccepted connectionId user nickname) → ':' ∉ user.toList)
    (reads : ∀ connectionId packet stamp, event = .packetReceived connectionId packet stamp →
      connectionId ∈ links → packet.cmd = .sendMessage →
        Asked written sent packet.msgId (jsonText (packet.payload.value "sessionId"))
          (jsonString (packet.payload.value "content"))) :
    ServerSide sha256 userId links written sent (traced.next sha256 event) := by
  refine ⟨System.Reachable.step event side.reached enabled, side.owns.next sha256 leaves,
    fun connectionId session => side.plain_next names, ?_⟩
  intro message member
  rcases List.mem_append.mp member with old | new
  · obtain ⟨plain, named, known, own, asked⟩ := side.accepted message old
    exact ⟨plain, named, attached_actingNext sha256 traced.server event known, own, asked⟩
  · obtain ⟨connectionId, packet, stamp, session, isPacket, isSend, found, handled, isServerId⟩ :=
      acceptedBy_packet sha256 new
    have wellFormed := sessionsWellFormed_of_reachable _
      (manager_reachable sha256 traced side.reached)
    obtain ⟨authenticated, sender, ownSession, ownId⟩ := handleSendMessage_ok handled
    obtain ⟨isSessionId, isContent⟩ := handleSendMessage_text handled
    have here : message.params.senderSession = connectionId :=
      ownSession.trans (wellFormed.ownId connectionId session found)
    have own := side.owns.sessions connectionId session found authenticated
    refine ⟨?_, ?_, ?_, ?_, ?_⟩
    · rw [sender]
      exact side.plain connectionId session found authenticated
    · rw [isServerId]
      rw [isPacket] at fresh
      exact (fresh isSend).1
    · rw [here]
      exact attached_actingNext sha256 traced.server event
        (side.owns.known connectionId session found)
    · rw [here, sender]
      exact own
    · intro isUser
      rw [ownId, isSessionId, isContent]
      exact reads connectionId packet stamp isPacket (own.mpr (sender.symm.trans isUser)) isSend

theorem extend (side : ServerSide sha256 userId links written sent traced)
    {connectionId : String}
    (fresh : connectionId ∉ traced.server.chat.management.attached)
    (free : traced.server.chat.management.manager.findByConnectionId connectionId = none) :
    ServerSide sha256 userId (connectionId :: links) written sent traced := by
  refine ⟨side.reached, side.owns.extend fresh free, side.plain, ?_⟩
  intro message member
  obtain ⟨plain, named, known, own, asked⟩ := side.accepted message member
  have differs : message.params.senderSession ≠ connectionId := fun same => fresh (same ▸ known)
  refine ⟨plain, named, known, ?_, asked⟩
  rw [List.mem_cons, or_iff_right differs]
  exact own

theorem grow (side : ServerSide sha256 userId links written sent traced)
    {new : List Message} {requests : List Packet}
    (unused : ∀ message ∈ new, message.msgId ∉ sent.map Packet.msgId) :
    ServerSide sha256 userId links (written ++ new) (sent ++ requests) traced := by
  refine ⟨side.reached, side.owns, side.plain, ?_⟩
  intro message member
  obtain ⟨plain, named, known, own, asked⟩ := side.accepted message member
  exact ⟨plain, named, known, own, fun isUser => (asked isUser).grow unused⟩

/-- An acknowledgement for a connection of the client is about a message of its user. -/
theorem took_of_acknowledged (side : ServerSide sha256 userId links written sent traced)
    (after : ServerSide sha256 userId links written sent (traced.next sha256 event))
    {ack : SentAck} (accounted : AckAccounted sha256 traced event ack)
    (isLink : ack.session ∈ links) (ok : ack.packet.code = 200) :
    (traced.next sha256 event).Took sha256 userId ack.packet.msgId
      (jsonText (ack.packet.payload.value "serverId")) := by
  obtain ⟨sender, sends, message, accepted, sameKey, isServerId, handedOn⟩ := accounted ok
  have isUser : sender = userId ∧ ':' ∉ sender.toList := by
    cases sends with
    | now isPacket found authenticated isSender =>
        rw [← isSender]
        exact ⟨(side.owns.sessions _ _ found authenticated).mp isLink,
          side.plain _ _ found authenticated⟩
    | before earlier known here isSender =>
        obtain ⟨plain, _, _, own, _⟩ := side.accepted earlier known
        rw [here, isSender] at own
        exact ⟨own.mp isLink, isSender ▸ plain⟩
  obtain ⟨same, sameId⟩ := requestKeyFor_inj (after.accepted message accepted).plain isUser.2
    sameKey
  exact ⟨message, accepted, same.trans isUser.1, sameId, isServerId, handedOn⟩

end ServerSide

/-! ## What the client has stored -/

structure ClientSide (userId : String) (written removed : List Message)
    (traced : TracedServer Text) (db : LocalDatabase) : Prop where
  isTrimmed : ∀ message ∈ written, trimmed message.content = message.content
  stored : ∀ message ∈ written, message ∉ removed →
    ∃ row, db.view.messages.find? message.msgId = some row
  texts : ∀ message ∈ written, ∀ row, db.view.messages.find? message.msgId = some row →
    row.sessionId = message.sessionId ∧ row.content = message.content
  delivered : ∀ message ∈ written, ∀ row, db.view.messages.find? message.msgId = some row →
    row.status = .delivered → ∃ serverId, row.serverId = some serverId ∧
      traced.Took sha256 userId message.msgId serverId

namespace ClientSide

variable {sha256} {userId : String} {written removed : List Message}
  {traced : TracedServer Text} {db after : LocalDatabase}

theorem next (side : ClientSide sha256 userId written removed traced db) (event : ActingEvent) :
    ClientSide sha256 userId written removed (traced.next sha256 event) db := by
  refine ⟨side.isTrimmed, side.stored, side.texts, ?_⟩
  intro message member row found isDelivered
  obtain ⟨serverId, isServerId, took⟩ := side.delivered message member row found isDelivered
  exact ⟨serverId, isServerId, took.next sha256 event⟩

omit [JsonDocument Text] in
theorem of_same (side : ClientSide sha256 userId written removed traced db)
    (same : ∀ message ∈ written,
      after.view.messages.find? message.msgId = db.view.messages.find? message.msgId) :
    ClientSide sha256 userId written removed traced after := by
  refine ⟨side.isTrimmed, ?_, ?_, ?_⟩
  · intro message member stays
    rw [same message member]
    exact side.stored message member stays
  · intro message member row found
    exact side.texts message member row (same message member ▸ found)
  · intro message member row found
    exact side.delivered message member row (same message member ▸ found)

omit [JsonDocument Text] in
theorem removes (side : ClientSide sha256 userId written removed traced db) {sessionId : String}
    (rows : ∀ msgId, after.view.messages.find? msgId =
      (db.view.messages.find? msgId).filter fun row => ¬ row.sessionId = sessionId) :
    ClientSide sha256 userId written
      (removed ++ written.filter fun message => message.sessionId = sessionId) traced after := by
  have before : ∀ msgId row, after.view.messages.find? msgId = some row →
      db.view.messages.find? msgId = some row := by
    intro msgId row found
    rw [rows] at found
    exact (Option.filter_eq_some_iff.mp found).1
  refine ⟨side.isTrimmed, ?_, fun message member row found =>
      side.texts message member row (before _ row found), fun message member row found =>
      side.delivered message member row (before _ row found)⟩
  intro message member stays
  rw [List.mem_append, not_or] at stays
  obtain ⟨row, found⟩ := side.stored message member stays.1
  have other : ¬ row.sessionId = sessionId := by
    rw [(side.texts message member row found).1]
    exact fun own => stays.2 (List.mem_filter.mpr ⟨member, decide_eq_true own⟩)
  exact ⟨row, (rows _).trans (Option.filter_eq_some_iff.mpr ⟨found, decide_eq_true other⟩)⟩

omit [JsonDocument Text] in
theorem keepsTexts (side : ClientSide sha256 userId written removed traced db)
    (kept : db.KeepsTexts after) : ClientSide sha256 userId written removed traced after := by
  refine ⟨side.isTrimmed, ?_, ?_, ?_⟩
  · intro message member stays
    obtain ⟨row, found⟩ := side.stored message member stays
    rcases kept message.msgId with same | ⟨status, _, changed⟩
    · exact ⟨row, same.trans found⟩
    · exact ⟨row.withStatus status "", changed.trans (by rw [found]; rfl)⟩
  · intro message member row found
    rcases kept message.msgId with same | ⟨status, _, changed⟩
    · exact side.texts message member row (same ▸ found)
    · rw [changed] at found
      obtain ⟨before, isStored, rfl⟩ := Option.map_eq_some_iff.mp found
      exact side.texts message member before isStored
  · intro message member row found isDelivered
    rcases kept message.msgId with same | ⟨status, notDelivered, changed⟩
    · exact side.delivered message member row (same ▸ found) isDelivered
    · rw [changed] at found
      obtain ⟨before, _, rfl⟩ := Option.map_eq_some_iff.mp found
      exact absurd isDelivered notDelivered

omit [JsonDocument Text] in
theorem starts {client started : SendMessageUseCase} {message : Message}
    (side : ClientSide sha256 userId written removed traced client.db)
    (isNew : Starts client message started)
    (unused : message.msgId ∉ written.map Message.msgId) :
    ClientSide sha256 userId (written ++ [message]) removed traced started.db := by
  have others : ∀ other ∈ written, started.db.view.messages.find? other.msgId =
      client.db.view.messages.find? other.msgId := by
    intro other member
    have differs : other.msgId ≠ message.msgId := fun same =>
      unused (List.mem_map.mpr ⟨other, member, same⟩)
    rw [isNew.rows, if_neg differs]
  have own : started.db.view.messages.find? message.msgId = some message.toRow := by
    rw [isNew.rows, if_pos rfl]
  have kept := side.of_same others
  refine ⟨?_, ?_, ?_, ?_⟩
  · intro other member
    rcases List.mem_append.mp member with old | new
    · exact side.isTrimmed other old
    · rw [List.mem_singleton.mp new]
      exact isNew.isTrimmed
  · intro other member stays
    rcases List.mem_append.mp member with old | new
    · exact kept.stored other old stays
    · rw [List.mem_singleton.mp new]
      exact ⟨message.toRow, own⟩
  · intro other member row found
    rcases List.mem_append.mp member with old | new
    · exact kept.texts other old row found
    · rw [List.mem_singleton.mp new] at found ⊢
      rw [← Option.some.inj (own.symm.trans found)]
      exact ⟨rfl, rfl⟩
  · intro other member row found isDelivered
    rcases List.mem_append.mp member with old | new
    · exact kept.delivered other old row found isDelivered
    · rw [List.mem_singleton.mp new] at found
      rw [← Option.some.inj (own.symm.trans found)] at isDelivered
      exact absurd (isNew.isSending.symm.trans isDelivered) (by decide)

omit [JsonDocument Text] in
/-- A message becomes delivered under the id of a message that was handed on. -/
theorem deliver (side : ClientSide sha256 userId written removed traced db) (updated : Bool)
    {msgId serverId : String} (took : traced.Took sha256 userId msgId serverId)
    (named : serverId ≠ "")
    (changed : after.view.messages =
      (db.updateMessageStatus updated msgId .delivered serverId).1.view.messages) :
    ClientSide sha256 userId written removed traced after := by
  have rows : ∀ other, after.view.messages.find? other =
      (db.view.messages.find? other).map fun row =>
        if updated = true ∧ other = msgId then row.withStatus .delivered serverId else row := by
    intro other
    rw [changed]
    exact db.find?_updateMessageStatus updated msgId other .delivered serverId
  refine ⟨side.isTrimmed, ?_, ?_, ?_⟩
  · intro message member stays
    obtain ⟨row, found⟩ := side.stored message member stays
    exact ⟨_, (rows _).trans (congrArg (Option.map _) found)⟩
  · intro message member row found
    rw [rows] at found
    obtain ⟨before, isStored, rfl⟩ := Option.map_eq_some_iff.mp found
    have texts := side.texts message member before isStored
    split
    · exact texts
    · exact texts
  · intro message member row found isDelivered
    rw [rows] at found
    obtain ⟨before, isStored, rfl⟩ := Option.map_eq_some_iff.mp found
    split at isDelivered
    · rename_i own
      rw [if_pos own, own.2]
      exact ⟨serverId, if_neg named, took⟩
    · rename_i other
      rw [if_neg other]
      exact side.delivered message member before isStored isDelivered

omit [JsonDocument Text] in
theorem asked (side : ClientSide sha256 userId written removed traced db) {gateway : NetworkGateway}
    {now : String} {signal : SendSignal} (isStored : signal.IsStored db) {packet : Packet}
    (isRequest : signal.request gateway now = some packet) {sent requests : List Packet}
    (isSent : packet ∈ requests) :
    Asked written (sent ++ requests) packet.msgId
      (jsonText (packet.payload.value "sessionId"))
      (jsonString (packet.payload.value "content")) := by
  refine ⟨List.mem_map.mpr ⟨packet, List.mem_append_right _ isSent, rfl⟩, ?_⟩
  intro message member same
  cases signal with
  | sendText msgId sender sessionId content sessionType recipient =>
      obtain ⟨row, found, rfl, rfl⟩ := isStored
      have fields : packet.msgId = msgId ∧
          jsonText (packet.payload.value "sessionId") = row.sessionId ∧
          jsonString (packet.payload.value "content") = some (trimmed row.content) := by
        simp only [SendSignal.request, NetworkGateway.sendText] at isRequest
        split at isRequest
        · cases isRequest
        split at isRequest
        · cases isRequest
        split at isRequest
        · cases isRequest
          simp [NetworkGateway.packetOf, QJsonObject.insert, QJsonObject.value, jsonText,
            jsonString]
        · cases isRequest
          simp [NetworkGateway.packetOf, QJsonObject.value, jsonText, jsonString]
      obtain ⟨isId, isSession, isContent⟩ := fields
      obtain ⟨sameSession, sameContent⟩ := side.texts message member row
        (by rw [same, isId]; exact found)
      rw [isSession, isContent, sameSession, sameContent, side.isTrimmed message member]
      exact ⟨rfl, rfl⟩
  | _ => cases isRequest

end ClientSide

/-! ## The two ends -/

structure DeliversOn (userId : String) (loop : SendLoop Text) : Prop where
  server : ServerSide sha256 userId loop.links loop.written loop.sent loop.traced
  client : ClientSide sha256 userId loop.written loop.removed loop.traced loop.client.db
  idle : loop.client.db.Idle
  upstream : ∀ write ∈ loop.upstream, ∀ packet, decode write.text = .ok packet →
    packet.cmd = .sendMessage → Asked loop.written loop.sent packet.msgId
      (jsonText (packet.payload.value "sessionId")) (jsonString (packet.payload.value "content"))
  downstream : ∀ write ∈ loop.downstream, ∀ packet, decode write.text = .ok packet →
    packet.cmd = .sendMessageAck → packet.code = 200 →
      loop.traced.Took sha256 userId packet.msgId (jsonText (packet.payload.value "serverId"))

namespace DeliversOn

variable {sha256} {userId : String} {loop : SendLoop Text}

theorem initial (tables : LocalTables) :
    DeliversOn sha256 userId (sendLoopSystem Text sha256 userId tables).initial := by
  refine ⟨⟨System.Reachable.initial, OwnsLinks.empty, ?_, ?_⟩, ⟨?_, ?_, ?_, ?_⟩, rfl, ?_, ?_⟩
  · intro connectionId session found
    cases found
  · exact fun message member => absurd member List.not_mem_nil
  · exact fun message member => absurd member List.not_mem_nil
  · exact fun message member => absurd member List.not_mem_nil
  · exact fun message member => absurd member List.not_mem_nil
  · exact fun message member => absurd member List.not_mem_nil
  · exact fun write member => absurd member List.not_mem_nil
  · exact fun write member => absurd member List.not_mem_nil

theorem onServer (delivers : DeliversOn sha256 userId loop) {event : ActingEvent}
    (enabled : event.enabled loop.traced.server) (fresh : FreshServerId loop.traced event)
    (leaves : MessageLoopEvent.LeavesLinks userId loop.links event ∨
      ∀ connectionId user nickname,
        event ≠ .session (.connectAccepted connectionId user nickname))
    (names : ∀ connectionId user nickname,
      event = .session (.connectAccepted connectionId user nickname) → ':' ∉ user.toList)
    (reads : ∀ connectionId packet stamp, event = .packetReceived connectionId packet stamp →
      connectionId ∈ loop.links → packet.cmd = .sendMessage →
        Asked loop.written loop.sent packet.msgId (jsonText (packet.payload.value "sessionId"))
          (jsonString (packet.payload.value "content"))) :
    DeliversOn sha256 userId (loop.onServer sha256 event) := by
  have after := delivers.server.next enabled fresh leaves names reads
  refine ⟨after, delivers.client.next event, delivers.idle, delivers.upstream, ?_⟩
  intro write member packet decoded isAck ok
  rcases List.mem_append.mp member with old | new
  · exact (delivers.downstream write old packet decoded isAck ok).next sha256 event
  · obtain ⟨ack, isAdded, rfl⟩ := List.mem_map.mp new
    obtain ⟨added, goesOut⟩ := List.mem_filter.mp isAdded
    rw [decode_encode] at decoded
    cases decoded
    obtain ⟨_, acks, acked, accounted⟩ := accounted_next delivers.server.reached
      (accounted_of_reachable sha256 loop.traced delivers.server.reached) event
    rw [acked, List.drop_left] at added
    have isLink : ack.session ∈ loop.links := (of_decide_eq_true goesOut).2
    exact delivers.server.took_of_acknowledged after (accounted ack added) isLink ok

theorem withUpstream (delivers : DeliversOn sha256 userId loop)
    {upstream : List (SocketWrite Text)} (fewer : ∀ write ∈ upstream, write ∈ loop.upstream) :
    DeliversOn sha256 userId { loop with upstream := upstream } :=
  ⟨delivers.server, delivers.client, delivers.idle,
    fun write member => delivers.upstream write (fewer write member), delivers.downstream⟩

theorem serverReads (delivers : DeliversOn sha256 userId loop) {place : Nat}
    {stamp : SendStamp} (enabled : SendLoopEvent.enabled userId loop (.serverReads place stamp)) :
    DeliversOn sha256 userId (loop.serverReads sha256 place stamp) := by
  unfold SendLoop.serverReads
  split
  · exact delivers
  rename_i write found
  have taken : DeliversOn sha256 userId
      { loop with upstream := loop.upstream.eraseIdx place } :=
    delivers.withUpstream fun _ member => List.mem_of_mem_eraseIdx member
  simp only
  split
  · exact taken
  · rename_i packet decoded
    obtain ⟨allowed, fresh⟩ := (enabled write found).2 packet decoded
    refine taken.onServer allowed fresh (Or.inr (by simp)) (by simp) ?_
    intro connectionId other otherStamp isPacket _ isSend
    cases isPacket
    exact delivers.upstream write (List.mem_of_getElem? found) packet decoded isSend

theorem opens (delivers : DeliversOn sha256 userId loop) {connectionId : String} {now : Int}
    (enabled : ActingEvent.enabled loop.traced.server
      (.session (.newConnection connectionId now))) :
    DeliversOn sha256 userId (loop.opens sha256 connectionId now) := by
  have opened : DeliversOn sha256 userId { loop with
      links := connectionId :: loop.links
      link := some connectionId } :=
    ⟨delivers.server.extend (enabled.1.2 connectionId now rfl) enabled.1.1.2, delivers.client,
      delivers.idle, delivers.upstream, delivers.downstream⟩
  exact opened.onServer enabled trivial (Or.inr (by simp)) (by simp) (by simp)

/-- Packets may be lost; requests among them are for written texts. -/
theorem writes (delivers : DeliversOn sha256 userId loop) {packets : List Packet}
    (asked : ∀ packet ∈ packets, packet.cmd = .sendMessage →
      Asked loop.written loop.sent packet.msgId (jsonText (packet.payload.value "sessionId"))
        (jsonString (packet.payload.value "content"))) :
    DeliversOn sha256 userId (loop.writes packets) := by
  unfold SendLoop.writes
  split
  · exact delivers
  refine ⟨delivers.server, delivers.client, delivers.idle, ?_, delivers.downstream⟩
  intro write member packet decoded isSend
  rcases List.mem_append.mp member with old | new
  · exact delivers.upstream write old packet decoded isSend
  · obtain ⟨request, isRequest, rfl⟩ := List.mem_map.mp new
    rw [decode_encode] at decoded
    cases decoded
    exact asked packet isRequest isSend

theorem grow (delivers : DeliversOn sha256 userId loop) {client : SendMessageUseCase}
    {new : List Message} {requests : List Packet} (idle : client.db.Idle)
    (unused : ∀ message ∈ new, message.msgId ∉ loop.sent.map Packet.msgId)
    (side : ClientSide sha256 userId (loop.written ++ new) loop.removed loop.traced client.db) :
    DeliversOn sha256 userId { loop with
      client := client
      written := loop.written ++ new
      sent := loop.sent ++ requests } :=
  ⟨delivers.server.grow unused, side, idle,
    fun write member packet decoded isSend =>
      (delivers.upstream write member packet decoded isSend).grow unused,
    delivers.downstream⟩

/-- The client stores and tells what is new, and then sends what is stored. -/
theorem acts (delivers : DeliversOn sha256 userId loop) {event : SendEvent} {now : String}
    {started : SendMessageUseCase} {told : List SendSignal}
    (idle : (event.next loop.client).db.Idle)
    (signals : started.signals = loop.client.signals ++ told)
    (quiet : told.filterMap (SendSignal.request loop.gateway now) = [])
    (unused : ∀ message ∈ told.filterMap SendSignal.newMessage,
      message.msgId ∉ loop.sent.map Packet.msgId)
    (side : ClientSide sha256 userId (loop.written ++ told.filterMap SendSignal.newMessage)
      loop.removed loop.traced started.db)
    (sends : SendsStored started (event.next loop.client)) :
    DeliversOn sha256 userId (loop.clientActs event now) := by
  obtain ⟨added, isAdded, stored⟩ := sends.signals
  have dropped : (event.next loop.client).signals.drop loop.client.signals.length =
      told ++ added := by
    rw [isAdded, signals, List.append_assoc, List.drop_left]
  have noneNew : added.filterMap SendSignal.newMessage = [] := by
    apply List.filterMap_eq_nil_iff.mpr
    intro signal member
    cases signal with
    | messageSent msgId message sessionType => exact absurd (stored _ member) id
    | _ => rfl
  unfold SendLoop.clientActs
  simp only [dropped, List.filterMap_append, quiet, noneNew, List.nil_append, List.append_nil]
  refine (delivers.grow idle unused (side.keepsTexts sends.texts)).writes ?_
  intro packet member isSend
  obtain ⟨signal, isSignal, isRequest⟩ := List.mem_filterMap.mp member
  exact side.asked (stored signal isSignal) isRequest member

theorem clientActs (delivers : DeliversOn sha256 userId loop) {event : SendEvent} {now : String}
    (enabled : SendLoopEvent.enabled userId loop (.clientActs event now))
    (plain : SendLoopEvent.Plain (.clientActs event now)) :
    DeliversOn sha256 userId (loop.clientActs event now) := by
  obtain ⟨allowed, alone⟩ := enabled
  have sending : (event.next loop.client).db.Idle →
      SendsStored loop.client (event.next loop.client) →
      DeliversOn sha256 userId (loop.clientActs event now) := by
    intro idle sends
    refine delivers.acts idle (List.append_nil _).symm rfl ?_ ?_ sends
    · exact fun message member => absurd member List.not_mem_nil
    · rw [List.filterMap_nil, List.append_nil]
      exact delivers.client
  cases event with
  | sendMessage run sessionId content msgId timestamp =>
      obtain ⟨freshId, neverSent⟩ := alone
      obtain ⟨idle, stored | ⟨message, started, rfl, isNew, sends⟩⟩ :=
        sendMessage_step delivers.idle plain sessionId content msgId timestamp
      · exact sending idle stored
      · obtain ⟨sessionType, signals⟩ := isNew.signals
        refine delivers.acts idle signals rfl ?_ (delivers.client.starts isNew freshId) sends
        intro other member
        rw [List.mem_singleton.mp member]
        exact neverSent
  | resendMessage run sessionId msgId =>
      exact sending (idle_resendMessage delivers.idle run sessionId msgId)
        (SendsStored.resendMessage loop.client run sessionId msgId)
  | recoverPendingMessages fetched run sessionId =>
      exact sending (idle_recoverPendingMessages delivers.idle fetched run sessionId)
        (SendsStored.recoverPendingMessages loop.client fetched run sessionId)
  | ackReceived => exact absurd alone id
  | ackFailed => exact absurd alone id
  | timerExpired timer updated =>
      refine sending ?_ (SendsStored.timerExpired loop.client timer updated)
      simp only [SendEvent.next]
      split
      · exact delivers.idle
      · exact delivers.idle.updateMessageStatus updated _ .failed ""
  | elsewhere tables =>
      have silent : (SendEvent.next loop.client (.elsewhere tables)).signals =
          loop.client.signals ++ [] := (List.append_nil _).symm
      refine delivers.acts (delivers.idle.write tables) silent rfl ?_ ?_ (SendsStored.refl _)
      · exact fun message member => absurd member List.not_mem_nil
      · rw [List.filterMap_nil, List.append_nil]
        apply delivers.client.of_same
        intro message member
        rw [SendEvent.next, LocalDatabase.view_write]
        exact alone message member

theorem clientReads (delivers : DeliversOn sha256 userId loop) (run : StatusRun) :
    DeliversOn sha256 userId (loop.clientReads run) := by
  unfold SendLoop.clientReads
  split
  · exact delivers
  rename_i connectionId _
  split
  · exact delivers
  rename_i write found
  have left : ∀ other ∈ loop.downstream.eraseP fun write => write.connectionId = connectionId,
      other ∈ loop.downstream := fun other member => List.mem_of_mem_eraseP member
  cases decoded : decode write.text with
  | error error =>
      exact ⟨delivers.server, delivers.client, delivers.idle, delivers.upstream,
        fun other member => delivers.downstream other (left other member)⟩
  | ok packet =>
      refine ⟨delivers.server, ?_, idle_handleIncomingPacket delivers.idle run packet,
        delivers.upstream, fun other member => delivers.downstream other (left other member)⟩
      rcases handleIncomingPacket_step loop.client run packet with
        quiet | ⟨isAck, accepted, changed⟩
      · exact delivers.client.keepsTexts quiet.texts
      · have took := delivers.downstream write (List.mem_of_find?_eq_some found) packet decoded
          isAck accepted
        obtain ⟨message, isAccepted, _, _, isServerId, _⟩ := id took
        have named := (delivers.server.accepted message isAccepted).named
        exact delivers.client.deliver run.updated took (isServerId ▸ named) changed

theorem removesSession (delivers : DeliversOn sha256 userId loop) {run : RemoveSessionRun}
    (closed : run.transaction.commit ≠ .leftOpen) (sessionId : String) :
    DeliversOn sha256 userId (loop.removesSession run sessionId) := by
  have idle := delivers.idle.removeSession_closed run closed sessionId
  unfold SendLoop.removesSession
  rcases LocalDatabase.find?_removeSession delivers.idle closed sessionId with
    ⟨failed, rows⟩ | ⟨succeeded, rows⟩
  · simp only [failed]
    exact ⟨delivers.server, delivers.client.of_same fun message _ => rows message.msgId, idle,
      delivers.upstream, delivers.downstream⟩
  · simp only [succeeded, if_true]
    exact ⟨delivers.server, delivers.client.removes rows, idle, delivers.upstream,
      delivers.downstream⟩

theorem restarted (delivers : DeliversOn sha256 userId loop) :
    DeliversOn sha256 userId (SendLoopEvent.next sha256 loop .restarted) := by
  refine ⟨delivers.server, ?_, rfl, delivers.upstream, delivers.downstream⟩
  apply delivers.client.of_same
  intro message _
  rw [delivers.idle.view_eq]
  rfl

end DeliversOn

theorem deliversOn_of_reachable (userId : String) (tables : LocalTables) :
    ∀ loop, ((sendLoopSystem Text sha256 userId tables).restrict
      fun _ => SendLoopEvent.Plain).Reachable loop → DeliversOn sha256 userId loop := by
  refine System.Reachable.invariant (DeliversOn.initial tables) ?_
  rintro loop event _ delivers ⟨enabled, plain⟩
  cases event with
  | server event =>
      obtain ⟨allowed, fresh, leaves⟩ := enabled
      refine delivers.onServer allowed fresh (Or.inl leaves) ?_ ?_
      · rintro connectionId user nickname rfl
        exact plain
      · rintro connectionId packet stamp rfl isLink _
        exact absurd isLink leaves
  | serverWrites connectionId packet =>
      refine ⟨delivers.server, delivers.client, delivers.idle, delivers.upstream, ?_⟩
      intro write member read decoded isAck
      rcases List.mem_append.mp member with old | new
      · exact delivers.downstream write old read decoded isAck
      · rw [List.mem_singleton.mp new, decode_encode] at decoded
        cases decoded
        exact absurd isAck enabled
  | serverReads place stamp => exact delivers.serverReads enabled
  | opens connectionId now => exact delivers.opens enabled.2
  | closes =>
      exact ⟨delivers.server, delivers.client, delivers.idle, delivers.upstream,
        delivers.downstream⟩
  | clientSends packet =>
      apply delivers.writes
      intro other member isSend
      rw [List.mem_singleton.mp member] at isSend
      exact absurd isSend enabled
  | clientActs event now => exact delivers.clientActs enabled plain
  | clientReads run => exact delivers.clientReads run
  | gatewayTurns gateway =>
      exact ⟨delivers.server, delivers.client, delivers.idle, delivers.upstream,
        delivers.downstream⟩
  | sessionDeleted run sessionId => exact delivers.removesSession plain sessionId
  | restarted => exact delivers.restarted

/-- What the user's client has written stays stored as it was written until its
session is removed.  Where it says `Delivered`, the server has let that very
message through as the user's, under the server id stored with it, and handed it
on to its recipient or to everybody else in its group, whatever was lost,
repeated or answered late. -/
theorem delivered_messages_handed_on (Text : Type) [JsonDocument Text]
    (sha256 : List Nat → String) (userId : String) (tables : LocalTables)
    (loop : SendLoop Text) (reached : ((sendLoopSystem Text sha256 userId tables).restrict
      fun _ => SendLoopEvent.Plain).Reachable loop) :
    ∀ written ∈ loop.written,
      (written ∉ loop.removed →
        ∃ row ∈ loop.client.db.view.messages.rows, row.msgId = written.msgId) ∧
      ∀ row ∈ loop.client.db.view.messages.rows, row.msgId = written.msgId →
        row.sessionId = written.sessionId ∧ row.content = written.content ∧
        (row.status = .delivered → ∃ message ∈ loop.traced.accepted,
          message.params.senderUserId = userId ∧ message.params.msgId = row.msgId ∧
          message.params.sessionId = row.sessionId ∧
          message.params.content = some row.content ∧
          row.serverId = some message.serverId ∧ loop.traced.HandedOn sha256 message) := by
  have delivers := deliversOn_of_reachable sha256 userId tables loop reached
  intro written isWritten
  refine ⟨?_, ?_⟩
  · intro stays
    obtain ⟨row, found⟩ := delivers.client.stored written isWritten stays
    exact ⟨row, (RowTable.find?_eq_some _ _ _).mp found⟩
  intro row rowIn sameId
  have found : loop.client.db.view.messages.find? written.msgId = some row :=
    (RowTable.find?_eq_some _ _ _).mpr ⟨rowIn, sameId⟩
  obtain ⟨sameSession, sameContent⟩ := delivers.client.texts written isWritten row found
  refine ⟨sameSession, sameContent, ?_⟩
  intro isDelivered
  obtain ⟨serverId, isServerId, message, accepted, sender, ownId, isMessage, handedOn⟩ :=
    delivers.client.delivered written isWritten row found isDelivered
  obtain ⟨_, texts⟩ := (delivers.server.accepted message accepted).asked sender
  obtain ⟨session, content⟩ := texts written isWritten ownId.symm
  exact ⟨message, accepted, sender, ownId.trans sameId.symm, session.trans sameSession.symm,
    content.trans (congrArg some sameContent.symm), isServerId.trans (congrArg some isMessage.symm),
    handedOn⟩

end Loop

def aliceKnowsBob : LocalTables where
  sessions := ⟨[⟨"1e2af26470aae83866fd22e2907b8d1b", .privateChat, "Bob", "bob", 0⟩], by decide⟩
  authUserId := "alice"

/-- Alice logs in and writes to bob, and the acknowledgement comes back. -/
def aliceWrites : List SendLoopEvent :=
  [.opens "c1" 0, .server (.session (.connectAccepted "c1" "alice" "Alice")),
    .gatewayTurns { connected := true, userId := "alice", nickname := "Alice" },
    .clientActs (.sendMessage {} "1e2af26470aae83866fd22e2907b8d1b" "hi" "m1"
      "2026-01-01T00:00:00Z") "2026-01-01T00:00:00Z",
    .serverReads 0 (aliceStamp "srv_1" "grpmsg_1"), .clientReads {}]

def aliceHasWritten : SendLoop ParsedText :=
  aliceWrites.foldl (SendLoopEvent.next aliceBobDigest)
    (sendLoopSystem ParsedText aliceBobDigest "alice" aliceKnowsBob).initial

def aliceWrittenRow : LocalMessageRow :=
  ⟨"m1", "1e2af26470aae83866fd22e2907b8d1b", "alice", "hi", .delivered, "2026-01-01T00:00:00Z",
    some "srv_1"⟩

theorem aliceHasWritten_reachable :
    ((sendLoopSystem ParsedText aliceBobDigest "alice" aliceKnowsBob).restrict
      fun _ => SendLoopEvent.Plain).Reachable aliceHasWritten := by
  have alice : "alice" ≠ "" := by decide
  refine System.Reachable.run aliceWrites _ System.Reachable.initial ?_
  refine ⟨⟨⟨rfl, ⟨⟨by decide, rfl⟩, ?_⟩, ⟨⟨by decide, rfl⟩, by simp⟩⟩, trivial⟩,
    ⟨⟨⟨⟨alice, by simp⟩, ⟨alice, ?_⟩⟩, trivial,
      (by decide : "c1" ∈ ["c1"] ↔ "alice" = "alice")⟩,
      (by decide : ':' ∉ "alice".toList)⟩,
    ⟨trivial, trivial⟩,
    ⟨⟨trivial, List.not_mem_nil, List.not_mem_nil⟩, (by decide : CommitOutcome.committed ≠ _)⟩,
    ⟨?_, trivial⟩, ⟨trivial, trivial⟩, trivial⟩
  · intro connectionId now isNew
    exact List.not_mem_nil
  · intro connectionId userId nickname accepted
    cases accepted
    decide
  · intro write found
    cases found
    refine ⟨fun earlier member => absurd member List.not_mem_nil, ?_⟩
    intro packet decoded
    cases decoded
    exact ⟨fun _ => ⟨rfl, ⟨"1", by decide⟩, fun load member => absurd member List.not_mem_nil⟩,
      fun _ => ⟨by decide, List.not_mem_nil⟩⟩

theorem delivered_messages_handed_on_alice :
    aliceWrittenRow ∈ aliceHasWritten.client.db.view.messages.rows ∧
      ∃ message ∈ aliceHasWritten.traced.accepted, message.serverId = "srv_1" ∧
        aliceHasWritten.traced.HandedOn aliceBobDigest message := by
  have rows : aliceHasWritten.client.db.view.messages.rows = [aliceWrittenRow] := by rfl
  have written : aliceHasWritten.written = [⟨"m1", "hi", "alice",
      "1e2af26470aae83866fd22e2907b8d1b", "2026-01-01T00:00:00Z", .sending, ""⟩] := by rfl
  have isStored : aliceWrittenRow ∈ aliceHasWritten.client.db.view.messages.rows :=
    rows ▸ List.mem_singleton_self _
  obtain ⟨_, texts⟩ := delivered_messages_handed_on ParsedText aliceBobDigest "alice"
    aliceKnowsBob aliceHasWritten aliceHasWritten_reachable _
    (written ▸ List.mem_singleton_self _)
  obtain ⟨_, _, handed⟩ := texts aliceWrittenRow isStored rfl
  obtain ⟨message, accepted, _, _, _, _, isServerId, handedOn⟩ := handed rfl
  exact ⟨isStored, message, accepted, (Option.some.inj isServerId).symm, handedOn⟩

end ShirohaChat
