import ShirohaChat.Server.Deliveries

/-!
# Messages reach only those they are for

A private message is for the recipient its sender named, a group message for
those who are members, with its sender, in the one member list read for it.
Whatever waits, is queued, comes back from the table or is written, no
`receive_message` is handed over for or written to anybody else.
-/

set_option autoImplicit false

namespace ShirohaChat

open Transition

inductive MayRead (sha256 : List Nat → String) (ran : List RanLoad) (message : AcceptedMessage)
    (userId : String) (packet : Packet) : Prop where
  | recipient (isPrivate : message.params.sessionType = "private")
      (named : userId = message.params.recipientUserId)
      (ownSession : message.params.sessionId =
        computePrivateSessionId sha256 message.params.senderUserId userId)
      (isMessage : packet = message.receiveMsg) : MayRead sha256 ran message userId packet
  | member (isGroup : message.params.sessionType = "group") (load : RanLoad)
      (read : load ∈ ran) (succeeded : load.Succeeded)
      (asked : load.query = ⟨message.params.sessionId, message.reqToken⟩)
      (sender : load.store.IsMember message.params.sessionId message.params.senderUserId)
      (reader : load.store.IsMember message.params.sessionId userId)
      (notSender : userId ≠ message.params.senderUserId) (groupName : String)
      (isMessage : packet = withGroupName message.receiveMsg groupName) :
      MayRead sha256 ran message userId packet

theorem MayRead.grows {sha256 : List Nat → String} {ran after : List RanLoad}
    {message : AcceptedMessage} {userId : String} {packet : Packet}
    (mayRead : MayRead sha256 ran message userId packet) (grows : ∀ load ∈ ran, load ∈ after) :
    MayRead sha256 after message userId packet := by
  cases mayRead with
  | recipient isPrivate named ownSession isMessage =>
      exact .recipient isPrivate named ownSession isMessage
  | member isGroup load read succeeded asked sender reader notSender groupName isMessage =>
      exact .member isGroup load (grows load read) succeeded asked sender reader notSender
        groupName isMessage

section Confidential
variable {Text : Type} [JsonDocument Text] (sha256 : List Nat → String)

def TracedServer.Permits (traced : TracedServer Text) (userId : String) (packet : Packet) :
    Prop :=
  ∃ message ∈ traced.accepted, MayRead sha256 traced.server.chat.ran message userId packet

structure Confidential (traced : TracedServer Text) : Prop where
  own : ∀ message ∈ traced.accepted, message.Own
  waits : ∀ token pending,
    traced.server.chat.delivery.pendingGroupMessages.lookup token = some pending →
      ∃ message ∈ traced.accepted, message.params.sessionType = "group" ∧
        message.reqToken = token ∧ pending = message.pending
  handed : ∀ entry ∈ traced.handed, entry.2.cmd = .receiveMessage →
    traced.Permits sha256 entry.1 entry.2

/-! ## Member lists that let a message out -/

section Decided
variable {server : ChatServer} {request : IssuedRequest} {result : GroupMembersResult}
  {rest : List (IssuedRequest × StoreReply)}

theorem ran_for_message (reached : (chatSystem sha256).Reachable server)
    (replies : server.management.replies = (request, .groupMembersLoaded result) :: rest)
    (isMessage : qStartsWith result.reqMsgId "grp_notify_" = false)
    {pending : PendingGroupMessage}
    (waits : server.delivery.pendingGroupMessages.lookup result.reqMsgId = some pending) :
    pending.senderUserId ≠ "" ∧ ∃ load ∈ server.ran, load.result = result ∧
      load.query = ⟨pending.groupId, result.reqMsgId⟩ ∧ GroupsConsistent load.store := by
  have reachedQueue := loadQueue_reachable sha256 server reached
  have inOrder := readInOrder_of_reachable _ reachedQueue
  have front : server.loadQueue.replies =
      result :: rest.filterMap fun entry => entry.2.membersResult := by
    simp [ChatServer.loadQueue, ManagementState.loadReplies, replies, StoreReply.membersResult]
  obtain ⟨asked, askedIn, sameToken, waiting, load, loadIn, isResult, sameQuery⟩ :=
    MessagesHandled.ran_of_front reachedQueue front
  have owned := inOrder.owned asked askedIn
  have waiter : server.loadWaiter result.reqMsgId = some asked.waiter := waiting
  rw [ChatServer.loadWaiter, isMessage, if_neg Bool.false_ne_true, waits] at waiter
  have isPending : asked.waiter = .message pending := (Option.some.inj waiter).symm
  simp only [AskedLoad.Owned, isPending] at owned
  refine ⟨owned.2.2, load, loadIn, isResult, ?_, inOrder.consistent load loadIn⟩
  rw [sameQuery, ← owned.2.1, ← sameToken]
  rfl

/-- Whoever is handed a group message is a member in the list read for it. -/
theorem mayRead_of_decided (reached : (chatSystem sha256).Reachable server)
    (replies : server.management.replies = (request, .groupMembersLoaded result) :: rest)
    (isMessage : qStartsWith result.reqMsgId "grp_notify_" = false)
    {message : AcceptedMessage} (isGroup : message.params.sessionType = "group")
    (token : message.reqToken = result.reqMsgId)
    (waits : server.delivery.pendingGroupMessages.lookup result.reqMsgId = some message.pending)
    (load : LoadStamp) :
    ∀ entry ∈ (onGroupMembersForMessage server.delivery load result).2.flatMap
      DeliverySignal.enqueues, MayRead sha256 server.ran message entry.1 entry.2 := by
  obtain ⟨named, ran, ranIn, isResult, query, consistent⟩ :=
    ran_for_message sha256 reached replies isMessage waits
  have asked : ran.query = ⟨message.params.sessionId, message.reqToken⟩ := by
    rw [query, token]
    rfl
  intro entry member
  rcases onGroupMembersForMessage_cases server.delivery load result with
    ⟨unknown, _⟩ | ⟨pending, found, ⟨_, handled⟩ | ⟨_, _, handled⟩ | ⟨success, insider, handled⟩⟩
  · rw [unknown] at waits
    cases waits
  · rw [handled] at member
    cases member
  · rw [handled] at member
    cases member
  · rw [found] at waits
    cases waits
    rw [handled] at member
    have inFanOut : entry ∈ enqueueIfOfflineMany result.members
        (withGroupName message.pending.receiveMsg result.groupName)
        message.pending.senderUserId := by
      simpa [DeliverySignal.enqueues] using member
    obtain ⟨userId, chosen, rfl⟩ := List.mem_map.mp inFanOut
    obtain ⟨isMember, others⟩ := List.mem_filter.mp chosen
    have notSender : userId ≠ message.pending.senderUserId := by
      simpa [named] using others
    rcases ran.result_cases consistent with ⟨failed, _, _⟩ | ⟨_, succeeded, _, members⟩
    · rw [isResult, success] at failed
      cases failed
    · rw [isResult] at members
      rw [asked] at members
      exact .member isGroup ran ranIn succeeded asked ((members _).mp insider)
        ((members _).mp isMember) notSender result.groupName rfl

end Decided

/-! ## What holds in every run -/

section Step
variable {sha256} {traced after : TracedServer Text} {letIn : List AcceptedMessage}
  {given : List (String × Packet)}

omit [JsonDocument Text] in
theorem Confidential.of_step (confidential : Confidential sha256 traced)
    (accepted : after.accepted = traced.accepted ++ letIn)
    (handed : after.handed = traced.handed ++ given)
    (grows : ∀ load ∈ traced.server.chat.ran, load ∈ after.server.chat.ran)
    (own : ∀ message ∈ letIn, message.Own)
    (waits : ∀ token pending,
      after.server.chat.delivery.pendingGroupMessages.lookup token = some pending →
        traced.server.chat.delivery.pendingGroupMessages.lookup token = some pending ∨
        ∃ message ∈ letIn, message.params.sessionType = "group" ∧ message.reqToken = token ∧
          pending = message.pending)
    (permits : ∀ entry ∈ given, entry.2.cmd = .receiveMessage →
      ∃ message ∈ traced.accepted ++ letIn,
        MayRead sha256 traced.server.chat.ran message entry.1 entry.2) :
    Confidential sha256 after := by
  refine ⟨?_, ?_, ?_⟩
  · intro message member
    rw [accepted] at member
    exact (List.mem_append.mp member).elim (confidential.own message) (own message)
  · intro token pending found
    rw [accepted]
    rcases waits token pending found with old | ⟨message, member, isWaiting⟩
    · obtain ⟨message, member, isWaiting⟩ := confidential.waits token pending old
      exact ⟨message, List.mem_append_left _ member, isWaiting⟩
    · exact ⟨message, List.mem_append_right _ member, isWaiting⟩
  · intro entry member isMessage
    unfold TracedServer.Permits
    rw [accepted]
    rw [handed] at member
    rcases List.mem_append.mp member with old | new
    · obtain ⟨message, known, mayRead⟩ := confidential.handed entry old isMessage
      exact ⟨message, List.mem_append_left _ known, mayRead.grows grows⟩
    · obtain ⟨message, known, mayRead⟩ := permits entry new isMessage
      exact ⟨message, known, mayRead.grows grows⟩

theorem Confidential.next (reached : (tracedSystem Text sha256).Reachable traced)
    (confidential : Confidential sha256 traced) (event : ActingEvent) :
    Confidential sha256 (traced.next sha256 event) := by
  have reachedChat := chat_reachable sha256 traced.server (acting_reachable sha256 traced reached)
  have step := messageStep sha256 (noticesWait_of_reachable sha256 _ reachedChat) event
  have noMessage : ∀ message ∈ ([] : List AcceptedMessage), message.Own :=
    fun message member => absurd member List.not_mem_nil
  have accepted : (traced.next sha256 event).accepted =
      traced.accepted ++ traced.server.acceptedBy sha256 event := rfl
  have handed : (traced.next sha256 event).handed =
      traced.handed ++ traced.server.handedBy sha256 event := rfl
  generalize traced.server.acceptedBy sha256 event = letIn at step accepted
  generalize traced.server.handedBy sha256 event = given at step handed
  refine confidential.of_step accepted handed (ran_next sha256 traced.server event)
    ?own ?waits ?permits
  case own =>
    cases step with
    | quiet => exact noMessage
    | delivered message own => exact fun other member => List.mem_singleton.mp member ▸ own
    | waits message own => exact fun other member => List.mem_singleton.mp member ▸ own
    | decided => exact noMessage
  case waits =>
    intro token other found
    have after : (traced.next sha256 event).server = event.next sha256 traced.server := rfl
    rw [after] at found
    cases step with
    | quiet _ pending => exact Or.inl (pending ▸ found)
    | delivered _ _ _ _ pending => exact Or.inl (pending ▸ found)
    | waits message _ isGroup pending =>
        rw [pending] at found
        rcases FiniteMap.of_lookup_insert found with ⟨isToken, rfl⟩ | ⟨_, old⟩
        · exact Or.inr ⟨message, List.mem_singleton_self _, isGroup, isToken.symm, rfl⟩
        · exact Or.inl old
    | decided _ _ _ pending =>
        rw [pending token] at found
        split at found
        · cases found
        · exact Or.inl found
  case permits =>
    intro entry member isReceive
    cases step with
    | quiet told => exact absurd isReceive (told entry member)
    | delivered message own isPrivate ownSession =>
        rw [List.mem_singleton.mp member]
        exact ⟨message, List.mem_append_right _ (List.mem_singleton_self _),
          .recipient isPrivate rfl ownSession rfl⟩
    | waits => exact absurd member List.not_mem_nil
    | @decided load request result rest replies isMessage =>
        cases waiting : traced.server.chat.delivery.pendingGroupMessages.lookup
          result.reqMsgId with
        | none =>
            have silent : onGroupMembersForMessage traced.server.chat.delivery load result =
                (traced.server.chat.delivery, []) := by
              simp only [onGroupMembersForMessage, waiting]
            rw [silent] at member
            cases member
        | some found =>
            obtain ⟨message, known, isGroup, token, rfl⟩ :=
              confidential.waits result.reqMsgId found waiting
            exact ⟨message, List.mem_append_left _ known, mayRead_of_decided sha256 reachedChat
              replies isMessage isGroup token waiting load entry member⟩

end Step

theorem confidential_of_reachable : ∀ traced, (tracedSystem Text sha256).Reachable traced →
    Confidential sha256 traced := by
  apply System.Reachable.invariant
  · refine ⟨?_, ?_, ?_⟩
    · exact fun message member => absurd member List.not_mem_nil
    · intro token pending found
      cases found
    · exact fun entry member => absurd member List.not_mem_nil
  · intro traced event reached confidential _
    exact confidential.next reached event

/-! ## What goes to the wire -/

/-- A write that answers its own connection, or one that `routeToUser` makes
for something handed over. -/
inductive WrittenFor (manager : SessionManager) (handed : List (String × Packet))
    (write : SocketWrite Text) : Prop where
  | answer (packet : Packet) (noMessage : packet.cmd ≠ .receiveMessage)
      (text : write.text = packet.encode) : WrittenFor manager handed write
  | routed (userId : String) (packet : Packet) (given : (userId, packet) ∈ handed)
      (written : write ∈ (routeToUser Text manager userId packet).2) :
      WrittenFor manager handed write

theorem text_routeToUser {manager : SessionManager} {userId : String} {packet : Packet}
    {write : SocketWrite Text} (written : write ∈ (routeToUser Text manager userId packet).2) :
    write.text = packet.encode := by
  unfold routeToUser ClientSession.sendPacket at written
  split at written
  · cases written
  · split at written
    · rw [List.mem_singleton.mp written]
    · cases written

theorem writtenFor_sendError {manager : SessionManager} {handed : List (String × Packet)}
    (session : ClientSession) (msgId : String) (code : Int32) (message : String) :
    ∀ write ∈ (session.sendError msgId code message : List (SocketWrite Text)),
      WrittenFor manager handed write := by
  intro write written
  unfold ClientSession.sendError ClientSession.sendPacket at written
  split at written
  · rw [List.mem_singleton.mp written]
    exact .answer _ (by decide : Command.unknown ≠ .receiveMessage) rfl
  · cases written

theorem wire_offlineNext {record : OfflineRecord Text} (carries : record.CarriesPackets)
    (event : OfflineEvent) (other : ∀ userId packet, event ≠ .enqueueIfOffline userId packet) :
    ∃ writes, (event.next record.server).wire = record.server.wire ++ writes ∧
      ∀ write ∈ writes, WrittenFor record.server.sessions record.queued write := by
  have silent : ∀ {after : OfflineServer Text}, after.wire = record.server.wire →
      ∃ writes, after.wire = record.server.wire ++ writes ∧
        ∀ write ∈ writes, WrittenFor record.server.sessions record.queued write := fun same =>
    ⟨[], by rw [same, List.append_nil], fun _ member => absurd member List.not_mem_nil⟩
  cases event with
  | session event => cases event <;> exact silent rfl
  | enqueueIfOffline userId packet => exact absurd rfl (other userId packet)
  | messageReceivedAck connectionId msgId =>
      simp only [OfflineEvent.next, OfflineServer.handleMessageReceivedAck]
      split
      · exact silent rfl
      · rename_i session _
        split
        · exact ⟨_, rfl, writtenFor_sendError session _ _ _⟩
        · split
          · exact ⟨_, rfl, writtenFor_sendError session _ _ _⟩
          · exact silent rfl
  | storeStep ok =>
      refine silent ?_
      simp only [OfflineEvent.next, OfflineServer.storeStep]
      split <;> rfl
  | offlineLoaded =>
      cases waiting : record.server.toMain with
      | nil =>
          refine silent ?_
          rw [OfflineEvent.next, OfflineServer.offlineLoaded_nil waiting]
      | cons result rest =>
          have loaded : result ∈ record.server.toMain := waiting ▸ List.mem_cons_self
          have written := (onOfflineLoaded_written record.server.sessions record.server.offline
            record.server.wire result).1
          have wire := congrArg OfflineServer.wire (OfflineRecord.server_offlineLoaded waiting)
          refine ⟨_, wire.trans written, ?_⟩
          intro write member
          obtain ⟨packet, routed, here⟩ := List.mem_flatMap.mp member
          have queued := (carries.routedBy loaded).subset routed
          obtain ⟨entry, entryIn, rfl⟩ := List.mem_map.mp queued
          obtain ⟨isQueued, ofUser⟩ := List.mem_filter.mp entryIn
          have sameUser : entry.1 = result.userId := by simpa using ofUser
          exact .routed result.userId entry.2 (sameUser ▸ isQueued) here

theorem wire_deliver (handed : List (String × Packet)) : ∀ server : OfflineServer Text,
    ((handed.map fun handed => OfflineEvent.enqueueIfOffline handed.1 handed.2).foldl
      OfflineEvent.next server).wire =
      server.wire ++ handed.flatMap fun handed =>
        (routeToUser Text server.sessions handed.1 handed.2).2 := by
  induction handed with
  | nil => exact fun server => (List.append_nil _).symm
  | cons first rest ih =>
      intro server
      have here : (server.enqueue first.1 first.2).wire =
          server.wire ++ (routeToUser Text server.sessions first.1 first.2).2 := by
        simp only [OfflineServer.enqueue, enqueueIfOffline]
        split <;> rename_i answered <;> rw [answered]
      rw [List.map_cons, List.foldl_cons, ih, List.flatMap_cons, ← List.append_assoc]
      exact congrArg (· ++ _) here

theorem wire_next {traced : TracedServer Text}
    (reached : (tracedSystem Text sha256).Reachable traced) (event : ActingEvent) :
    ∃ writes, (event.next sha256 traced.server).offline.wire =
      traced.server.offline.wire ++ writes ∧
      ∀ write ∈ writes, WrittenFor traced.server.chat.management.manager
        (traced.next sha256 event).handed write := by
  obtain ⟨reachedRecord, sameServer⟩ := record_reachable sha256 traced reached
  have carries := OfflineRecord.carriesPackets_of_reachable _ reachedRecord
  have queued := queued_of_reachable sha256 traced reached
  have sessions := sessions_of_reachable sha256 traced.server
    (acting_reachable sha256 traced reached)
  rw [offline_next, ← sessions]
  rcases offlineEvents_cases sha256 traced.server event with ⟨_, offline, one, other⟩ | calls
  · obtain ⟨writes, wire, written⟩ := wire_offlineNext carries offline other
    rw [one, ← sameServer]
    refine ⟨writes, wire, ?_⟩
    intro write member
    cases written write member with
    | answer packet noMessage text => exact .answer packet noMessage text
    | routed userId packet given written =>
        exact .routed userId packet (List.mem_append_left _ (queued.subset given)) written
  · rw [calls, wire_deliver]
    refine ⟨_, rfl, ?_⟩
    intro write member
    obtain ⟨entry, given, written⟩ := List.mem_flatMap.mp member
    exact .routed entry.1 entry.2 (List.mem_append_right _ given) written

/-! ## Messages reach only those they are for -/

def WrittenToReader (before after : TracedServer Text) (write : SocketWrite Text)
    (packet : Packet) : Prop :=
  ∃ session, before.server.chat.management.manager.findByConnectionId write.connectionId =
      some session ∧ session.isAuthenticated = true ∧
    after.Permits sha256 session.userId packet

/-- As long as no `Connect` takes over a connection that the user map points
another user at, every message is its authenticated sender's, is handed over
only for those it is for, and is written only to their sessions. -/
theorem messages_reach_their_readers (Text : Type) [JsonDocument Text]
    (sha256 : List Nat → String) (traced : TracedServer Text)
    (reached : ((tracedSystem Text sha256).restrict fun traced =>
      KeepsUsers traced.server).Reachable traced) :
    (∀ message ∈ traced.accepted, message.Own) ∧
    (∀ entry ∈ traced.handed, entry.2.cmd = .receiveMessage →
      traced.Permits sha256 entry.1 entry.2) ∧
    ∀ event, ∃ writes, (event.next sha256 traced.server).offline.wire =
        traced.server.offline.wire ++ writes ∧
      ∀ write ∈ writes, ∀ packet, decode write.text = .ok packet →
        packet.cmd = .receiveMessage →
          WrittenToReader sha256 traced (traced.next sha256 event) write packet := by
  have free := reached.of_restrict
  have confidential := confidential_of_reachable sha256 traced free
  refine ⟨confidential.own, confidential.handed, ?_⟩
  intro event
  have managed := sessions_keepUsers sha256 traced reached
  have sound := (backed_of_keepsUser _ managed).findsOwnSession
    (sessionsWellFormed_of_reachable _ managed.of_restrict)
  obtain ⟨writes, wire, written⟩ := wire_next sha256 free event
  refine ⟨writes, wire, ?_⟩
  intro write member packet decoded isMessage
  cases written write member with
  | answer other noMessage text =>
      rw [text, decode_encode] at decoded
      cases decoded
      exact absurd isMessage noMessage
  | routed userId other given routed =>
      rw [text_routeToUser routed, decode_encode] at decoded
      cases decoded
      obtain ⟨session, attached, authenticated, rfl⟩ :=
        routeToUser_writes sound userId packet write routed
      exact ⟨session, attached, authenticated,
        (confidential.next free event).handed _ given isMessage⟩

def aliceTellsBob : List ActingEvent :=
  [.session (.newConnection "c1" 0), .session (.connectAccepted "c1" "alice" "Alice"),
    .session (.newConnection "c2" 0), .session (.connectAccepted "c2" "bob" "Bob"),
    .packetReceived "c1" (privatePacket "m1" [("content", .string "hi")])
      (aliceStamp "srv_1" "grpmsg_1")]

def aliceToldBob : TracedServer ParsedText :=
  aliceTellsBob.foldl (TracedServer.next aliceBobDigest) TracedServer.empty

def messageForBob : Packet :=
  receiveMessageFor "private" aliceToBob "srv_1" "2026-01-01T00:00:00.000Z"

theorem aliceToldBob_reachable : ((tracedSystem ParsedText aliceBobDigest).restrict fun traced =>
    KeepsUsers traced.server).Reachable aliceToldBob := by
  have alice : "alice" ≠ "" := by decide
  have bob : "bob" ≠ "" := by decide
  refine System.Reachable.run aliceTellsBob _ System.Reachable.initial ?_
  refine ⟨⟨⟨⟨⟨by decide, rfl⟩, ?_⟩, ⟨⟨by decide, rfl⟩, nofun⟩⟩, trivial⟩,
    ⟨⟨⟨alice, nofun⟩, ⟨alice, ?_⟩⟩, ?_⟩,
    ⟨⟨⟨⟨by decide, rfl⟩, ?_⟩, ⟨⟨by decide, rfl⟩, nofun⟩⟩, trivial⟩,
    ⟨⟨⟨bob, nofun⟩, ⟨bob, ?_⟩⟩, ?_⟩, ⟨fun _ => ⟨rfl, ⟨"1", by decide⟩, ?_⟩, trivial⟩, trivial⟩
  · intro connectionId now isNew
    exact List.not_mem_nil
  · intro connectionId userId nickname accepted
    cases accepted
    decide
  · intro other mapped
    cases mapped
  · intro connectionId now isNew
    cases isNew
    decide
  · intro connectionId userId nickname accepted
    cases accepted
    decide
  · intro other mapped
    have userMap := SessionManager.userMap_connectAccepted
      (SessionEvent.next SessionManager.empty (.newConnection "c1" 0)) "c1" "alice" "Alice" other
    have isAlice := userMap.symm.trans mapped
    split at isAlice
    · exact absurd isAlice (by decide)
    · cases isAlice
  · exact fun load member => absurd member List.not_mem_nil

theorem messages_reach_their_readers_bob :
    ("bob", messageForBob) ∈ aliceToldBob.handed ∧
      aliceToldBob.Permits aliceBobDigest "bob" messageForBob := by
  have handed : aliceToldBob.handed = [("bob", messageForBob)] := rfl
  have forBob : ("bob", messageForBob) ∈ aliceToldBob.handed :=
    handed ▸ List.mem_singleton_self _
  exact ⟨forBob, (messages_reach_their_readers ParsedText aliceBobDigest _
    aliceToldBob_reachable).2.1 _
    forBob rfl⟩

end Confidential
end ShirohaChat
