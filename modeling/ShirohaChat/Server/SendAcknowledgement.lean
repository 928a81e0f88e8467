import ShirohaChat.Server.GroupMessageRuns

/-!
# Acknowledgements of send requests

A group message that waits for its member list keeps one session, the first one
that sent it; a repeated request is dropped in silence while it waits.  So every
session gets its acknowledgement as long as no request is dropped whose session
neither is the one that waits nor has been acknowledged before.
-/

set_option autoImplicit false

namespace ShirohaChat

open Transition

def Acknowledged (server : ChatServer) (connectionId msgId : String) : Prop :=
  ∃ ack ∈ server.acks, ack.session = connectionId ∧ ack.packet.cmd = .sendMessageAck ∧
    ack.packet.msgId = msgId ∧ ack.delivered = true

def WaitsForMembers (server : ChatServer) (connectionId msgId : String) : Prop :=
  ∃ token pending, server.delivery.pendingGroupMessages.lookup token = some pending ∧
    pending.senderSession = connectionId ∧ pending.clientMsgId = msgId

def Heard (server : ChatServer) (connectionId msgId : String) : Prop :=
  Acknowledged server connectionId msgId ∨ WaitsForMembers server connectionId msgId

/-- The claim about one state: with no member list in flight, each request that
passed the handler is acknowledged at its session, if that is connected. -/
def SentAcknowledged (server : ChatServer) : Prop :=
  server.management.memberLoads = [] → ∀ request ∈ server.sent,
    server.management.manager.connected request.1 = true →
    Acknowledged server request.1 request.2

/-- The request is valid, has no cached outcome, and is taken for one that is
already in flight. -/
structure TakenForInFlight (sha256 : List Nat → String) (service : MessageDeliveryService)
    (stamp : SendStamp) (params : SendMessageParams) : Prop where
  uncached : (service.pruneIdempotencyCache stamp.prunedAt).idempotencyCache.lookup
    (requestKeyFor params.senderUserId params.msgId) = none
  fits : contentTooLarge params.content = false
  idMatches : sessionIdMismatch sha256 params = false
  isGroup : params.sessionType ≠ "private"
  inFlight : requestKeyFor params.senderUserId params.msgId ∈ service.inFlightGroupMsgIds

theorem processSendMessage_takenForInFlight {sha256 : List Nat → String}
    {service : MessageDeliveryService} {stamp : SendStamp} {params : SendMessageParams}
    (taken : TakenForInFlight sha256 service stamp params) :
    processSendMessage sha256 service stamp params =
      (service.pruneIdempotencyCache stamp.prunedAt, []) := by
  unfold processSendMessage
  simp only [taken.uncached, taken.fits, taken.idMatches, if_neg taken.isGroup,
    MessageDeliveryService.inFlightGroupMsgIds_prune, if_neg Bool.false_ne_true]
  exact if_pos taken.inFlight

theorem takenForInFlight_of_silent {sha256 : List Nat → String}
    {service : MessageDeliveryService} {stamp : SendStamp} {params : SendMessageParams}
    (silent : (processSendMessage sha256 service stamp params).2 = []) :
    TakenForInFlight sha256 service stamp params := by
  unfold processSendMessage at silent
  simp only at silent
  split at silent
  · cases silent
  · rename_i uncached
    split at silent
    · cases silent
    · rename_i fits
      split at silent
      · cases silent
      · rename_i idMatches
        split at silent
        · cases silent
        · rename_i isGroup
          split at silent
          · rename_i inFlight
            exact ⟨uncached, Bool.eq_false_iff.mpr fits, Bool.eq_false_iff.mpr idMatches,
              isGroup, inFlight⟩
          · cases silent

/-- A dropped request comes from the session that waits, or from one that has
been acknowledged before. -/
def DropsHeard (sha256 : List Nat → String) (server : ChatServer) : ChatEvent → Prop
  | .management _ _ => True
  | .sendMessage connectionId packet stamp => ∀ session params,
      server.management.manager.findByConnectionId connectionId = some session →
      handleSendMessage session packet = .ok params →
      TakenForInFlight sha256 server.delivery stamp params →
      Heard server params.senderSession params.msgId

/-! ## What a step keeps -/

theorem Acknowledged.append {server after : ChatServer} {connectionId msgId : String}
    (acknowledged : Acknowledged server connectionId msgId) {added : List SentAck}
    (acks : after.acks = server.acks ++ added) : Acknowledged after connectionId msgId := by
  obtain ⟨ack, member, fields⟩ := acknowledged
  refine ⟨ack, ?_, fields⟩
  rw [acks]
  exact List.mem_append_left _ member

/-- An acknowledgement of a call reaches its session when that is connected. -/
theorem acknowledged_of_signal {server after : ChatServer} {signals : List DeliverySignal}
    (acks : after.acks =
      server.acks ++ ChatServer.sentAcks server.management.manager signals)
    {session msgId : String}
    (emits : ∃ code message serverId, .ackReady session msgId code message serverId ∈ signals)
    (connected : server.management.manager.connected session = true) :
    Acknowledged after session msgId := by
  obtain ⟨code, message, serverId, emitted⟩ := emits
  refine ⟨⟨session, onAckReady msgId code message serverId,
    server.management.manager.connected session⟩, ?_, rfl, rfl, rfl, connected⟩
  rw [acks]
  refine List.mem_append_right _ (List.mem_map.mpr ⟨(session, _), ?_, rfl⟩)
  exact List.mem_filterMap.mpr ⟨_, emitted, rfl⟩

/-- However a list turns out, it acknowledges the message at its session. -/
theorem Answers.acknowledges {pending : PendingGroupMessage} {result : GroupMembersResult}
    {signals : List DeliverySignal} (answers : Answers pending result signals) :
    ∃ code message serverId, .ackReady pending.senderSession pending.clientMsgId code message
      serverId ∈ signals := by
  rcases answers with ⟨_, rfl⟩ | ⟨_, _, rfl⟩ | ⟨_, _, content, timestamp, rfl⟩
  · exact ⟨_, _, _, List.mem_cons_self⟩
  · exact ⟨_, _, _, List.mem_cons_self⟩
  · exact ⟨_, _, _, List.mem_cons_self⟩

structure SendersKnown (server : ChatServer) : Prop where
  attached : ∀ request ∈ server.sent, request.1 ∈ server.management.attached
  messages : ∀ token pending,
    server.delivery.pendingGroupMessages.lookup token = some pending →
    qStartsWith token "grp_notify_" = false

/-- A management step hands a member list to the delivery service, or leaves its
state, its acknowledgements and the requests alone. -/
theorem ChatServer.onManagement_cases (server : ChatServer) (event : ManagementEvent)
    (stamp : LoadStamp) :
    (∃ notify request result rest, event = .handleNext notify ∧
      server.management.replies = (request, .groupMembersLoaded result) :: rest ∧
      qStartsWith result.reqMsgId "grp_notify_" = false) ∨
    ((server.onManagement event stamp).delivery = server.delivery ∧
      (server.onManagement event stamp).acks = server.acks ∧
      (server.onManagement event stamp).sent = server.sent) := by
  cases event with
  | handleNext notify =>
      cases front : server.nextMembers with
      | none =>
          refine Or.inr ?_
          simp only [onManagement, front]
          exact ⟨trivial, trivial, trivial⟩
      | some taken =>
          obtain ⟨request, result⟩ := taken
          unfold nextMembers at front
          split at front
          · rename_i other members rest replies
            split at front
            · cases front
            · rename_i notNotify
              cases front
              exact Or.inl ⟨notify, request, result, rest, rfl, replies,
                Bool.eq_false_iff.mpr notNotify⟩
          · cases front
  | _ => exact Or.inr ⟨rfl, rfl, rfl⟩

theorem manager_next (state : ManagementState) (event : ManagementEvent) :
    (∃ sessionEvent, event = .session sessionEvent) ∨
      ((event.next state).manager = state.manager ∧
        (event.next state).attached = state.attached) := by
  cases event with
  | session event => exact Or.inl ⟨event, rfl⟩
  | sessionDeleted connectionId => exact Or.inr ⟨rfl, rfl⟩
  | ensureUser run userId nickname => exact Or.inr ⟨rfl, rfl⟩
  | packetReceived other packet =>
      refine Or.inr ?_
      rw [ManagementEvent.next, ManagementState.onPacketReceived]
      split
      · exact ⟨rfl, rfl⟩
      · rename_i session found
        rcases dispatch_cases state session packet with
          ⟨_, group, friend, call, issued, _⟩ | ⟨refusal, refused⟩ | ⟨_, ignored⟩
        · rw [issued]
          exact ⟨rfl, rfl⟩
        · rw [refused]
          exact ⟨rfl, rfl⟩
        · rw [ignored]
          exact ⟨rfl, rfl⟩
  | executeNext run =>
      refine Or.inr ?_
      rw [ManagementEvent.next, ManagementState.executeNext]
      split
      · exact ⟨rfl, rfl⟩
      · exact ⟨rfl, rfl⟩
  | handleNext stamp =>
      refine Or.inr ?_
      rw [ManagementEvent.next, ManagementState.handleNext]
      split
      · exact ⟨rfl, rfl⟩
      · rename_i request reply rest waiting
        have emitted := Emits.onStoreReply { state with replies := rest } stamp request reply
        exact ⟨emitted.manager, emitted.attached⟩

theorem attached_next (state : ManagementState) (event : ManagementEvent) {connectionId : String}
    (attached : connectionId ∈ state.attached) : connectionId ∈ (event.next state).attached := by
  rcases manager_next state event with ⟨sessionEvent, rfl⟩ | ⟨_, same⟩
  · cases sessionEvent with
    | newConnection fresh now => exact List.mem_append_left _ attached
    | _ => exact attached
  · rw [same]
    exact attached

theorem connected_before {state : ManagementState} {event : ManagementEvent}
    (enabled : event.enabled state) {connectionId : String}
    (attached : connectionId ∈ state.attached)
    (connected : (event.next state).manager.connected connectionId = true) :
    state.manager.connected connectionId = true := by
  rcases manager_next state event with ⟨sessionEvent, rfl⟩ | ⟨same, _⟩
  · rcases connected_next state.manager sessionEvent connected with ⟨now, isNew⟩ | before
    · exact absurd attached (enabled.2 connectionId now isNew)
    · exact before
  · rw [same] at connected
    exact connected

/-- A packet passes the handler, or is answered by it at most. -/
theorem ChatServer.sendMessage_cases (sha256 : List Nat → String) (server : ChatServer)
    (connectionId : String) (packet : Packet) (stamp : SendStamp) :
    (∃ session params, server.management.manager.findByConnectionId connectionId = some session ∧
      handleSendMessage session packet = .ok params) ∨
    ∃ added, server.sendMessage sha256 connectionId packet stamp =
      { server with acks := server.acks ++ added } := by
  unfold sendMessage
  cases found : server.management.manager.findByConnectionId connectionId with
  | none => exact Or.inr ⟨[], by simp⟩
  | some session =>
      cases handled : handleSendMessage session packet with
      | error refusal =>
          refine Or.inr ⟨[⟨session.connectionId, refusal,
            server.management.manager.connected session.connectionId⟩], ?_⟩
          simp only [handled, acknowledge]
      | ok params => exact Or.inl ⟨session, params, rfl, handled⟩

/-- What a request that passes the handler does to the server. -/
theorem ChatServer.sendMessage_accepted (sha256 : List Nat → String) {server : ChatServer}
    {connectionId : String} {packet : Packet} (stamp : SendStamp) {session : ClientSession}
    {params : SendMessageParams}
    (found : server.management.manager.findByConnectionId connectionId = some session)
    (accepted : handleSendMessage session packet = .ok params) :
    let after := server.sendMessage sha256 connectionId packet stamp
    after.sent = server.sent ++ [(params.senderSession, params.msgId)] ∧
    ((∃ signals, (∃ code message serverId,
          .ackReady params.senderSession params.msgId code message serverId ∈ signals) ∧
        after.acks = server.acks ++ sentAcks server.management.manager signals ∧
        after.delivery.pendingGroupMessages = server.delivery.pendingGroupMessages) ∨
      (TakenForInFlight sha256 server.delivery stamp params ∧ after.acks = server.acks ∧
        after.delivery.pendingGroupMessages = server.delivery.pendingGroupMessages) ∨
      ∃ pending : PendingGroupMessage, pending.senderSession = params.senderSession ∧
        pending.clientMsgId = params.msgId ∧ after.acks = server.acks ∧
        after.delivery.pendingGroupMessages =
          server.delivery.pendingGroupMessages.insert stamp.reqToken pending) := by
  intro after
  have stepped : after = { server with
      sent := server.sent ++ [(params.senderSession, params.msgId)] }.runDelivery
        ⟨0, params.senderSession, packet.cmd, packet.msgId⟩
        (processSendMessage sha256 server.delivery stamp params) := by
    simp only [after, sendMessage, found, accepted]
  rcases processSendMessage_outcomes sha256 server.delivery stamp params with
    ⟨pendings, _, quiet, emits⟩ | ⟨pendings, _, silent, _⟩ |
    ⟨pending, session, msgId, _, _, _, _, _, inserted, asked⟩
  · rw [runDelivery_of_quiet _ _ quiet] at stepped
    rw [stepped]
    exact ⟨rfl, Or.inl ⟨_, emits, rfl, pendings⟩⟩
  · rw [runDelivery_of_quiet _ _ (by rw [silent]; simp), silent] at stepped
    rw [stepped]
    refine ⟨rfl, Or.inr (Or.inl ⟨takenForInFlight_of_silent silent, ?_, pendings⟩)⟩
    exact List.append_nil _
  · unfold runDelivery at stepped
    rw [asked] at stepped
    rw [stepped]
    exact ⟨rfl, Or.inr (Or.inr ⟨pending, session, msgId, rfl, inserted⟩)⟩

theorem SendersKnown.onManagement (sha256 : List Nat → String) {server : ChatServer}
    (known : SendersKnown server) (event : ManagementEvent) (stamp : LoadStamp) :
    SendersKnown (ChatEvent.next sha256 server (.management event stamp)) := by
  constructor
  · intro request member
    rw [ChatEvent.next, management_onManagement]
    refine attached_next _ event (known.attached request ?_)
    rcases server.onManagement_cases event stamp with
      ⟨notify, asker, result, rest, rfl, replies, isMessage⟩ | ⟨_, _, sent⟩
    · rw [ChatEvent.next, ChatServer.onManagement_message replies isMessage] at member
      exact member
    · rw [ChatEvent.next, sent] at member
      exact member
  · intro token pending waits
    rcases server.onManagement_cases event stamp with
      ⟨notify, asker, result, rest, rfl, replies, isMessage⟩ | ⟨delivery, _⟩
    · rw [ChatEvent.next, ChatServer.onManagement_message replies isMessage] at waits
      simp only [lookup_onGroupMembersForMessage] at waits
      split at waits
      · cases waits
      · exact known.messages token pending waits
    · rw [ChatEvent.next, delivery] at waits
      exact known.messages token pending waits

/-- The sender of an accepted request is the user of an attached session. -/
theorem SendersKnown.sendMessage (sha256 : List Nat → String) {server : ChatServer}
    (known : SendersKnown server) (sound : ServerSound server) {connectionId : String}
    {packet : Packet} {stamp : SendStamp}
    (enabled : ChatEvent.enabled server (.sendMessage connectionId packet stamp)) :
    SendersKnown (ChatEvent.next sha256 server (.sendMessage connectionId packet stamp)) := by
  have same : (server.sendMessage sha256 connectionId packet stamp).management.attached =
      server.management.attached := by
    rcases management_sendMessage sha256 server connectionId packet stamp with
      same | ⟨request, query, asked⟩
    · rw [same]
    · rw [asked]
  rcases server.sendMessage_cases sha256 connectionId packet stamp with
    ⟨session, params, found, accepted⟩ | ⟨added, stepped⟩
  · obtain ⟨sent, outcome⟩ :=
      server.sendMessage_accepted sha256 stamp found accepted
    constructor
    · intro request member
      rw [ChatEvent.next, same]
      rw [ChatEvent.next, sent] at member
      rcases List.mem_append.mp member with old | new
      · exact known.attached request old
      · have ownId := sound.tagged.sessions.ownId connectionId session found
        rw [List.mem_singleton.mp new, (handleSendMessage_ok accepted).2.2.1, ownId]
        exact sound.tagged.known connectionId session found
    · intro token pending waits
      rcases outcome with ⟨_, _, _, pendings⟩ | ⟨_, _, pendings⟩ |
        ⟨asked, _, _, _, inserted⟩
      · rw [ChatEvent.next, pendings] at waits
        exact known.messages token pending waits
      · rw [ChatEvent.next, pendings] at waits
        exact known.messages token pending waits
      · rw [ChatEvent.next, inserted] at waits
        rcases FiniteMap.of_lookup_insert waits with ⟨isToken, _⟩ | ⟨_, old⟩
        · obtain ⟨uuid, generated⟩ := enabled.2.1
          rw [isToken, generated]
          exact not_notify_of_message uuid
        · exact known.messages token pending old
  · rw [ChatEvent.next, stepped]
    exact ⟨known.attached, known.messages⟩

theorem SendersKnown.next (sha256 : List Nat → String) {server : ChatServer}
    (known : SendersKnown server) (sound : ServerSound server) {event : ChatEvent}
    (enabled : event.enabled server) : SendersKnown (event.next sha256 server) := by
  cases event with
  | management event stamp => exact known.onManagement sha256 event stamp
  | sendMessage connectionId packet stamp => exact known.sendMessage sha256 sound enabled

theorem sendersKnown_of_reachable (sha256 : List Nat → String) (server : ChatServer)
    (reached : (chatSystem sha256).Reachable server) : SendersKnown server := by
  refine reached.invariant ?_ ?_
  · constructor
    · intro request member
      cases member
    · intro token pending waits
      cases waits
  · intro before event reachedBefore known enabled
    exact known.next sha256 (serverSound_of_reachable sha256 before reachedBefore) enabled

/-! ## Requests are acknowledged or wait -/

def SentHeard (server : ChatServer) : Prop :=
  ∀ request ∈ server.sent, server.management.manager.connected request.1 = true →
    Heard server request.1 request.2

/-- The message that a member list comes in for is acknowledged, the other ones
still wait. -/
theorem heard_onGroupMembers {server : ChatServer} {asker : IssuedRequest}
    {result : GroupMembersResult} {rest : List (IssuedRequest × StoreReply)}
    (replies : server.management.replies = (asker, .groupMembersLoaded result) :: rest)
    (isMessage : qStartsWith result.reqMsgId "grp_notify_" = false) (notify : NotifyStamp)
    (stamp : LoadStamp) {connectionId msgId : String}
    (connected : server.management.manager.connected connectionId = true)
    (waits : WaitsForMembers server connectionId msgId) :
    Heard (server.onManagement (.handleNext notify) stamp) connectionId msgId := by
  rw [ChatServer.onManagement_message replies isMessage]
  obtain ⟨token, pending, found, rfl, rfl⟩ := waits
  by_cases same : token = result.reqMsgId
  · rw [same] at found
    have answers := answers_onGroupMembersForMessage stamp found
    exact Or.inl (acknowledged_of_signal rfl answers.acknowledges connected)
  · refine Or.inr ⟨token, pending, ?_, rfl, rfl⟩
    simp only [lookup_onGroupMembersForMessage, if_neg same]
    exact found

theorem SentHeard.management {server : ChatServer} (heard : SentHeard server)
    (known : SendersKnown server) {event : ManagementEvent}
    (enabled : event.enabled server.management) (stamp : LoadStamp) :
    SentHeard (server.onManagement event stamp) := by
  intro request member connected
  rw [management_onManagement] at connected
  rcases server.onManagement_cases event stamp with
    ⟨notify, asker, result, rest, rfl, replies, isMessage⟩ | ⟨delivery, acks, sent⟩
  · have stepped := ChatServer.onManagement_message replies isMessage notify stamp
    have before : request ∈ server.sent := by
      rw [stepped] at member
      exact member
    have connectedBefore :=
      connected_before enabled (known.attached request before) connected
    rcases heard request before connectedBefore with acknowledged | waits
    · exact Or.inl (acknowledged.append (by rw [stepped]))
    · exact heard_onGroupMembers replies isMessage notify stamp connectedBefore waits
  · rw [sent] at member
    rcases heard request member
      (connected_before enabled (known.attached request member) connected) with
      acknowledged | ⟨token, pending, waits⟩
    · exact Or.inl (acknowledged.append (by rw [acks, List.append_nil]))
    · exact Or.inr ⟨token, pending, by rw [delivery]; exact waits⟩

/-- Nothing waits under an id that has not been generated before. -/
theorem lookup_of_fresh {sha256 : List Nat → String} {server : ChatServer}
    (reached : (chatSystem sha256).Reachable server) {token : String}
    (isMessage : qStartsWith token "grp_notify_" = false)
    (fresh : ∀ load ∈ server.loads, load.query.reqMsgId ≠ token) :
    server.delivery.pendingGroupMessages.lookup token = none := by
  have reachedQueue := loadQueue_reachable sha256 server reached
  cases found : server.delivery.pendingGroupMessages.lookup token with
  | none => rfl
  | some pending =>
      have waits : server.loadQueue.waiting token = some (.message pending) := by
        simp [ChatServer.loadQueue, ChatServer.loadWaiter, isMessage, found]
      obtain ⟨load, member, sameToken, _⟩ :=
        waiting_of_inFlight reachedQueue (inFlight_of_waiting reachedQueue waits)
      exact absurd sameToken (fresh load member)

section Sending
variable {sha256 : List Nat → String} {server : ChatServer} {connectionId : String}
  {packet : Packet} {stamp : SendStamp}

theorem Heard.sendMessage {session msgId : String} (heard : Heard server session msgId)
    (unused : server.delivery.pendingGroupMessages.lookup stamp.reqToken = none) :
    Heard (server.sendMessage sha256 connectionId packet stamp) session msgId := by
  have kept : ∀ after : ChatServer, ∀ added : List SentAck,
      after.acks = server.acks ++ added →
      (∀ token pending, server.delivery.pendingGroupMessages.lookup token = some pending →
        after.delivery.pendingGroupMessages.lookup token = some pending) →
      Heard after session msgId := by
    intro after added acks pendings
    rcases heard with acknowledged | ⟨token, pending, found, fields⟩
    · exact Or.inl (acknowledged.append acks)
    · exact Or.inr ⟨token, pending, pendings token pending found, fields⟩
  rcases server.sendMessage_cases sha256 connectionId packet stamp with
    ⟨sender, params, found, accepted⟩ | ⟨added, stepped⟩
  · rcases (server.sendMessage_accepted sha256 stamp found accepted).2 with
      ⟨signals, _, acks, pendings⟩ | ⟨_, acks, pendings⟩ | ⟨asked, _, _, acks, inserted⟩
    · exact kept _ _ acks (fun token pending waits => by rw [pendings]; exact waits)
    · refine kept _ [] (by rw [acks, List.append_nil]) ?_
      exact fun token pending waits => by rw [pendings]; exact waits
    · refine kept _ [] (by rw [acks, List.append_nil]) ?_
      intro token pending waits
      have different : token ≠ stamp.reqToken := by
        rintro rfl
        rw [unused] at waits
        cases waits
      rw [inserted, FiniteMap.lookup_insert, if_neg different]
      exact waits
  · rw [stepped]
    exact kept _ added rfl fun _ _ waits => waits

/-- A request of a connected session is heard exactly when it is not taken for
one in flight, or its session has been heard before. -/
theorem heard_sendMessage_iff {session : ClientSession} {params : SendMessageParams}
    (found : server.management.manager.findByConnectionId connectionId = some session)
    (accepted : handleSendMessage session packet = .ok params)
    (unused : server.delivery.pendingGroupMessages.lookup stamp.reqToken = none)
    (connected : server.management.manager.connected params.senderSession = true) :
    Heard (server.sendMessage sha256 connectionId packet stamp) params.senderSession
        params.msgId ↔
      (TakenForInFlight sha256 server.delivery stamp params →
        Heard server params.senderSession params.msgId) := by
  constructor
  · intro heard taken
    have silent := processSendMessage_takenForInFlight taken
    have stepped : server.sendMessage sha256 connectionId packet stamp =
        { server with
          delivery := server.delivery.pruneIdempotencyCache stamp.prunedAt
          sent := server.sent ++ [(params.senderSession, params.msgId)] } := by
      simp [ChatServer.sendMessage, found, accepted, silent, ChatServer.runDelivery]
    rw [stepped] at heard
    exact heard
  · intro condition
    rcases (server.sendMessage_accepted sha256 stamp found accepted).2 with
      ⟨signals, emits, acks, _⟩ | ⟨taken, _⟩ | ⟨pending, sameSession, sameId, _, inserted⟩
    · exact Or.inl (acknowledged_of_signal acks emits connected)
    · exact (condition taken).sendMessage unused
    · refine Or.inr ⟨stamp.reqToken, pending, ?_, sameSession, sameId⟩
      rw [inserted, FiniteMap.lookup_insert, if_pos rfl]

end Sending

/-! ## Runs -/

theorem unused_of_enabled {sha256 : List Nat → String} {server : ChatServer}
    (reached : (chatSystem sha256).Reachable server) {connectionId : String} {packet : Packet}
    {stamp : SendStamp}
    (enabled : ChatEvent.enabled server (.sendMessage connectionId packet stamp)) :
    server.delivery.pendingGroupMessages.lookup stamp.reqToken = none := by
  obtain ⟨_, ⟨uuid, generated⟩, fresh⟩ := enabled
  refine lookup_of_fresh reached ?_ fresh
  rw [generated]
  exact not_notify_of_message uuid

theorem SentHeard.next {sha256 : List Nat → String} {server : ChatServer}
    (heard : SentHeard server) (reached : (chatSystem sha256).Reachable server)
    {event : ChatEvent} (enabled : event.enabled server)
    (dropsHeard : DropsHeard sha256 server event) : SentHeard (event.next sha256 server) := by
  cases event with
  | management event stamp =>
      exact heard.management (sendersKnown_of_reachable sha256 server reached) enabled.1 stamp
  | sendMessage connectionId packet stamp =>
      have unused := unused_of_enabled reached enabled
      have sameManager : (server.sendMessage sha256 connectionId packet stamp).management.manager =
          server.management.manager := by
        rcases management_sendMessage sha256 server connectionId packet stamp with
          same | ⟨request, query, asked⟩
        · rw [same]
        · rw [asked]
      intro request member connected
      rw [ChatEvent.next, sameManager] at connected
      rcases server.sendMessage_cases sha256 connectionId packet stamp with
        ⟨session, params, found, accepted⟩ | ⟨added, stepped⟩
      · rw [ChatEvent.next, (server.sendMessage_accepted sha256 stamp found accepted).1] at member
        rcases List.mem_append.mp member with old | new
        · exact (heard request old connected).sendMessage unused
        · rw [List.mem_singleton.mp new] at connected ⊢
          exact (heard_sendMessage_iff found accepted unused connected).mpr
            (dropsHeard session params found accepted)
      · rw [ChatEvent.next, stepped] at member
        exact (heard request member connected).sendMessage unused

theorem sentHeard_of_dropsHeard (sha256 : List Nat → String) (server : ChatServer)
    (reached : ((chatSystem sha256).restrict (DropsHeard sha256)).Reachable server) :
    SentHeard server := by
  refine reached.invariant ?_ ?_
  · intro request member
    cases member
  · intro before event reachedBefore heard enabled
    exact heard.next (System.Reachable.of_restrict reachedBefore) enabled.1 enabled.2

theorem not_waits_of_quiescent {sha256 : List Nat → String} {server : ChatServer}
    (reached : (chatSystem sha256).Reachable server)
    (quiescent : server.management.memberLoads = []) (connectionId msgId : String) :
    ¬ WaitsForMembers server connectionId msgId := by
  rintro ⟨token, pending, found, _⟩
  have isMessage := (sendersKnown_of_reachable sha256 server reached).messages token pending found
  have waits : server.loadQueue.waiting token = some (.message pending) := by
    simp [ChatServer.loadQueue, ChatServer.loadWaiter, isMessage, found]
  have inFlight := inFlight_of_waiting (loadQueue_reachable sha256 server reached) waits
  have none : server.loadQueue.inFlight = [] := quiescent
  rw [none] at inFlight
  cases inFlight

/-- In runs that drop only requests of sessions that have been heard, every
request is acknowledged once no member list is in flight; and a request of a
connected session is heard exactly when it is not such a drop. -/
theorem sent_messages_acknowledged (sha256 : List Nat → String) (server : ChatServer)
    (reached : ((chatSystem sha256).restrict (DropsHeard sha256)).Reachable server) :
    SentAcknowledged server ∧ ∀ connectionId packet stamp session params,
      ChatEvent.enabled server (.sendMessage connectionId packet stamp) →
      server.management.manager.findByConnectionId connectionId = some session →
      handleSendMessage session packet = .ok params →
      server.management.manager.connected params.senderSession = true →
      (Heard (server.sendMessage sha256 connectionId packet stamp) params.senderSession
          params.msgId ↔
        (TakenForInFlight sha256 server.delivery stamp params →
          Heard server params.senderSession params.msgId)) := by
  have reachedServer := System.Reachable.of_restrict reached
  constructor
  · intro quiescent request member connected
    rcases sentHeard_of_dropsHeard sha256 server reached request member connected with
      acknowledged | waits
    · exact acknowledged
    · exact absurd waits (not_waits_of_quiescent reachedServer quiescent _ _)
  · intro connectionId packet stamp session params enabled found accepted connected
    exact heard_sendMessage_iff found accepted (unused_of_enabled reachedServer enabled) connected

def aliceLogsIn (connectionId : String) : List ChatEvent :=
  [.management (.session (.newConnection connectionId 0)) ⟨0, 0⟩,
    .management (.session (.connectAccepted connectionId "alice" "Alice")) ⟨0, 0⟩]

/-- Alice sends a group message and sends it again while its member list is in
flight; then the list comes in. -/
def aliceSendsAgain (between : List ChatEvent) (retryFrom : String) : List ChatEvent :=
  aliceLogsIn "c1" ++ [.sendMessage "c1" (groupPacket "m1") (aliceStamp "srv_1" "grpmsg_1")] ++
    between ++ [.sendMessage retryFrom (groupPacket "m1") (aliceStamp "srv_2" "grpmsg_2"),
      .management (.executeNext (StoreRun.ok "" "")) ⟨0, 0⟩,
      .management (.handleNext ⟨"u1", "u2"⟩) ⟨1000, 1000⟩]

def aliceSentAgain (between : List ChatEvent) (retryFrom : String) : ChatServer :=
  (aliceSendsAgain between retryFrom).foldl (ChatEvent.next aliceBobDigest) ChatServer.empty

theorem sent_messages_acknowledged_alice :
    (aliceSentAgain [] "c1").sent = [("c1", "m1"), ("c1", "m1")] ∧
      Acknowledged (aliceSentAgain [] "c1") "c1" "m1" := by
  have enabled : ((chatSystem aliceBobDigest).restrict (DropsHeard aliceBobDigest)).Enabled
      ChatServer.empty (aliceSendsAgain [] "c1") := by
    refine ⟨⟨?_, trivial⟩, ⟨?_, trivial⟩, ⟨?_, ?_⟩, ⟨?_, ?_⟩, ⟨?_, trivial⟩, ⟨?_, trivial⟩,
      trivial⟩
    · refine ChatEvent.enabled_session ?_ ⟨0, 0⟩
      refine ⟨⟨by decide, rfl⟩, ?_⟩
      intro connectionId now isNew
      cases isNew
      decide
    · refine ChatEvent.enabled_session ?_ ⟨0, 0⟩
      exact ⟨(by decide : "alice" ≠ ""), nofun⟩
    · refine ⟨rfl, ⟨"1", by decide⟩, ?_⟩
      decide +kernel
    · intro session params found accepted taken
      cases taken.inFlight
    · refine ⟨rfl, ⟨"2", by decide⟩, ?_⟩
      decide +kernel
    · intro session params found accepted taken
      cases found
      cases accepted
      exact Or.inr ⟨"grpmsg_1", _, rfl, rfl, rfl⟩
    · exact ChatEvent.enabled_executeNext _ _ ⟨0, 0⟩
    · refine ChatEvent.enabled_handleNext ?_ ⟨1000, 1000⟩
      decide +kernel
  have reached := System.Reachable.run _ _ System.Reachable.initial enabled
  refine ⟨rfl, ?_⟩
  exact (sent_messages_acknowledged aliceBobDigest _ reached).1 rfl ("c1", "m1")
    (List.Mem.head _) rfl

/-- The retry comes from a new connection: it is connected, nothing is in flight,
and no acknowledgement has reached it. -/
theorem retried_message_unacknowledged :
    ¬ ∀ server, (chatSystem aliceBobDigest).Reachable server → SentAcknowledged server := by
  intro always
  have enabled : (chatSystem aliceBobDigest).Enabled ChatServer.empty
      (aliceSendsAgain (.management (.session (.disconnected "c1")) ⟨0, 0⟩ :: aliceLogsIn "c2")
        "c2") := by
    refine ⟨?_, ?_, ?_, ?_, ?_, ?_, ?_, ?_, ?_, trivial⟩
    · refine ChatEvent.enabled_session ?_ ⟨0, 0⟩
      refine ⟨⟨by decide, rfl⟩, ?_⟩
      intro connectionId now isNew
      cases isNew
      decide
    · refine ChatEvent.enabled_session ?_ ⟨0, 0⟩
      exact ⟨(by decide : "alice" ≠ ""), nofun⟩
    · refine ⟨rfl, ⟨"1", by decide⟩, ?_⟩
      decide +kernel
    · refine ChatEvent.enabled_session ?_ ⟨0, 0⟩
      exact ⟨trivial, nofun⟩
    · refine ChatEvent.enabled_session ?_ ⟨0, 0⟩
      refine ⟨⟨by decide, rfl⟩, ?_⟩
      intro connectionId now isNew
      cases isNew
      decide
    · refine ChatEvent.enabled_session ?_ ⟨0, 0⟩
      exact ⟨(by decide : "alice" ≠ ""), nofun⟩
    · refine ⟨rfl, ⟨"2", by decide⟩, ?_⟩
      decide +kernel
    · exact ChatEvent.enabled_executeNext _ _ ⟨0, 0⟩
    · refine ChatEvent.enabled_handleNext ?_ ⟨1000, 1000⟩
      decide +kernel
  have reached := System.Reachable.run _ _ System.Reachable.initial enabled
  obtain ⟨ack, member, toSession, _⟩ :=
    always _ reached rfl ("c2", "m1") (List.Mem.tail _ (List.Mem.head _)) rfl
  rw [List.mem_singleton.mp member] at toSession
  exact absurd toSession (by decide)

end ShirohaChat
