import ShirohaChat.Server.ConnectionOutcomes
import ShirohaChat.Wire.Requests

/-!
# A client and the server it is connected to

A logged-in client sends requests and reads what the server writes to its
connection, while the server also serves everybody else.  Texts arrive in the
order they were written, as long as the connection lasts; the client may send
other packets and the server may write other packets in between.
-/

set_option autoImplicit false

namespace ShirohaChat

open Transition Correlation

structure SentRequest where
  request : GatewayRequest
  stamp : PacketStamp

namespace SentRequest

def msgId (sent : SentRequest) : String := sent.stamp.msgId

def packet (sent : SentRequest) : Packet := sent.request.packet sent.stamp

end SentRequest

structure ReportedAnswer where
  packet : Packet
  signals : List GatewaySignal

/-- `sent` and `reported` are records of what the client has done. -/
structure RequestLoop (Text : Type) where
  gateway : NetworkGateway
  log : RequestLog
  upstream : List Text
  downstream : List Text
  sent : List SentRequest
  reported : List ReportedAnswer

inductive LoopEvent where
  | send (request : GatewayRequest) (stamp : PacketStamp)
  | sendOther (packet : Packet)
  | serverReads
  | server (event : ManagementEvent)
  | serverWrites (packet : Packet)
  | clientReads (now : String)

def writtenBy (connectionId : String) (before after : ManagementState) : List Packet :=
  ((after.acks.drop before.acks.length).filter fun ack =>
      ack.session = connectionId ∧ ack.delivered = true).map Acknowledgement.packet ++
    ((after.errors.drop before.errors.length).filter fun entry => entry.1 = connectionId).map
      Prod.snd

section Texts
variable {Text : Type} [JsonDocument Text]

def packetIn (kind : Command → Bool) (text : Text) : Option Packet :=
  match decode text with
  | .ok packet => if kind packet.cmd then some packet else none
  | .error _ => none

def packetsAmong (kind : Command → Bool) (texts : List Text) : List Packet :=
  texts.filterMap (packetIn kind)

def Command.asksRequest (cmd : Command) : Bool := ackCommandOf cmd ≠ .unknown

end Texts

namespace RequestLoop

variable {Text : Type} [JsonDocument Text]

def onServer (connectionId : String) (loop : RequestLoop Text) (event : ManagementEvent) :
    RequestLoop Text :=
  let log := loop.log.next event
  { loop with
    log := log
    downstream := loop.downstream ++
      (writtenBy connectionId loop.log.state log.state).map Packet.encode }

def send (loop : RequestLoop Text) (request : GatewayRequest) (stamp : PacketStamp) :
    RequestLoop Text :=
  match request.send loop.gateway stamp with
  | none => loop
  | some (gateway, packet) =>
      { loop with
        gateway := gateway
        upstream := loop.upstream ++ [packet.encode]
        sent := loop.sent ++ [⟨request, stamp⟩] }

/-- `ClientSession::onTextMessageReceived` with the oldest text. -/
def serverReads (connectionId : String) (loop : RequestLoop Text) : RequestLoop Text :=
  match loop.upstream with
  | [] => loop
  | text :: rest =>
      match decode text with
      | .error _ => { loop with upstream := rest }
      | .ok packet =>
          onServer connectionId { loop with upstream := rest }
            (.packetReceived connectionId packet)

/-- `NetworkService::handleIncomingPacket` with the oldest text. -/
def clientReads (loop : RequestLoop Text) (now : String) : RequestLoop Text :=
  match loop.downstream with
  | [] => loop
  | text :: rest =>
      let (gateway, signals, replies) := loop.gateway.handleText ⟨"", now⟩ text
      { loop with
        gateway := gateway
        upstream := loop.upstream ++ replies.map Packet.encode
        downstream := rest
        reported := loop.reported ++
          (packetsAmong Command.answersRequest [text]).map fun packet => ⟨packet, signals⟩ }

end RequestLoop

namespace LoopEvent

variable {Text : Type} [JsonDocument Text] (connectionId userId : String)

/-- The packets of the connection come from its client, who stays logged in as
the same user. -/
def LeavesClient : ManagementEvent → Prop
  | .packetReceived other _ => other ≠ connectionId
  | .session (.connectAccepted other user _) => other = connectionId → user = userId
  | _ => True

/-- Message ids are generated: the client repeats none, and no request is issued
under one that still waits at the server. -/
def enabled (loop : RequestLoop Text) : LoopEvent → Prop
  | .send _ stamp => stamp.msgId ∉ loop.sent.map SentRequest.msgId
  | .sendOther packet => packet.cmd.asksRequest = false
  | .serverReads => ∀ text rest packet, loop.upstream = text :: rest →
      decode text = .ok packet →
        NotWaiting loop.log.state (.packetReceived connectionId packet)
  | .server event => requestLogSystem.enabled loop.log event ∧
      LeavesClient connectionId userId event
  | .serverWrites packet => packet.cmd.answersRequest = false
  | .clientReads _ => True

def next (loop : RequestLoop Text) : LoopEvent → RequestLoop Text
  | .send request stamp => loop.send request stamp
  | .sendOther packet => { loop with upstream := loop.upstream ++ [packet.encode] }
  | .serverReads => loop.serverReads connectionId
  | .server event => loop.onServer connectionId event
  | .serverWrites packet => { loop with downstream := loop.downstream ++ [packet.encode] }
  | .clientReads now => loop.clientReads now

end LoopEvent

structure LoggedIn (log : RequestLog) (connectionId userId : String) : Prop where
  reached : requestLogSystem.Reachable log
  session : ∃ session, log.state.manager.findByConnectionId connectionId = some session ∧
    session.userId = userId ∧ session.isAuthenticated = true
  nothing : ∀ request ∈ log.state.issued, request.session ≠ connectionId

def loopSystem {Text : Type} [JsonDocument Text] (connectionId userId : String)
    (gateway : NetworkGateway) (log : RequestLog) : System (RequestLoop Text) LoopEvent where
  initial := ⟨gateway, log, [], [], [], []⟩
  enabled := LoopEvent.enabled connectionId userId
  next := LoopEvent.next connectionId

/-! ## Texts on their way -/

section Texts
variable {Text : Type} [JsonDocument Text] {kind : Command → Bool}

theorem packetsAmong_append (first second : List Text) :
    packetsAmong kind (first ++ second) =
      packetsAmong kind first ++ packetsAmong kind second :=
  List.filterMap_append

theorem packetIn_ok (kind : Command → Bool) {text : Text} {packet : Packet}
    (decoded : decode text = .ok packet) :
    packetIn kind text = if kind packet.cmd then some packet else none := by
  rw [packetIn, decoded]

theorem packetIn_error {text : Text} {problem : String}
    (decoded : decode text = .error problem) : packetIn kind text = none := by
  rw [packetIn, decoded]

theorem packetsAmong_encode (packets : List Packet) :
    packetsAmong kind (packets.map Packet.encode : List Text) =
      packets.filter fun packet => kind packet.cmd := by
  induction packets with
  | nil => rfl
  | cons packet rest ih =>
      have first := packetIn_ok kind (decode_encode packet : decode (packet.encode : Text) = _)
      cases isKind : kind packet.cmd with
      | true => simpa [packetsAmong, first, isKind] using ih
      | false => simpa [packetsAmong, first, isKind] using ih

theorem packetsAmong_other (texts : List Text) {packet : Packet}
    (other : kind packet.cmd = false) :
    packetsAmong kind (texts ++ [packet.encode]) = packetsAmong kind texts := by
  rw [packetsAmong_append, ← List.map_singleton, packetsAmong_encode]
  simp [other]

end Texts

/-! ## What the two ends do with other packets -/

theorem asksRequest_packet (sent : SentRequest) : sent.packet.cmd.asksRequest = true := by
  obtain ⟨request, stamp⟩ := sent
  cases request <;> rfl

theorem storeCall_eq_none {packet : Packet} (other : packet.cmd.asksRequest = false)
    (userId : String) : packet.storeCall userId = none := by
  have noAck : ackCommandOf packet.cmd = .unknown := by simpa [Command.asksRequest] using other
  unfold Packet.storeCall
  split
  case h_11 => rfl
  all_goals
    rename_i isCommand
    rw [isCommand] at noAck
    cases noAck

theorem handleIncomingPacket_other (gateway : NetworkGateway) (stamp : PacketStamp)
    {packet : Packet} (other : packet.cmd.answersRequest = false) :
    (gateway.handleIncomingPacket stamp packet).1 = gateway := by
  unfold NetworkGateway.handleIncomingPacket
  split
  all_goals
    rename_i isCommand
    first
      | rfl
      | (rw [isCommand] at other; cases other)

theorem replies_handleIncomingPacket (gateway : NetworkGateway) (stamp : PacketStamp)
    (packet : Packet) :
    ∀ reply ∈ (gateway.handleIncomingPacket stamp packet).2.2,
      reply.cmd.asksRequest = false := by
  unfold NetworkGateway.handleIncomingPacket
  split
  case h_2 =>
    intro reply member
    simp only [NetworkGateway.handleReceiveMessage] at member
    split at member
    · rw [List.mem_singleton.mp member]
      rfl
    · cases member
  case h_8 => split <;> simp
  all_goals simp

/-! ## What a step of the server does to the connection -/

section Server
variable {connectionId userId : String} {log : RequestLog}

theorem executedOn_next (connectionId : String) (log : RequestLog) (event : ManagementEvent) :
    log.executedOn connectionId <+: (log.next event).executedOn connectionId := by
  refine List.IsPrefix.filter _ ?_
  cases event with
  | executeNext run =>
      simp only [RequestLog.next, ← List.append_assoc]
      exact List.prefix_append _ _
  | handleNext stamp =>
      simp only [RequestLog.next, List.append_assoc]
      cases log.unhandled with
      | nil => exact List.prefix_refl _
      | cons execution rest => exact List.prefix_refl _
  | _ => exact List.prefix_refl _

theorem ManagementEvent.stays_attached {state : ManagementState} (event : ManagementEvent)
    (attached : connectionId ∈ state.attached) :
    connectionId ∈ (event.next state).attached := by
  cases event with
  | session event =>
      cases event with
      | newConnection fresh now => exact List.mem_append_left _ attached
      | _ => exact attached
  | packetReceived other packet =>
      rw [ManagementEvent.next, ManagementState.onPacketReceived]
      split
      · exact attached
      rename_i session found
      rcases dispatch_asks state session packet with
        ⟨_, group, friend, call, issued, _⟩ | ⟨_, errors, refused⟩
      · rw [issued]
        exact attached
      · rw [refused]
        exact attached
  | executeNext run =>
      rw [ManagementEvent.next, ManagementState.executeNext]
      split <;> exact attached
  | handleNext stamp =>
      rw [ManagementEvent.next, ManagementState.handleNext]
      split
      · exact attached
      · rw [(Emits.onStoreReply _ stamp _ _).attached]
        exact attached
  | sessionDeleted other => exact attached
  | ensureUser run user nickname => exact attached

theorem ManagementEvent.manager_cases (state : ManagementState) (event : ManagementEvent) :
    (∃ sessionEvent, event = .session sessionEvent) ∨
      (event.next state).manager = state.manager := by
  cases event with
  | session event => exact Or.inl ⟨event, rfl⟩
  | packetReceived other packet =>
      refine Or.inr ?_
      rw [ManagementEvent.next, ManagementState.onPacketReceived]
      split
      · rfl
      rename_i session found
      rcases dispatch_asks state session packet with
        ⟨_, group, friend, call, issued, _⟩ | ⟨_, errors, refused⟩
      · rw [issued]
        rfl
      · rw [refused]
  | executeNext run =>
      refine Or.inr ?_
      rw [ManagementEvent.next, ManagementState.executeNext]
      split <;> rfl
  | handleNext stamp => exact Or.inr (ManagementState.addsAcks_handleNext stamp).1
  | sessionDeleted other => exact Or.inr rfl
  | ensureUser run user nickname => exact Or.inr rfl

def StaysLoggedIn (state : ManagementState) (connectionId userId : String) : Prop :=
  ∀ session, state.manager.findByConnectionId connectionId = some session →
    session.userId = userId ∧ session.isAuthenticated = true

/-- No step brings the connection back or gives it to another user. -/
theorem staysLoggedIn_next {state : ManagementState} {event : ManagementEvent}
    (attached : connectionId ∈ state.attached)
    (stays : StaysLoggedIn state connectionId userId) (enabled : event.enabled state)
    (leaves : LoopEvent.LeavesClient connectionId userId event ∨
      ∃ packet, event = .packetReceived connectionId packet) :
    StaysLoggedIn (event.next state) connectionId userId ∧
      ((event.next state).manager.findByConnectionId connectionId ≠ none →
        state.manager.findByConnectionId connectionId ≠ none) := by
  rcases ManagementEvent.manager_cases state event with ⟨sessionEvent, rfl⟩ | sameManager
  · have step : ∀ session,
        (sessionEvent.next state.manager).findByConnectionId connectionId = some session →
        (session.userId = userId ∧ session.isAuthenticated = true) ∧
          state.manager.findByConnectionId connectionId ≠ none := by
      intro session found
      rcases session_cases state.manager sessionEvent found with ⟨now, isNew, _⟩ |
        ⟨before, user, nickname, old, isConnect, rfl⟩ | ⟨before, change, old, quiet, rfl⟩
      · exact absurd attached (enabled.2 connectionId now isNew)
      · rcases leaves with leaves | ⟨packet, isPacket⟩
        · rw [isConnect] at leaves
          exact ⟨⟨leaves rfl, rfl⟩, by rw [old]; exact Option.some_ne_none _⟩
        · cases isPacket
      · obtain ⟨_, sameUser, sameAuth⟩ := quiet.keepsIdentity before
        rw [sameUser, sameAuth, old]
        exact ⟨stays before old, Option.some_ne_none _⟩
    refine ⟨fun session found => (step session found).1, ?_⟩
    intro present
    obtain ⟨session, found⟩ := Option.ne_none_iff_exists'.mp present
    exact (step session found).2
  · rw [StaysLoggedIn, sameManager]
    exact ⟨stays, id⟩

theorem askedOn_next (tagged : WellTagged log.state) {event : ManagementEvent}
    (leaves : LoopEvent.LeavesClient connectionId userId event) :
    (log.next event).askedOn connectionId = log.askedOn connectionId := by
  cases event with
  | packetReceived other packet =>
      simp only [RequestLog.next, ManagementEvent.next, ManagementState.onPacketReceived,
        RequestLog.askedOn, askedBy]
      cases found : log.state.manager.findByConnectionId other with
      | none => simp
      | some session =>
          have ownId := tagged.sessions.ownId other session found
          simp only
          rcases dispatch_asks log.state session packet with
            ⟨_, group, friend, call, issued, _⟩ | ⟨_, errors, refused⟩
          · have elsewhere : session.connectionId ≠ connectionId := by
              rw [ownId]
              exact leaves
            rw [issued]
            simp [ManagementState.issue, elsewhere]
          · rw [refused]
            simp
  | _ => rfl

/-- A request of the client is asked for; another packet of the client is not. -/
theorem askedOn_packetReceived (tagged : WellTagged log.state)
    (stays : StaysLoggedIn log.state connectionId userId) (packet : Packet) :
    (log.next (.packetReceived connectionId packet)).askedOn connectionId =
        log.askedOn connectionId ∨
      log.state.manager.findByConnectionId connectionId ≠ none ∧ ∃ request call,
        (log.next (.packetReceived connectionId packet)).askedOn connectionId =
          log.askedOn connectionId ++ [⟨request, userId, packet, call⟩] ∧
        packet.storeCall userId = some call := by
  simp only [RequestLog.next, ManagementEvent.next, ManagementState.onPacketReceived,
    RequestLog.askedOn, askedBy]
  cases found : log.state.manager.findByConnectionId connectionId with
  | none => exact Or.inl (by simp)
  | some session =>
      have ownId := tagged.sessions.ownId connectionId session found
      have sameUser := (stays session found).1
      simp only
      rcases dispatch_asks log.state session packet with
        ⟨_, group, friend, call, issued, asks, _⟩ | ⟨_, errors, refused⟩
      · rw [sameUser] at asks
        refine Or.inr ⟨Option.some_ne_none _,
          ⟨log.state.issued.length, connectionId, packet.cmd, packet.msgId⟩, call, ?_, asks⟩
        rw [issued]
        simp [ManagementState.issue, ownId, sameUser]
      · rw [refused]
        exact Or.inl (by simp)

/-- As long as the connection is there, its requests are not refused. -/
theorem askedOn_accepted (tagged : WellTagged log.state)
    (stays : StaysLoggedIn log.state connectionId userId)
    (present : log.state.manager.findByConnectionId connectionId ≠ none)
    {request : GatewayRequest} (complete : request.Complete) (stamp : PacketStamp) :
    (log.next (.packetReceived connectionId (request.packet stamp))).askedOn connectionId ≠
      log.askedOn connectionId := by
  obtain ⟨session, found⟩ := Option.ne_none_iff_exists'.mp present
  have ownId := tagged.sessions.ownId connectionId session found
  have accepts : Accepts log.state session (request.packet stamp) :=
    GatewayRequest.accepts_packet complete log.state (stays session found).2
  simp only [RequestLog.next, ManagementEvent.next, ManagementState.onPacketReceived,
    RequestLog.askedOn, askedBy, found]
  rcases dispatch_asks log.state session (request.packet stamp) with
    ⟨_, group, friend, call, issued, _⟩ | ⟨refuses, _⟩
  · rw [issued]
    simp [ManagementState.issue, ownId]
  · exact absurd accepts refuses

end Server

/-! ## The two ends stay in step -/

/-- The server has asked for a first part of the requests; the rest is on its
way, as long as the connection lasts.  What the client has reported and what is
on its way back are the acknowledgements that reached the socket. -/
structure LoopInStep {Text : Type} [JsonDocument Text] (connectionId userId : String)
    (loop : RequestLoop Text) : Prop where
  reached : requestLogSystem.Reachable loop.log
  attached : connectionId ∈ loop.log.state.attached
  stays : StaysLoggedIn loop.log.state connectionId userId
  user : loop.gateway.userId = userId
  distinct : (loop.sent.map SentRequest.msgId).Nodup
  complete : ∀ sent ∈ loop.sent, sent.request.Complete
  asked : ∀ (place : Nat) (asked : AskedRequest),
    (loop.log.askedOn connectionId)[place]? = some asked → ∃ sent : SentRequest,
      loop.sent[place]? = some sent ∧ asked.packet = sent.packet ∧ asked.userId = userId
  waiting : loop.log.state.manager.findByConnectionId connectionId ≠ none →
    packetsAmong Command.asksRequest loop.upstream =
      (loop.sent.drop (loop.log.askedOn connectionId).length).map SentRequest.packet
  answers : loop.reported.map ReportedAnswer.packet ++
      packetsAmong Command.answersRequest loop.downstream =
    (loop.log.writtenOn connectionId).map Acknowledgement.packet
  remembered : ∀ (place : Nat) (sent : SentRequest), loop.sent[place]? = some sent →
    loop.reported.length ≤ place →
      sent.request.RememberedBy userId sent.msgId loop.gateway
  reports : ∀ (place : Nat) (reported : ReportedAnswer), loop.reported[place]? = some reported →
    ∃ (sent : SentRequest) (execution : Execution), loop.sent[place]? = some sent ∧
      (loop.log.executedOn connectionId)[place]? = some execution ∧
      reported.signals = sent.request.outcome userId execution.reply

namespace LoopInStep

variable {Text : Type} [JsonDocument Text] {connectionId userId : String}
  {loop : RequestLoop Text}

theorem initial {log : RequestLog} (loggedIn : LoggedIn log connectionId userId)
    {gateway : NetworkGateway} (user : gateway.userId = userId) :
    LoopInStep connectionId userId (⟨gateway, log, [], [], [], []⟩ : RequestLoop Text) := by
  obtain ⟨reached, ⟨session, found, sameUser, authenticated⟩, nothing⟩ := loggedIn
  have serverReached := requestLog_state log reached
  have tagged := wellTagged_of_reachable log.state (System.Reachable.of_restrict serverReached)
  have noneAsked : log.askedOn connectionId = [] := by
    refine List.filter_eq_nil_iff.mpr ?_
    intro asked member own
    have issued : asked.request ∈ log.state.issued := by
      rw [← (inOrder_of_reachable log reached).issued]
      exact List.mem_map.mpr ⟨asked, member, rfl⟩
    exact nothing asked.request issued (of_decide_eq_true own)
  have noneWritten : log.writtenOn connectionId = [] := by
    refine List.filter_eq_nil_iff.mpr ?_
    intro ack member own
    obtain ⟨issued, sameSession, _⟩ := ack_matches
      (correlated_of_notWaiting log.state serverReached) member
    exact nothing ack.request issued (sameSession ▸ (of_decide_eq_true own).1)
  refine ⟨reached, tagged.known connectionId session found, ?_, user, List.nodup_nil, by simp,
    ?_, ?_, ?_, by simp, by simp⟩
  · intro other foundOther
    rw [found] at foundOther
    cases foundOther
    exact ⟨sameUser, authenticated⟩
  · simp [noneAsked]
  · intro _
    simp [packetsAmong]
  · simp [noneWritten, packetsAmong]

theorem asked_le (inStep : LoopInStep connectionId userId loop) :
    (loop.log.askedOn connectionId).length ≤ loop.sent.length := by
  by_contra longer
  rw [not_le] at longer
  obtain ⟨sent, isSent, _⟩ := inStep.asked loop.sent.length _
    (List.getElem?_eq_getElem longer)
  rw [List.getElem?_eq_none (le_refl _)] at isSent
  cases isSent

theorem send (inStep : LoopInStep connectionId userId loop) {request : GatewayRequest}
    {stamp : PacketStamp} (fresh : stamp.msgId ∉ loop.sent.map SentRequest.msgId) :
    LoopInStep connectionId userId (loop.send request stamp) := by
  unfold RequestLoop.send
  split
  · exact inStep
  rename_i gateway packet isSent
  obtain ⟨_, complete, rfl, remembered, keeps⟩ := GatewayRequest.send_some isSent
  refine ⟨inStep.reached, inStep.attached, inStep.stays, keeps.userId.trans inStep.user, ?_, ?_,
    ?_, ?_, inStep.answers, ?_, ?_⟩
  · rw [List.map_append, List.nodup_append]
    refine ⟨inStep.distinct, by simp, ?_⟩
    rintro old isOld new isNew rfl
    rw [List.map_singleton, List.mem_singleton] at isNew
    rw [isNew] at isOld
    exact fresh isOld
  · intro sent member
    rcases List.mem_append.mp member with old | new
    · exact inStep.complete sent old
    · rw [List.mem_singleton.mp new]
      exact complete
  · intro place asked isAsked
    obtain ⟨sent, found, same⟩ := inStep.asked place asked isAsked
    exact ⟨sent, List.getElem?_append_left (List.getElem?_eq_some_iff.mp found).1 ▸ found, same⟩
  · intro present
    rw [packetsAmong_append, inStep.waiting present, List.drop_append_of_le_length inStep.asked_le,
      List.map_append]
    congr 1
    exact (packetsAmong_encode [request.packet stamp]).trans (by
      simp [show (request.packet stamp).cmd.asksRequest = true from
        asksRequest_packet ⟨request, stamp⟩, SentRequest.packet])
  · intro place sent found later
    by_cases before : place < loop.sent.length
    · rw [List.getElem?_append_left before] at found
      refine keeps.rememberedBy ?_ (inStep.remembered place sent found later)
      intro same
      exact fresh (List.mem_map.mpr ⟨sent, List.mem_of_getElem? found, same⟩)
    · rw [List.getElem?_append_right (not_lt.mp before)] at found
      obtain rfl := List.mem_singleton.mp (List.mem_of_getElem? found)
      rw [← inStep.user]
      exact remembered
  · intro place reported isReported
    obtain ⟨sent, execution, found, executed, outcome⟩ :=
      inStep.reports place reported isReported
    exact ⟨sent, execution,
      List.getElem?_append_left (List.getElem?_eq_some_iff.mp found).1 ▸ found, executed, outcome⟩

/-- What a step of the server writes is what it adds to the acknowledgements
that reached the socket, and refusals. -/
theorem answers_onServer (inStep : LoopInStep connectionId userId loop) {event : ManagementEvent}
    (reached : requestLogSystem.Reachable (loop.log.next event)) (upstream : List Text) :
    (loop.reported.map ReportedAnswer.packet ++ packetsAmong Command.answersRequest
      (RequestLoop.onServer connectionId { loop with upstream := upstream } event).downstream) =
    ((loop.log.next event).writtenOn connectionId).map Acknowledgement.packet := by
  have inOrder := inOrder_of_reachable _ reached
  simp only [RequestLoop.onServer, packetsAmong_append, packetsAmong_encode,
    RequestLog.next_state, RequestLog.writtenOn, ← List.append_assoc]
  rw [inStep.answers]
  rcases ManagementState.written_next loop.log.state event with
    ⟨sameErrors, sameAcks⟩ | ⟨_, sameErrors, added, acks, _⟩ | ⟨refused, sameAcks, errors, unknown⟩
  · simp [writtenBy, sameErrors, sameAcks, RequestLog.writtenOn]
  · have allAnswers : ((added.filter fun ack =>
        ack.session = connectionId ∧ ack.delivered = true).map Acknowledgement.packet).filter
          (fun packet => packet.cmd.answersRequest) =
        (added.filter fun ack =>
          ack.session = connectionId ∧ ack.delivered = true).map Acknowledgement.packet := by
      refine List.filter_eq_self.mpr ?_
      intro packet member
      obtain ⟨ack, isOne, rfl⟩ := List.mem_map.mp member
      refine inOrder.acks_answer ?_
      rw [RequestLog.next_state, acks]
      exact List.mem_append_right _ (List.mem_of_mem_filter isOne)
    simp only [writtenBy, sameErrors, acks, List.drop_left, List.drop_length, List.filter_nil,
      List.map_nil, List.append_nil, allAnswers, List.filter_append, List.map_append,
      RequestLog.writtenOn]
  · have noAnswers : ((refused.filter fun entry => entry.1 = connectionId).map Prod.snd).filter
        (fun packet => packet.cmd.answersRequest) = [] := by
      refine List.filter_eq_nil_iff.mpr ?_
      intro packet member
      obtain ⟨entry, isOne, rfl⟩ := List.mem_map.mp member
      rw [unknown entry (List.mem_of_mem_filter isOne)]
      exact Bool.false_ne_true
    simp only [writtenBy, errors, sameAcks, List.drop_left, List.drop_length, List.filter_nil,
      List.map_nil, List.nil_append, noAnswers, List.append_nil, RequestLog.writtenOn]

/-- A step that leaves the client alone, or one with the client's packet, once
what it means for the requests is known. -/
theorem onServer (inStep : LoopInStep connectionId userId loop) {event : ManagementEvent}
    (enabled : requestLogSystem.enabled loop.log event)
    (leaves : LoopEvent.LeavesClient connectionId userId event ∨
      ∃ packet, event = .packetReceived connectionId packet) {upstream : List Text}
    (asked : ∀ (place : Nat) (asked : AskedRequest),
      ((loop.log.next event).askedOn connectionId)[place]? = some asked → ∃ sent : SentRequest,
        loop.sent[place]? = some sent ∧ asked.packet = sent.packet ∧ asked.userId = userId)
    (waiting : loop.log.state.manager.findByConnectionId connectionId ≠ none →
      packetsAmong Command.asksRequest upstream =
        (loop.sent.drop ((loop.log.next event).askedOn connectionId).length).map
          SentRequest.packet) :
    LoopInStep connectionId userId
      (RequestLoop.onServer connectionId { loop with upstream := upstream } event) := by
  have reached : requestLogSystem.Reachable (loop.log.next event) :=
    System.Reachable.step event inStep.reached enabled
  obtain ⟨stays, present⟩ := staysLoggedIn_next inStep.attached inStep.stays enabled.1 leaves
  refine ⟨reached, ?_, ?_, inStep.user, inStep.distinct, inStep.complete, asked, ?_,
    inStep.answers_onServer reached upstream, inStep.remembered, ?_⟩
  · simp only [RequestLoop.onServer, RequestLog.next_state]
    exact ManagementEvent.stays_attached event inStep.attached
  · simp only [RequestLoop.onServer, RequestLog.next_state]
    exact stays
  · simp only [RequestLoop.onServer, RequestLog.next_state]
    exact fun found => waiting (present found)
  · intro place reported isReported
    obtain ⟨sent, execution, found, executed, outcome⟩ :=
      inStep.reports place reported isReported
    obtain ⟨later, whole⟩ := executedOn_next connectionId loop.log event
    refine ⟨sent, execution, found, ?_, outcome⟩
    simp only [RequestLoop.onServer]
    rw [← whole, List.getElem?_append_left (List.getElem?_eq_some_iff.mp executed).1]
    exact executed

theorem server (inStep : LoopInStep connectionId userId loop) {event : ManagementEvent}
    (enabled : requestLogSystem.enabled loop.log event)
    (leaves : LoopEvent.LeavesClient connectionId userId event) :
    LoopInStep connectionId userId (loop.onServer connectionId event) := by
  have tagged := wellTagged_of_reachable loop.log.state
    (System.Reachable.of_restrict (requestLog_state loop.log inStep.reached))
  have sameAsked := askedOn_next tagged leaves
  exact inStep.onServer enabled (Or.inl leaves) (sameAsked ▸ inStep.asked)
    (sameAsked ▸ inStep.waiting)

theorem serverReads (inStep : LoopInStep connectionId userId loop)
    (condition : ∀ text rest packet, loop.upstream = text :: rest →
      decode text = .ok packet →
        NotWaiting loop.log.state (.packetReceived connectionId packet)) :
    LoopInStep connectionId userId (loop.serverReads connectionId) := by
  have tagged := wellTagged_of_reachable loop.log.state
    (System.Reachable.of_restrict (requestLog_state loop.log inStep.reached))
  unfold RequestLoop.serverReads
  split
  · exact inStep
  rename_i text rest upstream
  split
  · rename_i problem decoded
    have noPacket : packetIn Command.asksRequest text = none := packetIn_error decoded
    refine ⟨inStep.reached, inStep.attached, inStep.stays, inStep.user, inStep.distinct,
      inStep.complete, inStep.asked, ?_, inStep.answers, inStep.remembered, inStep.reports⟩
    intro present
    rw [← inStep.waiting present, upstream]
    simp [packetsAmong, noPacket]
  rename_i packet decoded
  have isFirst : packetsAmong Command.asksRequest loop.upstream =
      (if packet.cmd.asksRequest then [packet] else []) ++
        packetsAmong Command.asksRequest rest := by
    rw [upstream, packetsAmong, List.filterMap_cons, packetIn_ok _ decoded]
    cases packet.cmd.asksRequest <;> rfl
  have enabled : requestLogSystem.enabled loop.log (.packetReceived connectionId packet) :=
    ⟨trivial, condition text rest packet upstream decoded⟩
  rcases askedOn_packetReceived tagged inStep.stays packet with
    sameAsked | ⟨present, request, call, askedNow, asks⟩
  · refine inStep.onServer enabled (Or.inr ⟨packet, rfl⟩) (sameAsked ▸ inStep.asked) ?_
    intro present
    have waiting := inStep.waiting present
    rw [isFirst] at waiting
    cases isRequest : packet.cmd.asksRequest with
    | false =>
        rw [sameAsked, ← waiting]
        simp [isRequest]
    | true =>
        -- a request would have been accepted
        rw [isRequest, if_pos rfl] at waiting
        obtain ⟨sent, _, unsent, rfl, _⟩ := List.map_eq_cons_iff.mp waiting.symm
        have member : sent ∈ loop.sent :=
          List.mem_of_mem_drop (unsent ▸ List.mem_cons_self)
        exact absurd sameAsked (askedOn_accepted tagged inStep.stays present
          (inStep.complete sent member) sent.stamp)
  · have isRequest : packet.cmd.asksRequest = true := by
      by_contra other
      rw [storeCall_eq_none (Bool.eq_false_of_not_eq_true other)] at asks
      cases asks
    have waiting := inStep.waiting present
    rw [isFirst, isRequest, if_pos rfl] at waiting
    obtain ⟨sent, unsentRest, unsent, isSent, later⟩ := List.map_eq_cons_iff.mp waiting.symm
    refine inStep.onServer enabled (Or.inr ⟨packet, rfl⟩) ?_ ?_
    · intro place asked isAsked
      rw [askedNow] at isAsked
      by_cases before : place < (loop.log.askedOn connectionId).length
      · rw [List.getElem?_append_left before] at isAsked
        exact inStep.asked place asked isAsked
      · have isLast := (List.getElem?_eq_some_iff.mp isAsked).1
        rw [List.length_append, List.length_singleton] at isLast
        have isPlace : place = (loop.log.askedOn connectionId).length := by omega
        rw [isPlace, List.getElem?_concat_length] at isAsked
        cases isAsked
        refine ⟨sent, ?_, isSent.symm, rfl⟩
        have first := congrArg (fun rest => rest[0]?) unsent
        simpa [isPlace] using first
    · intro _
      rw [askedNow, List.length_append, List.length_singleton, ← List.drop_drop, unsent]
      exact later.symm

/-- The execution behind an acknowledgement on the socket, and the request it
was executed for. -/
theorem executed_written (inStep : LoopInStep connectionId userId loop) {place : Nat}
    {packet : Packet}
    (written : ((loop.log.writtenOn connectionId).map Acknowledgement.packet)[place]? =
      some packet) :
    ∃ (sent : SentRequest) (execution : Execution), loop.sent[place]? = some sent ∧
      (loop.log.executedOn connectionId)[place]? = some execution ∧
      execution.call = sent.request.call userId sent.msgId ∧
      execution.call.answer execution.reply = some packet := by
  have inOrder := inOrder_of_reachable loop.log inStep.reached
  obtain ⟨undelivered, allAcks⟩ := writtenOn_prefix connectionId loop.log inStep.reached
  rw [List.getElem?_map] at written
  obtain ⟨ack, isWritten, rfl⟩ := Option.map_eq_some_iff.mp written
  have isAck : (loop.log.acksOn connectionId)[place]? = some ack := by
    rw [← allAcks, List.getElem?_append_left (List.getElem?_eq_some_iff.mp isWritten).1]
    exact isWritten
  have answered : ((loop.log.executedOn connectionId).map fun execution =>
      execution.call.answer execution.reply)[place]? = some (some ack.packet) := by
    rw [← RequestLog.acksOn_executed inOrder, List.getElem?_append_left, List.getElem?_map, isAck]
    · rfl
    · rw [List.length_map]
      exact (List.getElem?_eq_some_iff.mp isAck).1
  rw [List.getElem?_map] at answered
  obtain ⟨execution, executed, answers⟩ := Option.map_eq_some_iff.mp answered
  obtain ⟨asked, isAsked, own, same⟩ := RequestLog.executedOn_getElem inOrder executed
  obtain ⟨sent, isSent, samePacket, sameUser⟩ := inStep.asked place asked isAsked
  have asks := own.1
  rw [samePacket, sameUser, SentRequest.packet, GatewayRequest.storeCall_packet] at asks
  exact ⟨sent, execution, isSent, executed,
    (congrArg Prod.snd same).symm.trans (Option.some.inj asks).symm, answers⟩

theorem clientReads (inStep : LoopInStep connectionId userId loop) (now : String) :
    LoopInStep connectionId userId (loop.clientReads now) := by
  unfold RequestLoop.clientReads
  split
  · exact inStep
  rename_i text rest downstream
  have answers := inStep.answers
  rw [downstream, packetsAmong, List.filterMap_cons] at answers
  cases decoded : decode text with
  | error problem =>
      have noPacket : packetIn Command.answersRequest text = none := packetIn_error decoded
      rw [noPacket] at answers
      simp only [NetworkGateway.handleText, decoded, packetsAmong, List.filterMap_cons, noPacket,
        List.filterMap_nil, List.map_nil, List.append_nil]
      exact ⟨inStep.reached, inStep.attached, inStep.stays, inStep.user, inStep.distinct,
        inStep.complete, inStep.asked, inStep.waiting, answers, inStep.remembered,
        inStep.reports⟩
  | ok packet =>
      have isPacket := packetIn_ok Command.answersRequest decoded
      rw [isPacket] at answers
      have noRequests : ∀ replies : List Packet,
          (∀ reply ∈ replies, reply.cmd.asksRequest = false) →
          packetsAmong Command.asksRequest (loop.upstream ++ replies.map Packet.encode) =
            packetsAmong Command.asksRequest loop.upstream := by
        intro replies quiet
        rw [packetsAmong_append, packetsAmong_encode, List.filter_eq_nil_iff.mpr, List.append_nil]
        intro reply member
        rw [quiet reply member]
        exact Bool.false_ne_true
      have quiet := replies_handleIncomingPacket loop.gateway ⟨"", now⟩ packet
      simp only [NetworkGateway.handleText, decoded, packetsAmong, List.filterMap_cons, isPacket,
        List.filterMap_nil]
      cases isAnswer : packet.cmd.answersRequest with
      | false =>
          rw [isAnswer] at answers
          have sameGateway := handleIncomingPacket_other loop.gateway ⟨"", now⟩ isAnswer
          simp only [Bool.false_eq_true, if_false, List.map_nil, List.append_nil, sameGateway]
          exact ⟨inStep.reached, inStep.attached, inStep.stays, inStep.user, inStep.distinct,
            inStep.complete, inStep.asked,
            fun present => (noRequests _ quiet).trans (inStep.waiting present), answers,
            inStep.remembered, inStep.reports⟩
      | true =>
          rw [isAnswer] at answers
          simp only [if_true, List.map_singleton] at answers ⊢
          have written : ((loop.log.writtenOn connectionId).map
              Acknowledgement.packet)[loop.reported.length]? = some packet := by
            rw [← answers, List.getElem?_append_right (by simp)]
            simp
          obtain ⟨sent, execution, isSent, executed, sameCall, isAck⟩ :=
            inStep.executed_written written
          obtain ⟨ack, isOwnAck, after, handled, keeps⟩ := answer_reported ⟨"", now⟩
            execution.database execution.run
            (inStep.remembered loop.reported.length sent isSent (le_refl _))
          rw [← sameCall] at isOwnAck handled
          obtain rfl : ack = packet := Option.some.inj (isOwnAck.symm.trans isAck)
          simp only [handled, List.map_nil, List.append_nil]
          refine ⟨inStep.reached, inStep.attached, inStep.stays, keeps.userId.trans inStep.user,
            inStep.distinct, inStep.complete, inStep.asked, inStep.waiting, ?_, ?_, ?_⟩
          · rw [← answers, List.map_append, List.append_assoc]
            rfl
          · intro place other isOther later
            rw [List.length_append, List.length_singleton] at later
            refine keeps.rememberedBy ?_ (inStep.remembered place other isOther (by omega))
            intro sameId
            have inRange : place < (loop.sent.map SentRequest.msgId).length := by
              rw [List.length_map]
              exact (List.getElem?_eq_some_iff.mp isOther).1
            have samePlace := (List.getElem?_inj inRange inStep.distinct).mp
              (show (loop.sent.map SentRequest.msgId)[place]? =
                (loop.sent.map SentRequest.msgId)[loop.reported.length]? by
                rw [List.getElem?_map, List.getElem?_map, isOther, isSent]
                exact congrArg some sameId)
            omega
          · intro place reported isReported
            by_cases before : place < loop.reported.length
            · rw [List.getElem?_append_left before] at isReported
              exact inStep.reports place reported isReported
            · rw [List.getElem?_append_right (not_lt.mp before)] at isReported
              have isLast := (List.getElem?_eq_some_iff.mp isReported).1
              rw [List.length_singleton] at isLast
              have isPlace : place = loop.reported.length := by omega
              rw [isPlace, Nat.sub_self] at isReported
              cases isReported
              rw [isPlace]
              exact ⟨sent, execution, isSent, executed, rfl⟩

theorem all_reported (inStep : LoopInStep connectionId userId loop)
    (noUpstream : loop.upstream = []) (noDownstream : loop.downstream = [])
    (noCalls : loop.log.state.calls = []) (noReplies : loop.log.state.replies = [])
    (connected : loop.log.state.manager.connected connectionId = true) :
    loop.reported.length = loop.sent.length := by
  have inOrder := inOrder_of_reachable loop.log inStep.reached
  have present : loop.log.state.manager.findByConnectionId connectionId ≠ none := by
    intro missing
    rw [SessionManager.connected, missing] at connected
    cases connected
  -- the server has read them all,
  have allRead : loop.sent.length ≤ (loop.log.askedOn connectionId).length := by
    have waiting := inStep.waiting present
    rw [noUpstream] at waiting
    exact List.drop_eq_nil_iff.mp (List.map_eq_nil_iff.mp waiting.symm)
  -- executed them all,
  have allExecuted : (loop.log.executedOn connectionId).length =
      (loop.log.askedOn connectionId).length := by
    have whole := congrArg List.length (RequestLog.executedOn_asked connectionId inOrder)
    simpa [noCalls, requestsOf] using whole
  -- acknowledged them all,
  have allAcknowledged : (loop.log.acksOn connectionId).length =
      (loop.log.executedOn connectionId).length := by
    have noUnhandled : loop.log.unhandled = [] := by
      have replies := inOrder.replies
      rw [noReplies] at replies
      exact List.map_eq_nil_iff.mp replies.symm
    have whole := congrArg List.length (@RequestLog.acksOn_executed loop.log connectionId inOrder)
    simpa [noUnhandled] using whole
  -- and every acknowledgement has been read by the client
  have allWritten : (loop.log.writtenOn connectionId).length =
      (loop.log.acksOn connectionId).length := by
    have delivered := delivered_of_notWaiting loop.log.state
      (requestLog_state loop.log inStep.reached)
    congr 1
    refine List.filter_congr ?_
    intro ack member
    by_cases own : ack.session = connectionId
    · simp [own, delivered ack member (own ▸ connected)]
    · simp [own]
  have answers := congrArg List.length inStep.answers
  rw [noDownstream] at answers
  simp only [packetsAmong, List.filterMap_nil, List.append_nil, List.length_map] at answers
  have atMost := inStep.asked_le
  omega

end LoopInStep

section Reported
variable (Text : Type) [JsonDocument Text] {connectionId userId : String}
  {gateway : NetworkGateway} {log : RequestLog}

theorem loopInStep_of_reachable (loggedIn : LoggedIn log connectionId userId)
    (user : gateway.userId = userId) :
    ∀ loop : RequestLoop Text,
      (loopSystem connectionId userId gateway log).Reachable loop →
        LoopInStep connectionId userId loop := by
  refine System.Reachable.invariant (LoopInStep.initial loggedIn user) ?_
  intro loop event _ inStep enabled
  cases event with
  | send request stamp => exact inStep.send enabled
  | sendOther packet =>
      refine ⟨inStep.reached, inStep.attached, inStep.stays, inStep.user, inStep.distinct,
        inStep.complete, inStep.asked, ?_, inStep.answers, inStep.remembered, inStep.reports⟩
      exact fun present => (packetsAmong_other _ enabled).trans (inStep.waiting present)
  | serverReads => exact inStep.serverReads enabled
  | server event => exact inStep.server enabled.1 enabled.2
  | serverWrites packet =>
      refine ⟨inStep.reached, inStep.attached, inStep.stays, inStep.user, inStep.distinct,
        inStep.complete, inStep.asked, inStep.waiting, ?_, inStep.remembered, inStep.reports⟩
      exact (congrArg _ (packetsAmong_other _ enabled)).trans inStep.answers
  | clientReads now => exact inStep.clientReads now

/-- The requests of a logged-in client are executed in the order in which it sent
them, each as the call it means and at most once; what the client reports for
the n-th one is the result of the n-th execution, and once nothing is on its way
every request has been reported. -/
theorem requests_reported_in_order (loggedIn : LoggedIn log connectionId userId)
    (user : gateway.userId = userId) :
    ∀ loop : RequestLoop Text,
      (loopSystem connectionId userId gateway log).Reachable loop →
      (∀ (place : Nat) (execution : Execution),
        (loop.log.executedOn connectionId)[place]? = some execution →
        ∃ sent, loop.sent[place]? = some sent ∧
          execution.call = sent.request.call userId sent.msgId) ∧
      (∀ (place : Nat) (reported : ReportedAnswer), loop.reported[place]? = some reported →
        ∃ sent execution, loop.sent[place]? = some sent ∧
          (loop.log.executedOn connectionId)[place]? = some execution ∧
          reported.signals = sent.request.outcome userId execution.reply) ∧
      (loop.upstream = [] → loop.downstream = [] → loop.log.state.calls = [] →
        loop.log.state.replies = [] →
        loop.log.state.manager.connected connectionId = true →
        loop.reported.length = loop.sent.length) := by
  intro loop reached
  have inStep := loopInStep_of_reachable Text loggedIn user loop reached
  refine ⟨?_, inStep.reports, inStep.all_reported⟩
  intro place execution executed
  obtain ⟨asked, isAsked, own, same⟩ :=
    RequestLog.executedOn_getElem (inOrder_of_reachable loop.log inStep.reached) executed
  obtain ⟨sent, isSent, samePacket, sameUser⟩ := inStep.asked place asked isAsked
  have asks := own.1
  rw [samePacket, sameUser, SentRequest.packet, GatewayRequest.storeCall_packet] at asks
  exact ⟨sent, isSent, (congrArg Prod.snd same).symm.trans (Option.some.inj asks).symm⟩

end Reported

def aliceAndBobHere : RequestLog :=
  [ManagementEvent.session (.newConnection "c_alice" 0), .session (.newConnection "c_bob" 0),
    .session (.connectAccepted "c_alice" "alice" "Alice"),
    .session (.connectAccepted "c_bob" "bob" "Bob")].foldl RequestLog.next RequestLog.empty

theorem aliceAndBobHere_loggedIn : LoggedIn aliceAndBobHere "c_alice" "alice" := by
  have enabled : requestLogSystem.Enabled RequestLog.empty
      [ManagementEvent.session (.newConnection "c_alice" 0), .session (.newConnection "c_bob" 0),
        .session (.connectAccepted "c_alice" "alice" "Alice"),
        .session (.connectAccepted "c_bob" "bob" "Bob")] := by
    refine ⟨⟨⟨⟨by decide, rfl⟩, ?_⟩, trivial⟩, ⟨⟨⟨by decide, rfl⟩, ?_⟩, trivial⟩,
      ⟨⟨(by decide : "alice" ≠ ""), nofun⟩, trivial⟩, ⟨⟨(by decide : "bob" ≠ ""), nofun⟩, trivial⟩,
      trivial⟩
    · intro connectionId now isNew
      cases isNew
      decide
    · intro connectionId now isNew
      cases isNew
      decide
  exact ⟨System.Reachable.run _ _ System.Reachable.initial enabled, ⟨_, rfl, rfl, rfl⟩,
    by simp [aliceAndBobHere, RequestLog.next, RequestLog.empty, ManagementState.empty,
      ManagementEvent.next, ManagementState.onSession]⟩

def aliceGateway : NetworkGateway := { connected := true, userId := "alice" }

/-- Alice creates a group while Bob creates one of his own. -/
def aliceCreates : List LoopEvent :=
  [.send (.createGroup " friends " ["bob"]) ⟨"m1", "2026-01-01T00:00:00Z"⟩,
    .server (.packetReceived "c_bob" (createGroupPacket "m2")), .serverReads,
    .server (.executeNext (StoreRun.ok "grp_1" "2026-01-01T00:00:00.000Z")),
    .server (.executeNext (StoreRun.ok "grp_2" "2026-01-01T00:00:01.000Z")),
    .server (.handleNext ⟨"u1", "u2"⟩), .server (.handleNext ⟨"u3", "u4"⟩),
    .clientReads "2026-01-01T00:00:02Z"]

def aliceTold : RequestLoop ParsedText :=
  aliceCreates.foldl (LoopEvent.next "c_alice") ⟨aliceGateway, aliceAndBobHere, [], [], [], []⟩

theorem requests_reported_in_order_alice :
    aliceTold.reported.length = 1 ∧
      ∀ (place : Nat) (reported : ReportedAnswer), aliceTold.reported[place]? = some reported →
        ∃ sent execution, aliceTold.sent[place]? = some sent ∧
          (aliceTold.log.executedOn "c_alice")[place]? = some execution ∧
          reported.signals = sent.request.outcome "alice" execution.reply := by
  have enabled : (loopSystem "c_alice" "alice" aliceGateway aliceAndBobHere).Enabled
      (⟨aliceGateway, aliceAndBobHere, [], [], [], []⟩ : RequestLoop ParsedText)
      aliceCreates := by
    refine ⟨by simp [loopSystem, LoopEvent.enabled],
      ⟨⟨trivial, fun _ _ _ => rfl⟩, (by decide : "c_bob" ≠ "c_alice")⟩, ?_,
      ⟨⟨trivial, trivial⟩, trivial⟩, ⟨⟨trivial, trivial⟩, trivial⟩, ⟨⟨trivial, trivial⟩, trivial⟩,
      ⟨⟨trivial, trivial⟩, trivial⟩, trivial, trivial⟩
    intro text rest packet upstream decoded session found accepts
    cases upstream
    cases decoded
    rfl
  have reached := System.Reachable.run _ _ System.Reachable.initial enabled
  exact ⟨rfl, (requests_reported_in_order ParsedText aliceAndBobHere_loggedIn rfl _ reached).2.1⟩

end ShirohaChat
