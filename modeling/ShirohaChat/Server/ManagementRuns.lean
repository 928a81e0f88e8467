import ShirohaChat.Server.ManagementExchange

/-!
# Every management request is acknowledged once

The services key their pending maps by the client's message id alone, so the
exchange is well behaved in runs that issue no request under a message id still
waiting in its map.  An overlapping request takes over the entry of another
one, whatever its session or kind.
-/

set_option autoImplicit false

namespace ShirohaChat

open Transition Correlation

/-! ## What handling a result leaves alone -/

structure Emits (before after : ManagementState) : Prop where
  manager : after.manager = before.manager
  attached : after.attached = before.attached
  issued : after.issued = before.issued
  replies : after.replies = before.replies
  calls : ∀ entry ∈ after.calls, entry ∈ before.calls ∨
    ∃ query, entry.2 = .loadGroupMembers query
  acks : ∀ ack ∈ after.acks, ack ∈ before.acks ∨
    ack.delivered = before.manager.connected ack.session

namespace Emits

variable {first second third : ManagementState}

theorem refl (state : ManagementState) : Emits state state :=
  ⟨rfl, rfl, rfl, rfl, fun _ member => Or.inl member, fun _ member => Or.inl member⟩

theorem trans (one : Emits first second) (two : Emits second third) : Emits first third := by
  refine ⟨two.manager.trans one.manager, two.attached.trans one.attached,
    two.issued.trans one.issued, two.replies.trans one.replies, ?_, ?_⟩
  · intro entry member
    rcases two.calls entry member with old | load
    · exact one.calls entry old
    · exact Or.inr load
  · intro ack member
    rcases two.acks ack member with old | delivered
    · exact one.acks ack old
    · exact Or.inr (one.manager ▸ delivered)

theorem acknowledge (state : ManagementState) (request : IssuedRequest) (session : String)
    (packet : Packet) : Emits state (state.acknowledge request session packet) := by
  refine ⟨rfl, rfl, rfl, rfl, fun _ member => Or.inl member, ?_⟩
  intro ack member
  rcases List.mem_append.mp member with old | new
  · exact Or.inl old
  · rw [List.mem_singleton.mp new]
    exact Or.inr rfl

theorem emitGroup (request : IssuedRequest) (state : ManagementState) (signal : GroupSignal) :
    Emits state (ManagementState.emitGroup request state signal) := by
  cases signal with
  | groupCreated session groupName result => exact acknowledge _ _ _ _
  | memberOpCompleted session operation operatorUserId result => exact acknowledge _ _ _ _
  | groupListLoaded session result => exact acknowledge _ _ _ _
  | requestLoadGroupMembersForNotify query =>
      refine ⟨rfl, rfl, rfl, rfl, ?_, fun _ member => Or.inl member⟩
      intro entry member
      rcases List.mem_append.mp member with old | new
      · exact Or.inl old
      · rw [List.mem_singleton.mp new]
        exact Or.inr ⟨query, rfl⟩
  | enqueueIfOffline userId packet =>
      exact ⟨rfl, rfl, rfl, rfl, fun _ member => Or.inl member, fun _ member => Or.inl member⟩

theorem emitFriend (request : IssuedRequest) (state : ManagementState)
    (signal : FriendSignal) : Emits state (ManagementState.emitFriend request state signal) := by
  cases signal with
  | createCompleted session pendingMessage result => exact acknowledge _ _ _ _
  | decisionCompleted session pendingOp result => exact acknowledge _ _ _ _
  | friendListCompleted session result => exact acknowledge _ _ _ _
  | friendRequestListCompleted session result => exact acknowledge _ _ _ _
  | enqueueIfOffline userId packet =>
      exact ⟨rfl, rfl, rfl, rfl, fun _ member => Or.inl member, fun _ member => Or.inl member⟩

theorem foldl {Signal : Type} {emit : ManagementState → Signal → ManagementState}
    (each : ∀ state signal, Emits state (emit state signal)) (signals : List Signal) :
    ∀ state, Emits state (signals.foldl emit state) := by
  induction signals with
  | nil => exact refl
  | cons signal rest ih =>
      intro state
      exact (each state signal).trans (ih _)

theorem runGroup (state : ManagementState) (request : IssuedRequest)
    (outcome : GroupManagementService × List GroupSignal) :
    Emits state (state.runGroup request outcome) := by
  have updated : Emits state { state with group := outcome.1 } :=
    ⟨rfl, rfl, rfl, rfl, fun _ member => Or.inl member, fun _ member => Or.inl member⟩
  exact updated.trans (foldl (emitGroup request) outcome.2 _)

theorem runFriend (state : ManagementState) (request : IssuedRequest)
    (outcome : FriendManagementService × List FriendSignal) :
    Emits state (state.runFriend request outcome) := by
  have updated : Emits state { state with friend := outcome.1 } :=
    ⟨rfl, rfl, rfl, rfl, fun _ member => Or.inl member, fun _ member => Or.inl member⟩
  exact updated.trans (foldl (emitFriend request) outcome.2 _)

theorem onStoreReply (state : ManagementState) (stamp : NotifyStamp) (request : IssuedRequest)
    (reply : StoreReply) : Emits state (state.onStoreReply stamp request reply) := by
  cases reply with
  | groupMembersLoaded result =>
      rw [ManagementState.onStoreReply]
      split
      · exact runGroup _ _ _
      · exact refl state
  | groupCreated result => exact runGroup _ _ _
  | memberOpCompleted result => exact runGroup _ _ _
  | groupListLoaded result => exact runGroup _ _ _
  | friendRequestCreated result => exact runFriend _ _ _
  | friendDecisionCompleted result => exact runFriend _ _ _
  | friendListLoaded result => exact runFriend _ _ _
  | friendRequestListLoaded result => exact runFriend _ _ _

end Emits

/-! ## What dispatching a packet does -/

def Accepts (state : ManagementState) (session : ClientSession) (packet : Packet) : Prop :=
  (∃ outcome, GroupHandler.handlePacket state.group session packet = some (.ok outcome)) ∨
    ∃ outcome, FriendHandler.handlePacket state.friend session packet = some (.ok outcome)

/-- A packet is issued as a request, refused with one error, or none of the two
handlers' business. -/
theorem dispatch_cases (state : ManagementState) (session : ClientSession) (packet : Packet) :
    (Accepts state session packet ∧ ∃ group friend call,
      state.dispatch session packet =
        { state with group := group, friend := friend }.issue session packet call ∧
      call.Carries packet.cmd packet.msgId ∧ call.isRequest = true ∧
      waitingOf group friend = Function.update (waitingOf state.group state.friend)
        (slotFor packet.cmd, packet.msgId)
        (some ⟨session.connectionId, operationFor packet.cmd⟩)) ∨
    (∃ refusal, state.dispatch session packet = state.refuse session packet refusal) ∨
    (ackCommandOf packet.cmd = .unknown ∧ state.dispatch session packet = state) := by
  unfold ManagementState.dispatch
  split
  · rename_i refusal handled
    exact Or.inr (Or.inl ⟨refusal, rfl⟩)
  · rename_i group call handled
    obtain ⟨carries, isRequest, waits⟩ := GroupHandler.handlePacket_ok handled
    exact Or.inl ⟨Or.inl ⟨_, handled⟩, group, state.friend, call, rfl, carries, isRequest,
      waits state.friend⟩
  · rename_i notGroup
    split
    · rename_i refusal handled
      exact Or.inr (Or.inl ⟨refusal, rfl⟩)
    · rename_i friend call handled
      obtain ⟨carries, isRequest, waits⟩ := FriendHandler.handlePacket_ok handled
      exact Or.inl ⟨Or.inr ⟨_, handled⟩, state.group, friend, call, rfl, carries, isRequest,
        waits state.group⟩
    · rename_i notFriend
      refine Or.inr (Or.inr ⟨?_, rfl⟩)
      unfold GroupHandler.handlePacket at notGroup
      unfold FriendHandler.handlePacket at notFriend
      cases isCommand : packet.cmd <;> simp [isCommand] at notGroup notFriend <;> rfl

/-! ## Calls, results and requests in a run -/

structure WellTagged (state : ManagementState) : Prop where
  sessions : SessionsWellFormed state.manager
  known : ∀ connectionId session,
    state.manager.findByConnectionId connectionId = some session →
      connectionId ∈ state.attached
  issuers : ∀ request ∈ state.issued, request.session ∈ state.attached
  tickets : state.issued.map IssuedRequest.ticket = List.range state.issued.length
  calls : ∀ entry ∈ state.calls, entry.2.Carries entry.1.cmd entry.1.msgId
  replies : ∀ entry ∈ state.replies, entry.2.Carries entry.1.cmd entry.1.msgId

namespace WellTagged

variable {state : ManagementState}

theorem empty : WellTagged ManagementState.empty := by
  constructor
  · exact sessionsWellFormed_empty
  · intro connectionId session found
    cases found
  · intro request member
    cases member
  · rfl
  · intro entry member
    cases member
  · intro entry member
    cases member

theorem onSession (tagged : WellTagged state) (event : SessionEvent)
    (enabled : event.enabled state.manager) : WellTagged (state.onSession event) := by
  have keeps : ∀ connectionId ∈ state.attached,
      connectionId ∈ (state.onSession event).attached := by
    intro connectionId member
    cases event with
    | newConnection fresh now => exact List.mem_append_left _ member
    | _ => exact member
  refine ⟨tagged.sessions.step event enabled, ?_, ?_, tagged.tickets, tagged.calls,
    tagged.replies⟩
  · intro connectionId session found
    rcases session_next state.manager event found with ⟨now, rfl⟩ | ⟨before, old, _⟩
    · exact List.mem_append_right _ (List.mem_singleton_self _)
    · exact keeps connectionId (tagged.known connectionId before old)
  · intro request member
    exact keeps _ (tagged.issuers request member)

theorem issue (tagged : WellTagged state) {session : ClientSession}
    (found : state.manager.findByConnectionId session.connectionId = some session)
    {packet : Packet} {call : StoreCall} (carries : call.Carries packet.cmd packet.msgId)
    (group : GroupManagementService) (friend : FriendManagementService) :
    WellTagged ({ state with group := group, friend := friend }.issue session packet call) := by
  refine ⟨tagged.sessions, tagged.known, ?_, ?_, ?_, tagged.replies⟩
  · intro request member
    rcases List.mem_append.mp member with old | new
    · exact tagged.issuers request old
    · rw [List.mem_singleton.mp new]
      exact tagged.known _ session found
  · simp [ManagementState.issue, tagged.tickets, List.range_succ]
  · intro entry member
    rcases List.mem_append.mp member with old | new
    · exact tagged.calls entry old
    · rw [List.mem_singleton.mp new]
      exact carries

theorem executeNext (tagged : WellTagged state) (run : StoreRun) :
    WellTagged (state.executeNext run) := by
  unfold ManagementState.executeNext
  split
  · exact tagged
  · rename_i request call rest waiting
    have carries := tagged.calls (request, call) (waiting ▸ List.mem_cons_self)
    refine ⟨tagged.sessions, tagged.known, tagged.issuers, tagged.tickets, ?_, ?_⟩
    · intro entry member
      exact tagged.calls entry (waiting ▸ List.mem_cons_of_mem _ member)
    · intro entry member
      rcases List.mem_append.mp member with old | new
      · exact tagged.replies entry old
      · rw [List.mem_singleton.mp new]
        exact (executeStoreCall_carries state.database run carries).1

theorem emits {after : ManagementState} (tagged : WellTagged state) (emitted : Emits state after) :
    WellTagged after := by
  obtain ⟨manager, attached, issued, replies, calls, _⟩ := emitted
  refine ⟨manager ▸ tagged.sessions, ?_, ?_, ?_, ?_, ?_⟩
  · rw [manager, attached]
    exact tagged.known
  · rw [issued, attached]
    exact tagged.issuers
  · rw [issued]
    exact tagged.tickets
  · intro entry member
    rcases calls entry member with old | ⟨query, isLoad⟩
    · exact tagged.calls entry old
    · rw [isLoad]
      trivial
  · rw [replies]
    exact tagged.replies

theorem handleNext (tagged : WellTagged state) (stamp : NotifyStamp) :
    WellTagged (state.handleNext stamp) := by
  unfold ManagementState.handleNext
  split
  · exact tagged
  · rename_i request reply rest waiting
    have popped : WellTagged { state with replies := rest } := by
      refine ⟨tagged.sessions, tagged.known, tagged.issuers, tagged.tickets, tagged.calls, ?_⟩
      intro entry member
      exact tagged.replies entry (waiting ▸ List.mem_cons_of_mem _ member)
    exact popped.emits (Emits.onStoreReply _ stamp request reply)

theorem next (tagged : WellTagged state) (event : ManagementEvent)
    (enabled : event.enabled state) : WellTagged (event.next state) := by
  cases event with
  | session event => exact tagged.onSession event enabled.1
  | sessionDeleted connectionId =>
      exact ⟨tagged.sessions, tagged.known, tagged.issuers, tagged.tickets, tagged.calls,
        tagged.replies⟩
  | ensureUser run userId nickname =>
      exact ⟨tagged.sessions, tagged.known, tagged.issuers, tagged.tickets, tagged.calls,
        tagged.replies⟩
  | packetReceived connectionId packet =>
      rw [ManagementEvent.next, ManagementState.onPacketReceived]
      split
      · exact tagged
      · rename_i session found
        have ownId := tagged.sessions.ownId connectionId session found
        rcases dispatch_cases state session packet with
          ⟨_, group, friend, call, issued, carries, _⟩ | ⟨refusal, refused⟩ | ⟨_, ignored⟩
        · rw [issued]
          exact tagged.issue (ownId.symm ▸ found) carries group friend
        · rw [refused]
          exact ⟨tagged.sessions, tagged.known, tagged.issuers, tagged.tickets, tagged.calls,
            tagged.replies⟩
        · rw [ignored]
          exact tagged
  | executeNext run => exact tagged.executeNext run
  | handleNext stamp => exact tagged.handleNext stamp

theorem issued_nodup (tagged : WellTagged state) : state.issued.Nodup := by
  refine List.Nodup.of_map IssuedRequest.ticket ?_
  rw [tagged.tickets]
  exact List.nodup_range

end WellTagged

/-! ## The server refines the exchange -/

/-- A request that passes its checks finds no entry under its message id in the
map of its kind. -/
def NotWaiting (state : ManagementState) : ManagementEvent → Prop
  | .packetReceived connectionId packet =>
      ∀ session, state.manager.findByConnectionId connectionId = some session →
        Accepts state session packet →
        waitingOf state.group state.friend (slotFor packet.cmd, packet.msgId) = none
  | _ => True

abbrev requestExchange :
    System (Exchange IssuedRequest (Slot × String) Waiter (String × Command × String))
      (ExchangeEvent IssuedRequest) :=
  exchangeSystem IssuedRequest.key IssuedRequest.waiter IssuedRequest.respond

theorem exchange_empty : ManagementState.empty.exchange = Exchange.empty := by
  have noneWaits : waitingOf GroupManagementService.empty FriendManagementService.empty =
      fun _ => none := by
    funext key
    obtain ⟨slot, msgId⟩ := key
    cases slot <;> rfl
  simp [ManagementState.exchange, ManagementState.empty, Exchange.empty, noneWaits]

theorem exchange_executeNext (state : ManagementState) (tagged : WellTagged state)
    (run : StoreRun) : (state.executeNext run).exchange = state.exchange := by
  unfold ManagementState.executeNext
  split
  · rfl
  · rename_i request call rest waiting
    have carries := tagged.calls (request, call) (waiting ▸ List.mem_cons_self)
    have sameKind := (executeStoreCall_carries state.database run carries).2
    cases isRequest : call.isRequest with
    | true => simp [ManagementState.exchange, waiting, sameKind, isRequest]
    | false => simp [ManagementState.exchange, waiting, sameKind, isRequest]

theorem exchange_handleNext (state : ManagementState) (tagged : WellTagged state)
    (stamp : NotifyStamp) :
    (state.handleNext stamp).exchange = state.exchange ∨
      (state.handleNext stamp).exchange =
        state.exchange.answer IssuedRequest.key IssuedRequest.respond := by
  unfold ManagementState.handleNext
  split
  · exact Or.inl rfl
  · rename_i request reply rest waiting
    cases answers : reply.isAnswer with
    | false =>
        refine Or.inl ?_
        rw [ManagementState.exchange_onStoreReply_members stamp answers]
        simp [ManagementState.exchange, waiting, answers]
    | true =>
        refine Or.inr ?_
        have carries := tagged.replies (request, reply) (waiting ▸ List.mem_cons_self)
        rw [ManagementState.exchange_onStoreReply stamp carries answers]
        simp [ManagementState.exchange, Exchange.answer, waiting, answers]

theorem exchange_next (state : ManagementState) (event : ManagementEvent)
    (tagged : WellTagged state) (condition : NotWaiting state event) :
    (event.next state).exchange = state.exchange ∨
      ∃ event', requestExchange.enabled state.exchange event' ∧
        (event.next state).exchange = requestExchange.next state.exchange event' := by
  cases event with
  | session event => exact Or.inl rfl
  | sessionDeleted connectionId => exact Or.inl rfl
  | ensureUser run userId nickname => exact Or.inl rfl
  | packetReceived connectionId packet =>
      rw [ManagementEvent.next, ManagementState.onPacketReceived]
      split
      · exact Or.inl rfl
      · rename_i session found
        rcases dispatch_cases state session packet with
          ⟨accepts, group, friend, call, issued, _, isRequest, waits⟩ | ⟨refusal, refused⟩ |
          ⟨_, ignored⟩
        · refine Or.inr ⟨.issue ⟨state.issued.length, session.connectionId, packet.cmd,
            packet.msgId⟩, condition session found accepts, ?_⟩
          rw [issued]
          simp [ManagementState.exchange, ManagementState.issue, exchangeSystem, Exchange.issue,
            isRequest, waits, IssuedRequest.key, IssuedRequest.waiter]
        · rw [refused]
          exact Or.inl rfl
        · rw [ignored]
          exact Or.inl rfl
  | executeNext run => exact Or.inl (exchange_executeNext state tagged run)
  | handleNext stamp =>
      rcases exchange_handleNext state tagged stamp with same | answered
      · exact Or.inl same
      · exact Or.inr ⟨.answer, trivial, answered⟩

theorem wellTagged_of_reachable (state : ManagementState)
    (reached : managementSystem.Reachable state) : WellTagged state :=
  reached.invariant WellTagged.empty fun _ event _ tagged enabled => tagged.next event enabled

theorem correlated_of_notWaiting (state : ManagementState)
    (reached : (managementSystem.restrict NotWaiting).Reachable state) :
    Correlated IssuedRequest.key IssuedRequest.waiter IssuedRequest.respond state.exchange := by
  have simulated : requestExchange.Reachable state.exchange := by
    refine System.Reachable.simulates ManagementState.exchange exchange_empty ?_ state reached
    intro before event reachedBefore enabled
    exact exchange_next before event
      (wellTagged_of_reachable before (System.Reachable.of_restrict reachedBefore)) enabled.2
  exact correlated_of_reachable _ _ _ state.exchange simulated

/-! ## Delivery -/

/-- What was sent to a session that is still connected reached it. -/
def Delivered (state : ManagementState) : Prop :=
  ∀ ack ∈ state.acks, state.manager.connected ack.session = true → ack.delivered = true

theorem connected_next (manager : SessionManager) (event : SessionEvent) {connectionId : String}
    (connected : (event.next manager).connected connectionId = true) :
    (∃ now, event = .newConnection connectionId now) ∨
      manager.connected connectionId = true := by
  unfold SessionManager.connected at connected ⊢
  cases found : (event.next manager).findByConnectionId connectionId with
  | none => simp [found] at connected
  | some session =>
      simp only [found] at connected
      rcases session_next manager event found with isNew | ⟨before, old, kept⟩
      · exact Or.inl isNew
      · rw [old]
        exact Or.inr (kept connected)

theorem Delivered.next {state : ManagementState} (delivered : Delivered state)
    (known : ∀ ack ∈ state.acks, ack.session ∈ state.attached) (event : ManagementEvent)
    (enabled : event.enabled state) : Delivered (event.next state) := by
  cases event with
  | session event =>
      intro ack member connected
      rcases connected_next state.manager event connected with ⟨now, isNew⟩ | before
      · exact absurd (known ack member) (enabled.2 ack.session now isNew)
      · exact delivered ack member before
  | sessionDeleted connectionId => exact delivered
  | ensureUser run userId nickname => exact delivered
  | packetReceived connectionId packet =>
      rw [ManagementEvent.next, ManagementState.onPacketReceived]
      split
      · exact delivered
      · rename_i session found
        rcases dispatch_cases state session packet with
          ⟨_, group, friend, call, issued, _⟩ | ⟨refusal, refused⟩ | ⟨_, ignored⟩
        · rw [issued]
          exact delivered
        · rw [refused]
          exact delivered
        · rw [ignored]
          exact delivered
  | executeNext run =>
      rw [ManagementEvent.next, ManagementState.executeNext]
      split
      · exact delivered
      · exact delivered
  | handleNext stamp =>
      rw [ManagementEvent.next, ManagementState.handleNext]
      split
      · exact delivered
      · rename_i request reply rest waiting
        have emitted := Emits.onStoreReply { state with replies := rest } stamp request reply
        intro ack member connected
        rw [emitted.manager] at connected
        rcases emitted.acks ack member with old | sent
        · exact delivered ack old connected
        · exact sent.trans connected

section Acknowledged
variable {state : ManagementState}

/-- Every acknowledgement answers an issued request, at its session, with the
command of its kind. -/
theorem ack_matches
    (correlated : Correlated IssuedRequest.key IssuedRequest.waiter IssuedRequest.respond
      state.exchange) {ack : Acknowledgement} (member : ack ∈ state.acks) :
    ack.request ∈ state.issued ∧ ack.session = ack.request.session ∧
      ack.packet.cmd = ackCommandOf ack.request.cmd ∧ ack.packet.msgId = ack.request.msgId := by
  have answered : (ack.request, ack.session, ack.packet.cmd, ack.packet.msgId) ∈
      state.exchange.answered := List.mem_map.mpr ⟨ack, member, rfl⟩
  have own := correlated.matched _ answered
  simp only [IssuedRequest.respond, IssuedRequest.waiter, ackCommandFrom_own,
    Prod.mk.injEq] at own
  exact ⟨correlated.answered_issued answered, own⟩

theorem delivered_of_notWaiting (state : ManagementState)
    (reached : (managementSystem.restrict NotWaiting).Reachable state) : Delivered state := by
  refine reached.invariant ?_ ?_
  · intro ack member
    cases member
  · intro before event reachedBefore delivered enabled
    have tagged := wellTagged_of_reachable before (System.Reachable.of_restrict reachedBefore)
    have correlated := correlated_of_notWaiting before reachedBefore
    refine delivered.next ?_ event enabled.1
    intro ack member
    obtain ⟨issued, sameSession, _⟩ := ack_matches correlated member
    rw [sameSession]
    exact tagged.issuers ack.request issued

/-- With nothing in flight, a request of a connected session has exactly one
delivered acknowledgement. -/
theorem acknowledged_once (tagged : WellTagged state) (delivered : Delivered state)
    (correlated : Correlated IssuedRequest.key IssuedRequest.waiter IssuedRequest.respond
      state.exchange) (noCalls : state.calls = []) (noReplies : state.replies = [])
    {request : IssuedRequest} (issued : request ∈ state.issued)
    (connected : state.manager.connected request.session = true) :
    (state.acks.filter fun ack => ack.request = request ∧ ack.delivered = true).length = 1 := by
  have quiescent : state.exchange.inFlight = [] := by
    simp [ManagementState.exchange, noCalls, noReplies]
  have once := correlated.answered_once quiescent tagged.issued_nodup issued
  simp only [ManagementState.exchange, List.map_map] at once
  rw [List.count, List.countP_map, List.countP_eq_length_filter] at once
  rw [← once]
  congr 1
  apply List.filter_congr
  intro ack member
  obtain ⟨_, sameSession, _⟩ := ack_matches correlated member
  by_cases own : ack.request = request
  · have reachedSocket := delivered ack member (by rw [sameSession, own]; exact connected)
    simp [own, reachedSocket]
  · simp [own]

end Acknowledged

def IssuedOrRefused (before after : ManagementState) (session : ClientSession)
    (packet : Packet) : Prop :=
  (after.errors = before.errors ∧ ∃ ticket, after.issued =
    before.issued ++ [⟨ticket, session.connectionId, packet.cmd, packet.msgId⟩]) ∨
  (after.issued = before.issued ∧ ∃ code message, after.errors = before.errors ++
    if session.socketValid then
      [(session.connectionId, Packet.makeAck .unknown packet.msgId code message [])] else [])

theorem dispatch_issuedOrRefused (state : ManagementState) (session : ClientSession)
    (packet : Packet) (isRequest : ackCommandOf packet.cmd ≠ .unknown) :
    IssuedOrRefused state (state.dispatch session packet) session packet := by
  rcases dispatch_cases state session packet with
    ⟨_, group, friend, call, issued, _⟩ | ⟨refusal, refused⟩ | ⟨notRequest, _⟩
  · rw [issued]
    exact Or.inl ⟨rfl, _, rfl⟩
  · rw [refused]
    exact Or.inr ⟨rfl, _, _, rfl⟩
  · exact absurd notRequest isRequest

/-- In runs that issue no request under a message id still waiting in its map,
acknowledgements go to the sessions that issued the requests and carry the
commands of their kinds; with nothing in flight, every issued request of a
connected session has exactly one.  What is not issued is refused at once. -/
theorem requests_acknowledged_once (state : ManagementState)
    (reached : (managementSystem.restrict NotWaiting).Reachable state) :
    (∀ ack ∈ state.acks, ack.request ∈ state.issued ∧ ack.session = ack.request.session ∧
      ack.packet.cmd = ackCommandOf ack.request.cmd ∧
      ack.packet.msgId = ack.request.msgId) ∧
    (state.calls = [] → state.replies = [] → ∀ request ∈ state.issued,
      state.manager.connected request.session = true →
      (state.acks.filter fun ack =>
        ack.request = request ∧ ack.delivered = true).length = 1) ∧
    ∀ session packet, ackCommandOf packet.cmd ≠ .unknown →
      IssuedOrRefused state (state.dispatch session packet) session packet := by
  have tagged := wellTagged_of_reachable state (System.Reachable.of_restrict reached)
  have correlated := correlated_of_notWaiting state reached
  have delivered := delivered_of_notWaiting state reached
  refine ⟨fun ack member => ack_matches correlated member, ?_, ?_⟩
  · intro noCalls noReplies request issued connected
    exact acknowledged_once tagged delivered correlated noCalls noReplies issued connected
  · intro session packet isRequest
    exact dispatch_issuedOrRefused state session packet isRequest

def createGroupPacket (msgId : String) : Packet :=
  { cmd := .createGroup, msgId := msgId, payload := [("groupName", .string "friends")] }

def aliceAndBobCreate (aliceMsgId bobMsgId : String) : List ManagementEvent :=
  [.session (.newConnection "c_alice" 0), .session (.newConnection "c_bob" 0),
    .session (.connectAccepted "c_alice" "alice" "Alice"),
    .session (.connectAccepted "c_bob" "bob" "Bob"),
    .packetReceived "c_alice" (createGroupPacket aliceMsgId),
    .packetReceived "c_bob" (createGroupPacket bobMsgId),
    .executeNext (StoreRun.ok "grp_1" "2026-01-01T00:00:00.000Z"),
    .handleNext ⟨"u1", "u2"⟩]

def restOfCreate : List ManagementEvent :=
  [.executeNext (StoreRun.ok "grp_2" "2026-01-01T00:00:01.000Z"), .handleNext ⟨"u3", "u4"⟩,
    .executeNext (StoreRun.ok "" ""), .handleNext ⟨"", ""⟩,
    .executeNext (StoreRun.ok "" ""), .handleNext ⟨"", ""⟩]

def bothCreated : ManagementState :=
  (aliceAndBobCreate "m1" "m2" ++ restOfCreate).foldl ManagementEvent.next
    ManagementState.empty

theorem requests_acknowledged_once_alice :
    bothCreated.issued.length = 2 ∧ ∀ request ∈ bothCreated.issued,
      bothCreated.manager.connected request.session = true →
      (bothCreated.acks.filter fun ack =>
        ack.request = request ∧ ack.delivered = true).length = 1 := by
  have enabled : (managementSystem.restrict NotWaiting).Enabled ManagementState.empty
      (aliceAndBobCreate "m1" "m2" ++ restOfCreate) := by
    refine ⟨⟨⟨⟨by decide, rfl⟩, ?_⟩, trivial⟩, ⟨⟨⟨by decide, rfl⟩, ?_⟩, trivial⟩,
      ⟨⟨(by decide : "alice" ≠ ""), nofun⟩, trivial⟩, ⟨⟨(by decide : "bob" ≠ ""), nofun⟩, trivial⟩,
      ⟨trivial, fun _ _ _ => rfl⟩, ⟨trivial, fun _ _ _ => rfl⟩,
      ⟨trivial, trivial⟩, ⟨trivial, trivial⟩, ⟨trivial, trivial⟩, ⟨trivial, trivial⟩,
      ⟨trivial, trivial⟩, ⟨trivial, trivial⟩, ⟨trivial, trivial⟩, ⟨trivial, trivial⟩, trivial⟩
    · intro connectionId now isNew
      cases isNew
      decide
    · intro connectionId now isNew
      cases isNew
      decide
  have reached := System.Reachable.run _ _ System.Reachable.initial enabled
  exact ⟨rfl, (requests_acknowledged_once bothCreated reached).2.1 rfl rfl⟩

/-- Both message ids are the same: the acknowledgement of Alice's group goes to
Bob. -/
theorem request_acknowledged_elsewhere :
    ¬ ∀ state, managementSystem.Reachable state →
      (∀ ack ∈ state.acks, ack.request ∈ state.issued ∧ ack.session = ack.request.session ∧
        ack.packet.cmd = ackCommandOf ack.request.cmd ∧
        ack.packet.msgId = ack.request.msgId) ∧
      (state.calls = [] → state.replies = [] → ∀ request ∈ state.issued,
        state.manager.connected request.session = true →
        (state.acks.filter fun ack =>
          ack.request = request ∧ ack.delivered = true).length = 1) := by
  intro always
  have enabled : managementSystem.Enabled ManagementState.empty (aliceAndBobCreate "m1" "m1") := by
    refine ⟨⟨⟨by decide, rfl⟩, ?_⟩, ⟨⟨by decide, rfl⟩, ?_⟩, ⟨(by decide : "alice" ≠ ""), nofun⟩,
      ⟨(by decide : "bob" ≠ ""), nofun⟩, trivial, trivial, trivial, trivial, trivial⟩
    · intro connectionId now isNew
      cases isNew
      decide
    · intro connectionId now isNew
      cases isNew
      decide
  have reached := System.Reachable.run _ _ System.Reachable.initial enabled
  obtain ⟨_, sameSession, _⟩ := (always _ reached).1 _ (List.Mem.head _)
  exact absurd sameSession (by decide)

end ShirohaChat
