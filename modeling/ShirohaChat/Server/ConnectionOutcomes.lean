import ShirohaChat.Server.RequestOutcomes

/-!
# The requests of one connection

What the log says about a single connection: its executions are its requests
from the first one on, its acknowledgements are the answers of its executions,
and what reached its socket is the first part of them.
-/

set_option autoImplicit false

namespace ShirohaChat

open Transition Correlation

/-! ## Every request has an answer -/

theorem answer_of_storeCall {packet : Packet} {userId : String} {call : StoreCall}
    (asks : packet.storeCall userId = some call) (database : Database) (run : StoreRun) :
    ∃ ack, call.answer (executeStoreCall database run call).2 = some ack := by
  unfold Packet.storeCall at asks
  split at asks
  case h_11 => cases asks
  all_goals
    cases asks
    exact ⟨_, rfl⟩

def Command.answersRequest : Command → Bool
  | .createGroupAck => true
  | .addMemberAck => true
  | .removeMemberAck => true
  | .leaveGroupAck => true
  | .groupListAck => true
  | .friendRequestAck => true
  | .friendAcceptAck => true
  | .friendRejectAck => true
  | .friendListAck => true
  | .friendRequestListAck => true
  | _ => false

theorem answersRequest_of_answer {call : StoreCall} {reply : StoreReply} {ack : Packet}
    (answers : call.answer reply = some ack) : ack.cmd.answersRequest = true := by
  unfold StoreCall.answer at answers
  split at answers
  case h_7 request result =>
    cases answers
    rw [FriendHandler.onDecisionCompleted]
    cases request.operation <;> rfl
  case h_10 => cases answers
  all_goals
    cases answers
    simp [Command.answersRequest, GroupHandler.onGroupCreated,
      GroupHandler.onMemberOpCompleted, GroupHandler.memberOpAck,
      FriendHandler.onCreateCompleted, Packet.makeAck]

namespace RequestLog

variable (log : RequestLog) (connectionId : String)

def askedOn : List AskedRequest :=
  log.asked.filter fun asked => asked.request.session = connectionId

def executedOn : List Execution :=
  (log.handled ++ log.unhandled).filter fun execution =>
    execution.call.isRequest ∧ execution.request.session = connectionId

def acksOn : List Acknowledgement :=
  log.state.acks.filter fun ack => ack.session = connectionId

def writtenOn : List Acknowledgement :=
  log.state.acks.filter fun ack => ack.session = connectionId ∧ ack.delivered = true

variable {log} {connectionId}

theorem filter_asked (executions : List Execution) :
    (executions.filterMap Execution.asked).filter (fun entry => entry.1.session = connectionId) =
      (executions.filter fun execution =>
        execution.call.isRequest ∧ execution.request.session = connectionId).map
          Execution.entry := by
  induction executions with
  | nil => rfl
  | cons execution rest ih =>
      cases isRequest : execution.call.isRequest with
      | false => simpa [Execution.asked, isRequest] using ih
      | true =>
          by_cases own : execution.request.session = connectionId
          · simpa [Execution.asked, Execution.entry, isRequest, own] using ih
          · simpa [Execution.asked, isRequest, own] using ih

/-- The requests still waiting for the database thread come last. -/
theorem executedOn_asked (connectionId : String) (inOrder : log.InOrder) :
    (log.executedOn connectionId).map Execution.entry ++
        (requestsOf log.state.calls).filter (fun entry => entry.1.session = connectionId) =
      (log.askedOn connectionId).map AskedRequest.entry := by
  have order := congrArg
    (List.filter fun entry : IssuedRequest × StoreCall => entry.1.session = connectionId)
    inOrder.order
  rw [List.filter_append, filter_asked, List.filter_map] at order
  exact order

theorem executedOn_getElem (inOrder : log.InOrder) {place : Nat} {execution : Execution}
    (executed : (log.executedOn connectionId)[place]? = some execution) :
    ∃ asked, (log.askedOn connectionId)[place]? = some asked ∧ asked.Own ∧
      asked.entry = execution.entry := by
  have whole := executedOn_asked connectionId inOrder
  have inRange : place < ((log.executedOn connectionId).map Execution.entry).length := by
    rw [List.length_map]
    exact (List.getElem?_eq_some_iff.mp executed).1
  have found : ((log.askedOn connectionId).map AskedRequest.entry)[place]? =
      some execution.entry := by
    rw [← whole, List.getElem?_append_left inRange, List.getElem?_map, executed]
    rfl
  rw [List.getElem?_map] at found
  obtain ⟨asked, isAsked, same⟩ := Option.map_eq_some_iff.mp found
  refine ⟨asked, isAsked, inOrder.own asked ?_, same⟩
  exact List.mem_of_mem_filter (List.mem_of_getElem? isAsked)

/-- What the acknowledgements of a connection say, for executions that are
answered exactly when somebody asked for them. -/
theorem filter_acknowledgements {executions : List Execution}
    (answered : ∀ execution ∈ executions, execution.call.isRequest = true →
      ∃ ack, execution.call.answer execution.reply = some ack)
    (silent : ∀ execution ∈ executions, execution.call.isRequest = false →
      execution.call.answer execution.reply = none) :
    ((executions.filterMap Execution.acknowledgement).filter fun sent =>
        sent.2.1 = connectionId).map (fun sent => some sent.2.2) =
      (executions.filter fun execution =>
        execution.call.isRequest ∧ execution.request.session = connectionId).map
          fun execution => execution.call.answer execution.reply := by
  induction executions with
  | nil => rfl
  | cons execution rest ih =>
      have later := ih (fun other member => answered other (List.mem_cons_of_mem _ member))
        fun other member => silent other (List.mem_cons_of_mem _ member)
      cases isRequest : execution.call.isRequest with
      | false =>
          have none := silent execution List.mem_cons_self isRequest
          simpa [Execution.acknowledgement, none, isRequest] using later
      | true =>
          obtain ⟨ack, isAck⟩ := answered execution List.mem_cons_self isRequest
          by_cases own : execution.request.session = connectionId
          · simpa [Execution.acknowledgement, isAck, isRequest, own] using later
          · simpa [Execution.acknowledgement, isAck, isRequest, own] using later

theorem InOrder.answered_handled (inOrder : log.InOrder) {execution : Execution}
    (handled : execution ∈ log.handled) (isRequest : execution.call.isRequest = true) :
    ∃ ack, execution.call.answer execution.reply = some ack := by
  have recorded : execution.entry ∈ log.asked.map AskedRequest.entry := by
    rw [← inOrder.order]
    refine List.mem_append_left _ (List.mem_filterMap.mpr
      ⟨execution, List.mem_append_left _ handled, ?_⟩)
    exact if_pos isRequest
  obtain ⟨asked, isAsked, same⟩ := List.mem_map.mp recorded
  have asks := (inOrder.own asked isAsked).1
  rw [show asked.call = execution.call from congrArg Prod.snd same] at asks
  exact answer_of_storeCall asks _ _

theorem answer_of_load {execution : Execution} (isLoad : execution.call.isRequest = false) :
    execution.call.answer execution.reply = none := by
  obtain ⟨request, call, database, run⟩ := execution
  cases call with
  | loadGroupMembers query => rfl
  | _ => cases isLoad

/-- The acknowledgements of a connection answer its executions, one by one. -/
theorem acksOn_executed (inOrder : log.InOrder) :
    (log.acksOn connectionId).map (fun ack => some ack.packet) ++
        (log.unhandled.filter fun execution =>
          execution.call.isRequest ∧ execution.request.session = connectionId).map
            (fun execution => execution.call.answer execution.reply) =
      (log.executedOn connectionId).map fun execution =>
        execution.call.answer execution.reply := by
  have acks := congrArg (fun sent : List (IssuedRequest × String × Packet) =>
    (sent.filter fun one => one.2.1 = connectionId).map fun one => some one.2.2) inOrder.acks
  rw [filter_acknowledgements (fun _ member => inOrder.answered_handled member)
    fun _ _ => answer_of_load, List.filter_map, List.map_map] at acks
  rw [executedOn, List.filter_append, List.map_append]
  exact congrArg (· ++ _) acks

theorem InOrder.acks_answer (inOrder : log.InOrder) {ack : Acknowledgement}
    (member : ack ∈ log.state.acks) : ack.packet.cmd.answersRequest = true := by
  have sent : ack.sent ∈ log.handled.filterMap Execution.acknowledgement := by
    rw [← inOrder.acks]
    exact List.mem_map.mpr ⟨ack, member, rfl⟩
  obtain ⟨execution, _, isSent⟩ := List.mem_filterMap.mp sent
  obtain ⟨packet, answers, same⟩ := Option.map_eq_some_iff.mp isSent
  have isPacket : packet = ack.packet := congrArg (fun one => one.2.2) same
  exact answersRequest_of_answer (isPacket ▸ answers)

end RequestLog

/-! ## What reaches the socket -/

namespace ManagementState

variable {state : ManagementState}

def AddsAcks (before after : ManagementState) : Prop :=
  after.manager = before.manager ∧ after.errors = before.errors ∧
    ∃ added, after.acks = before.acks ++ added ∧
      ∀ ack ∈ added, ack.delivered = before.manager.connected ack.session

theorem AddsAcks.refl (state : ManagementState) : AddsAcks state state :=
  ⟨rfl, rfl, [], (List.append_nil _).symm, by simp⟩

theorem AddsAcks.trans {first second third : ManagementState} (one : AddsAcks first second)
    (two : AddsAcks second third) : AddsAcks first third := by
  obtain ⟨sameManager, sameErrors, added, acks, delivered⟩ := one
  obtain ⟨sameManager', sameErrors', added', acks', delivered'⟩ := two
  refine ⟨sameManager'.trans sameManager, sameErrors'.trans sameErrors, added ++ added', ?_, ?_⟩
  · rw [acks', acks, List.append_assoc]
  · intro ack member
    rcases List.mem_append.mp member with early | late
    · exact delivered ack early
    · rw [delivered' ack late, sameManager]

theorem addsAcks_acknowledge (request : IssuedRequest) (session : String) (packet : Packet) :
    AddsAcks state (state.acknowledge request session packet) := by
  refine ⟨rfl, rfl, _, rfl, ?_⟩
  intro ack member
  rw [List.mem_singleton.mp member]

theorem addsAcks_same {after : ManagementState} (sameManager : after.manager = state.manager)
    (sameErrors : after.errors = state.errors) (sameAcks : after.acks = state.acks) :
    AddsAcks state after :=
  ⟨sameManager, sameErrors, [], by rw [sameAcks, List.append_nil], by simp⟩

theorem addsAcks_runGroup (request : IssuedRequest)
    (outcome : GroupManagementService × List GroupSignal) :
    AddsAcks state (state.runGroup request outcome) := by
  have signals : ∀ (emitted : List GroupSignal) (before : ManagementState),
      AddsAcks before (emitted.foldl (emitGroup request) before) := by
    intro emitted
    induction emitted with
    | nil => exact AddsAcks.refl
    | cons signal rest ih =>
        intro before
        refine AddsAcks.trans ?_ (ih (emitGroup request before signal))
        cases signal with
        | requestLoadGroupMembersForNotify query => exact addsAcks_same rfl rfl rfl
        | enqueueIfOffline userId packet => exact addsAcks_same rfl rfl rfl
        | _ => exact addsAcks_acknowledge _ _ _
  exact (addsAcks_same rfl rfl rfl).trans (signals outcome.2 { state with group := outcome.1 })

theorem addsAcks_runFriend (request : IssuedRequest)
    (outcome : FriendManagementService × List FriendSignal) :
    AddsAcks state (state.runFriend request outcome) := by
  have signals : ∀ (emitted : List FriendSignal) (before : ManagementState),
      AddsAcks before (emitted.foldl (emitFriend request) before) := by
    intro emitted
    induction emitted with
    | nil => exact AddsAcks.refl
    | cons signal rest ih =>
        intro before
        refine AddsAcks.trans ?_ (ih (emitFriend request before signal))
        cases signal with
        | enqueueIfOffline userId packet => exact addsAcks_same rfl rfl rfl
        | _ => exact addsAcks_acknowledge _ _ _
  exact (addsAcks_same rfl rfl rfl).trans (signals outcome.2 { state with friend := outcome.1 })

theorem addsAcks_onStoreReply (stamp : NotifyStamp) (request : IssuedRequest)
    (reply : StoreReply) : AddsAcks state (state.onStoreReply stamp request reply) := by
  cases reply with
  | groupMembersLoaded result =>
      rw [onStoreReply]
      split
      · exact addsAcks_runGroup _ _
      · exact AddsAcks.refl state
  | groupCreated result => exact addsAcks_runGroup _ _
  | memberOpCompleted result => exact addsAcks_runGroup _ _
  | groupListLoaded result => exact addsAcks_runGroup _ _
  | friendRequestCreated result => exact addsAcks_runFriend _ _
  | friendDecisionCompleted result => exact addsAcks_runFriend _ _
  | friendListLoaded result => exact addsAcks_runFriend _ _
  | friendRequestListLoaded result => exact addsAcks_runFriend _ _

theorem addsAcks_handleNext (stamp : NotifyStamp) :
    AddsAcks state (state.handleNext stamp) := by
  unfold handleNext
  split
  · exact AddsAcks.refl state
  · exact (addsAcks_same rfl rfl rfl).trans (addsAcks_onStoreReply _ _ _)

/-- A step acknowledges and refuses nothing, or only the one or the other. -/
theorem written_next (state : ManagementState) (event : ManagementEvent) :
    ((event.next state).errors = state.errors ∧ (event.next state).acks = state.acks) ∨
    AddsAcks state (event.next state) ∨
    ∃ refused, (event.next state).acks = state.acks ∧
      (event.next state).errors = state.errors ++ refused ∧
      ∀ entry ∈ refused, entry.2.cmd = .unknown := by
  cases event with
  | packetReceived connectionId packet =>
      rw [ManagementEvent.next, onPacketReceived]
      split
      · exact Or.inl ⟨rfl, rfl⟩
      rename_i session found
      rcases dispatch_cases state session packet with
        ⟨_, group, friend, call, issued, _⟩ | ⟨refusal, refused⟩ | ⟨_, ignored⟩
      · rw [issued]
        exact Or.inl ⟨rfl, rfl⟩
      · rw [refused]
        refine Or.inr (Or.inr ⟨_, rfl, rfl, ?_⟩)
        intro entry member
        split at member
        · rw [List.mem_singleton.mp member]
          rfl
        · cases member
      · rw [ignored]
        exact Or.inl ⟨rfl, rfl⟩
  | handleNext stamp => exact Or.inr (Or.inl (addsAcks_handleNext stamp))
  | executeNext run =>
      rw [ManagementEvent.next, executeNext]
      split <;> exact Or.inl ⟨rfl, rfl⟩
  | session event => exact Or.inl ⟨rfl, rfl⟩
  | sessionDeleted connectionId => exact Or.inl ⟨rfl, rfl⟩
  | ensureUser run userId nickname => exact Or.inl ⟨rfl, rfl⟩

end ManagementState

/-- A socket that is gone does not come back: what reached it comes first. -/
theorem writtenOn_prefix (connectionId : String) :
    ∀ log, requestLogSystem.Reachable log →
      log.writtenOn connectionId <+: log.acksOn connectionId := by
  refine System.Reachable.invariant (List.prefix_refl _) ?_
  intro log event reached written enabled
  simp only [RequestLog.writtenOn, RequestLog.acksOn, requestLogSystem, RequestLog.next_state]
    at written ⊢
  rcases ManagementState.written_next log.state event with
    ⟨_, sameAcks⟩ | ⟨_, _, added, acks, delivered⟩ | ⟨_, sameAcks, _⟩
  · rw [sameAcks]
    exact written
  · rw [acks, List.filter_append, List.filter_append]
    cases isConnected : log.state.manager.connected connectionId with
    | true =>
        -- so far everything has reached the socket
        have allDelivered : ∀ acks : List Acknowledgement,
            (∀ ack ∈ acks, ack.session = connectionId → ack.delivered = true) →
            (acks.filter fun ack => ack.session = connectionId ∧ ack.delivered = true) =
              acks.filter fun ack => ack.session = connectionId := by
          intro acks reachedSocket
          refine List.filter_congr ?_
          intro ack member
          by_cases own : ack.session = connectionId
          · simp [own, reachedSocket ack member own]
          · simp [own]
        have before := delivered_of_notWaiting log.state (requestLog_state log reached)
        rw [allDelivered log.state.acks fun ack member own =>
            before ack member (own ▸ isConnected),
          allDelivered added fun ack member own => by rw [delivered ack member, own, isConnected]]
    | false =>
        have noneAdded : (added.filter fun ack =>
            ack.session = connectionId ∧ ack.delivered = true) = [] := by
          refine List.filter_eq_nil_iff.mpr ?_
          intro ack member both
          obtain ⟨own, reachedSocket⟩ := of_decide_eq_true both
          rw [delivered ack member, own, isConnected] at reachedSocket
          cases reachedSocket
        rw [noneAdded, List.append_nil]
        exact written.trans (List.prefix_append _ _)
  · rw [sameAcks]
    exact written

end ShirohaChat
