import ShirohaChat.Server.GroupLists
import ShirohaChat.Server.ChatServer
import ShirohaChat.Lib.Correlation

/-!
# Member lists and the messages that wait for them

The member lists in flight as a queue of their own: messages and notifications
ask for lists under generated ids, the database thread reads them in order, and
each list read is handed to the service its id belongs to.  A message that waits
has its list in flight exactly once, so each message asked for is decided once,
by the one list read for it.
-/

set_option autoImplicit false

namespace ShirohaChat

open Transition Correlation

/-- `OfflineManager::enqueueIfOfflineMany`: the calls of `enqueueIfOffline`. -/
def enqueueIfOfflineMany (recipientUserIds : List String) (packet : Packet)
    (excludeUserId : String) : List (String × Packet) :=
  (recipientUserIds.filter fun userId =>
    ¬ (excludeUserId ≠ "" ∧ userId = excludeUserId)).map fun userId => (userId, packet)

def DeliverySignal.enqueues : DeliverySignal → List (String × Packet)
  | .enqueueIfOffline userId packet => [(userId, packet)]
  | .enqueueIfOfflineMany userIds packet exclude =>
      ShirohaChat.enqueueIfOfflineMany userIds packet exclude
  | _ => []

/-! ## What becomes of a group message -/

def RanLoad.Succeeded (load : RanLoad) : Prop :=
  load.run.isOpen = true ∧ load.run.groupSelected = true ∧ load.run.executed = true

structure CarriedOut (pending : PendingGroupMessage) (store : GroupStore)
    (signals : List DeliverySignal) : Prop where
  acknowledged : signals.filterMap DeliverySignal.ackPacket =
    [(pending.senderSession, onAckReady pending.clientMsgId 200 "" pending.serverId)]
  stored : ∃ content timestamp, signals.filterMap DeliverySignal.storeRequest =
    [⟨pending.clientMsgId, pending.groupId, pending.senderUserId, content, timestamp,
      pending.serverId⟩]
  recipientsOnce : ((signals.flatMap DeliverySignal.enqueues).map Prod.fst).Nodup
  recipients : ∀ userId, userId ∈ (signals.flatMap DeliverySignal.enqueues).map Prod.fst ↔
    store.IsMember pending.groupId userId ∧ userId ≠ pending.senderUserId
  packets : ∃ groupName, ∀ enqueued ∈ signals.flatMap DeliverySignal.enqueues,
    enqueued.2 = withGroupName pending.receiveMsg groupName

def TurnedDown (pending : PendingGroupMessage) (signals : List DeliverySignal) : Prop :=
  ∃ code message, (code = 403 ∨ code = 404 ∨ code = 500) ∧
    signals = [.ackReady pending.senderSession pending.clientMsgId code message ""]

/-- The message is carried out exactly when its member list was read and its
sender was a member then, and turned down otherwise. -/
def Decided (pending : PendingGroupMessage) (load : RanLoad) (signals : List DeliverySignal) :
    Prop :=
  (CarriedOut pending load.store signals ↔
    load.Succeeded ∧ load.store.IsMember pending.groupId pending.senderUserId) ∧
  (TurnedDown pending signals ↔
    ¬ (load.Succeeded ∧ load.store.IsMember pending.groupId pending.senderUserId))

def Answers (pending : PendingGroupMessage) (result : GroupMembersResult)
    (signals : List DeliverySignal) : Prop :=
  (result.success = false ∧ signals =
    [.ackReady pending.senderSession pending.clientMsgId
      (if result.errorCode > 0 then result.errorCode else 500) result.errorMessage ""]) ∨
  (result.success = true ∧ pending.senderUserId ∉ result.members ∧ signals =
    [.ackReady pending.senderSession pending.clientMsgId 403
      "Sender is not a member of group" ""]) ∨
  (result.success = true ∧ pending.senderUserId ∈ result.members ∧ ∃ content timestamp, signals =
    [.ackReady pending.senderSession pending.clientMsgId 200 "" pending.serverId,
      .requestStoreMessage ⟨pending.clientMsgId, pending.groupId, pending.senderUserId, content,
        timestamp, pending.serverId⟩,
      .enqueueIfOfflineMany result.members (withGroupName pending.receiveMsg result.groupName)
        pending.senderUserId])

/-- A read fails with an error code, or gives the members of the group. -/
theorem RanLoad.result_cases (load : RanLoad) (consistent : GroupsConsistent load.store) :
    (load.result.success = false ∧
      (load.result.errorCode = 404 ∨ load.result.errorCode = 500) ∧
      ∀ userId, load.store.IsMember load.query.groupId userId → ¬ load.Succeeded) ∨
    (load.result.success = true ∧ load.Succeeded ∧ load.result.members.Nodup ∧
      ∀ userId, userId ∈ load.result.members ↔
        load.store.IsMember load.query.groupId userId) := by
  obtain ⟨query, store, run⟩ := load
  simp only [RanLoad.result, RanLoad.Succeeded, loadGroupMembers]
  by_cases isOpen : run.isOpen = true
  · by_cases selected : run.groupSelected = true
    · rw [if_neg (not_not.mpr isOpen), if_neg (not_not.mpr selected)]
      cases found : store.groups.find? query.groupId with
      | none =>
          refine Or.inl ⟨rfl, Or.inl rfl, ?_⟩
          rintro userId ⟨row, member, rowGroup, _⟩
          obtain ⟨group, groupIn, sameId⟩ := consistent.grouped row member
          exact absurd (sameId.trans rowGroup)
            ((store.groups.find?_eq_none query.groupId).mp found group groupIn)
      | some group =>
          simp only
          by_cases executed : run.executed = true
          · rw [if_neg (not_not.mpr executed)]
            refine Or.inr ⟨rfl, ⟨isOpen, selected, executed⟩, ?_, ?_⟩
            · refine (List.Perm.nodup_iff ?_).mpr (store.memberIds_nodup query.groupId)
              exact (oldestFirst_perm _ _).map MemberRow.userId
            · intro userId
              rw [List.mem_map]
              constructor
              · rintro ⟨row, member, rfl⟩
                have chosen := (oldestFirst_perm _ _).mem_iff.mp member
                obtain ⟨stored, ofGroup⟩ := (store.members.mem_select _ row).mp chosen
                exact ⟨row, stored, of_decide_eq_true ofGroup, rfl⟩
              · rintro ⟨row, stored, ofGroup, sameUser⟩
                refine ⟨row, (oldestFirst_perm _ _).mem_iff.mpr ?_, sameUser⟩
                exact (store.members.mem_select _ row).mpr ⟨stored, decide_eq_true ofGroup⟩
          · rw [if_pos executed]
            exact Or.inl ⟨rfl, Or.inr rfl, fun _ _ ran => executed ran.2.2⟩
    · rw [if_neg (not_not.mpr isOpen), if_pos selected]
      exact Or.inl ⟨rfl, Or.inr rfl, fun _ _ ran => selected ran.2.1⟩
  · rw [if_pos isOpen]
    exact Or.inl ⟨rfl, Or.inr rfl, fun _ _ ran => isOpen ran.1⟩

theorem not_carriedOut_of_turnedDown {pending : PendingGroupMessage} {store : GroupStore}
    {signals : List DeliverySignal} (turnedDown : TurnedDown pending signals) :
    ¬ CarriedOut pending store signals := by
  obtain ⟨code, message, _, rfl⟩ := turnedDown
  rintro ⟨_, ⟨content, timestamp, stored⟩, _⟩
  cases stored

theorem decided_of_turnedDown {pending : PendingGroupMessage} {load : RanLoad}
    {signals : List DeliverySignal} (turnedDown : TurnedDown pending signals)
    (refused : ¬ (load.Succeeded ∧ load.store.IsMember pending.groupId pending.senderUserId)) :
    Decided pending load signals :=
  ⟨iff_of_false (not_carriedOut_of_turnedDown turnedDown) refused,
    iff_of_true turnedDown refused⟩

theorem decided_of_carriedOut {pending : PendingGroupMessage} {load : RanLoad}
    {signals : List DeliverySignal} (carriedOut : CarriedOut pending load.store signals)
    (allowed : load.Succeeded ∧ load.store.IsMember pending.groupId pending.senderUserId) :
    Decided pending load signals :=
  ⟨iff_of_true carriedOut allowed, iff_of_false
    (fun turnedDown => not_carriedOut_of_turnedDown turnedDown carriedOut)
    (fun refused => refused allowed)⟩

theorem recipients_enqueueIfOfflineMany (members : List String) (packet : Packet)
    (excludeUserId : String) :
    (enqueueIfOfflineMany members packet excludeUserId).map Prod.fst =
      members.filter fun userId => ¬ (excludeUserId ≠ "" ∧ userId = excludeUserId) := by
  unfold enqueueIfOfflineMany
  rw [List.map_map]
  exact List.map_id _

theorem decided_of_answers {pending : PendingGroupMessage} {load : RanLoad}
    {signals : List DeliverySignal} (sender : pending.senderUserId ≠ "")
    (consistent : GroupsConsistent load.store) (ofGroup : load.query.groupId = pending.groupId)
    (answers : Answers pending load.result signals) : Decided pending load signals := by
  have read := load.result_cases consistent
  rw [ofGroup] at read
  rcases read with
    ⟨failed, code, notRan⟩ | ⟨success, ran, distinct, isMember⟩
  · rcases answers with ⟨_, rfl⟩ | ⟨success, _⟩ | ⟨success, _⟩
    · refine decided_of_turnedDown ⟨_, _, ?_, rfl⟩ fun allowed => notRan _ allowed.2 allowed.1
      rcases code with notFound | broken
      · rw [notFound]
        exact Or.inr (Or.inl rfl)
      · rw [broken]
        exact Or.inr (Or.inr rfl)
    · exact absurd (failed.symm.trans success) Bool.false_ne_true
    · exact absurd (failed.symm.trans success) Bool.false_ne_true
  · rcases answers with ⟨failed, _⟩ | ⟨_, outsider, rfl⟩ |
      ⟨_, insider, content, timestamp, rfl⟩
    · exact absurd (failed.symm.trans success) Bool.false_ne_true
    · refine decided_of_turnedDown ⟨403, _, Or.inl rfl, rfl⟩ fun allowed => ?_
      exact outsider ((isMember _).mpr allowed.2)
    · have reached := recipients_enqueueIfOfflineMany
        load.result.members (withGroupName pending.receiveMsg load.result.groupName)
        pending.senderUserId
      refine decided_of_carriedOut ⟨rfl, ⟨content, timestamp, rfl⟩, ?_, ?_, ?_⟩
        ⟨ran, (isMember _).mp insider⟩
      · show ((enqueueIfOfflineMany _ _ _ ++ []).map Prod.fst).Nodup
        rw [List.append_nil, reached]
        exact distinct.filter _
      · intro userId
        show userId ∈ (enqueueIfOfflineMany _ _ _ ++ []).map Prod.fst ↔ _
        rw [List.append_nil, reached, List.mem_filter, ← isMember]
        simp [sender]
      · refine ⟨load.result.groupName, ?_⟩
        intro enqueued member
        have inMany : enqueued ∈ enqueueIfOfflineMany load.result.members
            (withGroupName pending.receiveMsg load.result.groupName) pending.senderUserId := by
          simpa [DeliverySignal.enqueues] using member
        obtain ⟨userId, _, rfl⟩ := List.mem_map.mp inMany
        rfl

/-! ## The queue of member lists -/

@[simp] theorem RanLoad.reqMsgId_result (load : RanLoad) :
    load.result.reqMsgId = load.query.reqMsgId := by
  unfold RanLoad.result loadGroupMembers
  simp only
  repeat' split
  all_goals rfl

namespace AskedLoad

def token (load : AskedLoad) : String := load.query.reqMsgId

def Owned (load : AskedLoad) : Prop :=
  match load.waiter with
  | .message pending => qStartsWith load.token "grp_notify_" = false ∧
      load.query.groupId = pending.groupId ∧ pending.senderUserId ≠ ""
  | .notification _ => qStartsWith load.token "grp_notify_" = true

end AskedLoad

/-- The last three record what was asked for, what was read, and what was done
for the messages. -/
structure LoadQueue where
  calls : List GroupMembersQuery
  replies : List GroupMembersResult
  waiting : String → Option LoadWaiter
  loads : List AskedLoad
  ran : List RanLoad
  handled : List (String × List DeliverySignal)

inductive LoadEvent where
  | ask (load : AskedLoad)
  | read (store : GroupStore) (run : GroupMembersRun)
  | take (signals : List DeliverySignal)

namespace LoadQueue

def empty : LoadQueue := ⟨[], [], fun _ => none, [], [], []⟩

/-- The ids of the member lists in flight, the next one to be handled first. -/
def inFlight (queue : LoadQueue) : List String :=
  queue.replies.map GroupMembersResult.reqMsgId ++ queue.calls.map GroupMembersQuery.reqMsgId

def ask (queue : LoadQueue) (load : AskedLoad) : LoadQueue :=
  { queue with
    calls := queue.calls ++ [load.query]
    waiting := Function.update queue.waiting load.token (some load.waiter)
    loads := queue.loads ++ [load] }

def read (queue : LoadQueue) (store : GroupStore) (run : GroupMembersRun) : LoadQueue :=
  match queue.calls with
  | [] => queue
  | query :: rest =>
      { queue with
        calls := rest
        replies := queue.replies ++ [RanLoad.result ⟨query, store, run⟩]
        ran := queue.ran ++ [⟨query, store, run⟩] }

def take (queue : LoadQueue) (signals : List DeliverySignal) : LoadQueue :=
  match queue.replies with
  | [] => queue
  | result :: rest =>
      { queue with
        replies := rest
        waiting := Function.update queue.waiting result.reqMsgId none
        handled := queue.handled ++
          if qStartsWith result.reqMsgId "grp_notify_" then []
          else [(result.reqMsgId, signals)] }

end LoadQueue

namespace LoadEvent

/-- Ids never come again, lists are read from consistent tables, and a message
that waits is answered from the list that comes in. -/
def enabled (queue : LoadQueue) : LoadEvent → Prop
  | .ask load => load.Owned ∧ ∀ other ∈ queue.loads, other.token ≠ load.token
  | .read store _ => GroupsConsistent store
  | .take signals => ∀ result rest pending, queue.replies = result :: rest →
      queue.waiting result.reqMsgId = some (.message pending) → Answers pending result signals

def next (queue : LoadQueue) : LoadEvent → LoadQueue
  | .ask load => queue.ask load
  | .read store run => queue.read store run
  | .take signals => queue.take signals

end LoadEvent

def loadSystem : System LoadQueue LoadEvent where
  initial := LoadQueue.empty
  enabled := LoadEvent.enabled
  next := LoadEvent.next

abbrev LoadExchange := Exchange AskedLoad String LoadWaiter LoadWaiter

def loadExchangeSystem : System LoadExchange (ExchangeEvent AskedLoad) :=
  exchangeSystem AskedLoad.token AskedLoad.waiter fun _ waiter => waiter

structure Follows (queue : LoadQueue) (exchange : LoadExchange) : Prop where
  waiting : exchange.waiting = queue.waiting
  issued : exchange.issued = queue.loads
  inFlight : exchange.inFlight.map AskedLoad.token = queue.inFlight

/-! ## Runs of the queue -/

theorem issued_of_inFlight {exchange : LoadExchange}
    (reached : loadExchangeSystem.Reachable exchange) {load : AskedLoad}
    (member : load ∈ exchange.inFlight) : load ∈ exchange.issued :=
  (correlated_of_reachable _ _ _ exchange reached).ledger.mem_iff.mp
    (List.mem_append_left _ member)

theorem follows_ask {queue : LoadQueue} {exchange : LoadExchange}
    (reached : loadExchangeSystem.Reachable exchange) (follows : Follows queue exchange)
    {load : AskedLoad} (fresh : ∀ other ∈ queue.loads, other.token ≠ load.token) :
    loadExchangeSystem.enabled exchange (.issue load) ∧
      Follows (queue.ask load) (loadExchangeSystem.next exchange (.issue load)) := by
  refine ⟨?_, ?_, ?_, ?_⟩
  · show exchange.waiting load.token = none
    cases waits : exchange.waiting load.token with
    | none => rfl
    | some waiter =>
        obtain ⟨other, member, sameToken⟩ :=
          waitsInFlight_of_reachable _ _ _ exchange reached load.token waiter waits
        have issued := issued_of_inFlight reached member
        rw [follows.issued] at issued
        exact absurd sameToken (fresh other issued)
  · show Function.update exchange.waiting load.token (some load.waiter) =
      Function.update queue.waiting load.token (some load.waiter)
    rw [follows.waiting]
  · show exchange.issued ++ [load] = queue.loads ++ [load]
    rw [follows.issued]
  · show (exchange.inFlight ++ [load]).map AskedLoad.token = (queue.ask load).inFlight
    rw [List.map_append, follows.inFlight]
    simp [LoadQueue.inFlight, LoadQueue.ask, AskedLoad.token]

theorem follows_read {queue : LoadQueue} {exchange : LoadExchange}
    (follows : Follows queue exchange) (store : GroupStore) (run : GroupMembersRun) :
    Follows (queue.read store run) exchange := by
  obtain ⟨waiting, issued, inFlight⟩ := follows
  unfold LoadQueue.read
  cases calls : queue.calls with
  | nil => exact ⟨waiting, issued, inFlight⟩
  | cons query rest =>
      refine ⟨waiting, issued, ?_⟩
      rw [inFlight]
      simp [LoadQueue.inFlight, calls]

theorem follows_take {queue : LoadQueue} {exchange : LoadExchange}
    (reached : loadExchangeSystem.Reachable exchange) (follows : Follows queue exchange)
    (signals : List DeliverySignal) :
    Follows (queue.take signals) exchange ∨
      Follows (queue.take signals) (loadExchangeSystem.next exchange .answer) := by
  obtain ⟨waiting, issued, inFlight⟩ := follows
  unfold LoadQueue.take
  cases replies : queue.replies with
  | nil => exact Or.inl ⟨waiting, issued, inFlight⟩
  | cons result rest =>
      refine Or.inr ?_
      cases flight : exchange.inFlight with
      | nil =>
          rw [flight] at inFlight
          simp [LoadQueue.inFlight, replies] at inFlight
      | cons load others =>
          simp only [flight, LoadQueue.inFlight, replies, List.map_cons, List.cons_append,
            List.cons.injEq] at inFlight
          have found := (correlated_of_reachable _ _ _ exchange reached).found load
            (flight ▸ List.mem_cons_self)
          simp only [loadExchangeSystem, exchangeSystem, Exchange.answer, flight,
            Exchange.settle, found]
          refine ⟨?_, issued, inFlight.2⟩
          rw [waiting, inFlight.1]

theorem reachable_follows (queue : LoadQueue) (reached : loadSystem.Reachable queue) :
    ∃ exchange, loadExchangeSystem.Reachable exchange ∧ Follows queue exchange := by
  refine reached.simulates_rel ⟨rfl, rfl, rfl⟩ ?_
  intro before event exchange _ reachedExchange follows enabled
  cases event with
  | ask load =>
      exact Or.inr ⟨.issue load, follows_ask reachedExchange follows enabled.2⟩
  | read store run => exact Or.inl (follows_read follows store run)
  | take signals =>
      rcases follows_take reachedExchange follows signals with same | answered
      · exact Or.inl same
      · exact Or.inr ⟨.answer, trivial, answered⟩

structure ReadInOrder (queue : LoadQueue) : Prop where
  asked : queue.loads.map AskedLoad.query = queue.ran.map RanLoad.query ++ queue.calls
  read : queue.replies <:+ queue.ran.map RanLoad.result
  distinct : (queue.loads.map AskedLoad.token).Nodup
  owned : ∀ load ∈ queue.loads, load.Owned
  consistent : ∀ load ∈ queue.ran, GroupsConsistent load.store

namespace ReadInOrder

variable {queue : LoadQueue}

theorem ask (inOrder : ReadInOrder queue) {load : AskedLoad} (owned : load.Owned)
    (fresh : ∀ other ∈ queue.loads, other.token ≠ load.token) : ReadInOrder (queue.ask load) := by
  refine ⟨?_, inOrder.read, ?_, ?_, inOrder.consistent⟩
  · simp [LoadQueue.ask, inOrder.asked]
  · show ((queue.loads ++ [load]).map AskedLoad.token).Nodup
    rw [List.map_append, List.nodup_append]
    refine ⟨inOrder.distinct, List.nodup_singleton _, ?_⟩
    intro old oldIn new newIn
    obtain ⟨other, member, rfl⟩ := List.mem_map.mp oldIn
    rw [List.mem_singleton.mp newIn]
    exact fresh other member
  · intro other member
    rcases List.mem_append.mp member with old | new
    · exact inOrder.owned other old
    · rw [List.mem_singleton.mp new]
      exact owned

theorem read_next (inOrder : ReadInOrder queue) {store : GroupStore}
    (consistent : GroupsConsistent store) (run : GroupMembersRun) :
    ReadInOrder (queue.read store run) := by
  unfold LoadQueue.read
  cases calls : queue.calls with
  | nil => exact inOrder
  | cons query rest =>
      refine ⟨?_, ?_, inOrder.distinct, inOrder.owned, ?_⟩
      · simp [inOrder.asked, calls]
      · obtain ⟨taken, split⟩ := inOrder.read
        refine ⟨taken, ?_⟩
        rw [List.map_append, ← split, List.append_assoc]
        rfl
      · intro load member
        rcases List.mem_append.mp member with old | new
        · exact inOrder.consistent load old
        · rw [List.mem_singleton.mp new]
          exact consistent

theorem take (inOrder : ReadInOrder queue) (signals : List DeliverySignal) :
    ReadInOrder (queue.take signals) := by
  unfold LoadQueue.take
  cases replies : queue.replies with
  | nil => exact inOrder
  | cons result rest =>
      refine ⟨inOrder.asked, ?_, inOrder.distinct, inOrder.owned, inOrder.consistent⟩
      have read := inOrder.read
      rw [replies] at read
      exact (List.suffix_cons result rest).trans read

theorem ran_of_reply (inOrder : ReadInOrder queue) {result : GroupMembersResult}
    (member : result ∈ queue.replies) :
    ∃ ran ∈ queue.ran, ran.result = result ∧ ∃ load ∈ queue.loads, load.query = ran.query := by
  obtain ⟨ran, ranIn, isResult⟩ := List.mem_map.mp (inOrder.read.subset member)
  have queried : ran.query ∈ queue.loads.map AskedLoad.query := by
    rw [inOrder.asked]
    exact List.mem_append_left _ (List.mem_map_of_mem ranIn)
  obtain ⟨load, loadIn, sameQuery⟩ := List.mem_map.mp queried
  exact ⟨ran, ranIn, isResult, load, loadIn, sameQuery⟩

theorem ran_nodup (inOrder : ReadInOrder queue) :
    (queue.ran.map fun ran => ran.query.reqMsgId).Nodup := by
  have tokens : queue.loads.map AskedLoad.token =
      (queue.loads.map AskedLoad.query).map GroupMembersQuery.reqMsgId := by
    rw [List.map_map]
    rfl
  have distinct := inOrder.distinct
  rw [tokens, inOrder.asked, List.map_append, List.map_map] at distinct
  exact (List.nodup_append.mp distinct).1

end ReadInOrder

theorem readInOrder_of_reachable (queue : LoadQueue) (reached : loadSystem.Reachable queue) :
    ReadInOrder queue := by
  refine reached.invariant ?_ ?_
  · refine ⟨rfl, List.suffix_refl _, List.nodup_nil, ?_, ?_⟩
    · intro load member
      cases member
    · intro load member
      cases member
  · intro before event _ inOrder enabled
    cases event with
    | ask load => exact inOrder.ask enabled.1 enabled.2
    | read store run => exact inOrder.read_next enabled run
    | take signals => exact inOrder.take signals

section Waiting
variable {queue : LoadQueue}

theorem inFlight_nodup (reached : loadSystem.Reachable queue) : queue.inFlight.Nodup := by
  obtain ⟨exchange, reachedExchange, follows⟩ := reachable_follows queue reached
  rw [← follows.inFlight]
  exact (correlated_of_reachable _ _ _ exchange reachedExchange).apart

theorem waiting_of_inFlight (reached : loadSystem.Reachable queue) {token : String}
    (inFlight : token ∈ queue.inFlight) :
    ∃ load ∈ queue.loads, load.token = token ∧ queue.waiting token = some load.waiter := by
  obtain ⟨exchange, reachedExchange, follows⟩ := reachable_follows queue reached
  rw [← follows.inFlight] at inFlight
  obtain ⟨load, member, rfl⟩ := List.mem_map.mp inFlight
  refine ⟨load, ?_, rfl, ?_⟩
  · rw [← follows.issued]
    exact issued_of_inFlight reachedExchange member
  · rw [← follows.waiting]
    exact (correlated_of_reachable _ _ _ exchange reachedExchange).found load member

theorem inFlight_of_waiting (reached : loadSystem.Reachable queue) {token : String}
    {waiter : LoadWaiter} (waits : queue.waiting token = some waiter) :
    token ∈ queue.inFlight := by
  obtain ⟨exchange, reachedExchange, follows⟩ := reachable_follows queue reached
  rw [← follows.waiting] at waits
  rw [← follows.inFlight]
  obtain ⟨load, member, rfl⟩ :=
    waitsInFlight_of_reachable _ _ _ exchange reachedExchange token waiter waits
  exact List.mem_map_of_mem member

theorem load_eq_of_token (inOrder : ReadInOrder queue) {load other : AskedLoad}
    (member : load ∈ queue.loads) (otherMember : other ∈ queue.loads)
    (same : load.token = other.token) : load = other :=
  List.inj_on_of_nodup_map inOrder.distinct member otherMember same

end Waiting

structure MessagesHandled (queue : LoadQueue) : Prop where
  decided : ∀ load ∈ queue.loads, ∀ pending, load.waiter = .message pending →
    load.token ∈ queue.inFlight ∨ ∃ ran ∈ queue.ran, ran.query = load.query ∧
      ∃ signals, (load.token, signals) ∈ queue.handled ∧ Decided pending ran signals
  once : (queue.handled.map Prod.fst).Nodup
  settled : ∀ entry ∈ queue.handled, entry.1 ∉ queue.inFlight ∧
    ∃ load ∈ queue.loads, load.token = entry.1 ∧ ∃ pending, load.waiter = .message pending

namespace MessagesHandled

variable {queue : LoadQueue}

theorem ask (handled : MessagesHandled queue) {load : AskedLoad}
    (fresh : ∀ other ∈ queue.loads, other.token ≠ load.token) :
    MessagesHandled (queue.ask load) := by
  have more : ∀ token, token ∈ (queue.ask load).inFlight ↔
      token ∈ queue.inFlight ∨ token = load.token := by
    intro token
    simp [LoadQueue.inFlight, LoadQueue.ask, AskedLoad.token, or_assoc]
  refine ⟨?_, handled.once, ?_⟩
  · intro other member pending isMessage
    rcases List.mem_append.mp member with old | new
    · rcases handled.decided other old pending isMessage with waits | decided
      · exact Or.inl ((more _).mpr (Or.inl waits))
      · exact Or.inr decided
    · rw [List.mem_singleton.mp new]
      exact Or.inl ((more _).mpr (Or.inr rfl))
  · intro entry member
    obtain ⟨notWaiting, other, otherIn, sameToken, isMessage⟩ := handled.settled entry member
    refine ⟨?_, other, List.mem_append_left _ otherIn, sameToken, isMessage⟩
    intro inFlight
    rcases (more _).mp inFlight with old | isNew
    · exact notWaiting old
    · exact fresh other otherIn (sameToken.trans isNew)

theorem read (handled : MessagesHandled queue) (store : GroupStore) (run : GroupMembersRun) :
    MessagesHandled (queue.read store run) := by
  unfold LoadQueue.read
  cases calls : queue.calls with
  | nil => exact handled
  | cons query rest =>
      have same : ∀ token, token ∈ LoadQueue.inFlight { queue with
          calls := rest
          replies := queue.replies ++ [RanLoad.result ⟨query, store, run⟩]
          ran := queue.ran ++ [⟨query, store, run⟩] } ↔ token ∈ queue.inFlight := by
        intro token
        simp [LoadQueue.inFlight, calls]
      refine ⟨?_, handled.once, ?_⟩
      · intro load member pending isMessage
        rcases handled.decided load member pending isMessage with waits | ⟨ran, ranIn, decided⟩
        · exact Or.inl ((same _).mpr waits)
        · exact Or.inr ⟨ran, List.mem_append_left _ ranIn, decided⟩
      · intro entry member
        obtain ⟨notWaiting, asked⟩ := handled.settled entry member
        exact ⟨fun inFlight => notWaiting ((same _).mp inFlight), asked⟩

/-- The list that comes in belongs to a load, which was read from it. -/
theorem ran_of_front (reached : loadSystem.Reachable queue) {result : GroupMembersResult}
    {rest : List GroupMembersResult} (replies : queue.replies = result :: rest) :
    ∃ load ∈ queue.loads, load.token = result.reqMsgId ∧
      queue.waiting result.reqMsgId = some load.waiter ∧
      ∃ ran ∈ queue.ran, ran.result = result ∧ ran.query = load.query := by
  have inOrder := readInOrder_of_reachable queue reached
  have front : result.reqMsgId ∈ queue.inFlight := by
    simp [LoadQueue.inFlight, replies]
  obtain ⟨load, loadIn, sameToken, waits⟩ := waiting_of_inFlight reached front
  obtain ⟨ran, ranIn, isResult, asked, askedIn, sameQuery⟩ :=
    inOrder.ran_of_reply (replies ▸ List.mem_cons_self)
  have isLoad : asked = load := by
    refine load_eq_of_token inOrder askedIn loadIn ?_
    rw [sameToken, ← isResult, RanLoad.reqMsgId_result, ← sameQuery]
    rfl
  exact ⟨load, loadIn, sameToken, waits, ran, ranIn, isResult, by rw [← isLoad, sameQuery]⟩

def Handles (queue : LoadQueue) (load : AskedLoad) (added : List (String × List DeliverySignal)) :
    Prop :=
  match load.waiter with
  | .message pending => ∃ ran ∈ queue.ran, ran.query = load.query ∧
      ∃ signals, added = [(load.token, signals)] ∧ Decided pending ran signals
  | .notification _ => added = []

theorem Handles.entries {load : AskedLoad} {added : List (String × List DeliverySignal)}
    (handles : Handles queue load added) :
    (added.map Prod.fst).Nodup ∧ ∀ entry ∈ added, entry.1 = load.token ∧
      ∃ pending, load.waiter = .message pending := by
  unfold Handles at handles
  cases isWaiter : load.waiter with
  | notification notice =>
      simp only [isWaiter] at handles
      rw [handles]
      exact ⟨List.nodup_nil, nofun⟩
  | message pending =>
      simp only [isWaiter] at handles
      obtain ⟨_, _, _, signals, rfl, _⟩ := handles
      refine ⟨List.nodup_singleton _, ?_⟩
      intro entry member
      rw [List.mem_singleton.mp member]
      exact ⟨rfl, pending, rfl⟩

theorem handles_front (reached : loadSystem.Reachable queue) {signals : List DeliverySignal}
    (enabled : LoadEvent.enabled queue (.take signals)) {result : GroupMembersResult}
    {rest : List GroupMembersResult} (replies : queue.replies = result :: rest) :
    ∃ load ∈ queue.loads, load.token = result.reqMsgId ∧ Handles queue load
      (if qStartsWith result.reqMsgId "grp_notify_" then []
        else [(result.reqMsgId, signals)]) := by
  have inOrder := readInOrder_of_reachable queue reached
  obtain ⟨load, loadIn, sameToken, waits, ran, ranIn, isResult, sameQuery⟩ :=
    ran_of_front reached replies
  have owned := inOrder.owned load loadIn
  refine ⟨load, loadIn, sameToken, ?_⟩
  unfold AskedLoad.Owned at owned
  unfold Handles
  cases isWaiter : load.waiter with
  | notification notice =>
      simp only [isWaiter, sameToken] at owned
      exact if_pos owned
  | message pending =>
      simp only [isWaiter, sameToken] at owned
      obtain ⟨isMessage, ofGroup, sender⟩ := owned
      rw [isWaiter] at waits
      refine ⟨ran, ranIn, sameQuery, signals, ?_, ?_⟩
      · rw [isMessage, if_neg Bool.false_ne_true, sameToken]
      · refine decided_of_answers sender (inOrder.consistent ran ranIn) ?_ ?_
        · rw [sameQuery, ofGroup]
        · rw [isResult]
          exact enabled result rest pending replies waits

theorem taken {after : LoadQueue} (handled : MessagesHandled queue)
    (inOrder : ReadInOrder queue) (apart : queue.inFlight.Nodup) {load : AskedLoad}
    (loadIn : load ∈ queue.loads) {added : List (String × List DeliverySignal)}
    (handles : Handles queue load added)
    (inFlight : queue.inFlight = load.token :: after.inFlight) (loads : after.loads = queue.loads)
    (ran : after.ran = queue.ran) (recorded : after.handled = queue.handled ++ added) :
    MessagesHandled after := by
  rw [inFlight, List.nodup_cons] at apart
  have later : ∀ token, token ∉ queue.inFlight → token ∉ after.inFlight := by
    intro token notWaiting member
    rw [inFlight] at notWaiting
    exact notWaiting (List.mem_cons_of_mem _ member)
  obtain ⟨onceAdded, added_of⟩ := handles.entries
  refine ⟨?_, ?_, ?_⟩
  · intro other otherIn pending isMessage
    rw [loads] at otherIn
    rw [ran, recorded]
    by_cases same : other = load
    · subst same
      unfold Handles at handles
      simp only [isMessage] at handles
      obtain ⟨read, readIn, sameQuery, signals, rfl, decided⟩ := handles
      exact Or.inr ⟨read, readIn, sameQuery, signals,
        List.mem_append_right _ (List.mem_singleton_self _), decided⟩
    · rcases handled.decided other otherIn pending isMessage with
        waits | ⟨read, readIn, sameQuery, signals, member, decided⟩
      · rw [inFlight] at waits
        rcases List.mem_cons.mp waits with isFront | stays
        · exact absurd (load_eq_of_token inOrder otherIn loadIn isFront) same
        · exact Or.inl stays
      · exact Or.inr ⟨read, readIn, sameQuery, signals, List.mem_append_left _ member, decided⟩
  · rw [recorded, List.map_append, List.nodup_append]
    refine ⟨handled.once, onceAdded, ?_⟩
    intro old oldIn new newIn sameId
    obtain ⟨entry, member, rfl⟩ := List.mem_map.mp oldIn
    obtain ⟨latest, latestIn, rfl⟩ := List.mem_map.mp newIn
    refine (handled.settled entry member).1 ?_
    rw [sameId, (added_of latest latestIn).1, inFlight]
    exact List.mem_cons_self
  · intro entry member
    rw [recorded] at member
    rw [loads]
    rcases List.mem_append.mp member with old | new
    · obtain ⟨notWaiting, asked⟩ := handled.settled entry old
      exact ⟨later entry.1 notWaiting, asked⟩
    · obtain ⟨sameToken, pending, isMessage⟩ := added_of entry new
      rw [sameToken]
      exact ⟨apart.1, load, loadIn, rfl, pending, isMessage⟩

theorem take (handled : MessagesHandled queue) (reached : loadSystem.Reachable queue)
    {signals : List DeliverySignal} (enabled : LoadEvent.enabled queue (.take signals)) :
    MessagesHandled (queue.take signals) := by
  unfold LoadQueue.take
  cases replies : queue.replies with
  | nil => exact handled
  | cons result rest =>
      obtain ⟨load, loadIn, sameToken, handles⟩ := handles_front reached enabled replies
      refine handled.taken (readInOrder_of_reachable queue reached) (inFlight_nodup reached)
        loadIn handles ?_ rfl rfl rfl
      simp [LoadQueue.inFlight, replies, sameToken]

end MessagesHandled

theorem messagesHandled_of_reachable (queue : LoadQueue) (reached : loadSystem.Reachable queue) :
    MessagesHandled queue := by
  refine reached.invariant ?_ ?_
  · refine ⟨?_, List.nodup_nil, ?_⟩
    · intro load member
      cases member
    · intro entry member
      cases member
  · intro before event reachedBefore handled enabled
    cases event with
    | ask load => exact handled.ask enabled.2
    | read store run => exact handled.read store run
    | take signals => exact handled.take reachedBefore enabled

end ShirohaChat
