import ShirohaChat.Server.DeliveryRuns

/-!
# The delivery service between its calls

The order list can name a key twice, and keys whose entry is gone.  The clean-up
is an eviction in the order of this list; between the calls the cache fits its
capacity, and the in-flight set names the pending group messages.
-/

set_option autoImplicit false

namespace ShirohaChat

open Transition DeliveryConfig EvictingCache

/-! ## What holds between the calls -/

structure BetweenCalls (service : MessageDeliveryService) : Prop where
  bounded : service.idempotencyCache.keys.length ≤ idempotencyCacheMaxEntries
  listed : Listed service.idempotencyOrder service.idempotencyCache
  inFlight : FiniteMap.Indexes PendingGroupMessage.requestKey service.pendingGroupMessages
    service.inFlightGroupMsgIds

namespace BetweenCalls

variable {service : MessageDeliveryService}

theorem empty : BetweenCalls MessageDeliveryService.empty :=
  ⟨Nat.zero_le _, listed_empty, FiniteMap.Indexes.empty⟩

theorem of_prune (listed : Listed service.idempotencyOrder service.idempotencyCache)
    (inFlight : FiniteMap.Indexes PendingGroupMessage.requestKey service.pendingGroupMessages
      service.inFlightGroupMsgIds) (nowMs : Int) :
    BetweenCalls (service.pruneIdempotencyCache nowMs) := by
  have kept := listed.evict (Due nowMs)
  have fits : (evict (Due nowMs) service.idempotencyOrder
      service.idempotencyCache).2.keys.length ≤ idempotencyCacheMaxEntries :=
    evict_fits (Due nowMs) listed fun _ _ tooMany => Or.inr tooMany
  rw [← MessageDeliveryService.pruneOldest_eq_evict] at kept fits
  exact ⟨fits, kept, inFlight⟩

theorem prune (between : BetweenCalls service) (nowMs : Int) :
    BetweenCalls (service.pruneIdempotencyCache nowMs) :=
  of_prune between.listed between.inFlight nowMs

theorem remember (between : BetweenCalls service) (requestKey : String)
    (entry : IdempotencyEntry) (nowMs : Int) :
    BetweenCalls ((service.remember requestKey entry).pruneIdempotencyCache nowMs) := by
  have listed : Listed (service.remember requestKey entry).idempotencyOrder
      (service.remember requestKey entry).idempotencyCache :=
    between.listed.enter requestKey entry
  exact of_prune listed between.inFlight nowMs

theorem load (between : BetweenCalls service) {token : String} {pending : PendingGroupMessage}
    (fresh : token ∉ service.pendingGroupMessages)
    (notInFlight : pending.requestKey ∉ service.inFlightGroupMsgIds) :
    BetweenCalls { service with
      inFlightGroupMsgIds := insert pending.requestKey service.inFlightGroupMsgIds
      pendingGroupMessages := service.pendingGroupMessages.insert token pending } :=
  ⟨between.bounded, between.listed, between.inFlight.insert fresh notInFlight⟩

theorem take (between : BetweenCalls service) {token : String} {pending : PendingGroupMessage}
    (found : service.pendingGroupMessages.lookup token = some pending) :
    BetweenCalls (service.take token pending.requestKey) :=
  ⟨between.bounded, between.listed, between.inFlight.erase found⟩

theorem processSendMessage (between : BetweenCalls service) (sha256 : List Nat → String)
    (stamp : SendStamp) (params : SendMessageParams)
    (fresh : stamp.reqToken ∉ service.pendingGroupMessages) :
    BetweenCalls (processSendMessage sha256 service stamp params).1 := by
  have pruned := between.prune stamp.prunedAt
  rcases processSendMessage_cases sha256 service stamp params with
    ⟨entry, _, handled⟩ | ⟨_, code, message, _, handled⟩ | ⟨_, handled⟩ |
    ⟨_, _, handled⟩ | ⟨_, notInFlight, handled⟩
  · rw [handled]
    exact pruned
  · rw [handled]
    exact pruned
  · rw [handled]
    exact pruned.remember _ _ stamp.reprunedAt
  · rw [handled]
    exact pruned
  · rw [handled]
    exact pruned.load fresh notInFlight

theorem onGroupMembersForMessage (between : BetweenCalls service) (stamp : LoadStamp)
    (result : GroupMembersResult) :
    BetweenCalls (onGroupMembersForMessage service stamp result).1 := by
  rcases onGroupMembersForMessage_cases service stamp result with
    ⟨_, handled⟩ | ⟨pending, found, outcomes⟩
  · rw [handled]
    exact between
  · have taken := between.take found
    rcases outcomes with ⟨_, handled⟩ | ⟨_, _, handled⟩ | ⟨_, _, handled⟩
    · rw [handled]
      exact taken
    · rw [handled]
      exact taken.remember _ _ stamp.reprunedAt
    · rw [handled]
      exact taken.remember _ _ stamp.reprunedAt

end BetweenCalls

/-! ## What a call does to the cache -/

/-- Due entries leave, one at a time, at the readings of the clock, and the outcome
of the call's own request key enters, replacing one that is there; the cache
changes in no other way. -/
def DropsOnlyDue (before after : MessageDeliveryService) : DeliveryEvent → Prop
  | .processSendMessage stamp params =>
      ∃ pruned : FiniteMap String IdempotencyEntry,
        Relation.ReflTransGen (Drops (Due stamp.prunedAt)) before.idempotencyCache pruned ∧
        (after.idempotencyCache = pruned ∨
          ∃ entry, requestKeyFor params.senderUserId params.msgId ∉ pruned ∧
            Relation.ReflTransGen (Drops (Due stamp.reprunedAt))
              (pruned.insert (requestKeyFor params.senderUserId params.msgId) entry)
              after.idempotencyCache)
  | .groupMembersLoaded stamp result =>
      after.idempotencyCache = before.idempotencyCache ∨
        ∃ pending entry, before.pendingGroupMessages.lookup result.reqMsgId = some pending ∧
          Relation.ReflTransGen (Drops (Due stamp.reprunedAt))
            (before.idempotencyCache.insert pending.requestKey entry) after.idempotencyCache

theorem dropsOnlyDue_processSendMessage (sha256 : List Nat → String)
    (service : MessageDeliveryService) (stamp : SendStamp) (params : SendMessageParams) :
    DropsOnlyDue service (processSendMessage sha256 service stamp params).1
      (.processSendMessage stamp params) := by
  refine ⟨(service.pruneIdempotencyCache stamp.prunedAt).idempotencyCache,
    service.prune_drops stamp.prunedAt, ?_⟩
  rcases processSendMessage_cases sha256 service stamp params with
    ⟨entry, _, handled⟩ | ⟨_, code, message, _, handled⟩ | ⟨accepts, handled⟩ |
    ⟨_, _, handled⟩ | ⟨_, _, handled⟩
  · rw [handled]
    exact Or.inl rfl
  · rw [handled]
    exact Or.inl rfl
  · rw [handled]
    exact Or.inr ⟨_, (FiniteMap.notMem_iff _ _).mpr accepts.1,
      MessageDeliveryService.remember_drops _ _ _ stamp.reprunedAt⟩
  · rw [handled]
    exact Or.inl rfl
  · rw [handled]
    exact Or.inl rfl

theorem dropsOnlyDue_onGroupMembersForMessage (service : MessageDeliveryService)
    (stamp : LoadStamp) (result : GroupMembersResult) :
    DropsOnlyDue service (onGroupMembersForMessage service stamp result).1
      (.groupMembersLoaded stamp result) := by
  rcases onGroupMembersForMessage_cases service stamp result with
    ⟨_, handled⟩ | ⟨pending, found, outcomes⟩
  · rw [handled]
    exact Or.inl rfl
  · rcases outcomes with ⟨_, handled⟩ | ⟨_, _, handled⟩ | ⟨_, _, handled⟩
    · rw [handled]
      exact Or.inl rfl
    · rw [handled]
      exact Or.inr ⟨pending, _, found,
        (service.take _ _).remember_drops pending.requestKey _ stamp.reprunedAt⟩
    · rw [handled]
      exact Or.inr ⟨pending, _, found,
        (service.take _ _).remember_drops pending.requestKey _ stamp.reprunedAt⟩

/-! ## Every sequence of calls -/

/-- No token that still waits is drawn again. -/
def DeliveryEvent.drawsFresh (service : MessageDeliveryService) : DeliveryEvent → Prop
  | .processSendMessage stamp _ => stamp.reqToken ∉ service.pendingGroupMessages
  | .groupMembersLoaded _ _ => True

def deliveryCalls (sha256 : List Nat → String) : System MessageDeliveryService DeliveryEvent where
  initial := MessageDeliveryService.empty
  enabled := DeliveryEvent.drawsFresh
  next := fun service event => (event.outcome sha256 service).1

theorem betweenCalls_of_reachable (sha256 : List Nat → String)
    (service : MessageDeliveryService) (reached : (deliveryCalls sha256).Reachable service) :
    BetweenCalls service := by
  refine System.Reachable.invariant BetweenCalls.empty ?_ service reached
  intro before event _ between fresh
  cases event with
  | processSendMessage stamp params =>
      exact between.processSendMessage sha256 stamp params fresh
  | groupMembersLoaded stamp result => exact between.onGroupMembersForMessage stamp result

/-- Between the calls the cache fits its capacity, every cached key is listed and
the in-flight set names the pending group messages, each once; and no call drops
an entry that is not due. -/
theorem deliveryService_between_calls (sha256 : List Nat → String)
    (service : MessageDeliveryService) (reached : (deliveryCalls sha256).Reachable service) :
    BetweenCalls service ∧
      ∀ event, DropsOnlyDue service ((deliveryCalls sha256).next service event) event := by
  refine ⟨betweenCalls_of_reachable sha256 service reached, ?_⟩
  intro event
  cases event with
  | processSendMessage stamp params =>
      exact dropsOnlyDue_processSendMessage sha256 service stamp params
  | groupMembersLoaded stamp result =>
      exact dropsOnlyDue_onGroupMembersForMessage service stamp result

theorem deliveryService_between_calls_alice :
    let service := aliceOvertakes.foldl (deliveryCalls aliceBobDigest).next
      MessageDeliveryService.empty
    service.idempotencyOrder = ["alice:m1", "alice:m1"] ∧
      service.idempotencyCache.keys = ["alice:m1"] ∧ BetweenCalls service := by
  refine ⟨by decide, by decide, ?_⟩
  have reached : (deliveryCalls aliceBobDigest).Reachable
      (aliceOvertakes.foldl (deliveryCalls aliceBobDigest).next
        MessageDeliveryService.empty) := by
    refine System.Reachable.run aliceOvertakes _ System.Reachable.initial ?_
    refine ⟨AList.notMem_empty _, ?_, trivial, trivial⟩
    change "grpmsg_2" ∉ _
    decide
  exact (deliveryService_between_calls aliceBobDigest _ reached).1

end ShirohaChat
