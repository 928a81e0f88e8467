import ShirohaChat.Lib.EvictingCache
import ShirohaChat.Shared.Packet
import ShirohaChat.Shared.SessionId
import ShirohaChat.Server.Contracts
import Mathlib.Data.Finset.Erase
import Mathlib.Data.Finset.Insert

/-!
# The message delivery service

A private message is answered, stored and delivered at once; a group message
first waits for its member list under a generated token.  The ids, times and
clock readings a call draws are arguments, and the emitted signals and the
calls into the offline manager are returned in order.
-/

set_option autoImplicit false

namespace ShirohaChat

namespace DeliveryConfig

def kMaxContentChars : Nat := 4096
def kMaxContentUtf8Bytes : Nat := 16 * 1024
def idempotencyCacheTtlMs : Int := 10 * 60 * 1000
def idempotencyCacheMaxEntries : Nat := 10000

end DeliveryConfig

open DeliveryConfig EvictingCache

def requestKeyFor (senderUserId clientMsgId : String) : String :=
  senderUserId ++ ":" ++ clientMsgId

/-- `senderSession` is the connection behind the guarded pointer. -/
structure SendMessageParams where
  msgId : String
  sessionType : String
  sessionId : String
  content : Option String
  senderUserId : String
  senderNickname : String
  recipientUserId : String
  senderSession : String

structure IdempotencyEntry where
  code : Int32 := 200
  message : String
  serverId : String
  createdAtMs : Int
  deriving DecidableEq

structure PendingGroupMessage where
  receiveMsg : Packet
  requestKey : String
  senderUserId : String
  groupId : String
  serverId : String
  clientMsgId : String
  senderSession : String

structure MessageDeliveryService where
  idempotencyCache : FiniteMap String IdempotencyEntry
  idempotencyOrder : List String
  pendingGroupMessages : FiniteMap String PendingGroupMessage
  inFlightGroupMsgIds : Finset String

inductive DeliverySignal where
  | ackReady (session msgId : String) (code : Int32) (message serverId : String)
  | requestStoreMessage (request : StoreRequest)
  | requestLoadGroupMembers (query : GroupMembersQuery)
  | enqueueIfOffline (recipientUserId : String) (packet : Packet)
  | enqueueIfOfflineMany (recipientUserIds : List String) (packet : Packet)
      (excludeUserId : String)

structure SendStamp where
  prunedAt : Int
  serverId : String
  timestamp : String
  createdAtMs : Int
  reprunedAt : Int
  reqToken : String

structure LoadStamp where
  createdAtMs : Int
  reprunedAt : Int

/-- An entry older than its time to live, or in a cache over capacity. -/
def Due (nowMs : Int) (entry : IdempotencyEntry) (size : Nat) : Prop :=
  nowMs - entry.createdAtMs > idempotencyCacheTtlMs ∨ size > idempotencyCacheMaxEntries

instance (nowMs : Int) (entry : IdempotencyEntry) (size : Nat) :
    Decidable (Due nowMs entry size) :=
  inferInstanceAs (Decidable (_ ∨ _))

namespace MessageDeliveryService

def empty : MessageDeliveryService := ⟨∅, [], ∅, ∅⟩

/-- The loop of `pruneIdempotencyCache` over the order list. -/
def pruneOldest (nowMs : Int) :
    List String → FiniteMap String IdempotencyEntry →
      List String × FiniteMap String IdempotencyEntry
  | [], cache => ([], cache)
  | oldestKey :: rest, cache =>
      match cache.lookup oldestKey with
      | none => pruneOldest nowMs rest cache
      | some entry =>
          let expired :=
            idempotencyCacheTtlMs > 0 ∧ nowMs - entry.createdAtMs > idempotencyCacheTtlMs
          let overCapacity :=
            idempotencyCacheMaxEntries > 0 ∧ cache.keys.length > idempotencyCacheMaxEntries
          if ¬ expired ∧ ¬ overCapacity then (oldestKey :: rest, cache)
          else pruneOldest nowMs rest (cache.erase oldestKey)

def pruneIdempotencyCache (service : MessageDeliveryService) (nowMs : Int) :
    MessageDeliveryService :=
  let (order, cache) := pruneOldest nowMs service.idempotencyOrder service.idempotencyCache
  { service with idempotencyCache := cache, idempotencyOrder := order }

@[simp] theorem pendingGroupMessages_prune (service : MessageDeliveryService) (nowMs : Int) :
    (service.pruneIdempotencyCache nowMs).pendingGroupMessages =
      service.pendingGroupMessages := rfl

@[simp] theorem inFlightGroupMsgIds_prune (service : MessageDeliveryService) (nowMs : Int) :
    (service.pruneIdempotencyCache nowMs).inFlightGroupMsgIds = service.inFlightGroupMsgIds :=
  rfl

/-- Both limits are configured, so the loop breaks exactly where the entry is not due. -/
theorem not_due_iff (nowMs : Int) (entry : IdempotencyEntry) (size : Nat) :
    ¬ Due nowMs entry size ↔
      ¬ (idempotencyCacheTtlMs > 0 ∧ nowMs - entry.createdAtMs > idempotencyCacheTtlMs) ∧
        ¬ (idempotencyCacheMaxEntries > 0 ∧ size > idempotencyCacheMaxEntries) := by
  have ttlSet : idempotencyCacheTtlMs > 0 := by decide
  have maxSet : idempotencyCacheMaxEntries > 0 := by decide
  rw [Due, not_or, and_iff_right ttlSet, and_iff_right maxSet]

theorem pruneOldest_eq_evict (nowMs : Int) (order : List String) :
    ∀ cache : FiniteMap String IdempotencyEntry,
      pruneOldest nowMs order cache = evict (Due nowMs) order cache := by
  induction order with
  | nil => intro cache; rfl
  | cons oldestKey rest ih =>
      intro cache
      cases cached : cache.lookup oldestKey with
      | none =>
          simp only [pruneOldest, evict, cached]
          exact ih cache
      | some entry =>
          simp only [pruneOldest, evict, cached, ← not_due_iff, ih, ite_not]

theorem prune_drops (service : MessageDeliveryService) (nowMs : Int) :
    Relation.ReflTransGen (Drops (Due nowMs)) service.idempotencyCache
      (service.pruneIdempotencyCache nowMs).idempotencyCache := by
  have dropped := evict_drops (Due nowMs) service.idempotencyOrder service.idempotencyCache
  rw [← pruneOldest_eq_evict] at dropped
  exact dropped

theorem lookup_prune (service : MessageDeliveryService) (nowMs : Int) (key : String)
    (entry : IdempotencyEntry)
    (found : (service.pruneIdempotencyCache nowMs).idempotencyCache.lookup key = some entry) :
    service.idempotencyCache.lookup key = some entry :=
  lookup_of_drops (service.prune_drops nowMs) found

def Evicts (service : MessageDeliveryService) (nowMs : Int) (key : String) : Prop :=
  key ∈ service.idempotencyCache ∧
    key ∉ (service.pruneIdempotencyCache nowMs).idempotencyCache

theorem lookup_prune_of_not_evicts {service : MessageDeliveryService} {nowMs : Int}
    {key : String} (stays : ¬ service.Evicts nowMs key) :
    (service.pruneIdempotencyCache nowMs).idempotencyCache.lookup key =
      service.idempotencyCache.lookup key := by
  cases after : (service.pruneIdempotencyCache nowMs).idempotencyCache.lookup key with
  | some entry => exact (lookup_prune service nowMs key entry after).symm
  | none =>
      cases before : service.idempotencyCache.lookup key with
      | none => rfl
      | some entry =>
          refine absurd ⟨?_, ?_⟩ stays
          · exact (FiniteMap.mem_iff _ _).mpr ⟨entry, before⟩
          · exact (FiniteMap.notMem_iff _ _).mpr after

def remember (service : MessageDeliveryService) (requestKey : String)
    (entry : IdempotencyEntry) : MessageDeliveryService :=
  { service with
    idempotencyCache := service.idempotencyCache.insert requestKey entry
    idempotencyOrder := service.idempotencyOrder ++ [requestKey] }

theorem remember_drops (service : MessageDeliveryService) (requestKey : String)
    (entry : IdempotencyEntry) (nowMs : Int) :
    Relation.ReflTransGen (Drops (Due nowMs))
      (service.idempotencyCache.insert requestKey entry)
      ((service.remember requestKey entry).pruneIdempotencyCache nowMs).idempotencyCache :=
  (service.remember requestKey entry).prune_drops nowMs

theorem lookup_remember (service : MessageDeliveryService) (requestKey key : String)
    (entry : IdempotencyEntry) :
    (service.remember requestKey entry).idempotencyCache.lookup key =
      if key = requestKey then some entry else service.idempotencyCache.lookup key :=
  FiniteMap.lookup_insert _ _ _ _

theorem lookup_remember_prune {service : MessageDeliveryService} {requestKey key : String}
    {entry : IdempotencyEntry} {nowMs : Int}
    (stays : ¬ (service.remember requestKey entry).Evicts nowMs key) :
    ((service.remember requestKey entry).pruneIdempotencyCache nowMs).idempotencyCache.lookup
        key =
      if key = requestKey then some entry else service.idempotencyCache.lookup key :=
  (lookup_prune_of_not_evicts stays).trans (service.lookup_remember requestKey key entry)

end MessageDeliveryService

def receiveMessageFor (sessionType : String) (params : SendMessageParams)
    (serverId timestamp : String) : Packet :=
  { cmd := .receiveMessage
    msgId := serverId
    timestampUtc := timestamp
    payload := [("sessionType", .string sessionType), ("sessionId", .string params.sessionId),
      ("senderUserId", .string params.senderUserId),
      ("senderNickname", .string params.senderNickname),
      ("content", .string (params.content.getD ""))] }

def contentTooLarge (content : Option String) : Bool :=
  qSize (content.getD "") > kMaxContentChars ∨
    utf8Size (content.getD "") > kMaxContentUtf8Bytes

section Service
variable (sha256 : List Nat → String)

def sessionIdMismatch (params : SendMessageParams) : Bool :=
  params.sessionType = "private" ∧
    params.sessionId ≠ computePrivateSessionId sha256 params.senderUserId params.recipientUserId

def processSendMessage (service : MessageDeliveryService) (stamp : SendStamp)
    (params : SendMessageParams) : MessageDeliveryService × List DeliverySignal :=
  let service := service.pruneIdempotencyCache stamp.prunedAt
  let requestKey := requestKeyFor params.senderUserId params.msgId
  match service.idempotencyCache.lookup requestKey with
  | some entry =>
      (service, [.ackReady params.senderSession params.msgId entry.code entry.message
        entry.serverId])
  | none =>
      if contentTooLarge params.content then
        (service, [.ackReady params.senderSession params.msgId 413 "Message too large" ""])
      else if sessionIdMismatch sha256 params then
        (service, [.ackReady params.senderSession params.msgId 400 "sessionId hash mismatch" ""])
      else if params.sessionType = "private" then
        let service := (service.remember requestKey
          ⟨200, "", stamp.serverId, stamp.createdAtMs⟩).pruneIdempotencyCache stamp.reprunedAt
        (service,
          [.ackReady params.senderSession params.msgId 200 "" stamp.serverId,
            .requestStoreMessage ⟨params.msgId, params.sessionId, params.senderUserId,
              params.content, stamp.timestamp, stamp.serverId⟩,
            .enqueueIfOffline params.recipientUserId
              (receiveMessageFor "private" params stamp.serverId stamp.timestamp)])
      else if requestKey ∈ service.inFlightGroupMsgIds then (service, [])
      else
        ({ service with
            inFlightGroupMsgIds := insert requestKey service.inFlightGroupMsgIds
            pendingGroupMessages := service.pendingGroupMessages.insert stamp.reqToken
              ⟨receiveMessageFor "group" params stamp.serverId stamp.timestamp, requestKey,
                params.senderUserId, params.sessionId, stamp.serverId, params.msgId,
                params.senderSession⟩ },
          [.requestLoadGroupMembers ⟨params.sessionId, stamp.reqToken⟩])

/-- The private branch is reached: the result is not cached and every check passes. -/
def AcceptsPrivate (service : MessageDeliveryService) (params : SendMessageParams) : Prop :=
  service.idempotencyCache.lookup (requestKeyFor params.senderUserId params.msgId) = none ∧
    contentTooLarge params.content = false ∧ sessionIdMismatch sha256 params = false ∧
    params.sessionType = "private"

theorem processSendMessage_cases (service : MessageDeliveryService) (stamp : SendStamp)
    (params : SendMessageParams) :
    let pruned := service.pruneIdempotencyCache stamp.prunedAt
    let requestKey := requestKeyFor params.senderUserId params.msgId
    (∃ entry, pruned.idempotencyCache.lookup requestKey = some entry ∧
      processSendMessage sha256 service stamp params =
        (pruned, [.ackReady params.senderSession params.msgId entry.code entry.message
          entry.serverId])) ∨
    (pruned.idempotencyCache.lookup requestKey = none ∧
      ∃ code message, code ≠ 200 ∧ processSendMessage sha256 service stamp params =
        (pruned, [.ackReady params.senderSession params.msgId code message ""])) ∨
    (AcceptsPrivate sha256 pruned params ∧
      processSendMessage sha256 service stamp params =
        ((pruned.remember requestKey
            ⟨200, "", stamp.serverId, stamp.createdAtMs⟩).pruneIdempotencyCache
              stamp.reprunedAt,
          [.ackReady params.senderSession params.msgId 200 "" stamp.serverId,
            .requestStoreMessage ⟨params.msgId, params.sessionId, params.senderUserId,
              params.content, stamp.timestamp, stamp.serverId⟩,
            .enqueueIfOffline params.recipientUserId
              (receiveMessageFor "private" params stamp.serverId stamp.timestamp)])) ∨
    (pruned.idempotencyCache.lookup requestKey = none ∧
      requestKey ∈ pruned.inFlightGroupMsgIds ∧
      processSendMessage sha256 service stamp params = (pruned, [])) ∨
    (pruned.idempotencyCache.lookup requestKey = none ∧
      requestKey ∉ pruned.inFlightGroupMsgIds ∧
      processSendMessage sha256 service stamp params =
        ({ pruned with
            inFlightGroupMsgIds := insert requestKey pruned.inFlightGroupMsgIds
            pendingGroupMessages := pruned.pendingGroupMessages.insert stamp.reqToken
              ⟨receiveMessageFor "group" params stamp.serverId stamp.timestamp, requestKey,
                params.senderUserId, params.sessionId, stamp.serverId, params.msgId,
                params.senderSession⟩ },
          [.requestLoadGroupMembers ⟨params.sessionId, stamp.reqToken⟩])) := by
  intro pruned requestKey
  generalize result : processSendMessage sha256 service stamp params = outcome
  unfold processSendMessage at result
  simp only at result
  split at result
  · rename_i entry cached
    exact Or.inl ⟨entry, cached, result.symm⟩
  · rename_i uncached
    refine Or.inr ?_
    split at result
    · exact Or.inl ⟨uncached, 413, _, by decide, result.symm⟩
    · rename_i fits
      split at result
      · exact Or.inl ⟨uncached, 400, _, by decide, result.symm⟩
      · rename_i idMatches
        refine Or.inr ?_
        split at result
        · rename_i isPrivate
          exact Or.inl ⟨⟨uncached, Bool.eq_false_iff.mpr fits, Bool.eq_false_iff.mpr idMatches,
            isPrivate⟩, result.symm⟩
        · refine Or.inr ?_
          split at result
          · rename_i inFlight
            exact Or.inl ⟨uncached, inFlight, result.symm⟩
          · rename_i notInFlight
            exact Or.inr ⟨uncached, notInFlight, result.symm⟩

end Service

def withGroupName (receiveMsg : Packet) (groupName : String) : Packet :=
  if trimmed groupName = "" then receiveMsg
  else { receiveMsg with
    payload := receiveMsg.payload.insert "groupName" (.string (trimmed groupName)) }

/-- The pending message of a token is taken out before the result is read. -/
def MessageDeliveryService.take (service : MessageDeliveryService) (token requestKey : String) :
    MessageDeliveryService :=
  { service with
    pendingGroupMessages := service.pendingGroupMessages.erase token
    inFlightGroupMsgIds := service.inFlightGroupMsgIds.erase requestKey }

theorem MessageDeliveryService.lookup_take (service : MessageDeliveryService)
    (token requestKey other : String) :
    (service.take token requestKey).pendingGroupMessages.lookup other =
      if other = token then none else service.pendingGroupMessages.lookup other :=
  FiniteMap.lookup_erase _ _ _

def onGroupMembersForMessage (service : MessageDeliveryService) (stamp : LoadStamp)
    (result : GroupMembersResult) : MessageDeliveryService × List DeliverySignal :=
  match service.pendingGroupMessages.lookup result.reqMsgId with
  | none => (service, [])
  | some pending =>
      let service := service.take result.reqMsgId pending.requestKey
      if ¬ result.success then
        let code := if result.errorCode > 0 then result.errorCode else 500
        (service,
          [.ackReady pending.senderSession pending.clientMsgId code result.errorMessage ""])
      else if pending.senderUserId ∉ result.members then
        let service := (service.remember pending.requestKey
          ⟨403, "Sender is not a member of group", "", stamp.createdAtMs⟩).pruneIdempotencyCache
            stamp.reprunedAt
        (service, [.ackReady pending.senderSession pending.clientMsgId 403
          "Sender is not a member of group" ""])
      else
        let service := (service.remember pending.requestKey
          ⟨200, "", pending.serverId, stamp.createdAtMs⟩).pruneIdempotencyCache stamp.reprunedAt
        let receiveMsg := withGroupName pending.receiveMsg result.groupName
        (service,
          [.ackReady pending.senderSession pending.clientMsgId 200 "" pending.serverId,
            .requestStoreMessage ⟨pending.clientMsgId, pending.groupId, pending.senderUserId,
              jsonString (receiveMsg.payload.value "content"), receiveMsg.timestampUtc,
              pending.serverId⟩,
            .enqueueIfOfflineMany result.members receiveMsg pending.senderUserId])

theorem onGroupMembersForMessage_cases (service : MessageDeliveryService) (stamp : LoadStamp)
    (result : GroupMembersResult) :
    (service.pendingGroupMessages.lookup result.reqMsgId = none ∧
      onGroupMembersForMessage service stamp result = (service, [])) ∨
    ∃ pending, service.pendingGroupMessages.lookup result.reqMsgId = some pending ∧
      ((result.success = false ∧ onGroupMembersForMessage service stamp result =
          (service.take result.reqMsgId pending.requestKey,
            [.ackReady pending.senderSession pending.clientMsgId
              (if result.errorCode > 0 then result.errorCode else 500) result.errorMessage ""])) ∨
        (result.success = true ∧ pending.senderUserId ∉ result.members ∧
          onGroupMembersForMessage service stamp result =
            (((service.take result.reqMsgId pending.requestKey).remember pending.requestKey
                ⟨403, "Sender is not a member of group", "",
                  stamp.createdAtMs⟩).pruneIdempotencyCache stamp.reprunedAt,
              [.ackReady pending.senderSession pending.clientMsgId 403
                "Sender is not a member of group" ""])) ∨
        (result.success = true ∧ pending.senderUserId ∈ result.members ∧
          onGroupMembersForMessage service stamp result =
            (((service.take result.reqMsgId pending.requestKey).remember pending.requestKey
                ⟨200, "", pending.serverId, stamp.createdAtMs⟩).pruneIdempotencyCache
                  stamp.reprunedAt,
              [.ackReady pending.senderSession pending.clientMsgId 200 "" pending.serverId,
                .requestStoreMessage ⟨pending.clientMsgId, pending.groupId,
                  pending.senderUserId,
                  jsonString ((withGroupName pending.receiveMsg
                    result.groupName).payload.value "content"),
                  (withGroupName pending.receiveMsg result.groupName).timestampUtc,
                  pending.serverId⟩,
                .enqueueIfOfflineMany result.members
                  (withGroupName pending.receiveMsg result.groupName)
                  pending.senderUserId]))) := by
  generalize handled : onGroupMembersForMessage service stamp result = outcome
  unfold onGroupMembersForMessage at handled
  split at handled
  · rename_i unknown
    exact Or.inl ⟨unknown, handled.symm⟩
  · rename_i pending found
    refine Or.inr ⟨pending, found, ?_⟩
    simp only at handled
    split at handled
    · rename_i failed
      exact Or.inl ⟨Bool.eq_false_iff.mpr failed, handled.symm⟩
    · rename_i loaded
      have success : result.success = true := by simpa using loaded
      split at handled
      · rename_i outsider
        exact Or.inr (Or.inl ⟨success, outsider, handled.symm⟩)
      · rename_i insider
        exact Or.inr (Or.inr ⟨success, not_not.mp insider, handled.symm⟩)

end ShirohaChat
