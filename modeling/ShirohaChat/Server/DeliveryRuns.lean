import ShirohaChat.Lib.Transition
import ShirohaChat.Server.MessageDelivery

/-!
# One outcome for each client message

A client message is named by its sender and message id.  Every signal of the
service is logged under the message it was emitted for.  A private request does
not look at the in-flight set and a late member list does not look at the
cache, so a group request overtaken by a private one is carried out twice.
-/

set_option autoImplicit false

namespace ShirohaChat

open Transition

namespace DeliverySignal

def isStore : DeliverySignal → Bool
  | .requestStoreMessage _ => true
  | _ => false

def isFanOut : DeliverySignal → Bool
  | .enqueueIfOffline _ _ => true
  | .enqueueIfOfflineMany _ _ _ => true
  | _ => false

def acknowledgedId : DeliverySignal → Option String
  | .ackReady _ _ code _ serverId => if code = 200 then some serverId else none
  | _ => none

section
variable (session msgId message serverId : String) (code : Int32) (request : StoreRequest)

@[simp] theorem isStore_ackReady :
    (ackReady session msgId code message serverId).isStore = false := rfl

@[simp] theorem isFanOut_ackReady :
    (ackReady session msgId code message serverId).isFanOut = false := rfl

@[simp] theorem acknowledgedId_ackReady :
    (ackReady session msgId code message serverId).acknowledgedId =
      if code = 200 then some serverId else none := rfl

@[simp] theorem isStore_requestStoreMessage : (requestStoreMessage request).isStore = true := rfl

@[simp] theorem isFanOut_requestStoreMessage :
    (requestStoreMessage request).isFanOut = false := rfl

@[simp] theorem acknowledgedId_requestStoreMessage :
    (requestStoreMessage request).acknowledgedId = none := rfl

end

end DeliverySignal

abbrev MessageName := String × String

structure DeliveryState where
  service : MessageDeliveryService
  log : List (MessageName × DeliverySignal)

inductive DeliveryEvent where
  | processSendMessage (stamp : SendStamp) (params : SendMessageParams)
  | groupMembersLoaded (stamp : LoadStamp) (result : GroupMembersResult)

def signalsOf (name : MessageName) (log : List (MessageName × DeliverySignal)) :
    List DeliverySignal :=
  (log.filter fun entry => entry.1 = name).map Prod.snd

theorem signalsOf_append (name origin : MessageName)
    (log : List (MessageName × DeliverySignal)) (signals : List DeliverySignal) :
    signalsOf name (log ++ signals.map fun signal => (origin, signal)) =
      signalsOf name log ++ if origin = name then signals else [] := by
  unfold signalsOf
  rw [List.filter_append, List.map_append]
  by_cases same : origin = name
  · simp [same, List.filter_map, Function.comp_def]
  · simp [same, List.filter_map, Function.comp_def]

namespace DeliveryState

def empty : DeliveryState := ⟨MessageDeliveryService.empty, []⟩

def emit (state : DeliveryState) (origin : MessageName)
    (outcome : MessageDeliveryService × List DeliverySignal) : DeliveryState :=
  ⟨outcome.1, state.log ++ outcome.2.map fun signal => (origin, signal)⟩

end DeliveryState

namespace DeliveryEvent

/-- A load that fails says 404 or 500. -/
def enabled (_ : DeliveryState) : DeliveryEvent → Prop
  | .processSendMessage _ _ => True
  | .groupMembersLoaded _ result =>
      result.success = false → result.errorCode = 404 ∨ result.errorCode = 500

def origin (state : DeliveryState) : DeliveryEvent → MessageName
  | .processSendMessage _ params => (params.senderUserId, params.msgId)
  | .groupMembersLoaded _ result =>
      match state.service.pendingGroupMessages.lookup result.reqMsgId with
      | some pending => (pending.senderUserId, pending.clientMsgId)
      | none => ("", "")

def outcome (sha256 : List Nat → String) (service : MessageDeliveryService) :
    DeliveryEvent → MessageDeliveryService × List DeliverySignal
  | .processSendMessage stamp params =>
      ShirohaChat.processSendMessage sha256 service stamp params
  | .groupMembersLoaded stamp result => onGroupMembersForMessage service stamp result

def next (sha256 : List Nat → String) (state : DeliveryState) (event : DeliveryEvent) :
    DeliveryState :=
  state.emit (event.origin state) (event.outcome sha256 state.service)

end DeliveryEvent

def deliverySystem (sha256 : List Nat → String) : System DeliveryState DeliveryEvent where
  initial := DeliveryState.empty
  enabled := DeliveryEvent.enabled
  next := DeliveryEvent.next sha256

section Once
variable (sha256 : List Nat → String) (senderUserId clientMsgId : String)

/-- No other message shares the request key, and no prune drops its entry. -/
def Undisturbed (state : DeliveryState) : DeliveryEvent → Prop
  | .processSendMessage stamp params =>
      let requestKey := requestKeyFor senderUserId clientMsgId
      let pruned := state.service.pruneIdempotencyCache stamp.prunedAt
      let ownKey := requestKeyFor params.senderUserId params.msgId
      (ownKey = requestKey → params.senderUserId = senderUserId ∧ params.msgId = clientMsgId) ∧
        ¬ state.service.Evicts stamp.prunedAt requestKey ∧
        (AcceptsPrivate sha256 pruned params →
          ¬ (pruned.remember ownKey ⟨200, "", stamp.serverId, stamp.createdAtMs⟩).Evicts
            stamp.reprunedAt requestKey)
  | .groupMembersLoaded stamp result =>
      ∀ pending, state.service.pendingGroupMessages.lookup result.reqMsgId = some pending →
        result.success = true → ∀ entry : IdempotencyEntry,
          entry.createdAtMs = stamp.createdAtMs →
          ¬ ((state.service.take result.reqMsgId pending.requestKey).remember
            pending.requestKey entry).Evicts stamp.reprunedAt
              (requestKeyFor senderUserId clientMsgId)

/-- A member list that lets the message through finds no outcome of it yet. -/
def NotOvertaken (state : DeliveryState) : DeliveryEvent → Prop
  | .processSendMessage _ _ => True
  | .groupMembersLoaded _ result =>
      ∀ pending, state.service.pendingGroupMessages.lookup result.reqMsgId = some pending →
        pending.senderUserId = senderUserId → pending.clientMsgId = clientMsgId →
        result.success = true → senderUserId ∈ result.members →
        requestKeyFor senderUserId clientMsgId ∉ state.service.idempotencyCache

end Once

/-- At most one store request, one fan-out, and one server id. -/
structure OutcomeOnce (signals : List DeliverySignal) : Prop where
  stores : signals.countP DeliverySignal.isStore ≤ 1
  fanOuts : signals.countP DeliverySignal.isFanOut ≤ 1
  serverIds : ∀ first ∈ signals.filterMap DeliverySignal.acknowledgedId,
    ∀ second ∈ signals.filterMap DeliverySignal.acknowledgedId, first = second

/-! ## What the log of a message says, given its cache entry -/

/-- Nothing has happened before there is an entry; an entry with code 200 names
the acknowledged server id. -/
structure OutcomeOf (entry : Option IdempotencyEntry) (signals : List DeliverySignal) :
    Prop where
  unseen : entry = none → signals.countP DeliverySignal.isStore = 0 ∧
    signals.countP DeliverySignal.isFanOut = 0 ∧
    signals.filterMap DeliverySignal.acknowledgedId = []
  once : OutcomeOnce signals
  cachedId : ∀ cached, entry = some cached → cached.code = 200 →
    ∀ serverId ∈ signals.filterMap DeliverySignal.acknowledgedId, serverId = cached.serverId

def Quiet (signal : DeliverySignal) : Prop :=
  signal.isStore = false ∧ signal.isFanOut = false ∧ signal.acknowledgedId = none

theorem quiet_ack {session msgId message serverId : String} {code : Int32}
    (notOk : code ≠ 200) : Quiet (.ackReady session msgId code message serverId) :=
  ⟨rfl, rfl, by simp [notOk]⟩

namespace OutcomeOf

variable {entry : Option IdempotencyEntry} {signals : List DeliverySignal}

theorem empty : OutcomeOf none [] :=
  ⟨fun _ => ⟨rfl, rfl, rfl⟩, ⟨by simp, by simp, by simp⟩, by simp⟩

theorem quiet (outcome : OutcomeOf entry signals) (added : DeliverySignal)
    (silent : Quiet added) : OutcomeOf entry (signals ++ [added]) := by
  obtain ⟨noStore, noFanOut, noAck⟩ := silent
  have ids : (signals ++ [added]).filterMap DeliverySignal.acknowledgedId =
      signals.filterMap DeliverySignal.acknowledgedId := by
    simp [noAck]
  refine ⟨?_, ⟨?_, ?_, ?_⟩, ?_⟩
  · simpa [noStore, noFanOut, noAck] using outcome.unseen
  · simpa [noStore] using outcome.once.stores
  · simpa [noFanOut] using outcome.once.fanOuts
  · rw [ids]
    exact outcome.once.serverIds
  · rw [ids]
    exact outcome.cachedId

theorem duplicate {cached : IdempotencyEntry} (outcome : OutcomeOf (some cached) signals)
    (session msgId : String) :
    OutcomeOf (some cached)
      (signals ++ [.ackReady session msgId cached.code cached.message cached.serverId]) := by
  by_cases ok : cached.code = 200
  · have same := outcome.cachedId cached rfl ok
    have allSame : ∀ serverId ∈ (signals ++ [DeliverySignal.ackReady session msgId cached.code
        cached.message cached.serverId]).filterMap DeliverySignal.acknowledgedId,
        serverId = cached.serverId := by
      intro serverId member
      rw [List.filterMap_append, List.mem_append] at member
      rcases member with old | new
      · exact same serverId old
      · simpa [ok] using new
    refine ⟨nofun, ⟨?_, ?_, ?_⟩, ?_⟩
    · simpa using outcome.once.stores
    · simpa using outcome.once.fanOuts
    · intro first firstIn second secondIn
      rw [allSame first firstIn, allSame second secondIn]
    · intro other isCached _
      cases isCached
      exact allSame
  · exact outcome.quiet _ (quiet_ack ok)

theorem first (outcome : OutcomeOf none signals) (cached : IdempotencyEntry)
    (session msgId : String) (request : StoreRequest) (fanOut : DeliverySignal)
    (isFanOut : fanOut.isFanOut = true) :
    OutcomeOf (some cached) (signals ++ [.ackReady session msgId 200 "" cached.serverId,
      .requestStoreMessage request, fanOut]) := by
  obtain ⟨noStore, noFanOut, noId⟩ := outcome.unseen rfl
  have notStore : fanOut.isStore = false := by
    cases fanOut <;> first | rfl | cases isFanOut
  have notAck : fanOut.acknowledgedId = none := by
    cases fanOut <;> first | rfl | cases isFanOut
  have ids : (signals ++ [.ackReady session msgId 200 "" cached.serverId,
      .requestStoreMessage request, fanOut]).filterMap DeliverySignal.acknowledgedId =
      [cached.serverId] := by
    rw [List.filterMap_append, noId]
    simp [notAck]
  refine ⟨nofun, ⟨?_, ?_, ?_⟩, ?_⟩
  · rw [List.countP_append, noStore]
    simp [List.countP_cons, notStore]
  · rw [List.countP_append, noFanOut]
    simp [isFanOut]
  · rw [ids]
    simp
  · intro other isCached _ serverId member
    cases isCached
    rw [ids] at member
    exact List.mem_singleton.mp member

theorem first_stores (outcome : OutcomeOf none signals) (session msgId serverId : String)
    (request : StoreRequest) (fanOut : DeliverySignal) (isFanOut : fanOut.isFanOut = true) :
    (signals ++ [.ackReady session msgId 200 "" serverId, .requestStoreMessage request,
      fanOut]).countP DeliverySignal.isStore = 1 := by
  have notStore : fanOut.isStore = false := by
    cases fanOut <;> first | rfl | cases isFanOut
  rw [List.countP_append, (outcome.unseen rfl).1]
  simp [List.countP_cons, notStore]

theorem refused (outcome : OutcomeOf entry signals) (cached : IdempotencyEntry)
    (notOk : cached.code ≠ 200) : OutcomeOf (some cached) signals := by
  refine ⟨nofun, outcome.once, ?_⟩
  intro other isCached ok
  cases isCached
  exact absurd ok notOk

end OutcomeOf

/-! ## The invariant -/

structure Guarded (senderUserId clientMsgId : String) (service : MessageDeliveryService) :
    Prop where
  pendingKey : ∀ token pending, service.pendingGroupMessages.lookup token = some pending →
    pending.requestKey = requestKeyFor pending.senderUserId pending.clientMsgId
  pendingOwn : ∀ token pending, service.pendingGroupMessages.lookup token = some pending →
    pending.requestKey = requestKeyFor senderUserId clientMsgId →
    pending.senderUserId = senderUserId ∧ pending.clientMsgId = clientMsgId
  pendingInFlight : ∀ token pending, service.pendingGroupMessages.lookup token = some pending →
    pending.requestKey = requestKeyFor senderUserId clientMsgId →
    requestKeyFor senderUserId clientMsgId ∈ service.inFlightGroupMsgIds
  pendingOne : ∀ token other pending otherPending,
    service.pendingGroupMessages.lookup token = some pending →
    service.pendingGroupMessages.lookup other = some otherPending →
    pending.requestKey = requestKeyFor senderUserId clientMsgId →
    otherPending.requestKey = requestKeyFor senderUserId clientMsgId → token = other

def Waiting (senderUserId clientMsgId : String) (service : MessageDeliveryService) : Prop :=
  ∃ token pending, service.pendingGroupMessages.lookup token = some pending ∧
    pending.requestKey = requestKeyFor senderUserId clientMsgId

theorem Waiting.of_take {senderUserId clientMsgId : String} {service : MessageDeliveryService}
    (token key : String) :
    Waiting senderUserId clientMsgId (service.take token key) →
      Waiting senderUserId clientMsgId service := by
  rintro ⟨other, pending, present, isKey⟩
  exact ⟨other, pending, (FiniteMap.of_lookup_erase present).2, isKey⟩

theorem Waiting.of_load {senderUserId clientMsgId token : String}
    {service : MessageDeliveryService} {added : PendingGroupMessage} {inFlight : Finset String}
    (foreign : added.requestKey ≠ requestKeyFor senderUserId clientMsgId) :
    Waiting senderUserId clientMsgId { service with
      inFlightGroupMsgIds := inFlight
      pendingGroupMessages := service.pendingGroupMessages.insert token added } →
      Waiting senderUserId clientMsgId service := by
  rintro ⟨other, pending, found, isKey⟩
  rcases FiniteMap.of_lookup_insert found with ⟨_, rfl⟩ | ⟨_, old⟩
  · exact absurd isKey foreign
  · exact ⟨other, pending, old, isKey⟩

namespace Guarded

variable {senderUserId clientMsgId : String} {service : MessageDeliveryService}

theorem congr {other : MessageDeliveryService}
    (guarded : Guarded senderUserId clientMsgId service)
    (samePending : other.pendingGroupMessages = service.pendingGroupMessages)
    (sameInFlight : other.inFlightGroupMsgIds = service.inFlightGroupMsgIds) :
    Guarded senderUserId clientMsgId other := by
  obtain ⟨pendingKey, pendingOwn, pendingInFlight, pendingOne⟩ := guarded
  rw [← samePending] at pendingKey pendingOwn pendingInFlight pendingOne
  rw [← sameInFlight] at pendingInFlight
  exact ⟨pendingKey, pendingOwn, pendingInFlight, pendingOne⟩

theorem load (guarded : Guarded senderUserId clientMsgId service) (token : String)
    (added : PendingGroupMessage)
    (ownKey : added.requestKey = requestKeyFor added.senderUserId added.clientMsgId)
    (own : added.requestKey = requestKeyFor senderUserId clientMsgId →
      added.senderUserId = senderUserId ∧ added.clientMsgId = clientMsgId)
    (notInFlight : added.requestKey ∉ service.inFlightGroupMsgIds) :
    Guarded senderUserId clientMsgId { service with
      inFlightGroupMsgIds := insert added.requestKey service.inFlightGroupMsgIds
      pendingGroupMessages := service.pendingGroupMessages.insert token added } := by
  have onlyNew : ∀ other pending, service.pendingGroupMessages.lookup other = some pending →
      pending.requestKey = requestKeyFor senderUserId clientMsgId →
      added.requestKey ≠ requestKeyFor senderUserId clientMsgId := by
    intro other pending found isKey addedKey
    exact notInFlight (addedKey ▸ guarded.pendingInFlight other pending found isKey)
  refine ⟨?_, ?_, ?_, ?_⟩
  · intro other pending found
    rcases FiniteMap.of_lookup_insert found with ⟨_, rfl⟩ | ⟨_, old⟩
    · exact ownKey
    · exact guarded.pendingKey other pending old
  · intro other pending found
    rcases FiniteMap.of_lookup_insert found with ⟨_, rfl⟩ | ⟨_, old⟩
    · exact own
    · exact guarded.pendingOwn other pending old
  · intro other pending found isKey
    rcases FiniteMap.of_lookup_insert found with ⟨_, rfl⟩ | ⟨_, old⟩
    · exact isKey ▸ Finset.mem_insert_self _ _
    · exact Finset.mem_insert_of_mem (guarded.pendingInFlight other pending old isKey)
  · intro first second firstPending secondPending firstFound secondFound firstKey secondKey
    rcases FiniteMap.of_lookup_insert firstFound with ⟨isFirst, rfl⟩ | ⟨_, firstOld⟩ <;>
      rcases FiniteMap.of_lookup_insert secondFound with ⟨isSecond, rfl⟩ | ⟨_, secondOld⟩
    · exact isFirst.trans isSecond.symm
    · exact absurd firstKey (onlyNew second secondPending secondOld secondKey)
    · exact absurd secondKey (onlyNew first firstPending firstOld firstKey)
    · exact guarded.pendingOne first second firstPending secondPending firstOld secondOld
        firstKey secondKey

theorem take (guarded : Guarded senderUserId clientMsgId service) (token : String)
    (taken : PendingGroupMessage)
    (found : service.pendingGroupMessages.lookup token = some taken) :
    Guarded senderUserId clientMsgId (service.take token taken.requestKey) := by
  have older : ∀ other pending,
      (service.take token taken.requestKey).pendingGroupMessages.lookup other = some pending →
      other ≠ token ∧ service.pendingGroupMessages.lookup other = some pending :=
    fun _ _ present => FiniteMap.of_lookup_erase present
  refine ⟨?_, ?_, ?_, ?_⟩
  · intro other pending present
    exact guarded.pendingKey other pending (older other pending present).2
  · intro other pending present
    exact guarded.pendingOwn other pending (older other pending present).2
  · intro other pending present isKey
    obtain ⟨isOther, before⟩ := older other pending present
    refine Finset.mem_erase.mpr ⟨?_, guarded.pendingInFlight other pending before isKey⟩
    intro sameKey
    exact isOther (guarded.pendingOne other token pending taken before found isKey sameKey.symm)
  · intro first second firstPending secondPending firstPresent secondPresent
    exact guarded.pendingOne first second firstPending secondPending
      (older first firstPending firstPresent).2 (older second secondPending secondPresent).2

theorem not_waiting_take (guarded : Guarded senderUserId clientMsgId service) (token : String)
    (taken : PendingGroupMessage)
    (found : service.pendingGroupMessages.lookup token = some taken)
    (isKey : taken.requestKey = requestKeyFor senderUserId clientMsgId) :
    ¬ Waiting senderUserId clientMsgId (service.take token taken.requestKey) := by
  rintro ⟨other, pending, present, otherKey⟩
  obtain ⟨isOther, old⟩ := FiniteMap.of_lookup_erase present
  exact isOther (guarded.pendingOne other token pending taken old found otherKey isKey)

end Guarded

structure KeepsOnce (senderUserId clientMsgId : String) (state : DeliveryState) : Prop where
  guarded : Guarded senderUserId clientMsgId state.service
  outcome : OutcomeOf
    (state.service.idempotencyCache.lookup (requestKeyFor senderUserId clientMsgId))
    (signalsOf (senderUserId, clientMsgId) state.log)
  overtaken : Waiting senderUserId clientMsgId state.service →
    state.service.idempotencyCache.lookup (requestKeyFor senderUserId clientMsgId) ≠ none →
    (signalsOf (senderUserId, clientMsgId) state.log).countP DeliverySignal.isStore = 1

theorem keepsOnce_empty (senderUserId clientMsgId : String) :
    KeepsOnce senderUserId clientMsgId DeliveryState.empty := by
  refine ⟨⟨?_, ?_, ?_, ?_⟩, OutcomeOf.empty, ?_⟩
  · intro token pending found
    cases found
  · intro token pending found
    cases found
  · intro token pending found
    cases found
  · intro token other pending otherPending found
    cases found
  · rintro ⟨token, pending, found, _⟩
    cases found

namespace KeepsOnce

variable {senderUserId clientMsgId : String} {state : DeliveryState}

theorem emit_own {service : MessageDeliveryService} {signals : List DeliverySignal}
    (guarded : Guarded senderUserId clientMsgId service)
    (outcome : OutcomeOf
      (service.idempotencyCache.lookup (requestKeyFor senderUserId clientMsgId))
      (signalsOf (senderUserId, clientMsgId) state.log ++ signals))
    (overtaken : Waiting senderUserId clientMsgId service →
      service.idempotencyCache.lookup (requestKeyFor senderUserId clientMsgId) ≠ none →
      (signalsOf (senderUserId, clientMsgId) state.log ++ signals).countP
        DeliverySignal.isStore = 1) :
    KeepsOnce senderUserId clientMsgId
      (state.emit (senderUserId, clientMsgId) (service, signals)) := by
  have appended := signalsOf_append (senderUserId, clientMsgId) (senderUserId, clientMsgId)
    state.log signals
  rw [if_pos rfl] at appended
  rw [← appended] at outcome overtaken
  exact ⟨guarded, outcome, overtaken⟩

theorem emit_foreign (keeps : KeepsOnce senderUserId clientMsgId state) {origin : MessageName}
    (foreign : origin ≠ (senderUserId, clientMsgId))
    {service : MessageDeliveryService} (signals : List DeliverySignal)
    (guarded : Guarded senderUserId clientMsgId service)
    (sameEntry : service.idempotencyCache.lookup (requestKeyFor senderUserId clientMsgId) =
      state.service.idempotencyCache.lookup (requestKeyFor senderUserId clientMsgId))
    (waiting : Waiting senderUserId clientMsgId service →
      Waiting senderUserId clientMsgId state.service) :
    KeepsOnce senderUserId clientMsgId (state.emit origin (service, signals)) := by
  have appended := signalsOf_append (senderUserId, clientMsgId) origin state.log signals
  rw [if_neg foreign, List.append_nil] at appended
  obtain ⟨_, outcome, overtaken⟩ := keeps
  rw [← sameEntry] at outcome overtaken
  rw [← appended] at outcome overtaken
  exact ⟨guarded, outcome, fun waits => overtaken (waiting waits)⟩

theorem processSendMessage_own {sha256 : List Nat → String} {stamp : SendStamp}
    {params : SendMessageParams}
    (keeps : KeepsOnce params.senderUserId params.msgId state)
    (undisturbed : Undisturbed sha256 params.senderUserId params.msgId state
      (.processSendMessage stamp params)) :
    KeepsOnce params.senderUserId params.msgId (state.emit (params.senderUserId, params.msgId)
      (ShirohaChat.processSendMessage sha256 state.service stamp params)) := by
  obtain ⟨-, staysPruned, staysPrivate⟩ := undisturbed
  have samePruned := MessageDeliveryService.lookup_prune_of_not_evicts staysPruned
  have guarded : Guarded params.senderUserId params.msgId
      (state.service.pruneIdempotencyCache stamp.prunedAt) := keeps.guarded.congr rfl rfl
  rcases processSendMessage_cases sha256 state.service stamp params with
    ⟨entry, cached, result⟩ | ⟨uncached, code, message, notOk, result⟩ |
    ⟨accepts, result⟩ | ⟨uncached, _, result⟩ | ⟨uncached, notInFlight, result⟩
  · rw [result]
    have before : state.service.idempotencyCache.lookup
        (requestKeyFor params.senderUserId params.msgId) = some entry :=
      samePruned.symm.trans cached
    have outcome := keeps.outcome
    rw [before] at outcome
    refine emit_own guarded (cached ▸ outcome.duplicate _ _) ?_
    intro waits _
    simpa using keeps.overtaken waits (by rw [before]; exact Option.some_ne_none _)
  · rw [result]
    refine emit_own guarded (samePruned ▸ keeps.outcome.quiet _ (quiet_ack notOk)) ?_
    intro _ isCached
    exact absurd uncached isCached
  · rw [result]
    have before : state.service.idempotencyCache.lookup
        (requestKeyFor params.senderUserId params.msgId) = none :=
      samePruned.symm.trans accepts.1
    have outcome := keeps.outcome
    rw [before] at outcome
    refine emit_own (guarded.congr rfl rfl) ?_ ?_
    · rw [MessageDeliveryService.lookup_remember_prune (staysPrivate accepts), if_pos rfl]
      exact outcome.first _ _ _ _ _ rfl
    · intro _ _
      exact outcome.first_stores _ _ _ _ _ rfl
  · rw [result]
    refine emit_own guarded ?_ ?_
    · rw [samePruned, List.append_nil]
      exact keeps.outcome
    · intro _ isCached
      exact absurd uncached isCached
  · rw [result]
    refine emit_own ?_ ?_ ?_
    · exact guarded.load stamp.reqToken _ rfl (fun _ => ⟨rfl, rfl⟩) notInFlight
    · exact samePruned ▸ keeps.outcome.quiet _ ⟨rfl, rfl, rfl⟩
    · intro _ isCached
      exact absurd uncached isCached

theorem processSendMessage_foreign (keeps : KeepsOnce senderUserId clientMsgId state)
    {sha256 : List Nat → String} {stamp : SendStamp} {params : SendMessageParams}
    (undisturbed : Undisturbed sha256 senderUserId clientMsgId state
      (.processSendMessage stamp params))
    (other : requestKeyFor params.senderUserId params.msgId ≠
      requestKeyFor senderUserId clientMsgId) :
    KeepsOnce senderUserId clientMsgId (state.emit (params.senderUserId, params.msgId)
      (ShirohaChat.processSendMessage sha256 state.service stamp params)) := by
  obtain ⟨-, staysPruned, staysPrivate⟩ := undisturbed
  have samePruned := MessageDeliveryService.lookup_prune_of_not_evicts staysPruned
  have foreign : (params.senderUserId, params.msgId) ≠ (senderUserId, clientMsgId) := by
    intro same
    cases same
    exact other rfl
  have guarded : Guarded senderUserId clientMsgId
      (state.service.pruneIdempotencyCache stamp.prunedAt) := keeps.guarded.congr rfl rfl
  rcases processSendMessage_cases sha256 state.service stamp params with
    ⟨entry, cached, result⟩ | ⟨uncached, code, message, notOk, result⟩ |
    ⟨accepts, result⟩ | ⟨uncached, _, result⟩ | ⟨uncached, notInFlight, result⟩
  · rw [result]
    exact keeps.emit_foreign foreign _ guarded samePruned id
  · rw [result]
    exact keeps.emit_foreign foreign _ guarded samePruned id
  · rw [result]
    have after := MessageDeliveryService.lookup_remember_prune (staysPrivate accepts)
    rw [if_neg other.symm] at after
    exact keeps.emit_foreign foreign _ (guarded.congr rfl rfl) (after.trans samePruned) id
  · rw [result]
    exact keeps.emit_foreign foreign _ guarded samePruned id
  · rw [result]
    refine keeps.emit_foreign foreign _ ?_ samePruned (Waiting.of_load other)
    exact guarded.load stamp.reqToken _ rfl (fun isKey => absurd isKey other) notInFlight

theorem processSendMessage (keeps : KeepsOnce senderUserId clientMsgId state)
    (sha256 : List Nat → String) (stamp : SendStamp) (params : SendMessageParams)
    (undisturbed : Undisturbed sha256 senderUserId clientMsgId state
      (.processSendMessage stamp params)) :
    KeepsOnce senderUserId clientMsgId
      (DeliveryEvent.next sha256 state (.processSendMessage stamp params)) := by
  simp only [DeliveryEvent.next, DeliveryEvent.origin, DeliveryEvent.outcome]
  by_cases own : requestKeyFor params.senderUserId params.msgId =
      requestKeyFor senderUserId clientMsgId
  · obtain ⟨rfl, rfl⟩ := undisturbed.1 own
    exact keeps.processSendMessage_own undisturbed
  · exact keeps.processSendMessage_foreign undisturbed own

theorem groupMembersLoaded_own {stamp : LoadStamp} {result : GroupMembersResult}
    {pending : PendingGroupMessage}
    (keeps : KeepsOnce pending.senderUserId pending.clientMsgId state)
    {sha256 : List Nat → String}
    (enabled : DeliveryEvent.enabled state (.groupMembersLoaded stamp result))
    (undisturbed : Undisturbed sha256 pending.senderUserId pending.clientMsgId state
      (.groupMembersLoaded stamp result))
    (notOvertaken : NotOvertaken pending.senderUserId pending.clientMsgId state
      (.groupMembersLoaded stamp result))
    (found : state.service.pendingGroupMessages.lookup result.reqMsgId = some pending)
    (own : pending.requestKey = requestKeyFor pending.senderUserId pending.clientMsgId) :
    KeepsOnce pending.senderUserId pending.clientMsgId
      (state.emit (pending.senderUserId, pending.clientMsgId)
        (onGroupMembersForMessage state.service stamp result)) := by
  have guarded := keeps.guarded.take result.reqMsgId pending found
  have stays := undisturbed pending found
  have answered := keeps.guarded.not_waiting_take result.reqMsgId pending found own
  rcases onGroupMembersForMessage_cases state.service stamp result with
    ⟨unknown, -⟩ | ⟨other, isOther, outcomes⟩
  · rw [found] at unknown
    cases unknown
  cases Option.some.inj (found.symm.trans isOther)
  rcases outcomes with ⟨failed, handled⟩ | ⟨success, outsider, handled⟩ |
    ⟨success, insider, handled⟩
  · rw [handled]
    refine emit_own guarded (keeps.outcome.quiet _ (quiet_ack ?_))
      fun waits => absurd waits answered
    rcases enabled failed with notFound | broken
    · rw [notFound]
      decide
    · rw [broken]
      decide
  · rw [handled]
    refine emit_own (guarded.congr rfl rfl) ?_ fun waits => absurd waits answered
    rw [MessageDeliveryService.lookup_remember_prune (stays success _ rfl), if_pos own.symm]
    have notOk : (403 : Int32) ≠ 200 := by decide
    exact (keeps.outcome.refused _ notOk).quiet _ (quiet_ack notOk)
  · rw [handled]
    have before := (FiniteMap.notMem_iff _ _).mp
      (notOvertaken pending found rfl rfl success insider)
    have outcome := keeps.outcome
    rw [before] at outcome
    refine emit_own (guarded.congr rfl rfl) ?_ fun waits => absurd waits answered
    rw [MessageDeliveryService.lookup_remember_prune (stays success _ rfl), if_pos own.symm]
    exact outcome.first _ _ _ _ _ rfl

theorem groupMembersLoaded_foreign (keeps : KeepsOnce senderUserId clientMsgId state)
    {sha256 : List Nat → String} {stamp : LoadStamp} {result : GroupMembersResult}
    {pending : PendingGroupMessage}
    (undisturbed : Undisturbed sha256 senderUserId clientMsgId state
      (.groupMembersLoaded stamp result))
    (found : state.service.pendingGroupMessages.lookup result.reqMsgId = some pending)
    (other : pending.requestKey ≠ requestKeyFor senderUserId clientMsgId) :
    KeepsOnce senderUserId clientMsgId (state.emit (pending.senderUserId, pending.clientMsgId)
      (onGroupMembersForMessage state.service stamp result)) := by
  have guarded := keeps.guarded.take result.reqMsgId pending found
  have stays := undisturbed pending found
  have foreign : (pending.senderUserId, pending.clientMsgId) ≠ (senderUserId, clientMsgId) := by
    intro same
    cases same
    exact other (keeps.guarded.pendingKey result.reqMsgId pending found)
  rcases onGroupMembersForMessage_cases state.service stamp result with
    ⟨unknown, -⟩ | ⟨same, isSame, outcomes⟩
  · rw [found] at unknown
    cases unknown
  cases Option.some.inj (found.symm.trans isSame)
  rcases outcomes with ⟨failed, handled⟩ | ⟨success, outsider, handled⟩ |
    ⟨success, insider, handled⟩
  · rw [handled]
    exact keeps.emit_foreign foreign _ guarded rfl
      (Waiting.of_take result.reqMsgId pending.requestKey)
  · rw [handled]
    refine keeps.emit_foreign foreign _ (guarded.congr rfl rfl) ?_
      (Waiting.of_take result.reqMsgId pending.requestKey)
    rw [MessageDeliveryService.lookup_remember_prune (stays success _ rfl), if_neg other.symm]
    rfl
  · rw [handled]
    refine keeps.emit_foreign foreign _ (guarded.congr rfl rfl) ?_
      (Waiting.of_take result.reqMsgId pending.requestKey)
    rw [MessageDeliveryService.lookup_remember_prune (stays success _ rfl), if_neg other.symm]
    rfl

/-- Every outcome of a member list but the one that carries out a message
which is carried out already. -/
theorem groupMembersLoaded (keeps : KeepsOnce senderUserId clientMsgId state)
    (sha256 : List Nat → String) (stamp : LoadStamp) (result : GroupMembersResult)
    (enabled : DeliveryEvent.enabled state (.groupMembersLoaded stamp result))
    (undisturbed : Undisturbed sha256 senderUserId clientMsgId state
      (.groupMembersLoaded stamp result))
    (notOvertaken : NotOvertaken senderUserId clientMsgId state
      (.groupMembersLoaded stamp result)) :
    KeepsOnce senderUserId clientMsgId
      (DeliveryEvent.next sha256 state (.groupMembersLoaded stamp result)) := by
  simp only [DeliveryEvent.next, DeliveryEvent.origin, DeliveryEvent.outcome]
  rcases onGroupMembersForMessage_cases state.service stamp result with
    ⟨unknown, handled⟩ | ⟨pending, found, -⟩
  · rw [handled]
    obtain ⟨guarded, outcome, overtaken⟩ := keeps
    rw [← List.append_nil state.log] at outcome overtaken
    exact ⟨guarded, outcome, overtaken⟩
  · simp only [found]
    by_cases own : pending.requestKey = requestKeyFor senderUserId clientMsgId
    · obtain ⟨rfl, rfl⟩ := keeps.guarded.pendingOwn result.reqMsgId pending found own
      exact keeps.groupMembersLoaded_own enabled undisturbed notOvertaken found own
    · exact keeps.groupMembersLoaded_foreign undisturbed found own

end KeepsOnce

theorem keepsOnce_of_reachable (sha256 : List Nat → String) (senderUserId clientMsgId : String)
    (state : DeliveryState)
    (reached : (((deliverySystem sha256).restrict
      (Undisturbed sha256 senderUserId clientMsgId)).restrict
        (NotOvertaken senderUserId clientMsgId)).Reachable state) :
    KeepsOnce senderUserId clientMsgId state := by
  refine System.Reachable.invariant (keepsOnce_empty senderUserId clientMsgId) ?_ state reached
  intro before event _ keeps enabled
  cases event with
  | processSendMessage stamp params =>
      exact keeps.processSendMessage sha256 stamp params enabled.1.2
  | groupMembersLoaded stamp result =>
      exact keeps.groupMembersLoaded sha256 stamp result enabled.1.1 enabled.1.2 enabled.2

/-- A message that is carried out although it has an outcome is stored twice. -/
theorem stored_twice_of_overtaken (sha256 : List Nat → String)
    {senderUserId clientMsgId : String} {state : DeliveryState}
    (keeps : KeepsOnce senderUserId clientMsgId state) (event : DeliveryEvent)
    (once : OutcomeOnce (signalsOf (senderUserId, clientMsgId)
      (DeliveryEvent.next sha256 state event).log)) :
    NotOvertaken senderUserId clientMsgId state event := by
  cases event with
  | processSendMessage stamp params => trivial
  | groupMembersLoaded stamp result =>
      rintro pending found rfl rfl success insider isCached
      have own := keeps.guarded.pendingKey result.reqMsgId pending found
      have already := keeps.overtaken ⟨result.reqMsgId, pending, found, own⟩
        fun missing => (FiniteMap.notMem_iff _ _).mpr missing isCached
      have stores := once.stores
      rcases onGroupMembersForMessage_cases state.service stamp result with
        ⟨unknown, _⟩ | ⟨other, otherFound, outcomes⟩
      · rw [found] at unknown
        cases unknown
      · rw [found] at otherFound
        cases otherFound
        rcases outcomes with ⟨failed, _⟩ | ⟨_, outsider, _⟩ | ⟨_, _, handled⟩
        · rw [success] at failed
          cases failed
        · exact outsider insider
        · simp only [DeliveryEvent.next, DeliveryEvent.origin, DeliveryEvent.outcome, found,
            DeliveryState.emit, handled] at stores
          rw [signalsOf_append, if_pos rfl, List.countP_append, already] at stores
          simp only [List.countP_cons, DeliverySignal.isStore_requestStoreMessage,
            if_true] at stores
          omega

/-- As long as no member list lets a message through that has an outcome
already, the message has at most one outcome; and a step from such a state
keeps this exactly when it does not. -/
theorem sendMessage_outcome_once (sha256 : List Nat → String)
    (senderUserId clientMsgId : String) (state : DeliveryState)
    (reached : (((deliverySystem sha256).restrict
      (Undisturbed sha256 senderUserId clientMsgId)).restrict
        (NotOvertaken senderUserId clientMsgId)).Reachable state) :
    OutcomeOnce (signalsOf (senderUserId, clientMsgId) state.log) ∧
      ∀ event, DeliveryEvent.enabled state event →
        Undisturbed sha256 senderUserId clientMsgId state event →
        (OutcomeOnce (signalsOf (senderUserId, clientMsgId)
            (DeliveryEvent.next sha256 state event).log) ↔
          NotOvertaken senderUserId clientMsgId state event) := by
  have keeps := keepsOnce_of_reachable sha256 senderUserId clientMsgId state reached
  refine ⟨keeps.outcome.once, ?_⟩
  intro event enabled undisturbed
  constructor
  · exact stored_twice_of_overtaken sha256 keeps event
  · intro notOvertaken
    have after := keepsOnce_of_reachable sha256 senderUserId clientMsgId _
      (System.Reachable.step event reached ⟨⟨enabled, undisturbed⟩, notOvertaken⟩)
    exact after.outcome.once

/-- The digest of the only text these runs hash. -/
def aliceBobDigest (data : List Nat) : String :=
  if data = CodeUnits.utf8 "alice:bob".toList then
    "1e2af26470aae83866fd22e2907b8d1be05975d952e4158989cbd18933bd703e"
  else ""

def aliceStamp (serverId reqToken : String) : SendStamp :=
  ⟨1000, serverId, "2026-01-01T00:00:00.000Z", 1000, 1000, reqToken⟩

def aliceToBob : SendMessageParams :=
  { msgId := "m1", sessionType := "private", sessionId := "1e2af26470aae83866fd22e2907b8d1b"
    content := some "hi", senderUserId := "alice", senderNickname := "Alice"
    recipientUserId := "bob", senderSession := "c1" }

def aliceRetries : List DeliveryEvent :=
  [.processSendMessage (aliceStamp "srv_1" "grpmsg_1") aliceToBob,
    .processSendMessage (aliceStamp "srv_2" "grpmsg_2") aliceToBob]

theorem sendMessage_outcome_once_alice :
    OutcomeOnce (signalsOf ("alice", "m1")
      (aliceRetries.foldl (DeliveryEvent.next aliceBobDigest) DeliveryState.empty).log) := by
  have reached : (((deliverySystem aliceBobDigest).restrict
      (Undisturbed aliceBobDigest "alice" "m1")).restrict
        (NotOvertaken "alice" "m1")).Reachable
      (aliceRetries.foldl (DeliveryEvent.next aliceBobDigest) DeliveryState.empty) := by
    refine System.Reachable.run aliceRetries _ System.Reachable.initial ?_
    refine ⟨⟨⟨trivial, fun _ => ⟨rfl, rfl⟩, ?_, fun _ => ?_⟩, trivial⟩,
      ⟨⟨trivial, fun _ => ⟨rfl, rfl⟩, ?_, fun accepts => ?_⟩, trivial⟩, trivial⟩
    · rintro ⟨isCached, _⟩
      exact absurd isCached (by decide)
    · rintro ⟨_, gone⟩
      exact gone (by decide)
    · rintro ⟨_, gone⟩
      exact gone (by decide)
    · cases accepts.1
  exact (sendMessage_outcome_once aliceBobDigest "alice" "m1" _ reached).1

/-- While alice's group request waits for its member list, her private request
with the same message id is carried out. -/
def aliceOvertakes : List DeliveryEvent :=
  [.processSendMessage (aliceStamp "srv_1" "grpmsg_1")
      { aliceToBob with sessionType := "group", sessionId := "grp_1", recipientUserId := "" },
    .processSendMessage (aliceStamp "srv_2" "grpmsg_2") aliceToBob,
    .groupMembersLoaded ⟨1000, 1000⟩
      { groupId := "grp_1", groupName := "G", members := ["alice", "bob"],
        reqMsgId := "grpmsg_1" }]

/-- The late member list lets the message through a second time. -/
theorem sendMessage_outcome_twice :
    ¬ ∀ senderUserId clientMsgId state, ((deliverySystem aliceBobDigest).restrict
      (Undisturbed aliceBobDigest senderUserId clientMsgId)).Reachable state →
        OutcomeOnce (signalsOf (senderUserId, clientMsgId) state.log) := by
  intro always
  have reached : ((deliverySystem aliceBobDigest).restrict
      (Undisturbed aliceBobDigest "alice" "m1")).Reachable
      (aliceOvertakes.foldl (DeliveryEvent.next aliceBobDigest) DeliveryState.empty) := by
    refine System.Reachable.run aliceOvertakes _ System.Reachable.initial ?_
    refine ⟨⟨trivial, fun _ => ⟨rfl, rfl⟩, ?_, fun _ => ?_⟩,
      ⟨trivial, fun _ => ⟨rfl, rfl⟩, ?_, fun _ => ?_⟩, ⟨nofun, ?_⟩, trivial⟩
    · rintro ⟨isCached, _⟩
      exact absurd isCached (by decide)
    · rintro ⟨_, gone⟩
      exact gone (by decide)
    · rintro ⟨isCached, _⟩
      exact absurd isCached (by decide)
    · rintro ⟨_, gone⟩
      exact gone (by decide)
    · rintro pending found _ ⟨code, message, serverId, createdAtMs⟩ rfl ⟨_, gone⟩
      cases found
      exact gone ((FiniteMap.mem_iff _ _).mpr ⟨_, rfl⟩)
  have stores := (always "alice" "m1" _ reached).stores
  exact absurd stores (by decide)

end ShirohaChat
