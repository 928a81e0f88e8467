import ShirohaChat.Lib.Joined
import ShirohaChat.Lib.TwinRuns
import ShirohaChat.Server.DeliveryRuns

/-!
# Requests of different names do not meet

Two runs of the service, one of which skips requests of another name.  Whatever
the service does with a request is decided by what it keeps under the request's
key: the cached outcome, the in-flight mark and the pending group messages.  An
event under another key leaves these alone, so the runs treat a name alike as
long as the skipped name has another key; and keys are names joined by a colon
that both parts may hold.
-/

set_option autoImplicit false

namespace ShirohaChat

open Transition Joined

def MessageName.key (name : MessageName) : String := requestKeyFor name.1 name.2

/-- Two names read one key, split at different colons. -/
def SharesKey (name other : MessageName) : Prop :=
  Ambiguous ':' name.1.toList name.2.toList other.1.toList other.2.toList

theorem key_eq_iff (name other : MessageName) :
    name.key = other.key ↔ name = other ∨ SharesKey name other := by
  have texts : name.key = other.key ↔ join ':' name.1.toList name.2.toList =
      join ':' other.1.toList other.2.toList := by
    unfold MessageName.key requestKeyFor
    rw [← toList_join, ← toList_join, String.toList_inj]
  rw [texts, join_eq_join_iff, String.toList_inj, String.toList_inj, ← Prod.ext_iff]
  rfl

/-! ## What the service keeps under a key -/

structure SameView (key : String) (left right : MessageDeliveryService) : Prop where
  inFlight : key ∈ left.inFlightGroupMsgIds ↔ key ∈ right.inFlightGroupMsgIds
  pending : ∀ token pending, pending.requestKey = key →
    (left.pendingGroupMessages.lookup token = some pending ↔
      right.pendingGroupMessages.lookup token = some pending)

namespace SameView

variable {key : String} {left middle right : MessageDeliveryService}

theorem refl (service : MessageDeliveryService) : SameView key service service :=
  ⟨Iff.rfl, fun _ _ _ => Iff.rfl⟩

theorem symm (same : SameView key left right) : SameView key right left :=
  ⟨same.inFlight.symm, fun token pending own => (same.pending token pending own).symm⟩

theorem trans (first : SameView key left middle) (second : SameView key middle right) :
    SameView key left right :=
  ⟨first.inFlight.trans second.inFlight, fun token pending own =>
    (first.pending token pending own).trans (second.pending token pending own)⟩

theorem load (service : MessageDeliveryService) {token : String} {added : PendingGroupMessage}
    (fresh : service.pendingGroupMessages.lookup token = none) (foreign : added.requestKey ≠ key) :
    SameView key service { service with
      inFlightGroupMsgIds := insert added.requestKey service.inFlightGroupMsgIds
      pendingGroupMessages := service.pendingGroupMessages.insert token added } := by
  refine ⟨?_, ?_⟩
  · rw [Finset.mem_insert]
    exact (or_iff_right fun same => foreign same.symm).symm
  · intro other pending own
    rw [FiniteMap.lookup_insert]
    by_cases here : other = token
    · rw [if_pos here, here, fresh]
      refine iff_of_false (Option.some_ne_none _).symm ?_
      intro same
      cases same
      exact foreign own
    · rw [if_neg here]

theorem take (service : MessageDeliveryService) {token : String} {taken : PendingGroupMessage}
    (found : service.pendingGroupMessages.lookup token = some taken)
    (foreign : taken.requestKey ≠ key) :
    SameView key service (service.take token taken.requestKey) := by
  refine ⟨?_, ?_⟩
  · rw [MessageDeliveryService.take, Finset.mem_erase]
    exact (and_iff_right fun same => foreign same.symm).symm
  · intro other pending own
    rw [MessageDeliveryService.lookup_take]
    by_cases here : other = token
    · rw [if_pos here, here, found]
      refine iff_of_false ?_ (Option.some_ne_none _).symm
      intro same
      cases same
      exact foreign own
    · rw [if_neg here]

theorem load_both (same : SameView key left right) (token : String)
    (added : PendingGroupMessage) :
    SameView key
      { left with
        inFlightGroupMsgIds := insert added.requestKey left.inFlightGroupMsgIds
        pendingGroupMessages := left.pendingGroupMessages.insert token added }
      { right with
        inFlightGroupMsgIds := insert added.requestKey right.inFlightGroupMsgIds
        pendingGroupMessages := right.pendingGroupMessages.insert token added } := by
  refine ⟨?_, ?_⟩
  · rw [Finset.mem_insert, Finset.mem_insert, same.inFlight]
  · intro other pending own
    rw [FiniteMap.lookup_insert, FiniteMap.lookup_insert]
    split
    · exact Iff.rfl
    · exact same.pending other pending own

theorem take_both (same : SameView key left right) (token requestKey : String) :
    SameView key (left.take token requestKey) (right.take token requestKey) := by
  refine ⟨?_, ?_⟩
  · rw [MessageDeliveryService.take, MessageDeliveryService.take, Finset.mem_erase,
      Finset.mem_erase, same.inFlight]
  · intro other pending own
    rw [MessageDeliveryService.lookup_take, MessageDeliveryService.lookup_take]
    split
    · exact Iff.rfl
    · exact same.pending other pending own

end SameView

/-! ## A run watched at one key -/

namespace DeliveryEvent

def key (service : MessageDeliveryService) : DeliveryEvent → Option String
  | .processSendMessage _ params => some (requestKeyFor params.senderUserId params.msgId)
  | .groupMembersLoaded _ result =>
      (service.pendingGroupMessages.lookup result.reqMsgId).map PendingGroupMessage.requestKey

def freshToken (service : MessageDeliveryService) : DeliveryEvent → Prop
  | .processSendMessage stamp _ => service.pendingGroupMessages.lookup stamp.reqToken = none
  | .groupMembersLoaded _ _ => True

end DeliveryEvent

instance (sha256 : List Nat → String) (service : MessageDeliveryService)
    (params : SendMessageParams) : Decidable (AcceptsPrivate sha256 service params) := by
  unfold AcceptsPrivate
  infer_instance

section Watched
variable (sha256 : List Nat → String) (key : String)

def DeliveryEvent.remembered (service : MessageDeliveryService) :
    DeliveryEvent → Option IdempotencyEntry
  | .processSendMessage stamp params =>
      if requestKeyFor params.senderUserId params.msgId = key ∧
          AcceptsPrivate sha256 (service.pruneIdempotencyCache stamp.prunedAt) params then
        some ⟨200, "", stamp.serverId, stamp.createdAtMs⟩
      else none
  | .groupMembersLoaded stamp result =>
      (service.pendingGroupMessages.lookup result.reqMsgId).bind fun pending =>
        if pending.requestKey = key ∧ result.success = true then
          if pending.senderUserId ∈ result.members then
            some ⟨200, "", pending.serverId, stamp.createdAtMs⟩
          else some ⟨403, "Sender is not a member of group", "", stamp.createdAtMs⟩
        else none

/-- `lastOutcome` is not state of the program: it is the outcome last entered
under the key, kept also when a prune drops it from the cache. -/
structure WatchedRun where
  state : DeliveryState
  lastOutcome : Option IdempotencyEntry

namespace WatchedRun

def next (run : WatchedRun) (event : DeliveryEvent) : WatchedRun :=
  { state := event.next sha256 run.state
    lastOutcome := (event.remembered sha256 key run.state.service).or run.lastOutcome }

/-- The outcome under the key has expired or made room at the first prune of a
request. -/
def Dropped (run : WatchedRun) (nowMs : Int) : Prop :=
  run.lastOutcome ≠ none ∧
    (run.state.service.pruneIdempotencyCache nowMs).idempotencyCache.lookup key = none

end WatchedRun

def watchedSystem : System WatchedRun DeliveryEvent where
  initial := ⟨DeliveryState.empty, none⟩
  enabled run event := event.freshToken run.state.service
  next := WatchedRun.next sha256 key

/-- A request under the key finds its outcome dropped in both runs or in none. -/
def DroppedAlike (runs : Twin WatchedRun) (taken : TwinEvent DeliveryEvent) : Prop :=
  ∀ stamp params, taken = ⟨.processSendMessage stamp params, false⟩ →
    requestKeyFor params.senderUserId params.msgId = key →
    (runs.full.Dropped key stamp.prunedAt ↔ runs.skipping.Dropped key stamp.prunedAt)

end Watched

/-! ## Requests -/

section Requests
variable {sha256 : List Nat → String} {key : String}

theorem SameView.prune {left right : MessageDeliveryService} (same : SameView key left right)
    (nowMs nowMs' : Int) :
    SameView key (left.pruneIdempotencyCache nowMs) (right.pruneIdempotencyCache nowMs') :=
  ⟨same.inFlight, same.pending⟩

theorem SameView.remember {left right : MessageDeliveryService} (same : SameView key left right)
    (requestKey : String) (entry : IdempotencyEntry) (nowMs : Int) :
    SameView key ((left.remember requestKey entry).pruneIdempotencyCache nowMs)
      ((right.remember requestKey entry).pruneIdempotencyCache nowMs) :=
  ⟨same.inFlight, same.pending⟩

/-- A request is answered by the cached outcome and the in-flight mark of its key. -/
theorem processSendMessage_congr {left right : MessageDeliveryService} {stamp : SendStamp}
    {params : SendMessageParams} (own : requestKeyFor params.senderUserId params.msgId = key)
    (same : SameView key left right)
    (cached : (left.pruneIdempotencyCache stamp.prunedAt).idempotencyCache.lookup key =
      (right.pruneIdempotencyCache stamp.prunedAt).idempotencyCache.lookup key) :
    (processSendMessage sha256 left stamp params).2 =
        (processSendMessage sha256 right stamp params).2 ∧
      SameView key (processSendMessage sha256 left stamp params).1
        (processSendMessage sha256 right stamp params).1 := by
  subst own
  have pruned := same.prune stamp.prunedAt stamp.prunedAt
  unfold processSendMessage
  cases found : (right.pruneIdempotencyCache stamp.prunedAt).idempotencyCache.lookup
      (requestKeyFor params.senderUserId params.msgId) with
  | some entry =>
      simp only [cached.trans found, found]
      exact ⟨trivial, pruned⟩
  | none =>
      simp only [cached.trans found, found]
      by_cases tooLarge : contentTooLarge params.content = true
      · simp only [if_pos tooLarge]
        exact ⟨trivial, pruned⟩
      by_cases mismatch : sessionIdMismatch sha256 params = true
      · simp only [if_neg tooLarge, if_pos mismatch]
        exact ⟨trivial, pruned⟩
      by_cases isPrivate : params.sessionType = "private"
      · simp only [if_neg tooLarge, if_neg mismatch, if_pos isPrivate]
        exact ⟨trivial, pruned.remember _ _ _⟩
      by_cases waits : requestKeyFor params.senderUserId params.msgId ∈
          (right.pruneIdempotencyCache stamp.prunedAt).inFlightGroupMsgIds
      · simp only [if_neg tooLarge, if_neg mismatch, if_neg isPrivate, if_pos waits,
          if_pos (pruned.inFlight.mpr waits)]
        exact ⟨trivial, pruned⟩
      · simp only [if_neg tooLarge, if_neg mismatch, if_neg isPrivate, if_neg waits,
          if_neg fun inLeft => waits (pruned.inFlight.mp inLeft)]
        exact ⟨trivial, pruned.load_both stamp.reqToken _⟩

/-- A request under another key leaves what is kept under this one. -/
theorem processSendMessage_foreign {service : MessageDeliveryService} {stamp : SendStamp}
    {params : SendMessageParams} (foreign : requestKeyFor params.senderUserId params.msgId ≠ key)
    (fresh : service.pendingGroupMessages.lookup stamp.reqToken = none) :
    SameView key service (processSendMessage sha256 service stamp params).1 := by
  have pruned : SameView key service (service.pruneIdempotencyCache stamp.prunedAt) :=
    ⟨Iff.rfl, fun _ _ _ => Iff.rfl⟩
  rcases processSendMessage_cases sha256 service stamp params with
    ⟨entry, cached, result⟩ | ⟨uncached, code, message, notOk, result⟩ |
    ⟨accepts, result⟩ | ⟨uncached, _, result⟩ | ⟨uncached, notInFlight, result⟩
  · rw [result]
    exact pruned
  · rw [result]
    exact pruned
  · rw [result]
    exact ⟨Iff.rfl, fun _ _ _ => Iff.rfl⟩
  · rw [result]
    exact pruned
  · rw [result]
    have notPending : (service.pruneIdempotencyCache
        stamp.prunedAt).pendingGroupMessages.lookup stamp.reqToken = none := fresh
    refine pruned.trans (SameView.load _ notPending ?_)
    exact foreign

/-- The cache entries of a request: the one it enters, or older ones. -/
theorem cached_processSendMessage {service : MessageDeliveryService} {stamp : SendStamp}
    {params : SendMessageParams} {entry : IdempotencyEntry}
    (found : (processSendMessage sha256 service stamp params).1.idempotencyCache.lookup key =
      some entry) :
    (DeliveryEvent.processSendMessage stamp params).remembered sha256 key service = some entry ∨
      ((DeliveryEvent.processSendMessage stamp params).remembered sha256 key service = none ∧
        service.idempotencyCache.lookup key = some entry) := by
  have older : ∀ entry, (service.pruneIdempotencyCache
      stamp.prunedAt).idempotencyCache.lookup key = some entry →
      service.idempotencyCache.lookup key = some entry :=
    fun entry => service.lookup_prune stamp.prunedAt key entry
  simp only [DeliveryEvent.remembered]
  by_cases accepts : AcceptsPrivate sha256 (service.pruneIdempotencyCache stamp.prunedAt) params
  · obtain ⟨uncached, fits, idMatches, isPrivate⟩ := id accepts
    have result : (processSendMessage sha256 service stamp params).1 =
        ((service.pruneIdempotencyCache stamp.prunedAt).remember
          (requestKeyFor params.senderUserId params.msgId)
          ⟨200, "", stamp.serverId, stamp.createdAtMs⟩).pruneIdempotencyCache
            stamp.reprunedAt := by
      unfold processSendMessage
      simp only [uncached, fits, idMatches, isPrivate, if_true, if_false, Bool.false_eq_true]
    rw [result] at found
    have entered := MessageDeliveryService.lookup_prune _ _ _ _ found
    rw [MessageDeliveryService.lookup_remember] at entered
    by_cases own : requestKeyFor params.senderUserId params.msgId = key
    · rw [if_pos own.symm] at entered
      rw [if_pos ⟨own, accepts⟩]
      exact Or.inl entered
    · rw [if_neg fun same => own same.symm] at entered
      rw [if_neg fun target => own target.1]
      exact Or.inr ⟨rfl, older entry entered⟩
  · rw [if_neg fun target => accepts target.2]
    refine Or.inr ⟨rfl, older entry ?_⟩
    rcases processSendMessage_cases sha256 service stamp params with
      ⟨_, _, result⟩ | ⟨_, _, _, _, result⟩ | ⟨accepts', _⟩ | ⟨_, _, result⟩ | ⟨_, _, result⟩
    · rw [result] at found
      exact found
    · rw [result] at found
      exact found
    · exact absurd accepts' accepts
    · rw [result] at found
      exact found
    · rw [result] at found
      exact found

end Requests

/-! ## Member lists -/

section MemberLists
variable {sha256 : List Nat → String} {key : String} {stamp : LoadStamp}
  {result : GroupMembersResult}

theorem onGroupMembersForMessage_congr {left right : MessageDeliveryService}
    {pending : PendingGroupMessage} (same : SameView key left right)
    (found : left.pendingGroupMessages.lookup result.reqMsgId = some pending)
    (own : pending.requestKey = key) :
    (onGroupMembersForMessage left stamp result).2 =
        (onGroupMembersForMessage right stamp result).2 ∧
      SameView key (onGroupMembersForMessage left stamp result).1
        (onGroupMembersForMessage right stamp result).1 := by
  have found' := (same.pending result.reqMsgId pending own).mp found
  have taken := same.take_both result.reqMsgId pending.requestKey
  unfold onGroupMembersForMessage
  simp only [found, found']
  by_cases loaded : result.success = true
  · by_cases outsider : pending.senderUserId ∉ result.members
    · simp only [if_neg (not_not.mpr loaded), if_pos outsider]
      exact ⟨trivial, taken.remember _ _ _⟩
    · simp only [if_neg (not_not.mpr loaded), if_neg outsider]
      exact ⟨trivial, taken.remember _ _ _⟩
  · simp only [if_pos loaded]
    exact ⟨trivial, taken⟩

theorem onGroupMembersForMessage_foreign {service : MessageDeliveryService}
    (foreign : ∀ pending, service.pendingGroupMessages.lookup result.reqMsgId = some pending →
      pending.requestKey ≠ key) :
    SameView key service (onGroupMembersForMessage service stamp result).1 := by
  rcases onGroupMembersForMessage_cases service stamp result with
    ⟨unknown, handled⟩ | ⟨pending, found, outcomes⟩
  · rw [handled]
    exact SameView.refl service
  · have taken := SameView.take service found (foreign pending found)
    rcases outcomes with ⟨_, handled⟩ | ⟨_, _, handled⟩ | ⟨_, _, handled⟩
    · rw [handled]
      exact taken
    · rw [handled]
      exact taken.trans ⟨Iff.rfl, fun _ _ _ => Iff.rfl⟩
    · rw [handled]
      exact taken.trans ⟨Iff.rfl, fun _ _ _ => Iff.rfl⟩

/-- What the cache holds after a successful member list of a pending message. -/
theorem lookup_entered {service : MessageDeliveryService} {token : String}
    {pending : PendingGroupMessage} {entered entry : IdempotencyEntry} {nowMs : Int}
    (found : (((service.take token pending.requestKey).remember pending.requestKey
      entered).pruneIdempotencyCache nowMs).idempotencyCache.lookup key = some entry) :
    (if pending.requestKey = key then some entered else none) = some entry ∨
      ((if pending.requestKey = key then some entered else none) = none ∧
        service.idempotencyCache.lookup key = some entry) := by
  have before := MessageDeliveryService.lookup_prune _ _ _ _ found
  rw [MessageDeliveryService.lookup_remember] at before
  by_cases own : pending.requestKey = key
  · rw [if_pos own.symm] at before
    rw [if_pos own]
    exact Or.inl before
  · rw [if_neg fun same => own same.symm] at before
    rw [if_neg own]
    exact Or.inr ⟨rfl, before⟩

theorem cached_onGroupMembersForMessage {service : MessageDeliveryService}
    {entry : IdempotencyEntry}
    (found : (onGroupMembersForMessage service stamp result).1.idempotencyCache.lookup key =
      some entry) :
    (DeliveryEvent.groupMembersLoaded stamp result).remembered sha256 key service = some entry ∨
      ((DeliveryEvent.groupMembersLoaded stamp result).remembered sha256 key service = none ∧
        service.idempotencyCache.lookup key = some entry) := by
  simp only [DeliveryEvent.remembered]
  rcases onGroupMembersForMessage_cases service stamp result with
    ⟨unknown, handled⟩ | ⟨pending, isPending, outcomes⟩
  · rw [handled] at found
    rw [unknown]
    exact Or.inr ⟨rfl, found⟩
  · rw [isPending, Option.bind_some]
    rcases outcomes with ⟨failed, handled⟩ | ⟨success, outsider, handled⟩ |
      ⟨success, insider, handled⟩
    · rw [handled] at found
      simp only [failed, Bool.false_eq_true, and_false, if_false]
      exact Or.inr ⟨trivial, found⟩
    · rw [handled] at found
      simp only [success, and_true, if_neg outsider]
      exact lookup_entered found
    · rw [handled] at found
      simp only [success, and_true, if_pos insider]
      exact lookup_entered found

end MemberLists

/-! ## One step of the two runs -/

namespace WatchedRun

variable {sha256 : List Nat → String} {name : MessageName}

structure Sound (key : String) (run : WatchedRun) : Prop where
  cached : ∀ entry, run.state.service.idempotencyCache.lookup key = some entry →
    run.lastOutcome = some entry
  pendingKey : ∀ token pending,
    run.state.service.pendingGroupMessages.lookup token = some pending →
      pending.requestKey = requestKeyFor pending.senderUserId pending.clientMsgId

theorem Sound.pendingKey_next {key : String} {run : WatchedRun} (sound : run.Sound key)
    (event : DeliveryEvent) (token : String) (pending : PendingGroupMessage)
    (found : (run.next sha256 key event).state.service.pendingGroupMessages.lookup token =
      some pending) :
    pending.requestKey = requestKeyFor pending.senderUserId pending.clientMsgId := by
  cases event with
  | processSendMessage stamp params =>
      simp only [WatchedRun.next, DeliveryEvent.next, DeliveryState.emit,
        DeliveryEvent.outcome] at found
      rcases processSendMessage_cases sha256 run.state.service stamp params with
        ⟨_, _, result⟩ | ⟨_, _, _, _, result⟩ | ⟨_, result⟩ | ⟨_, _, result⟩ | ⟨_, _, result⟩
      · rw [result] at found
        exact sound.pendingKey token pending found
      · rw [result] at found
        exact sound.pendingKey token pending found
      · rw [result] at found
        exact sound.pendingKey token pending found
      · rw [result] at found
        exact sound.pendingKey token pending found
      · rw [result] at found
        rcases FiniteMap.of_lookup_insert found with ⟨_, rfl⟩ | ⟨_, old⟩
        · rfl
        · exact sound.pendingKey token pending old
  | groupMembersLoaded stamp result =>
      simp only [WatchedRun.next, DeliveryEvent.next, DeliveryState.emit,
        DeliveryEvent.outcome] at found
      have older : ∀ requestKey, (run.state.service.take result.reqMsgId
          requestKey).pendingGroupMessages.lookup token = some pending →
          pending.requestKey = requestKeyFor pending.senderUserId pending.clientMsgId := by
        intro requestKey present
        exact sound.pendingKey token pending (FiniteMap.of_lookup_erase present).2
      rcases onGroupMembersForMessage_cases run.state.service stamp result with
        ⟨_, handled⟩ | ⟨taken, _, ⟨_, handled⟩ | ⟨_, _, handled⟩ | ⟨_, _, handled⟩⟩
      · rw [handled] at found
        exact sound.pendingKey token pending found
      · rw [handled] at found
        exact older taken.requestKey found
      · rw [handled] at found
        exact older taken.requestKey found
      · rw [handled] at found
        exact older taken.requestKey found

theorem Sound.next {key : String} {run : WatchedRun} (sound : run.Sound key)
    (event : DeliveryEvent) : (run.next sha256 key event).Sound key := by
  refine ⟨?_, sound.pendingKey_next event⟩
  intro entry found
  have source : event.remembered sha256 key run.state.service = some entry ∨
      (event.remembered sha256 key run.state.service = none ∧
        run.state.service.idempotencyCache.lookup key = some entry) := by
    cases event with
    | processSendMessage stamp params => exact cached_processSendMessage found
    | groupMembersLoaded stamp result => exact cached_onGroupMembersForMessage found
  simp only [WatchedRun.next]
  rcases source with entered | ⟨nothing, older⟩
  · rw [entered, Option.some_or]
  · rw [nothing, Option.none_or]
    exact sound.cached entry older

structure Unnoticed (name : MessageName) (run after : WatchedRun) : Prop where
  view : SameView name.key run.state.service after.state.service
  last : after.lastOutcome = run.lastOutcome
  signals : signalsOf name after.state.log = signalsOf name run.state.log

theorem Sound.unnoticed {run : WatchedRun} (sound : run.Sound name.key) {event : DeliveryEvent}
    (fresh : event.freshToken run.state.service)
    (foreign : event.key run.state.service ≠ some name.key) :
    Unnoticed name run (run.next sha256 name.key event) := by
  cases event with
  | processSendMessage stamp params =>
      have otherKey : requestKeyFor params.senderUserId params.msgId ≠ name.key :=
        fun same => foreign (congrArg some same)
      have otherName : (params.senderUserId, params.msgId) ≠ name := by
        rintro rfl
        exact otherKey rfl
      refine ⟨processSendMessage_foreign otherKey fresh, ?_, ?_⟩
      · simp only [WatchedRun.next, DeliveryEvent.remembered]
        rw [if_neg fun target => otherKey target.1, Option.none_or]
      · simp only [WatchedRun.next, DeliveryEvent.next, DeliveryState.emit]
        rw [signalsOf_append, DeliveryEvent.origin, if_neg otherName, List.append_nil]
  | groupMembersLoaded stamp result =>
      have otherKey : ∀ pending,
          run.state.service.pendingGroupMessages.lookup result.reqMsgId = some pending →
            pending.requestKey ≠ name.key := by
        intro pending found same
        simp only [DeliveryEvent.key, found, Option.map_some, same] at foreign
        exact foreign rfl
      refine ⟨onGroupMembersForMessage_foreign otherKey, ?_, ?_⟩
      · simp only [WatchedRun.next, DeliveryEvent.remembered]
        cases found : run.state.service.pendingGroupMessages.lookup result.reqMsgId with
        | none => rfl
        | some pending =>
            rw [Option.bind_some, if_neg fun target => otherKey pending found target.1,
              Option.none_or]
      · simp only [WatchedRun.next, DeliveryEvent.next, DeliveryState.emit]
        rw [signalsOf_append]
        cases found : run.state.service.pendingGroupMessages.lookup result.reqMsgId with
        | none =>
            have nothing : (onGroupMembersForMessage run.state.service stamp result).2 = [] := by
              unfold onGroupMembersForMessage
              rw [found]
            rw [DeliveryEvent.outcome, nothing, ite_self, List.append_nil]
        | some pending =>
            have otherName : (pending.senderUserId, pending.clientMsgId) ≠ name := by
              rintro rfl
              exact otherKey pending found (sound.pendingKey _ pending found)
            simp only [DeliveryEvent.origin, found]
            rw [if_neg otherName, List.append_nil]

structure Alike (name : MessageName) (left right : WatchedRun) : Prop where
  soundLeft : left.Sound name.key
  soundRight : right.Sound name.key
  view : SameView name.key left.state.service right.state.service
  last : left.lastOutcome = right.lastOutcome
  signals : signalsOf name left.state.log = signalsOf name right.state.log

/-- An outcome that is dropped in both runs or in none is found alike. -/
theorem Alike.cached {left right : WatchedRun} (alike : Alike name left right) {nowMs : Int}
    (dropped : left.Dropped name.key nowMs ↔ right.Dropped name.key nowMs) :
    (left.state.service.pruneIdempotencyCache nowMs).idempotencyCache.lookup name.key =
      (right.state.service.pruneIdempotencyCache nowMs).idempotencyCache.lookup name.key := by
  have leftLast := fun entry found => alike.soundLeft.cached entry
    (left.state.service.lookup_prune nowMs name.key entry found)
  have rightLast := fun entry found => alike.soundRight.cached entry
    (right.state.service.lookup_prune nowMs name.key entry found)
  unfold Dropped at dropped
  rw [alike.last] at dropped leftLast
  cases leftFound : (left.state.service.pruneIdempotencyCache nowMs).idempotencyCache.lookup
      name.key with
  | none =>
      cases rightFound : (right.state.service.pruneIdempotencyCache nowMs).idempotencyCache.lookup
          name.key with
      | none => rfl
      | some entry =>
          rw [rightLast entry rightFound] at dropped
          cases rightFound.symm.trans (dropped.mp ⟨Option.some_ne_none _, leftFound⟩).2
  | some entry =>
      have last := leftLast entry leftFound
      cases rightFound : (right.state.service.pruneIdempotencyCache nowMs).idempotencyCache.lookup
          name.key with
      | none =>
          rw [last] at dropped
          cases leftFound.symm.trans (dropped.mpr ⟨Option.some_ne_none _, rightFound⟩).2
      | some other => rw [← last, rightLast other rightFound]

/-- An event under the name's own key has the same effect at it in both runs. -/
theorem Alike.own_next {left right : WatchedRun} (alike : Alike name left right)
    {event : DeliveryEvent} (own : event.key left.state.service = some name.key)
    (dropped : ∀ stamp params, event = .processSendMessage stamp params →
      (left.Dropped name.key stamp.prunedAt ↔ right.Dropped name.key stamp.prunedAt)) :
    Alike name (left.next sha256 name.key event) (right.next sha256 name.key event) := by
  have same : event.origin left.state = event.origin right.state ∧
      (event.outcome sha256 left.state.service).2 =
        (event.outcome sha256 right.state.service).2 ∧
      SameView name.key (event.outcome sha256 left.state.service).1
        (event.outcome sha256 right.state.service).1 ∧
      event.remembered sha256 name.key left.state.service =
        event.remembered sha256 name.key right.state.service := by
    cases event with
    | processSendMessage stamp params =>
        have ownKey : requestKeyFor params.senderUserId params.msgId = name.key :=
          Option.some.inj own
        have cached := alike.cached (dropped stamp params rfl)
        obtain ⟨signals, view⟩ :=
          @processSendMessage_congr sha256 _ _ _ stamp params ownKey alike.view cached
        refine ⟨rfl, signals, view, ?_⟩
        rw [← ownKey] at cached
        have accepts : AcceptsPrivate sha256
            (left.state.service.pruneIdempotencyCache stamp.prunedAt) params ↔
            AcceptsPrivate sha256
              (right.state.service.pruneIdempotencyCache stamp.prunedAt) params := by
          unfold AcceptsPrivate
          rw [cached]
        simp only [DeliveryEvent.remembered, accepts]
    | groupMembersLoaded stamp result =>
        obtain ⟨pending, found, ownKey⟩ := Option.map_eq_some_iff.mp own
        have found' := (alike.view.pending result.reqMsgId pending ownKey).mp found
        obtain ⟨signals, view⟩ :=
          @onGroupMembersForMessage_congr _ stamp result _ _ pending alike.view found ownKey
        refine ⟨?_, signals, view, ?_⟩
        · simp only [DeliveryEvent.origin, found, found']
        · simp only [DeliveryEvent.remembered, found, found']
  obtain ⟨origin, signals, view, remembered⟩ := same
  refine ⟨alike.soundLeft.next event, alike.soundRight.next event, view, ?_, ?_⟩
  · simp only [WatchedRun.next]
    rw [remembered, alike.last]
  · simp only [WatchedRun.next, DeliveryEvent.next, DeliveryState.emit]
    rw [signalsOf_append, signalsOf_append, origin, signals, alike.signals]

/-- An event not noticed at the name, processed by the first run alone. -/
theorem Alike.unnoticed_left {left right after : WatchedRun} (alike : Alike name left right)
    (sound : after.Sound name.key) (unnoticed : Unnoticed name left after) :
    Alike name after right :=
  ⟨sound, alike.soundRight, unnoticed.view.symm.trans alike.view,
    unnoticed.last.trans alike.last, unnoticed.signals.trans alike.signals⟩

theorem Alike.symm {left right : WatchedRun} (alike : Alike name left right) :
    Alike name right left :=
  ⟨alike.soundRight, alike.soundLeft, alike.view.symm, alike.last.symm, alike.signals.symm⟩

theorem Alike.foreign_next {left right : WatchedRun} (alike : Alike name left right)
    {event : DeliveryEvent} (freshLeft : event.freshToken left.state.service)
    (freshRight : event.freshToken right.state.service)
    (foreign : event.key left.state.service ≠ some name.key) :
    Alike name (left.next sha256 name.key event) (right.next sha256 name.key event) := by
  have foreignRight : event.key right.state.service ≠ some name.key := by
    intro own
    refine foreign ?_
    cases event with
    | processSendMessage stamp params => exact own
    | groupMembersLoaded stamp result =>
        obtain ⟨pending, found, ownKey⟩ := Option.map_eq_some_iff.mp own
        exact Option.map_eq_some_iff.mpr
          ⟨pending, (alike.view.pending _ pending ownKey).mpr found, ownKey⟩
  have leftDone : Alike name (left.next sha256 name.key event) right :=
    alike.unnoticed_left (alike.soundLeft.next event)
      (alike.soundLeft.unnoticed freshLeft foreign)
  exact (leftDone.symm.unnoticed_left (alike.soundRight.next event)
    (alike.soundRight.unnoticed freshRight foreignRight)).symm

end WatchedRun

/-! ## Whole runs -/

def RequestOf (name : MessageName) : DeliveryEvent → Prop
  | .processSendMessage _ params => (params.senderUserId, params.msgId) = name
  | .groupMembersLoaded _ _ => False

section Runs
variable (sha256 : List Nat → String) (name other : MessageName)

/-- Runs of the service beside runs without some requests of the other name, in
which no outcome of the watched name is dropped from one cache only. -/
abbrev twinSystem : System (Twin WatchedRun) (TwinEvent DeliveryEvent) :=
  ((watchedSystem sha256 name.key).twin (RequestOf other)).restrict (DroppedAlike name.key)

theorem alike_of_reachable (otherKey : other.key ≠ name.key) :
    ∀ runs, (twinSystem sha256 name other).Reachable runs →
      WatchedRun.Alike name runs.full runs.skipping := by
  apply System.Reachable.twins_agree
  · have sound : WatchedRun.Sound name.key ⟨DeliveryState.empty, none⟩ := by
      refine ⟨?_, ?_⟩
      · intro entry found
        cases found
      · intro token pending found
        cases found
    exact ⟨sound, sound, SameView.refl _, rfl, rfl⟩
  · intro runs event _ alike freshLeft freshRight droppedAlike
    by_cases own : event.key runs.full.state.service = some name.key
    · refine alike.own_next own ?_
      rintro stamp params rfl
      exact droppedAlike stamp params rfl (Option.some.inj own)
    · exact alike.foreign_next freshLeft freshRight own
  · intro runs event _ alike fresh isRequest
    have foreign : event.key runs.full.state.service ≠ some name.key := by
      cases event with
      | processSendMessage stamp params =>
          intro own
          have isOther : (params.senderUserId, params.msgId) = other := isRequest
          rw [← isOther] at otherKey
          exact otherKey (Option.some.inj own)
      | groupMembersLoaded stamp result => cases isRequest
    exact alike.unnoticed_left (alike.soundLeft.next event)
      (alike.soundLeft.unnoticed fresh foreign)

def groupParams (name : MessageName) : SendMessageParams :=
  { msgId := name.2, sessionType := "group", sessionId := "grp_1", content := some "hi"
    senderUserId := name.1, senderNickname := "", recipientUserId := "", senderSession := "c1" }

def groupRequest (serverId reqToken : String) (name : MessageName) : DeliveryEvent :=
  .processSendMessage ⟨1000, serverId, "2026-01-01T00:00:00.000Z", 1000, 1000, reqToken⟩
    (groupParams name)

/-- A group message whose outcome is not cached waits for its members, or is
dropped while its key is in flight. -/
theorem outcome_groupRequest (service : MessageDeliveryService) (serverId reqToken : String)
    (uncached : (service.pruneIdempotencyCache 1000).idempotencyCache.lookup name.key = none) :
    (groupRequest serverId reqToken name).outcome sha256 service =
      if name.key ∈ service.inFlightGroupMsgIds then (service.pruneIdempotencyCache 1000, [])
      else
        ({ service.pruneIdempotencyCache 1000 with
            inFlightGroupMsgIds := insert name.key service.inFlightGroupMsgIds
            pendingGroupMessages := service.pendingGroupMessages.insert reqToken
              ⟨receiveMessageFor "group" (groupParams name) serverId "2026-01-01T00:00:00.000Z",
                name.key, name.1, "grp_1", serverId, name.2, "c1"⟩ },
          [.requestLoadGroupMembers ⟨"grp_1", reqToken⟩]) := by
  have fits : contentTooLarge (some "hi") = false := by decide
  have uncached' : (service.pruneIdempotencyCache 1000).idempotencyCache.lookup
      (requestKeyFor name.1 name.2) = none := uncached
  simp only [groupRequest, groupParams, DeliveryEvent.outcome, processSendMessage, uncached', fits,
    sessionIdMismatch, MessageName.key]
  by_cases waits : requestKeyFor name.1 name.2 ∈ service.inFlightGroupMsgIds
  · simp [waits]
  · simp [waits]

theorem remembered_groupRequest (key : String) (service : MessageDeliveryService)
    (serverId reqToken : String) :
    (groupRequest serverId reqToken name).remembered sha256 key service = none := by
  simp [groupRequest, groupParams, DeliveryEvent.remembered, AcceptsPrivate]

def overlap : List (TwinEvent DeliveryEvent) :=
  [⟨groupRequest "srv_1" "grpmsg_1" other, true⟩, ⟨groupRequest "srv_2" "grpmsg_2" name, false⟩]

def overlapped : Twin WatchedRun :=
  (overlap name other).foldl (twinSystem sha256 name other).next
    (twinSystem sha256 name other).initial

theorem overlapped_reachable :
    (twinSystem sha256 name other).Reachable (overlapped sha256 name other) := by
  refine System.Reachable.run (overlap name other) _ System.Reachable.initial ?_
  have first := outcome_groupRequest sha256 other MessageDeliveryService.empty "srv_1" "grpmsg_1"
    rfl
  refine ⟨⟨⟨rfl, rfl, fun _ => rfl⟩, ?_⟩, ⟨⟨?_, rfl, fun skipped => by cases skipped⟩, ?_⟩, trivial⟩
  · intro stamp params same
    cases same
  · show (((groupRequest "srv_1" "grpmsg_1" other).outcome sha256
      MessageDeliveryService.empty).1.pendingGroupMessages).lookup "grpmsg_2" = none
    rw [first]
    rfl
  · intro stamp params _ _
    refine iff_of_false ?_ ?_
    · have noOutcome : ((groupRequest "srv_1" "grpmsg_1" other).remembered sha256 name.key
          MessageDeliveryService.empty).or none = none := by
        rw [remembered_groupRequest, Option.or_none]
      rintro ⟨hasOutcome, _⟩
      exact hasOutcome noOutcome
    · rintro ⟨hasOutcome, _⟩
      exact hasOutcome rfl

/-- Under one key the second message is dropped, and without the first it is not. -/
theorem overlapped_signals (differ : name ≠ other) (sameKey : name.key = other.key) :
    signalsOf name (overlapped sha256 name other).full.state.log = [] ∧
    signalsOf name (overlapped sha256 name other).skipping.state.log =
      [.requestLoadGroupMembers ⟨"grp_1", "grpmsg_2"⟩] := by
  have first := outcome_groupRequest sha256 other MessageDeliveryService.empty "srv_1" "grpmsg_1"
    rfl
  have alone := outcome_groupRequest sha256 name MessageDeliveryService.empty "srv_2" "grpmsg_2"
    rfl
  have notWaiting : ∀ key : String, key ∉ MessageDeliveryService.empty.inFlightGroupMsgIds :=
    fun key member => by cases member
  rw [if_neg (notWaiting _)] at first alone
  have second := outcome_groupRequest sha256 name
    ((groupRequest "srv_1" "grpmsg_1" other).outcome sha256 MessageDeliveryService.empty).1
    "srv_2" "grpmsg_2" (by rw [first]; rfl)
  have inFlight : name.key ∈ ((groupRequest "srv_1" "grpmsg_1" other).outcome sha256
      MessageDeliveryService.empty).1.inFlightGroupMsgIds := by
    rw [first, sameKey]
    exact Finset.mem_insert_self _ _
  rw [if_pos inFlight] at second
  refine ⟨?_, ?_⟩
  · show signalsOf name
      (((DeliveryState.empty.emit other _).emit name
        ((groupRequest "srv_2" "grpmsg_2" name).outcome sha256 _)).log) = []
    simp only [DeliveryState.emit]
    rw [signalsOf_append, signalsOf_append, if_neg fun same => differ same.symm, if_pos rfl]
    show signalsOf name [] ++ [] ++ ((groupRequest "srv_2" "grpmsg_2" name).outcome sha256
      ((groupRequest "srv_1" "grpmsg_1" other).outcome sha256
        MessageDeliveryService.empty).1).2 = []
    rw [second]
    rfl
  · show signalsOf name ((DeliveryState.empty.emit name
        ((groupRequest "srv_2" "grpmsg_2" name).outcome sha256 _)).log) = _
    simp only [DeliveryState.emit]
    rw [signalsOf_append, if_pos rfl]
    show signalsOf name [] ++ ((groupRequest "srv_2" "grpmsg_2" name).outcome sha256
      MessageDeliveryService.empty).2 = _
    rw [alone]
    rfl

/-- What happens to the requests of a name does not depend on those of another
one exactly when the two names do not read one key. -/
theorem requests_independent_iff (differ : name ≠ other) :
    (∀ runs, (twinSystem sha256 name other).Reachable runs →
      signalsOf name runs.full.state.log = signalsOf name runs.skipping.state.log) ↔
      ¬ SharesKey name other := by
  have keys : name.key = other.key ↔ SharesKey name other := by
    rw [key_eq_iff]
    exact or_iff_right differ
  constructor
  · intro independent shares
    have signals := overlapped_signals sha256 name other differ (keys.mpr shares)
    have same := independent _ (overlapped_reachable sha256 name other)
    rw [signals.1, signals.2] at same
    cases same
  · intro clear runs reached
    have otherKey : other.key ≠ name.key := fun same => clear (keys.mp same.symm)
    exact (alike_of_reachable sha256 name other otherKey runs reached).signals

end Runs

theorem requests_independent_iff_alice :
    ¬ SharesKey ("alice", "m1") ("bob", "m1") ∧
    ∀ runs, (twinSystem aliceBobDigest ("alice", "m1") ("bob", "m1")).Reachable runs →
      signalsOf ("alice", "m1") runs.full.state.log =
        signalsOf ("alice", "m1") runs.skipping.state.log := by
  have differ : (("alice", "m1") : MessageName) ≠ ("bob", "m1") := by decide
  have clear : ¬ SharesKey ("alice", "m1") ("bob", "m1") := by
    intro shares
    have sameKey := (key_eq_iff ("alice", "m1") ("bob", "m1")).mpr (Or.inr shares)
    revert sameKey
    decide
  exact ⟨clear, (requests_independent_iff aliceBobDigest _ _ differ).mpr clear⟩

/-- The user `x:y` sends a group message `z`, which is acknowledged; then the user
`x` sends one with message id `y:z`, or sends it alone. -/
def answeredByOther : List (TwinEvent DeliveryEvent) :=
  [⟨groupRequest "srv_1" "grpmsg_1" ("x:y", "z"), true⟩,
    ⟨.groupMembersLoaded ⟨1000, 1000⟩
      { groupId := "grp_1", groupName := "G", members := ["x:y", "bob"], reqMsgId := "grpmsg_1" },
      false⟩,
    ⟨groupRequest "srv_2" "grpmsg_2" ("x", "y:z"), false⟩]

def answered : Twin WatchedRun :=
  answeredByOther.foldl (twinSystem aliceBobDigest ("x", "y:z") ("x:y", "z")).next
    (twinSystem aliceBobDigest ("x", "y:z") ("x:y", "z")).initial

/-- The message of `x` is acknowledged with the server id of the message of
`x:y`, neither stored nor delivered. -/
theorem request_answered_by_other :
    ¬ ∀ name other : MessageName, name ≠ other →
      ∀ runs, (twinSystem aliceBobDigest name other).Reachable runs →
        signalsOf name runs.full.state.log = signalsOf name runs.skipping.state.log := by
  intro independent
  have reached : (twinSystem aliceBobDigest ("x", "y:z") ("x:y", "z")).Reachable answered := by
    refine System.Reachable.run answeredByOther _ System.Reachable.initial ?_
    refine ⟨⟨⟨rfl, rfl, fun _ => rfl⟩, ?_⟩,
      ⟨⟨trivial, trivial, fun skipped => by cases skipped⟩, ?_⟩,
      ⟨⟨rfl, rfl, fun skipped => by cases skipped⟩, ?_⟩, trivial⟩
    · intro stamp params same
      cases same
    · intro stamp params same
      cases same
    · intro stamp params same _
      cases same
      refine iff_of_false ?_ ?_
      · rintro ⟨_, dropped⟩
        revert dropped
        decide
      · rintro ⟨hasOutcome, _⟩
        exact hasOutcome rfl
  have differ : (("x", "y:z") : MessageName) ≠ ("x:y", "z") := by decide
  have same := independent _ _ differ answered reached
  have acknowledged : signalsOf ("x", "y:z") answered.full.state.log =
      [.ackReady "c1" "y:z" 200 "" "srv_1"] := by rfl
  rw [acknowledged] at same
  cases same

end ShirohaChat
