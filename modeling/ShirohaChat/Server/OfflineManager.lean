import ShirohaChat.Server.SessionManager

/-!
# The offline manager

`enqueueIfOffline` routes a packet or asks the store to keep it; a load result
is delivered row by row, and a delivered `receive_message` row is remembered
under its message id until the recipient acknowledges it.  The delivery loop is
written over any router, of which `routeToUser` is one.
-/

set_option autoImplicit false

namespace ShirohaChat

structure OfflineEnqueueRequest (Text : Type) where
  recipientUserId : String
  packetJson : Text

structure OfflineLoadRequest where
  userId : String

structure OfflineLoadResult (Text : Type) where
  userId : String
  packets : List (Int × Text)

structure DeliveryMarkRequest where
  ids : List Int
  deriving DecidableEq

section Enqueue
variable (Text : Type) [JsonDocument Text]

/-- What reaches the wire, and the request `requestQueueOffline` carries. -/
def enqueueIfOffline (manager : SessionManager) (recipientUserId : String) (packet : Packet) :
    List (SocketWrite Text) × Option (OfflineEnqueueRequest Text) :=
  match routeToUser Text manager recipientUserId packet with
  | (true, writes) => (writes, none)
  | (false, writes) => (writes, some ⟨recipientUserId, packet.encode⟩)

end Enqueue

/-- `recipientUserId ↦ (serverMsgId ↦ offline_queue.id)`. -/
structure OfflineManager where
  pendingAckIds : FiniteMap String (FiniteMap String Int)

namespace OfflineManager

def empty : OfflineManager := ⟨∅⟩

def pendingId (offline : OfflineManager) (userId msgId : String) : Option Int :=
  (offline.pendingAckIds.lookup userId).bind fun byMsgId => AList.lookup msgId byMsgId

def handleMessageReceivedAck (offline : OfflineManager) (recipientUserId serverMsgId : String) :
    OfflineManager × Option DeliveryMarkRequest :=
  if recipientUserId = "" ∨ serverMsgId = "" then (offline, none)
  else
    match offline.pendingAckIds.lookup recipientUserId with
    | none => (offline, none)
    | some byMsgId =>
        match AList.lookup serverMsgId byMsgId with
        | none => (offline, none)
        | some offlineId =>
            let remaining := AList.erase serverMsgId byMsgId
            let pendingAckIds :=
              if remaining.entries.isEmpty then offline.pendingAckIds.erase recipientUserId
              else offline.pendingAckIds.insert recipientUserId remaining
            (⟨pendingAckIds⟩, some ⟨[offlineId]⟩)

def onUserDisconnected (offline : OfflineManager) (userId : String) : OfflineManager :=
  if userId = "" then offline else ⟨offline.pendingAckIds.erase userId⟩

theorem pendingId_empty (userId msgId : String) : empty.pendingId userId msgId = none := rfl

theorem pendingId_insert (offline : OfflineManager) (userId other msgId : String)
    (byMsgId : FiniteMap String Int) :
    pendingId ⟨offline.pendingAckIds.insert userId byMsgId⟩ other msgId =
      if other = userId then AList.lookup msgId byMsgId else offline.pendingId other msgId := by
  unfold pendingId
  rw [FiniteMap.lookup_insert]
  by_cases same : other = userId
  · rw [if_pos same, if_pos same]
    rfl
  · rw [if_neg same, if_neg same]

theorem pendingId_erase (offline : OfflineManager) (userId other msgId : String) :
    pendingId ⟨offline.pendingAckIds.erase userId⟩ other msgId =
      if other = userId then none else offline.pendingId other msgId := by
  unfold pendingId
  rw [FiniteMap.lookup_erase]
  by_cases same : other = userId
  · rw [if_pos same, if_pos same]
    rfl
  · rw [if_neg same, if_neg same]

/-- The user's map as `operator[]` gives it. -/
def pendingOf (offline : OfflineManager) (userId : String) : FiniteMap String Int :=
  (offline.pendingAckIds.lookup userId).getD ∅

theorem lookup_pendingOf (offline : OfflineManager) (userId msgId : String) :
    AList.lookup msgId (offline.pendingOf userId) = offline.pendingId userId msgId := by
  unfold pendingOf pendingId
  cases offline.pendingAckIds.lookup userId <;> rfl

theorem mem_pendingOf (offline : OfflineManager) (userId msgId : String) :
    msgId ∈ offline.pendingOf userId ↔ offline.pendingId userId msgId ≠ none := by
  rw [FiniteMap.mem_iff, lookup_pendingOf, Option.ne_none_iff_exists']

theorem pendingId_create (offline : OfflineManager) (userId other msgId : String) :
    pendingId ⟨offline.pendingAckIds.insert userId (offline.pendingOf userId)⟩ other msgId =
      offline.pendingId other msgId := by
  rw [pendingId_insert, lookup_pendingOf]
  by_cases same : other = userId
  · rw [if_pos same, same]
  · rw [if_neg same]

theorem pendingId_remember (offline : OfflineManager) (userId serverMsgId : String) (id : Int)
    (other msgId : String) :
    pendingId ⟨offline.pendingAckIds.insert userId
        (AList.insert serverMsgId id (offline.pendingOf userId))⟩ other msgId =
      if other = userId ∧ msgId = serverMsgId then some id
      else offline.pendingId other msgId := by
  rw [pendingId_insert, FiniteMap.lookup_insert, lookup_pendingOf]
  by_cases same : other = userId
  · subst same
    simp
  · simp [same]

theorem lookup_of_isEmpty (byMsgId : FiniteMap String Int)
    (isEmpty : byMsgId.entries.isEmpty = true) (msgId : String) :
    AList.lookup msgId byMsgId = none := by
  obtain ⟨entries, nodup⟩ := byMsgId
  cases entries with
  | nil => rfl
  | cons entry rest => cases isEmpty

theorem pendingId_forget {offline : OfflineManager} {userId : String}
    {byMsgId : FiniteMap String Int}
    (byUser : offline.pendingAckIds.lookup userId = some byMsgId)
    (forgotten other msgId : String) :
    pendingId ⟨if (AList.erase forgotten byMsgId).entries.isEmpty then
        offline.pendingAckIds.erase userId
      else offline.pendingAckIds.insert userId (AList.erase forgotten byMsgId)⟩ other msgId =
      if other = userId ∧ msgId = forgotten then none else offline.pendingId other msgId := by
  have remaining : ∀ target, AList.lookup target (AList.erase forgotten byMsgId) =
      if target = forgotten then none else AList.lookup target byMsgId :=
    FiniteMap.lookup_erase byMsgId forgotten
  have ofUser : offline.pendingId userId msgId = AList.lookup msgId byMsgId := by
    simp [pendingId, byUser]
  have after : pendingId ⟨if (AList.erase forgotten byMsgId).entries.isEmpty then
        offline.pendingAckIds.erase userId
      else offline.pendingAckIds.insert userId (AList.erase forgotten byMsgId)⟩ other msgId =
      if other = userId then (if msgId = forgotten then none else AList.lookup msgId byMsgId)
      else offline.pendingId other msgId := by
    split
    · rename_i isEmpty
      rw [pendingId_erase, ← remaining, lookup_of_isEmpty _ isEmpty]
    · rw [pendingId_insert, remaining]
  rw [after]
  by_cases sameUser : other = userId
  · subst sameUser
    by_cases sameMsg : msgId = forgotten
    · simp [sameMsg]
    · simp [sameMsg, ofUser]
  · simp [sameUser]

theorem pendingId_handleMessageReceivedAck (offline : OfflineManager)
    (userId serverMsgId other msgId : String) :
    (offline.handleMessageReceivedAck userId serverMsgId).1.pendingId other msgId =
      if other = userId ∧ msgId = serverMsgId ∧ userId ≠ "" ∧ serverMsgId ≠ "" then none
      else offline.pendingId other msgId := by
  unfold handleMessageReceivedAck
  by_cases blank : userId = "" ∨ serverMsgId = ""
  · rw [if_pos blank, if_neg]
    rintro ⟨_, _, userNonempty, msgNonempty⟩
    exact blank.elim userNonempty msgNonempty
  · rw [if_neg blank]
    have named : userId ≠ "" ∧ serverMsgId ≠ "" := not_or.mp blank
    have unknown : offline.pendingId userId serverMsgId = none →
        offline.pendingId other msgId =
          if other = userId ∧ msgId = serverMsgId ∧ userId ≠ "" ∧ serverMsgId ≠ "" then none
          else offline.pendingId other msgId := by
      intro absent
      split
      · rename_i target
        rw [target.1, target.2.1, absent]
      · rfl
    cases byUser : offline.pendingAckIds.lookup userId with
    | none => exact unknown (by simp [pendingId, byUser])
    | some byMsgId =>
        cases byMsg : AList.lookup serverMsgId byMsgId with
        | none =>
            simp only [byMsg]
            exact unknown (by simp [pendingId, byUser, byMsg])
        | some offlineId =>
            simp only [byMsg, and_true, named, ne_eq, not_false_eq_true]
            exact pendingId_forget byUser serverMsgId other msgId

theorem mark_handleMessageReceivedAck (offline : OfflineManager)
    (userId serverMsgId : String) (request : DeliveryMarkRequest)
    (marked : (offline.handleMessageReceivedAck userId serverMsgId).2 = some request) :
    userId ≠ "" ∧ serverMsgId ≠ "" ∧
      ∃ offlineId, offline.pendingId userId serverMsgId = some offlineId ∧
        request.ids = [offlineId] := by
  unfold handleMessageReceivedAck at marked
  by_cases blank : userId = "" ∨ serverMsgId = ""
  · rw [if_pos blank] at marked
    cases marked
  · rw [if_neg blank] at marked
    obtain ⟨userNonempty, msgNonempty⟩ := not_or.mp blank
    cases byUser : offline.pendingAckIds.lookup userId with
    | none =>
        rw [byUser] at marked
        cases marked
    | some byMsgId =>
        rw [byUser] at marked
        cases byMsg : AList.lookup serverMsgId byMsgId with
        | none =>
            simp only [byMsg] at marked
            cases marked
        | some offlineId =>
            simp only [byMsg] at marked
            cases marked
            exact ⟨userNonempty, msgNonempty, offlineId, by simp [pendingId, byUser, byMsg], rfl⟩

theorem handleMessageReceivedAck_marks (offline : OfflineManager)
    {userId serverMsgId : String} {offlineId : Int} (userNonempty : userId ≠ "")
    (msgNonempty : serverMsgId ≠ "")
    (remembered : offline.pendingId userId serverMsgId = some offlineId) :
    (offline.handleMessageReceivedAck userId serverMsgId).2 = some ⟨[offlineId]⟩ := by
  obtain ⟨byMsgId, byUser, byMsg⟩ := Option.bind_eq_some_iff.mp remembered
  unfold handleMessageReceivedAck
  rw [if_neg (not_or.mpr ⟨userNonempty, msgNonempty⟩), byUser]
  simp only [byMsg]

theorem pendingId_onUserDisconnected (offline : OfflineManager) (userId other msgId : String) :
    (offline.onUserDisconnected userId).pendingId other msgId =
      if other = userId ∧ userId ≠ "" then none else offline.pendingId other msgId := by
  unfold onUserDisconnected
  by_cases blank : userId = ""
  · rw [if_pos blank, if_neg fun target => target.2 blank]
  · rw [if_neg blank, pendingId_erase]
    simp [blank]

end OfflineManager

/-! ## Delivery of a load result -/

/-- The locals of the loop in `onOfflineLoaded`, with the router it calls. -/
structure DeliveryLoop (Router : Type) where
  offline : OfflineManager
  removableIds : List Int
  router : Router

namespace DeliveryLoop

variable {Router : Type}

def remove (loop : DeliveryLoop Router) (id : Int) : DeliveryLoop Router :=
  { loop with removableIds := loop.removableIds ++ [id] }

end DeliveryLoop

section Delivery
variable {Text Router : Type} [JsonDocument Text]
variable (route : Router → Packet → Bool × Router)

/-- One round of the loop; the flag says whether the loop goes on. -/
def deliverRow (userId : String) (loop : DeliveryLoop Router) (row : Int × Text) :
    DeliveryLoop Router × Bool :=
  match decode row.2 with
  | .error _ => (loop.remove row.1, true)
  | .ok packet =>
      if packet.msgId = "" then (loop.remove row.1, true)
      else if packet.cmd = .receiveMessage then
        -- operator[] creates the user's map when it is missing
        let byMsgId := loop.offline.pendingOf userId
        let created : DeliveryLoop Router :=
          { loop with offline := ⟨loop.offline.pendingAckIds.insert userId byMsgId⟩ }
        if packet.msgId ∈ byMsgId then (created.remove row.1, true)
        else
          match route loop.router packet with
          | (true, router) =>
              ({ created with
                  offline := ⟨loop.offline.pendingAckIds.insert userId
                    (AList.insert packet.msgId row.1 byMsgId)⟩
                  router := router }, true)
          | (false, router) => ({ created with router := router }, false)
      else
        match route loop.router packet with
        | (true, router) => ({ loop with router := router }.remove row.1, true)
        | (false, router) => ({ loop with router := router }, false)

def deliverRows (userId : String) : List (Int × Text) → DeliveryLoop Router →
    DeliveryLoop Router
  | [], loop => loop
  | row :: rest, loop =>
      match deliverRow route userId loop row with
      | (after, true) => deliverRows userId rest after
      | (after, false) => after

/-- `OfflineManager::onOfflineLoaded`: the new pending map, the request
`requestMarkDelivered` carries, and the router after its calls. -/
def onOfflineLoaded (offline : OfflineManager) (router : Router)
    (result : OfflineLoadResult Text) :
    OfflineManager × Option DeliveryMarkRequest × Router :=
  if result.packets.isEmpty then (offline, none, router)
  else
    let loop := deliverRows route result.userId result.packets ⟨offline, [], router⟩
    (loop.offline, if loop.removableIds.isEmpty then none else some ⟨loop.removableIds⟩,
      loop.router)

end Delivery

/-- `routeToUser` as the router of a load result: it appends to what has gone
to the wire. -/
def wireRouter {Text : Type} [JsonDocument Text] (manager : SessionManager) (userId : String)
    (wire : List (SocketWrite Text)) (packet : Packet) : Bool × List (SocketWrite Text) :=
  ((routeToUser Text manager userId packet).1,
    wire ++ (routeToUser Text manager userId packet).2)

end ShirohaChat
