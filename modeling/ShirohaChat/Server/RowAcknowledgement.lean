import ShirohaChat.Server.OfflineRuns
import ShirohaChat.Server.RecordedDelivery

/-!
# Acknowledged rows are deleted

The offline server with a record of which rows went to which connections, kept
as long as the connection is the user's, and of which of them that connection
acknowledged.  A recorded row is remembered in the pending map until it is
deleted; but the map is kept by user, and the end of any connection of the user
wipes it for all his connections.
-/

set_option autoImplicit false

namespace ShirohaChat

open Transition

structure RoutedRow where
  userId : String
  msgId : String
  connectionId : String
  rowId : Int

structure RowRecord (Text : Type) where
  server : OfflineServer Text
  live : List RoutedRow := []
  acknowledged : List Int := []

def SessionManager.belongsTo (manager : SessionManager) (connectionId userId : String) : Bool :=
  (manager.findByConnectionId connectionId).any fun session =>
    session.isAuthenticated ∧ session.userId = userId

section Rows
variable {Text : Type} [JsonDocument Text]

def routedRows (manager : SessionManager) (offline : OfflineManager)
    (result : OfflineLoadResult Text) : List RoutedRow :=
  match manager.findByUserId result.userId with
  | none => []
  | some session =>
      let routedIds := (routedBy manager offline result).map Packet.msgId
      result.packets.filterMap fun row =>
        (receiveId row.2).bind fun msgId =>
          if msgId ∈ routedIds then some ⟨result.userId, msgId, session.connectionId, row.1⟩
          else none

namespace RowRecord

def recordRouted (record : RowRecord Text) : OfflineEvent → List RoutedRow
  | .offlineLoaded =>
      match record.server.toMain with
      | [] => record.live
      | result :: _ =>
          record.live ++ routedRows record.server.sessions record.server.offline result
  | _ => record.live

def recordAcknowledged (record : RowRecord Text) : OfflineEvent → List Int
  | .messageReceivedAck connectionId msgId =>
      record.acknowledged ++ (record.live.filter fun row =>
        row.connectionId = connectionId ∧ row.msgId = msgId).map RoutedRow.rowId
  | _ => record.acknowledged

def next (record : RowRecord Text) (event : OfflineEvent) : RowRecord Text :=
  { server := event.next record.server
    live := (record.recordRouted event).filter fun row =>
      (event.next record.server).sessions.belongsTo row.connectionId row.userId
    acknowledged := record.recordAcknowledged event }

/-- The row is deleted, or its delete is on its way. -/
def Settled (record : RowRecord Text) (rowId : Int) : Prop :=
  (∀ row ∈ record.server.queue.rows, row.id ≠ rowId) ∨
    ∃ request, OfflineStoreCall.markOfflineDelivered request ∈ record.server.toStore ∧
      rowId ∈ request.ids

/-- When a connection of a user ends, no row that went to another connection of
his is unsettled; and deletes succeed. -/
def Undisturbed (record : RowRecord Text) : OfflineEvent → Prop
  | .session (.disconnected connectionId) =>
      ∀ session, record.server.sessions.findByConnectionId connectionId = some session →
        ∀ row ∈ record.live, row.userId = session.userId → row.connectionId ≠ connectionId →
          record.Settled row.rowId
  | .storeStep ok => ∀ request rest,
      record.server.toStore = .markOfflineDelivered request :: rest → ok = true
  | _ => True

end RowRecord

def rowRecordSystem (Text : Type) [JsonDocument Text] :
    System (RowRecord Text) OfflineEvent where
  initial := ⟨OfflineServer.empty, [], []⟩
  enabled record event := event.enabled record.server
  next := RowRecord.next

/-! ## What a load leaves behind -/

section Delivery
variable {Router : Type} {route : Router → Packet → Bool × Router}

/-- With a router that finds the user a round goes on, and a `receive_message`
row is then pending under its own id or removed. -/
theorem deliverRow_settles (found : ∀ router packet, (route router packet).1 = true)
    (userId : String) (loop : DeliveryLoop Router) (row : Int × Text) :
    (deliverRow route userId loop row).2 = true ∧
    ∀ msgId, receiveId row.2 = some msgId →
      (msgId ≠ "" ∧
        (deliverRow route userId loop row).1.offline.pendingId userId msgId = some row.1) ∨
      row.1 ∈ (deliverRow route userId loop row).1.removableIds := by
  have round := deliverRow_round route userId loop row
  generalize deliverRow route userId loop row = result at round
  have removed : row.1 ∈ loop.removableIds ++ [row.1] := by simp
  cases round with
  | unreadable decoded => exact ⟨rfl, fun _ _ => Or.inr removed⟩
  | unnamed decoded unnamed => exact ⟨rfl, fun _ _ => Or.inr removed⟩
  | duplicate decoded named requiresAck known pending => exact ⟨rfl, fun _ _ => Or.inr removed⟩
  | remembered decoded named requiresAck unknown routed pending =>
      refine ⟨rfl, ?_⟩
      intro msgId isReceive
      rw [receiveId_of_decoded decoded, if_pos requiresAck, Option.some.injEq] at isReceive
      subst isReceive
      exact Or.inl ⟨named, (pending _ _).trans (if_pos ⟨rfl, rfl⟩)⟩
  | passed decoded named other routed => exact ⟨rfl, fun _ _ => Or.inr removed⟩
  | refused decoded named unknown refused pending =>
      cases refused.symm.trans (found _ _)

/-- Later rounds keep what is pending and what is to be removed. -/
theorem deliverRow_keeps (userId : String) (loop : DeliveryLoop Router) (row : Int × Text) :
    (∀ rowId ∈ loop.removableIds, rowId ∈ (deliverRow route userId loop row).1.removableIds) ∧
    ∀ other msgId rowId, loop.offline.pendingId other msgId = some rowId →
      (deliverRow route userId loop row).1.offline.pendingId other msgId = some rowId := by
  have spec := deliverRow_spec route userId loop row
  refine ⟨?_, ?_⟩
  · intro rowId member
    rcases spec.removable with same | ⟨added, _⟩
    · exact same ▸ member
    · rw [added]
      exact List.mem_append_left _ member
  · intro other msgId rowId isPending
    rcases spec.pending other msgId with same | ⟨rfl, _, none, _⟩
    · exact same.trans isPending
    · cases none.symm.trans isPending

theorem deliverRows_keeps (userId : String) (rows : List (Int × Text)) :
    ∀ loop : DeliveryLoop Router,
      (∀ rowId ∈ loop.removableIds, rowId ∈ (deliverRows route userId rows loop).removableIds) ∧
      ∀ other msgId rowId, loop.offline.pendingId other msgId = some rowId →
        (deliverRows route userId rows loop).offline.pendingId other msgId = some rowId := by
  induction rows with
  | nil => exact fun loop => ⟨fun _ member => member, fun _ _ _ isPending => isPending⟩
  | cons row rest ih =>
      intro loop
      obtain ⟨removable, pending⟩ := deliverRow_keeps userId loop row
      obtain ⟨laterRemovable, laterPending⟩ := ih (deliverRow route userId loop row).1
      rw [deliverRows_cons]
      split
      · exact ⟨fun rowId member => laterRemovable rowId (removable rowId member),
          fun other msgId rowId isPending =>
            laterPending other msgId rowId (pending other msgId rowId isPending)⟩
      · exact ⟨removable, pending⟩

theorem deliverRows_settles (found : ∀ router packet, (route router packet).1 = true)
    (userId : String) (rows : List (Int × Text)) :
    ∀ loop : DeliveryLoop Router, ∀ row ∈ rows, ∀ msgId, receiveId row.2 = some msgId →
      (msgId ≠ "" ∧
        (deliverRows route userId rows loop).offline.pendingId userId msgId = some row.1) ∨
      row.1 ∈ (deliverRows route userId rows loop).removableIds := by
  induction rows with
  | nil =>
      intro loop row member
      cases member
  | cons first rest ih =>
      intro loop row member msgId isReceive
      obtain ⟨goesOn, settles⟩ := deliverRow_settles found userId loop first
      obtain ⟨removable, pending⟩ := deliverRows_keeps userId rest
        (deliverRow route userId loop first).1
      rw [deliverRows_cons, if_pos goesOn]
      rcases List.mem_cons.mp member with rfl | inRest
      · rcases settles msgId isReceive with ⟨named, isPending⟩ | removed
        · exact Or.inl ⟨named, pending userId msgId row.1 isPending⟩
        · exact Or.inr (removable row.1 removed)
      · exact ih _ row inRest msgId isReceive

theorem onOfflineLoaded_settles (found : ∀ router packet, (route router packet).1 = true)
    (offline : OfflineManager) (router : Router) (result : OfflineLoadResult Text)
    {row : Int × Text} (member : row ∈ result.packets) {msgId : String}
    (isReceive : receiveId row.2 = some msgId) :
    (msgId ≠ "" ∧
      (onOfflineLoaded route offline router result).1.pendingId result.userId msgId =
        some row.1) ∨
    ∃ request, (onOfflineLoaded route offline router result).2.1 = some request ∧
      row.1 ∈ request.ids := by
  have settles := deliverRows_settles found result.userId result.packets ⟨offline, [], router⟩
    row member msgId isReceive
  have nonempty : ¬ result.packets.isEmpty = true := by
    intro isEmpty
    rw [List.isEmpty_iff.mp isEmpty] at member
    cases member
  unfold onOfflineLoaded
  rw [if_neg nonempty]
  rcases settles with isPending | removed
  · exact Or.inl isPending
  · refine Or.inr ⟨⟨_⟩, if_neg ?_, removed⟩
    intro isEmpty
    rw [List.isEmpty_iff.mp isEmpty] at removed
    cases removed

theorem onOfflineLoaded_keeps (offline : OfflineManager) (router : Router)
    (result : OfflineLoadResult Text) {other msgId : String} {rowId : Int}
    (isPending : offline.pendingId other msgId = some rowId) :
    (onOfflineLoaded route offline router result).1.pendingId other msgId = some rowId := by
  unfold onOfflineLoaded
  split
  · exact isPending
  · exact (deliverRows_keeps result.userId result.packets _).2 other msgId rowId isPending

end Delivery

/-! ## Sessions of the offline server -/

theorem sessions_reachable : ∀ server : OfflineServer Text,
    (offlineSystem Text).Reachable server → sessionSystem.Reachable server.sessions := by
  refine System.Reachable.simulates OfflineServer.sessions rfl ?_
  intro server event _ enabled
  cases event with
  | session event =>
      refine Or.inr ⟨event, enabled.1, ?_⟩
      cases event <;> rfl
  | enqueueIfOffline recipientUserId packet => exact Or.inl rfl
  | messageReceivedAck connectionId msgId =>
      exact Or.inl (ackHandled server connectionId msgId).sessions
  | storeStep ok =>
      refine Or.inl ?_
      simp only [offlineSystem, OfflineEvent.next, OfflineServer.storeStep]
      split <;> rfl
  | offlineLoaded =>
      refine Or.inl ?_
      simp only [offlineSystem, OfflineEvent.next, OfflineServer.offlineLoaded]
      split <;> rfl

theorem SessionManager.belongsTo_iff (manager : SessionManager) (connectionId userId : String) :
    manager.belongsTo connectionId userId = true ↔
      ∃ session, manager.findByConnectionId connectionId = some session ∧
        session.isAuthenticated = true ∧ session.userId = userId := by
  unfold SessionManager.belongsTo
  cases manager.findByConnectionId connectionId with
  | none => simp
  | some session => simp

/-! ## What a step keeps -/

namespace RowRecord

variable {record : RowRecord Text}

omit [JsonDocument Text] in
theorem Settled.of_mark {request : DeliveryMarkRequest} {rowId : Int}
    (requested : OfflineStoreCall.markOfflineDelivered request ∈ record.server.toStore)
    (member : rowId ∈ request.ids) : record.Settled rowId :=
  Or.inr ⟨request, requested, member⟩

omit [JsonDocument Text] in
theorem Settled.of_grows {after : RowRecord Text} {rowId : Int} (settled : record.Settled rowId)
    (queue : after.server.queue = record.server.queue)
    (toStore : ∀ call ∈ record.server.toStore, call ∈ after.server.toStore) :
    after.Settled rowId := by
  rcases settled with gone | ⟨request, requested, member⟩
  · exact Or.inl (by rw [queue]; exact gone)
  · exact Settled.of_mark (toStore _ requested) member

theorem mainStep_grows (record : RowRecord Text) (event : OfflineEvent)
    (isMain : ∀ ok, event ≠ .storeStep ok) :
    (record.next event).server.queue = record.server.queue ∧
    ∀ call ∈ record.server.toStore, call ∈ (record.next event).server.toStore := by
  cases event with
  | session event =>
      cases event with
      | connectAccepted connectionId userId nickname =>
          exact ⟨rfl, fun call member => List.mem_append_left _ member⟩
      | newConnection connectionId now => exact ⟨rfl, fun _ member => member⟩
      | heartbeat connectionId now => exact ⟨rfl, fun _ member => member⟩
      | sweepTimeouts now => exact ⟨rfl, fun _ member => member⟩
      | socketClosing connectionId => exact ⟨rfl, fun _ member => member⟩
      | disconnected connectionId => exact ⟨rfl, fun _ member => member⟩
  | enqueueIfOffline recipientUserId packet =>
      exact ⟨rfl, fun call member => List.mem_append_left _ member⟩
  | messageReceivedAck connectionId msgId =>
      have handled := ackHandled record.server connectionId msgId
      refine ⟨handled.queue, fun call member => ?_⟩
      rcases handled.effect with ⟨_, same, _⟩ | ⟨_, _, _, _, _, grown⟩
      · exact same ▸ member
      · exact grown ▸ List.mem_append_left _ member
  | storeStep ok => exact absurd rfl (isMain ok)
  | offlineLoaded =>
      simp only [RowRecord.next, OfflineEvent.next, OfflineServer.offlineLoaded]
      split
      · exact ⟨rfl, fun _ member => member⟩
      · exact ⟨rfl, fun call member => List.mem_append_left _ member⟩

theorem lastId_next (record : RowRecord Text) (event : OfflineEvent) :
    record.server.queue.lastId ≤ (record.next event).server.queue.lastId := by
  by_cases isMain : ∀ ok, event ≠ .storeStep ok
  · rw [(record.mainStep_grows event isMain).1]
  · obtain ⟨ok, isStore⟩ := not_forall.mp isMain
    cases not_not.mp isStore
    simp only [RowRecord.next, OfflineEvent.next, OfflineServer.storeStep]
    split
    · exact Int.le_refl _
    · exact record.server.queue.lastId_queueOffline_le ok _
    · exact Int.le_refl _
    · exact Int.le_of_eq (record.server.queue.lastId_markOfflineDelivered ok _).symm

/-- A delete on its way is either still on its way or has been carried out. -/
theorem Settled.storeStep {ok : Bool} {rowId : Int} (settled : record.Settled rowId)
    (bound : rowId ≤ record.server.queue.lastId)
    (undisturbed : record.Undisturbed (.storeStep ok)) :
    (record.next (.storeStep ok)).Settled rowId := by
  unfold Settled RowRecord.next
  simp only [OfflineEvent.next, OfflineServer.storeStep]
  cases waiting : record.server.toStore with
  | nil =>
      rcases settled with gone | ⟨request, requested, _⟩
      · exact Or.inl gone
      · rw [waiting] at requested
        cases requested
  | cons call rest =>
      have later : (∀ row ∈ record.server.queue.rows, row.id ≠ rowId) ∨
          (∃ request, call = .markOfflineDelivered request ∧ rowId ∈ request.ids) ∨
          ∃ request, OfflineStoreCall.markOfflineDelivered request ∈ rest ∧
            rowId ∈ request.ids := by
        rcases settled with gone | ⟨request, requested, member⟩
        · exact Or.inl gone
        · rw [waiting] at requested
          rcases List.mem_cons.mp requested with here | inRest
          · exact Or.inr (Or.inl ⟨request, here.symm, member⟩)
          · exact Or.inr (Or.inr ⟨request, inRest, member⟩)
      cases call with
      | queueOffline request =>
          rcases later with gone | ⟨_, here, _⟩ | inRest
          · refine Or.inl fun row member => ?_
            rcases record.server.queue.mem_queueOffline ok request row member with old | added
            · exact gone row old
            · rw [added]
              simp only
              omega
          · cases here
          · exact Or.inr inRest
      | loadOffline request =>
          rcases later with gone | ⟨_, here, _⟩ | inRest
          · exact Or.inl gone
          · cases here
          · exact Or.inr inRest
      | markOfflineDelivered request =>
          cases undisturbed request rest waiting
          rcases later with gone | ⟨same, here, member⟩ | inRest
          · refine Or.inl fun row rowIn => gone row ?_
            exact record.server.queue.mem_markOfflineDelivered true request row rowIn
          · cases here
            refine Or.inl fun row rowIn sameId => ?_
            rw [record.server.queue.rows_markOfflineDelivered request] at rowIn
            have spared := (List.mem_filter.mp rowIn).2
            rw [sameId] at spared
            simp [member] at spared
          · exact Or.inr inRest

theorem Settled.next {event : OfflineEvent} {rowId : Int} (settled : record.Settled rowId)
    (bound : rowId ≤ record.server.queue.lastId) (undisturbed : record.Undisturbed event) :
    (record.next event).Settled rowId := by
  by_cases isMain : ∀ ok, event ≠ .storeStep ok
  · obtain ⟨queue, toStore⟩ := record.mainStep_grows event isMain
    exact settled.of_grows queue toStore
  · obtain ⟨ok, isStore⟩ := not_forall.mp isMain
    cases not_not.mp isStore
    exact settled.storeStep bound undisturbed

/-! ## Where the recorded rows come from -/

theorem mem_routedRows {manager : SessionManager} {offline : OfflineManager}
    {result : OfflineLoadResult Text} {routed : RoutedRow}
    (member : routed ∈ routedRows manager offline result) :
    routed.userId = result.userId ∧
    (∃ session, manager.findByUserId result.userId = some session) ∧
    ∃ row ∈ result.packets, receiveId row.2 = some routed.msgId ∧ routed.rowId = row.1 := by
  unfold routedRows at member
  split at member
  · cases member
  · rename_i session found
    obtain ⟨row, rowIn, taken⟩ := List.mem_filterMap.mp member
    obtain ⟨msgId, isReceive, kept⟩ := Option.bind_eq_some_iff.mp taken
    split at kept
    · cases kept
      exact ⟨rfl, ⟨session, found⟩, row, rowIn, isReceive, rfl⟩
    · cases kept

theorem mem_recordRouted {event : OfflineEvent} {routed : RoutedRow}
    (member : routed ∈ record.recordRouted event) :
    routed ∈ record.live ∨ ∃ result rest, event = .offlineLoaded ∧
      record.server.toMain = result :: rest ∧
      routed ∈ routedRows record.server.sessions record.server.offline result := by
  cases event with
  | offlineLoaded =>
      unfold recordRouted at member
      cases waiting : record.server.toMain with
      | nil =>
          rw [waiting] at member
          exact Or.inl member
      | cons result rest =>
          rw [waiting] at member
          rcases List.mem_append.mp member with old | added
          · exact Or.inl old
          · exact Or.inr ⟨result, rest, rfl, rfl, added⟩
  | session event => exact Or.inl member
  | enqueueIfOffline recipientUserId packet => exact Or.inl member
  | messageReceivedAck connectionId msgId => exact Or.inl member
  | storeStep ok => exact Or.inl member

omit [JsonDocument Text] in
theorem mem_recordAcknowledged {event : OfflineEvent} {rowId : Int}
    (member : rowId ∈ record.recordAcknowledged event) :
    rowId ∈ record.acknowledged ∨ ∃ routed ∈ record.live, routed.rowId = rowId ∧
      event = .messageReceivedAck routed.connectionId routed.msgId := by
  cases event with
  | messageReceivedAck connectionId msgId =>
      rcases List.mem_append.mp member with old | added
      · exact Or.inl old
      · obtain ⟨routed, taken, same⟩ := List.mem_map.mp added
        obtain ⟨isLive, named⟩ := List.mem_filter.mp taken
        obtain ⟨rfl, rfl⟩ := of_decide_eq_true named
        exact Or.inr ⟨routed, isLive, same, rfl⟩
  | session event => exact Or.inl member
  | enqueueIfOffline recipientUserId packet => exact Or.inl member
  | storeStep ok => exact Or.inl member
  | offlineLoaded => exact Or.inl member

structure NumbersGiven (record : RowRecord Text) : Prop where
  loaded : ∀ result ∈ record.server.toMain, ∀ row ∈ result.packets,
    row.1 ≤ record.server.queue.lastId
  live : ∀ routed ∈ record.live, routed.rowId ≤ record.server.queue.lastId
  acknowledged : ∀ rowId ∈ record.acknowledged, rowId ≤ record.server.queue.lastId

theorem mem_toMain_next {event : OfflineEvent} {result : OfflineLoadResult Text}
    (member : result ∈ (record.next event).server.toMain) :
    result ∈ record.server.toMain ∨ ∃ ok request,
      (record.next event).server.queue = record.server.queue ∧
      result = record.server.queue.loadOffline ok request := by
  cases event with
  | session event => cases event <;> exact Or.inl member
  | enqueueIfOffline recipientUserId packet => exact Or.inl member
  | messageReceivedAck connectionId msgId =>
      have same := (ackHandled record.server connectionId msgId).toMain
      exact Or.inl (same ▸ member)
  | storeStep ok =>
      simp only [RowRecord.next, OfflineEvent.next, OfflineServer.storeStep] at member ⊢
      cases waiting : record.server.toStore with
      | nil =>
          simp only [waiting] at member
          exact Or.inl member
      | cons call rest =>
          simp only [waiting] at member ⊢
          cases call with
          | queueOffline request => exact Or.inl member
          | loadOffline request =>
              rcases List.mem_append.mp member with old | added
              · exact Or.inl old
              · exact Or.inr ⟨ok, request, rfl, List.mem_singleton.mp added⟩
          | markOfflineDelivered request => exact Or.inl member
  | offlineLoaded =>
      simp only [RowRecord.next, OfflineEvent.next, OfflineServer.offlineLoaded] at member
      cases waiting : record.server.toMain with
      | nil =>
          simp only [waiting] at member
          cases member
      | cons first rest =>
          simp only [waiting] at member
          exact Or.inl (List.mem_cons_of_mem _ member)

theorem NumbersGiven.next (given : record.NumbersGiven) (event : OfflineEvent) :
    (record.next event).NumbersGiven := by
  have grows := record.lastId_next event
  refine ⟨?_, ?_, ?_⟩
  · intro result member row rowIn
    rcases mem_toMain_next member with old | ⟨ok, request, queue, rfl⟩
    · exact Int.le_trans (given.loaded result old row rowIn) grows
    · obtain ⟨stored, storedIn, _, rfl⟩ :=
        record.server.queue.mem_loadOffline ok request row rowIn
      rw [queue]
      exact record.server.queue.bounded stored storedIn
  · intro routed member
    refine Int.le_trans ?_ grows
    rcases mem_recordRouted (List.mem_filter.mp member).1 with
      old | ⟨result, rest, _, waiting, added⟩
    · exact given.live routed old
    · obtain ⟨_, _, row, rowIn, _, same⟩ := mem_routedRows added
      rw [same]
      exact given.loaded result (waiting ▸ List.mem_cons_self) row rowIn
  · intro rowId member
    refine Int.le_trans ?_ grows
    rcases mem_recordAcknowledged member with old | ⟨routed, isLive, rfl, _⟩
    · exact given.acknowledged rowId old
    · exact given.live routed isLive

theorem numbersGiven_of_reachable : ∀ record : RowRecord Text,
    (rowRecordSystem Text).Reachable record → record.NumbersGiven := by
  apply System.Reachable.invariant
  · refine ⟨?_, ?_, ?_⟩ <;> simp [rowRecordSystem, OfflineServer.empty]
  · intro before event _ given _
    exact given.next event

/-! ## A recorded row is remembered until it is settled -/

def Remembered (record : RowRecord Text) (routed : RoutedRow) : Prop :=
  record.Settled routed.rowId ∨
    (routed.msgId ≠ "" ∧
      record.server.offline.pendingId routed.userId routed.msgId = some routed.rowId)

theorem Remembered.of_offline {event : OfflineEvent} {routed : RoutedRow}
    (remembered : record.Remembered routed)
    (bound : routed.rowId ≤ record.server.queue.lastId)
    (undisturbed : record.Undisturbed event)
    (offline : (record.next event).server.offline = record.server.offline) :
    (record.next event).Remembered routed := by
  rcases remembered with settled | ⟨named, isPending⟩
  · exact Or.inl (settled.next bound undisturbed)
  · refine Or.inr ⟨named, ?_⟩
    rw [offline]
    exact isPending

/-- The end of a connection wipes what is pending for its user; the rows of his
other connections are settled then. -/
theorem Remembered.disconnected {connectionId : String} {routed : RoutedRow}
    (remembered : record.Remembered routed) (isLive : routed ∈ record.live)
    (bound : routed.rowId ≤ record.server.queue.lastId)
    (undisturbed : record.Undisturbed (.session (.disconnected connectionId)))
    (belongs : (record.next (.session (.disconnected connectionId))).server.sessions.belongsTo
      routed.connectionId routed.userId = true) :
    (record.next (.session (.disconnected connectionId))).Remembered routed := by
  obtain ⟨after, found, _, _⟩ := (SessionManager.belongsTo_iff _ _ _).mp belongs
  simp only [RowRecord.next, OfflineEvent.next, OfflineServer.sessionEvent,
    SessionManager.findByConnectionId_detach] at found
  have elsewhere : routed.connectionId ≠ connectionId := by
    intro same
    rw [if_pos same] at found
    cases found
  rcases remembered with settled | ⟨named, isPending⟩
  · exact Or.inl (settled.next bound undisturbed)
  by_cases sameUser : routed.userId = (record.server.sessions.detach connectionId).2
  · cases ended : record.server.sessions.findByConnectionId connectionId with
    | none =>
        have noUser : (record.server.sessions.detach connectionId).2 = "" := by
          rw [SessionManager.userId_detach, ended]
        refine Or.inr ⟨named, ?_⟩
        simp only [RowRecord.next, OfflineEvent.next, OfflineServer.sessionEvent,
          OfflineManager.pendingId_onUserDisconnected, noUser]
        simpa using isPending
    | some session =>
        have ofSession : (record.server.sessions.detach connectionId).2 = session.userId := by
          rw [SessionManager.userId_detach, ended]
        have settled := undisturbed session ended routed isLive (sameUser.trans ofSession)
          elsewhere
        exact Or.inl (settled.next bound undisturbed)
  · refine Or.inr ⟨named, ?_⟩
    simp only [RowRecord.next, OfflineEvent.next, OfflineServer.sessionEvent,
      OfflineManager.pendingId_onUserDisconnected]
    rw [if_neg fun target => sameUser target.1]
    exact isPending

/-- The acknowledgement of a pending row asks for its deletion. -/
theorem settled_of_ack {connectionId msgId : String} {session : ClientSession} {rowId : Int}
    (found : record.server.sessions.findByConnectionId connectionId = some session)
    (authenticated : session.isAuthenticated = true) (named : msgId ≠ "")
    (userNonempty : session.userId ≠ "")
    (isPending : record.server.offline.pendingId session.userId msgId = some rowId) :
    (record.next (.messageReceivedAck connectionId msgId)).Settled rowId := by
  have marks := record.server.offline.handleMessageReceivedAck_marks userNonempty named isPending
  rcases (ackHandled record.server connectionId msgId).effect with
    ⟨_, _, unnamed⟩ | ⟨other, otherFound, _, _, _, toStore⟩
  · exact absurd (unnamed session found authenticated) named
  · cases found.symm.trans otherFound
    have asked : OfflineStoreCall.markOfflineDelivered ⟨[rowId]⟩ ∈
        (record.server.handleMessageReceivedAck connectionId msgId).toStore := by
      rw [toStore, marks]
      simp
    exact Or.inr ⟨_, asked, List.mem_singleton.mpr rfl⟩

/-- Only the acknowledgement of the row itself takes it out of the pending map. -/
theorem Remembered.messageReceivedAck {connectionId msgId : String} {routed : RoutedRow}
    (remembered : record.Remembered routed)
    (bound : routed.rowId ≤ record.server.queue.lastId)
    (userNonempty : routed.userId ≠ "") :
    (record.next (.messageReceivedAck connectionId msgId)).Remembered routed := by
  rcases remembered with settled | ⟨named, isPending⟩
  · exact Or.inl (settled.next bound trivial)
  rcases (ackHandled record.server connectionId msgId).effect with
    ⟨offline, _, _⟩ | ⟨session, found, authenticated, _, offline, _⟩
  · exact Remembered.of_offline (Or.inr ⟨named, isPending⟩) bound trivial offline
  by_cases target : routed.userId = session.userId ∧ routed.msgId = msgId
  · obtain ⟨sameUser, rfl⟩ := target
    rw [sameUser] at userNonempty isPending
    exact Or.inl (settled_of_ack found authenticated named userNonempty isPending)
  · refine Or.inr ⟨named, ?_⟩
    show (record.server.handleMessageReceivedAck connectionId msgId).offline.pendingId _ _ = _
    rw [offline, OfflineManager.pendingId_handleMessageReceivedAck,
      if_neg fun hit => target ⟨hit.1, hit.2.1⟩]
    exact isPending

theorem Remembered.offlineLoaded {routed : RoutedRow} (remembered : record.Remembered routed)
    (bound : routed.rowId ≤ record.server.queue.lastId) :
    (record.next .offlineLoaded).Remembered routed := by
  rcases remembered with settled | ⟨named, isPending⟩
  · exact Or.inl (settled.next bound trivial)
  · refine Or.inr ⟨named, ?_⟩
    simp only [RowRecord.next, OfflineEvent.next, OfflineServer.offlineLoaded]
    split
    · exact isPending
    · exact onOfflineLoaded_keeps _ _ _ isPending

/-- A row just routed is pending under its own number, or removed. -/
theorem remembered_of_routed {result : OfflineLoadResult Text}
    {rest : List (OfflineLoadResult Text)} {routed : RoutedRow}
    (waiting : record.server.toMain = result :: rest)
    (added : routed ∈ routedRows record.server.sessions record.server.offline result) :
    (record.next .offlineLoaded).Remembered routed := by
  obtain ⟨isUser, ⟨session, mapped⟩, row, rowIn, isReceive, sameRow⟩ := mem_routedRows added
  have found : ∀ (wire : List (SocketWrite Text)) (packet : Packet),
      (wireRouter record.server.sessions result.userId wire packet).1 = true := by
    intro wire packet
    simp only [wireRouter, routeToUser_fst, mapped, Option.isSome_some]
  unfold Remembered Settled
  simp only [RowRecord.next, OfflineEvent.next, OfflineServer.offlineLoaded, waiting]
  rw [isUser, sameRow]
  rcases onOfflineLoaded_settles found record.server.offline record.server.wire result rowIn
    isReceive with isPending | ⟨request, marked, member⟩
  · exact Or.inr isPending
  · refine Or.inl (Or.inr ⟨request, ?_, member⟩)
    rw [marked]
    simp

structure Tracked (record : RowRecord Text) : Prop where
  belongs : ∀ routed ∈ record.live,
    record.server.sessions.belongsTo routed.connectionId routed.userId = true
  remembered : ∀ routed ∈ record.live, record.Remembered routed
  acknowledged : ∀ rowId ∈ record.acknowledged, record.Settled rowId

omit [JsonDocument Text] in
/-- The connection of a recorded row is its user's, whose id is not empty. -/
theorem Tracked.session (tracked : record.Tracked)
    (wellFormed : SessionsWellFormed record.server.sessions) {routed : RoutedRow}
    (isLive : routed ∈ record.live) :
    routed.userId ≠ "" ∧ ∃ session,
      record.server.sessions.findByConnectionId routed.connectionId = some session ∧
      session.isAuthenticated = true ∧ session.userId = routed.userId := by
  obtain ⟨session, found, authenticated, sameUser⟩ :=
    (SessionManager.belongsTo_iff _ _ _).mp (tracked.belongs routed isLive)
  have nonempty := (wellFormed.authenticatedIff _ session found).mp authenticated
  exact ⟨sameUser ▸ nonempty, session, found, authenticated, sameUser⟩

/-- The connection a row went to gets it deleted by acknowledging it. -/
theorem Tracked.settled_of_own_ack (tracked : record.Tracked) (given : record.NumbersGiven)
    (wellFormed : SessionsWellFormed record.server.sessions) {routed : RoutedRow}
    (isLive : routed ∈ record.live) :
    (record.next (.messageReceivedAck routed.connectionId routed.msgId)).Settled
      routed.rowId := by
  obtain ⟨nonempty, session, found, authenticated, sameUser⟩ := tracked.session wellFormed isLive
  rcases tracked.remembered routed isLive with settled | ⟨named, isPending⟩
  · exact settled.next (given.live routed isLive) trivial
  · rw [← sameUser] at nonempty isPending
    exact settled_of_ack found authenticated named nonempty isPending

theorem Tracked.remembered_next (tracked : record.Tracked) (given : record.NumbersGiven)
    (wellFormed : SessionsWellFormed record.server.sessions) {event : OfflineEvent}
    (undisturbed : record.Undisturbed event) :
    ∀ routed ∈ (record.next event).live, (record.next event).Remembered routed := by
  intro routed member
  obtain ⟨recorded, belongs⟩ := List.mem_filter.mp member
  rcases mem_recordRouted recorded with isLive | ⟨result, rest, rfl, waiting, added⟩
  · have remembered := tracked.remembered routed isLive
    have bound := given.live routed isLive
    cases event with
    | session event =>
        cases event with
        | disconnected connectionId =>
            exact remembered.disconnected isLive bound undisturbed belongs
        | newConnection connectionId now => exact remembered.of_offline bound undisturbed rfl
        | connectAccepted connectionId userId nickname =>
            exact remembered.of_offline bound undisturbed rfl
        | heartbeat connectionId now => exact remembered.of_offline bound undisturbed rfl
        | sweepTimeouts now => exact remembered.of_offline bound undisturbed rfl
        | socketClosing connectionId => exact remembered.of_offline bound undisturbed rfl
    | enqueueIfOffline recipientUserId packet =>
        exact remembered.of_offline bound undisturbed rfl
    | messageReceivedAck connectionId msgId =>
        exact remembered.messageReceivedAck bound (tracked.session wellFormed isLive).1
    | storeStep ok =>
        refine remembered.of_offline bound undisturbed ?_
        simp only [RowRecord.next, OfflineEvent.next, OfflineServer.storeStep]
        split <;> rfl
    | offlineLoaded => exact remembered.offlineLoaded bound
  · exact remembered_of_routed waiting added

theorem Tracked.next (tracked : record.Tracked) (given : record.NumbersGiven)
    (wellFormed : SessionsWellFormed record.server.sessions) {event : OfflineEvent}
    (undisturbed : record.Undisturbed event) : (record.next event).Tracked := by
  refine ⟨?_, tracked.remembered_next given wellFormed undisturbed, ?_⟩
  · intro routed member
    exact (List.mem_filter.mp member).2
  · intro rowId member
    rcases mem_recordAcknowledged member with old | ⟨routed, isLive, rfl, rfl⟩
    · exact (tracked.acknowledged rowId old).next (given.acknowledged rowId old) undisturbed
    · exact tracked.settled_of_own_ack given wellFormed isLive

theorem server_reachable : ∀ record : RowRecord Text, (rowRecordSystem Text).Reachable record →
    (offlineSystem Text).Reachable record.server := by
  refine System.Reachable.simulates RowRecord.server rfl ?_
  intro record event _ enabled
  exact Or.inr ⟨event, enabled, rfl⟩

theorem wellFormed_of_reachable (record : RowRecord Text)
    (reached : (rowRecordSystem Text).Reachable record) :
    SessionsWellFormed record.server.sessions :=
  sessionsWellFormed_of_reachable _ (sessions_reachable _ (server_reachable record reached))

theorem tracked_of_reachable : ∀ record : RowRecord Text,
    ((rowRecordSystem Text).restrict Undisturbed).Reachable record → record.Tracked := by
  apply System.Reachable.invariant
  · refine ⟨?_, ?_, ?_⟩ <;> simp [rowRecordSystem, System.restrict]
  · intro before event reachedBefore tracked enabled
    have reached := reachedBefore.of_restrict
    exact tracked.next (numbersGiven_of_reachable before reached)
      (wellFormed_of_reachable before reached) enabled.2

/-- Without a pending entry an acknowledgement settles nothing. -/
theorem settled_before_ack {connectionId msgId : String} {session : ClientSession} {rowId : Int}
    (found : record.server.sessions.findByConnectionId connectionId = some session)
    (absent : record.server.offline.pendingId session.userId msgId = none)
    (settled : (record.next (.messageReceivedAck connectionId msgId)).Settled rowId) :
    record.Settled rowId := by
  have handled := ackHandled record.server connectionId msgId
  have same : (record.server.handleMessageReceivedAck connectionId msgId).toStore =
      record.server.toStore := by
    rcases handled.effect with ⟨_, same, _⟩ | ⟨other, otherFound, _, _, _, toStore⟩
    · exact same
    · cases found.symm.trans otherFound
      cases marked : (record.server.offline.handleMessageReceivedAck session.userId msgId).2 with
      | none => rw [toStore, marked, Option.map_none, Option.toList_none, List.append_nil]
      | some request =>
          obtain ⟨_, _, rowId, isPending, _⟩ :=
            record.server.offline.mark_handleMessageReceivedAck _ _ request marked
          cases absent.symm.trans isPending
  rcases settled with gone | ⟨request, requested, member⟩
  · refine Or.inl fun row rowIn => gone row ?_
    show row ∈ (record.server.handleMessageReceivedAck connectionId msgId).queue.rows
    rw [handled.queue]
    exact rowIn
  · refine Or.inr ⟨request, ?_, member⟩
    rw [← same]
    exact requested

/-- A step that wipes an unsettled row of another connection loses it: that
connection's acknowledgement no longer deletes the row. -/
theorem Tracked.undisturbed_of_acks (tracked : record.Tracked)
    (wellFormed : SessionsWellFormed record.server.sessions) {connectionId : String}
    (acks : ∀ routed ∈ (record.next (.session (.disconnected connectionId))).live,
      ((record.next (.session (.disconnected connectionId))).next
        (.messageReceivedAck routed.connectionId routed.msgId)).Settled routed.rowId) :
    record.Undisturbed (.session (.disconnected connectionId)) := by
  intro ended endedFound routed isLive sameUser elsewhere
  obtain ⟨nonempty, session, found, authenticated, isUser⟩ := tracked.session wellFormed isLive
  have ofEnded : (record.server.sessions.detach connectionId).2 = routed.userId := by
    rw [SessionManager.userId_detach, endedFound, sameUser]
  have stillFound :
      (record.next (.session (.disconnected connectionId))).server.sessions.findByConnectionId
        routed.connectionId = some session := by
    simp only [RowRecord.next, OfflineEvent.next, OfflineServer.sessionEvent,
      SessionManager.findByConnectionId_detach]
    rw [if_neg elsewhere]
    exact found
  have stillLive : routed ∈ (record.next (.session (.disconnected connectionId))).live := by
    refine List.mem_filter.mpr ⟨isLive, ?_⟩
    exact (SessionManager.belongsTo_iff _ _ _).mpr ⟨session, stillFound, authenticated, isUser⟩
  have wiped : (record.next (.session (.disconnected connectionId))).server.offline.pendingId
      session.userId routed.msgId = none := by
    simp only [RowRecord.next, OfflineEvent.next, OfflineServer.sessionEvent,
      OfflineManager.pendingId_onUserDisconnected, ofEnded]
    exact if_pos ⟨isUser, nonempty⟩
  have settled : (record.next (.session (.disconnected connectionId))).Settled routed.rowId :=
    settled_before_ack stillFound wiped (acks routed stillLive)
  exact settled

/-- As long as no connection ends while a row of another connection of its user
is unsettled, and deletes succeed, each acknowledged row is deleted; and a
connection's end keeps every recorded row deletable exactly under that
condition. -/
theorem acknowledged_rows_deleted (record : RowRecord Text)
    (reached : ((rowRecordSystem Text).restrict Undisturbed).Reachable record) :
    (∀ rowId ∈ record.acknowledged, record.Settled rowId) ∧
    (record.server.toStore = [] → ∀ rowId ∈ record.acknowledged,
      ∀ row ∈ record.server.queue.rows, row.id ≠ rowId) ∧
    ∀ connectionId, record.Undisturbed (.session (.disconnected connectionId)) ↔
      ∀ routed ∈ (record.next (.session (.disconnected connectionId))).live,
        ((record.next (.session (.disconnected connectionId))).next
          (.messageReceivedAck routed.connectionId routed.msgId)).Settled routed.rowId := by
  have tracked := tracked_of_reachable record reached
  have given := numbersGiven_of_reachable record reached.of_restrict
  have wellFormed := wellFormed_of_reachable record reached.of_restrict
  refine ⟨tracked.acknowledged, ?_, ?_⟩
  · intro noCalls rowId member
    rcases tracked.acknowledged rowId member with gone | ⟨request, requested, _⟩
    · exact gone
    · rw [noCalls] at requested
      cases requested
  · intro connectionId
    refine ⟨?_, tracked.undisturbed_of_acks wellFormed⟩
    intro undisturbed routed isLive
    have after := tracked.next given wellFormed undisturbed
    have enabled : (rowRecordSystem Text).enabled record (.session (.disconnected connectionId)) :=
      ⟨trivial, fun _ _ _ same => nomatch same⟩
    exact after.settled_of_own_ack (given.next _)
      (wellFormed_of_reachable _ (System.Reachable.step _ reached.of_restrict enabled)) isLive

def bobReceives : List OfflineEvent :=
  [.enqueueIfOffline "bob" { cmd := .receiveMessage, msgId := "srv_1" }, .storeStep true,
    .session (.newConnection "c1" 0), .session (.connectAccepted "c1" "bob" "Bob"),
    .storeStep true, .offlineLoaded, .messageReceivedAck "c1" "srv_1", .storeStep true]

def bobsRows (events : List OfflineEvent) : RowRecord ParsedText :=
  events.foldl RowRecord.next ⟨OfflineServer.empty, [], []⟩

theorem acknowledged_rows_deleted_bob :
    (bobsRows bobReceives).acknowledged = [1] ∧
    ∀ row ∈ (bobsRows bobReceives).server.queue.rows, row.id ≠ 1 := by
  have acknowledged : (bobsRows bobReceives).acknowledged = [1] := by decide
  refine ⟨acknowledged, ?_⟩
  have reached : ((rowRecordSystem ParsedText).restrict Undisturbed).Reachable
      (bobsRows bobReceives) := by
    refine System.Reachable.run bobReceives _ System.Reachable.initial ?_
    have nonempty : "bob" ≠ "" := by decide
    refine ⟨⟨fun _ => by decide, trivial⟩, ⟨trivial, fun _ _ _ => rfl⟩,
      ⟨⟨⟨by decide, rfl⟩, fun _ _ _ same => nomatch same⟩, trivial⟩,
      ⟨⟨nonempty, fun _ _ _ same => ?_⟩, trivial⟩, ⟨trivial, fun _ _ _ => rfl⟩,
      ⟨trivial, trivial⟩, ⟨trivial, trivial⟩, ⟨trivial, fun _ _ _ => rfl⟩, trivial⟩
    cases same
    decide
  exact (acknowledged_rows_deleted (bobsRows bobReceives) reached).2.1 rfl 1
    (by rw [acknowledged]; exact List.mem_singleton.mpr rfl)

/-- Bob gets a stored message on one connection, opens another one and closes it,
and then acknowledges the message on the first. -/
def bobClosesOther : List OfflineEvent :=
  [.enqueueIfOffline "bob" { cmd := .receiveMessage, msgId := "srv_1" }, .storeStep true,
    .session (.newConnection "c1" 0), .session (.connectAccepted "c1" "bob" "Bob"),
    .storeStep true, .offlineLoaded,
    .session (.newConnection "c2" 1), .session (.connectAccepted "c2" "bob" "Bob"),
    .session (.disconnected "c2"), .messageReceivedAck "c1" "srv_1",
    .storeStep true, .offlineLoaded]

/-- The acknowledged row stays in the table, with nothing on its way. -/
theorem acknowledged_row_stays :
    ¬ ∀ record, (rowRecordSystem ParsedText).Reachable record →
      ∀ rowId ∈ record.acknowledged, record.Settled rowId := by
  intro always
  have reached : (rowRecordSystem ParsedText).Reachable (bobsRows bobClosesOther) := by
    refine System.Reachable.run bobClosesOther _ System.Reachable.initial ?_
    have nonempty : "bob" ≠ "" := by decide
    refine ⟨fun _ => by decide, trivial, ⟨⟨by decide, rfl⟩, fun _ _ _ same => nomatch same⟩,
      ⟨nonempty, fun _ _ _ same => ?_⟩, trivial, trivial,
      ⟨⟨by decide, rfl⟩, fun _ _ _ same => nomatch same⟩,
      ⟨nonempty, fun _ _ _ same => ?_⟩, ⟨trivial, fun _ _ _ same => nomatch same⟩, trivial,
      trivial, trivial, trivial⟩
    · cases same
      decide
    · cases same
      decide
  have acknowledged : (1 : Int) ∈ (bobsRows bobClosesOther).acknowledged := by decide
  have stays : (bobsRows bobClosesOther).server.queue.rows.map OfflineRow.id = [1] := by decide
  rcases always _ reached 1 acknowledged with gone | ⟨request, requested, _⟩
  · obtain ⟨row, member, same⟩ := List.mem_map.mp (stays ▸ List.mem_singleton.mpr rfl :
      (1 : Int) ∈ (bobsRows bobClosesOther).server.queue.rows.map OfflineRow.id)
    exact gone row member same
  · cases requested

end RowRecord

end Rows
end ShirohaChat
