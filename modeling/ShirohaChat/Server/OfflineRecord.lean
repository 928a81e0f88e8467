import ShirohaChat.Server.OfflineEnqueue
import ShirohaChat.Server.OfflineRuns
import ShirohaChat.Server.RecordedDelivery

/-!
# Queued packets are kept until they are routed

The offline server with a record of what was queued and of what each load
result got routed.  A packet that was queued and not routed is in the table or
on its way to it, in the order in which it was queued.
-/

set_option autoImplicit false

namespace ShirohaChat

open Transition

/-- `steady` are the users who have been mapped to a session without
interruption since their last accepted Connect. -/
structure OfflineRecord (Text : Type) where
  server : OfflineServer Text
  queued : List (String × Packet) := []
  loads : List (String × List Packet) := []
  steady : List String := []

section Records
variable {Text : Type} [JsonDocument Text]

namespace OfflineRecord

def queuedFor (record : OfflineRecord Text) (userId : String) : List Packet :=
  (record.queued.filter fun entry => entry.1 = userId).map Prod.snd

def Routed (record : OfflineRecord Text) (userId : String) (packet : Packet) : Prop :=
  ∃ load ∈ record.loads, load.1 = userId ∧ packet ∈ load.2

def Queues (record : OfflineRecord Text) (userId : String) (packet : Packet) : Bool :=
  (enqueueIfOffline Text record.server.sessions userId packet).2.isSome

def recordQueued (record : OfflineRecord Text) : OfflineEvent → List (String × Packet)
  | .enqueueIfOffline userId packet =>
      if record.Queues userId packet then record.queued ++ [(userId, packet)] else record.queued
  | _ => record.queued

def recordLoads (record : OfflineRecord Text) : OfflineEvent → List (String × List Packet)
  | .offlineLoaded =>
      match record.server.toMain with
      | [] => record.loads
      | result :: _ => record.loads ++
          [(result.userId, routedBy record.server.sessions record.server.offline result)]
  | _ => record.loads

def logins (steady : List String) : OfflineEvent → List String
  | .session (.connectAccepted _ userId _) => userId :: steady
  | _ => steady

def next (record : OfflineRecord Text) (event : OfflineEvent) : OfflineRecord Text :=
  { server := event.next record.server
    queued := record.recordQueued event
    loads := record.recordLoads event
    steady := (logins record.steady event).filter fun userId =>
      ((event.next record.server).sessions.findByUserId userId).isSome }

/-- Statements succeed, and a packet that is queued has a message id that no
packet queued for its recipient had. -/
def Assumed (record : OfflineRecord Text) : OfflineEvent → Prop
  | .enqueueIfOffline userId packet => record.Queues userId packet = true →
      packet.msgId ≠ "" ∧ ∀ other ∈ record.queuedFor userId, other.msgId ≠ packet.msgId
  | .storeStep ok => ok = true
  | _ => True

def Quiet (record : OfflineRecord Text) : Prop :=
  record.server.toStore = [] ∧ record.server.toMain = []

end OfflineRecord

def offlineRecordSystem (Text : Type) [JsonDocument Text] :
    System (OfflineRecord Text) OfflineEvent where
  initial := ⟨OfflineServer.empty, [], [], []⟩
  enabled record event := event.enabled record.server ∧ record.Assumed event
  next := OfflineRecord.next

/-! ## Queued packets are kept until they are routed -/

def OfflineStoreCall.queuedText (userId : String) : OfflineStoreCall Text → Option Text
  | .queueOffline request =>
      if request.recipientUserId = userId then some request.packetJson else none
  | _ => none

def OfflineQueue.textsFor (queue : OfflineQueue Text) (userId : String) : List Text :=
  (queue.rows.filter fun row => row.recipientUserId = userId).map OfflineRow.packetJson

namespace OfflineRecord

/-- What is in the table for the user, or on its way there. -/
def stored (record : OfflineRecord Text) (userId : String) : List Text :=
  record.server.queue.textsFor userId ++
    record.server.toStore.filterMap (OfflineStoreCall.queuedText userId)

def Spent (record : OfflineRecord Text) (id : Int) : Prop :=
  id ≤ record.server.queue.lastId ∧ ∀ row ∈ record.server.queue.rows, row.id = id →
    ∃ packet, row.packetJson = packet.encode ∧ record.Routed row.recipientUserId packet

structure KeepsPackets (record : OfflineRecord Text) : Prop where
  named : ∀ userId, ∀ packet ∈ record.queuedFor userId, packet.msgId ≠ ""
  distinct : ∀ userId, ((record.queuedFor userId).map Packet.msgId).Nodup
  stored : ∀ userId,
    (record.stored userId).Sublist ((record.queuedFor userId).map Packet.encode)
  kept : ∀ userId, ∀ packet ∈ record.queuedFor userId,
    record.Routed userId packet ∨ packet.encode ∈ record.stored userId
  loaded : ∀ result ∈ record.server.toMain, (result.packets.map Prod.snd).Sublist
    ((record.queuedFor result.userId).map Packet.encode)
  loadedRow : ∀ result ∈ record.server.toMain, ∀ packet ∈ result.packets,
    packet.1 ≤ record.server.queue.lastId ∧ ∀ row ∈ record.server.queue.rows,
      row.id = packet.1 → row.recipientUserId = result.userId ∧ row.packetJson = packet.2
  pending : ∀ userId msgId id, record.server.offline.pendingId userId msgId = some id →
    record.Spent id ∧ ∃ packet ∈ record.queuedFor userId,
      packet.msgId = msgId ∧ record.Routed userId packet
  marked : ∀ request, OfflineStoreCall.markOfflineDelivered request ∈ record.server.toStore →
    ∀ id ∈ request.ids, record.Spent id
  inOrder : ∀ load ∈ record.loads, load.2.Sublist (record.queuedFor load.1)

variable {record after : OfflineRecord Text}

theorem Spent.of_same_queue {id : Int} (spent : record.Spent id)
    (queue : after.server.queue = record.server.queue)
    (routed : ∀ userId packet, record.Routed userId packet → after.Routed userId packet) :
    after.Spent id := by
  unfold Spent
  rw [queue]
  refine ⟨spent.1, ?_⟩
  intro row member sameId
  obtain ⟨packet, text, isRouted⟩ := spent.2 row member sameId
  exact ⟨packet, text, routed _ _ isRouted⟩

theorem KeepsPackets.of_same_queue (keeps : record.KeepsPackets)
    (queue : after.server.queue = record.server.queue) (queued : after.queued = record.queued)
    (transit : ∀ userId, after.server.toStore.filterMap (OfflineStoreCall.queuedText userId) =
      record.server.toStore.filterMap (OfflineStoreCall.queuedText userId))
    (routed : ∀ userId packet, record.Routed userId packet → after.Routed userId packet)
    (loaded : ∀ result ∈ after.server.toMain, result ∈ record.server.toMain)
    (pending : ∀ userId msgId id, after.server.offline.pendingId userId msgId = some id →
      record.server.offline.pendingId userId msgId = some id ∨
        (after.Spent id ∧ ∃ packet ∈ record.queuedFor userId,
          packet.msgId = msgId ∧ after.Routed userId packet))
    (marked : ∀ request, OfflineStoreCall.markOfflineDelivered request ∈ after.server.toStore →
      OfflineStoreCall.markOfflineDelivered request ∈ record.server.toStore ∨
        ∀ id ∈ request.ids, after.Spent id)
    (inOrder : ∀ load ∈ after.loads, load.2.Sublist (record.queuedFor load.1)) :
    after.KeepsPackets := by
  have sameQueued : ∀ userId, after.queuedFor userId = record.queuedFor userId := by
    intro userId
    rw [queuedFor, queued]
    rfl
  have sameStored : ∀ userId, after.stored userId = record.stored userId := by
    intro userId
    rw [OfflineRecord.stored, queue, transit]
    rfl
  constructor
  · intro userId
    rw [sameQueued]
    exact keeps.named userId
  · intro userId
    rw [sameQueued]
    exact keeps.distinct userId
  · intro userId
    rw [sameQueued, sameStored]
    exact keeps.stored userId
  · intro userId packet member
    rw [sameQueued] at member
    rw [sameStored]
    exact (keeps.kept userId packet member).imp (routed userId packet) id
  · intro result member
    rw [sameQueued]
    exact keeps.loaded result (loaded result member)
  · intro result member
    rw [queue]
    exact keeps.loadedRow result (loaded result member)
  · intro userId msgId id isPending
    rw [sameQueued]
    rcases pending userId msgId id isPending with old | new
    · obtain ⟨spent, packet, packetIn, sameId, isRouted⟩ := keeps.pending userId msgId id old
      exact ⟨spent.of_same_queue queue routed, packet, packetIn, sameId, routed _ _ isRouted⟩
    · exact new
  · intro request member id idIn
    rcases marked request member with old | new
    · exact (keeps.marked request old id idIn).of_same_queue queue routed
    · exact new id idIn
  · intro load member
    rw [sameQueued]
    exact inOrder load member

theorem keepsPackets_initial : KeepsPackets (⟨OfflineServer.empty, [], [], []⟩ :
    OfflineRecord Text) := by
  refine ⟨?_, ?_, ?_, ?_, ?_, ?_, ?_, ?_, ?_⟩ <;>
    simp [queuedFor, OfflineRecord.stored, OfflineServer.empty, OfflineQueue.textsFor,
      OfflineQueue.empty, OfflineManager.pendingId_empty]

theorem KeepsPackets.session (keeps : record.KeepsPackets) (event : SessionEvent) :
    (record.next (.session event)).KeepsPackets := by
  have routed : ∀ userId packet, record.Routed userId packet →
      (record.next (.session event)).Routed userId packet := fun _ _ isRouted => isRouted
  cases event with
  | connectAccepted connectionId userId nickname =>
      refine keeps.of_same_queue rfl rfl ?_ routed (fun _ member => member)
        (fun _ _ _ isPending => Or.inl isPending) ?_ keeps.inOrder
      · intro other
        simp [OfflineRecord.next, OfflineEvent.next, OfflineServer.sessionEvent,
          OfflineStoreCall.queuedText]
      · intro request member
        refine Or.inl ?_
        simpa [OfflineRecord.next, OfflineEvent.next, OfflineServer.sessionEvent] using member
  | disconnected connectionId =>
      refine keeps.of_same_queue rfl rfl (fun _ => rfl) routed (fun _ member => member) ?_
        (fun _ member => Or.inl member) keeps.inOrder
      intro userId msgId id isPending
      simp only [OfflineRecord.next, OfflineEvent.next, OfflineServer.sessionEvent,
        OfflineManager.pendingId_onUserDisconnected] at isPending
      split at isPending
      · cases isPending
      · exact Or.inl isPending
  | _ =>
      exact keeps.of_same_queue rfl rfl (fun _ => rfl) routed (fun _ member => member)
        (fun _ _ _ isPending => Or.inl isPending) (fun _ member => Or.inl member) keeps.inOrder

theorem KeepsPackets.messageReceivedAck (keeps : record.KeepsPackets)
    (connectionId msgId : String) :
    (record.next (.messageReceivedAck connectionId msgId)).KeepsPackets := by
  have handled := ackHandled record.server connectionId msgId
  refine keeps.of_same_queue handled.queue rfl ?_ (fun _ _ isRouted => isRouted) ?_ ?_ ?_
    keeps.inOrder
  · intro userId
    rcases handled.effect with ⟨_, sameStore, _⟩ | ⟨session, _, _, _, _, toStore⟩
    · exact congrArg (List.filterMap _) sameStore
    · refine (congrArg (List.filterMap _) toStore).trans ?_
      cases (record.server.offline.handleMessageReceivedAck session.userId msgId).2 <;>
        simp [OfflineStoreCall.queuedText]
  · intro result member
    exact handled.toMain ▸ member
  · intro userId other id isPending
    change (record.server.handleMessageReceivedAck connectionId msgId).offline.pendingId userId
      other = some id at isPending
    refine Or.inl ?_
    rcases handled.effect with ⟨sameOffline, _, _⟩ | ⟨session, _, _, _, offline, _⟩
    · exact sameOffline ▸ isPending
    · rw [offline, OfflineManager.pendingId_handleMessageReceivedAck] at isPending
      split at isPending
      · cases isPending
      · exact isPending
  · intro request member
    change _ ∈ (record.server.handleMessageReceivedAck connectionId msgId).toStore at member
    rcases handled.effect with ⟨_, sameStore, _⟩ | ⟨session, _, _, _, _, toStore⟩
    · exact Or.inl (sameStore ▸ member)
    · rw [toStore, List.mem_append] at member
      refine member.imp id ?_
      simp only [Option.mem_toList, Option.map_eq_some_iff]
      rintro ⟨added, produced, same⟩ id idIn
      cases same
      obtain ⟨_, _, marked, remembered, ids⟩ :=
        OfflineManager.mark_handleMessageReceivedAck _ _ _ _ produced
      rw [ids, List.mem_singleton] at idIn
      rw [idIn]
      exact (keeps.pending _ _ _ remembered).1.of_same_queue handled.queue
        fun _ _ isRouted => isRouted

omit [JsonDocument Text] in
theorem routed_append {load : String × List Packet} (loads : after.loads = record.loads ++ [load])
    (userId : String) (packet : Packet) :
    after.Routed userId packet ↔
      record.Routed userId packet ∨ (load.1 = userId ∧ packet ∈ load.2) := by
  simp [Routed, loads, or_and_right, exists_or]

/-- Of the packets of one user, the message id tells which it is. -/
theorem KeepsPackets.eq_of_msgId (keeps : record.KeepsPackets) {userId : String}
    {left right : Packet} (leftIn : left ∈ record.queuedFor userId)
    (rightIn : right ∈ record.queuedFor userId) (same : left.msgId = right.msgId) :
    left = right :=
  List.inj_on_of_nodup_map (keeps.distinct userId) leftIn rightIn same

section Loaded
variable {result : OfflineLoadResult Text} {rest : List (OfflineLoadResult Text)}

theorem loads_offlineLoaded (waiting : record.server.toMain = result :: rest) :
    (record.next .offlineLoaded).loads = record.loads ++
      [(result.userId, routedBy record.server.sessions record.server.offline result)] := by
  simp only [OfflineRecord.next, recordLoads, waiting]

theorem loads_offlineLoaded_nil (waiting : record.server.toMain = []) :
    (record.next .offlineLoaded).loads = record.loads := by
  simp only [OfflineRecord.next, recordLoads, waiting]

theorem server_offlineLoaded (waiting : record.server.toMain = result :: rest) :
    (record.next .offlineLoaded).server = { record.server with
      offline := (onOfflineLoaded (wireRouter record.server.sessions result.userId)
        record.server.offline record.server.wire result).1
      toStore := record.server.toStore ++
        ((onOfflineLoaded (wireRouter record.server.sessions result.userId)
          record.server.offline record.server.wire result).2.1.map .markOfflineDelivered).toList
      toMain := rest
      wire := (onOfflineLoaded (wireRouter record.server.sessions result.userId)
        record.server.offline record.server.wire result).2.2 } := by
  simp only [OfflineRecord.next, OfflineEvent.next, OfflineServer.offlineLoaded, waiting]

/-- A result holds packets that were queued for its user, and what its handling
routes or finds pending is routed. -/
theorem KeepsPackets.loadRecorded (keeps : record.KeepsPackets)
    (waiting : record.server.toMain = result :: rest) :
    ∃ packets, packets.Sublist (record.queuedFor result.userId) ∧
      result.packets.map Prod.snd = packets.map Packet.encode ∧
      LoadRecorded record.server.offline (record.next .offlineLoaded).server.offline
        (onOfflineLoaded (wireRouter record.server.sessions result.userId)
          record.server.offline record.server.wire result).2.1 result packets
        (routedBy record.server.sessions record.server.offline result)
        (record.server.sessions.findByUserId result.userId).isSome ∧
      ∀ packet ∈ packets,
        (packet ∈ routedBy record.server.sessions record.server.offline result ∨
          (record.next .offlineLoaded).server.offline.pendingId result.userId packet.msgId ≠
            none) →
        (record.next .offlineLoaded).Routed result.userId packet := by
  have member : result ∈ record.server.toMain := waiting ▸ List.mem_cons_self
  obtain ⟨packets, inQueue, sameTexts⟩ := List.sublist_map_iff.mp (keeps.loaded result member)
  have recorded := onOfflineLoaded_loadRecorded record.server.sessions record.server.offline
    record.server.wire result sameTexts fun packet packetIn =>
      keeps.named _ packet (inQueue.subset packetIn)
  have offline := congrArg OfflineServer.offline (server_offlineLoaded waiting)
  simp only at offline
  rw [← offline] at recorded
  refine ⟨packets, inQueue, sameTexts, recorded, ?_⟩
  have routedNow : ∀ packet ∈ routedBy record.server.sessions record.server.offline result,
      (record.next .offlineLoaded).Routed result.userId packet := fun packet routed =>
    (routed_append (loads_offlineLoaded waiting) _ _).mpr (Or.inr ⟨rfl, routed⟩)
  rintro packet packetIn (routed | isPending)
  · exact routedNow packet routed
  · obtain ⟨id, found⟩ := Option.ne_none_iff_exists'.mp isPending
    rcases recorded.pending _ _ id found with old | ⟨_, other, otherIn, same, _, routed⟩
    · obtain ⟨_, other, otherIn, same, routed⟩ := keeps.pending _ _ id old
      rw [keeps.eq_of_msgId (inQueue.subset packetIn) otherIn same.symm]
      exact (routed_append (loads_offlineLoaded waiting) _ _).mpr (Or.inl routed)
    · rw [keeps.eq_of_msgId (inQueue.subset packetIn) (inQueue.subset otherIn) same.symm]
      exact routedNow other routed

theorem KeepsPackets.offlineLoaded_nil (keeps : record.KeepsPackets)
    (waiting : record.server.toMain = []) : (record.next .offlineLoaded).KeepsPackets := by
  have server : (record.next .offlineLoaded).server = record.server :=
    OfflineServer.offlineLoaded_nil waiting
  have loads := loads_offlineLoaded_nil waiting
  refine keeps.of_same_queue (by rw [server]) rfl (fun _ => by rw [server]) ?_ ?_ ?_ ?_ ?_
  · intro userId packet routed
    rwa [Routed, loads]
  · rw [server]
    exact fun _ member => member
  · rw [server]
    exact fun _ _ _ isPending => Or.inl isPending
  · rw [server]
    exact fun _ member => Or.inl member
  · rw [loads]
    exact keeps.inOrder

theorem KeepsPackets.spent_of_loaded (keeps : record.KeepsPackets)
    (queue : after.server.queue = record.server.queue) {result : OfflineLoadResult Text}
    (member : result ∈ record.server.toMain) {id : Int} {packet : Packet}
    (rowIn : (id, packet.encode) ∈ result.packets)
    (routed : after.Routed result.userId packet) : after.Spent id := by
  obtain ⟨bound, rows⟩ := keeps.loadedRow result member _ rowIn
  refine ⟨queue ▸ bound, ?_⟩
  rw [queue]
  intro row rowStored sameId
  obtain ⟨recipient, text⟩ := rows row rowStored sameId
  exact ⟨packet, text, recipient ▸ routed⟩

theorem KeepsPackets.offlineLoaded (keeps : record.KeepsPackets) :
    (record.next .offlineLoaded).KeepsPackets := by
  cases waiting : record.server.toMain with
  | nil => exact keeps.offlineLoaded_nil waiting
  | cons result rest =>
      have member : result ∈ record.server.toMain := waiting ▸ List.mem_cons_self
      obtain ⟨packets, inQueue, sameTexts, recorded, routed⟩ := keeps.loadRecorded waiting
      have server := server_offlineLoaded waiting
      have loads := loads_offlineLoaded waiting
      have queue : (record.next .offlineLoaded).server.queue = record.server.queue := by
        rw [server]
      refine keeps.of_same_queue queue rfl ?_ ?_ ?_ ?_ ?_ ?_
      · intro userId
        rw [server]
        cases (onOfflineLoaded (wireRouter record.server.sessions result.userId)
          record.server.offline record.server.wire result).2.1 <;>
          simp [OfflineStoreCall.queuedText]
      · exact fun userId packet old => (routed_append loads _ _).mpr (Or.inl old)
      · intro other otherIn
        rw [server] at otherIn
        exact waiting ▸ List.mem_cons_of_mem _ otherIn
      · intro userId msgId rowId isPending
        refine (recorded.pending userId msgId rowId isPending).imp id ?_
        rintro ⟨rfl, packet, packetIn, sameId, rowIn, isRouted⟩
        have nowRouted := routed packet packetIn (Or.inl isRouted)
        exact ⟨keeps.spent_of_loaded queue member rowIn nowRouted, packet,
          inQueue.subset packetIn, sameId, nowRouted⟩
      · intro request requested
        rw [server] at requested
        simp only [List.mem_append, Option.mem_toList, Option.map_eq_some_iff] at requested
        refine requested.imp id ?_
        rintro ⟨added, produced, same⟩ id idIn
        cases same
        obtain ⟨packet, packetIn, rowIn, handled⟩ := recorded.marked request produced id idIn
        exact keeps.spent_of_loaded queue member rowIn (routed packet packetIn handled)
      · intro load loadIn
        rw [loads] at loadIn
        rcases List.mem_append.mp loadIn with old | new
        · exact keeps.inOrder load old
        · rw [List.mem_singleton.mp new]
          exact recorded.inOrder.trans inQueue

end Loaded

/-! ### Queueing a packet -/

theorem queues_eq (record : OfflineRecord Text) (userId : String) (packet : Packet) :
    record.Queues userId packet = (record.server.sessions.findByUserId userId).isNone := by
  unfold Queues
  cases found : record.server.sessions.findByUserId userId with
  | none => rw [enqueueIfOffline_offline _ _ _ found]; rfl
  | some session => rw [enqueueIfOffline_online _ _ _ session found]; rfl

section Written
variable {userId : String} {packet : Packet}

theorem toStore_written (mapped : record.Queues userId packet = false) :
    (record.next (.enqueueIfOffline userId packet)).server.toStore = record.server.toStore := by
  have none : (enqueueIfOffline Text record.server.sessions userId packet).2 = none :=
    Option.isSome_eq_false_iff.mp mapped |> Option.isNone_iff_eq_none.mp
  simp [OfflineRecord.next, OfflineEvent.next, OfflineServer.enqueue, none]

theorem queued_written (mapped : record.Queues userId packet = false) :
    (record.next (.enqueueIfOffline userId packet)).queued = record.queued := by
  simp [OfflineRecord.next, recordQueued, mapped]

theorem KeepsPackets.written (keeps : record.KeepsPackets)
    (mapped : record.Queues userId packet = false) :
    (record.next (.enqueueIfOffline userId packet)).KeepsPackets := by
  have toStore := toStore_written mapped
  exact keeps.of_same_queue rfl (queued_written mapped) (fun _ => by rw [toStore])
    (fun _ _ isRouted => isRouted) (fun _ member => member)
    (fun _ _ _ isPending => Or.inl isPending) (fun _ member => Or.inl (toStore ▸ member))
    keeps.inOrder

end Written

section Queued
variable {userId : String} {packet : Packet}

theorem toStore_queued (queues : record.Queues userId packet = true) :
    (record.next (.enqueueIfOffline userId packet)).server.toStore =
      record.server.toStore ++ [.queueOffline ⟨userId, packet.encode⟩] := by
  rw [queues_eq, Option.isNone_iff_eq_none] at queues
  simp [OfflineRecord.next, OfflineEvent.next, OfflineServer.enqueue,
    enqueueIfOffline_offline record.server.sessions userId packet queues]

theorem queuedFor_queued (queues : record.Queues userId packet = true) (other : String) :
    (record.next (.enqueueIfOffline userId packet)).queuedFor other =
      record.queuedFor other ++ if userId = other then [packet] else [] := by
  have queued : (record.next (.enqueueIfOffline userId packet)).queued =
      record.queued ++ [(userId, packet)] := if_pos queues
  unfold queuedFor
  rw [queued, List.filter_append, List.map_append]
  by_cases same : userId = other <;> simp [same]

theorem queuedFor_grows (queues : record.Queues userId packet = true) (other : String) :
    (record.queuedFor other).Sublist
      ((record.next (.enqueueIfOffline userId packet)).queuedFor other) := by
  rw [queuedFor_queued queues]
  exact List.sublist_append_left _ _

theorem mem_queuedFor_queued (queues : record.Queues userId packet = true) {other : String}
    {earlier : Packet}
    (member : earlier ∈ (record.next (.enqueueIfOffline userId packet)).queuedFor other) :
    earlier ∈ record.queuedFor other ∨ (other = userId ∧ earlier = packet) := by
  rw [queuedFor_queued queues, List.mem_append] at member
  refine member.imp id ?_
  intro added
  split at added
  · rename_i same
    exact ⟨same.symm, List.mem_singleton.mp added⟩
  · cases added

theorem stored_queued (queues : record.Queues userId packet = true) (other : String) :
    (record.next (.enqueueIfOffline userId packet)).stored other =
      record.stored other ++ if userId = other then [packet.encode] else [] := by
  unfold OfflineRecord.stored
  rw [toStore_queued queues, List.filterMap_append, ← List.append_assoc]
  congr 1
  by_cases same : userId = other <;> simp [OfflineStoreCall.queuedText, same]

theorem KeepsPackets.queued (keeps : record.KeepsPackets)
    (queues : record.Queues userId packet = true) (named : packet.msgId ≠ "")
    (fresh : ∀ other ∈ record.queuedFor userId, other.msgId ≠ packet.msgId) :
    (record.next (.enqueueIfOffline userId packet)).KeepsPackets := by
  have queuedFor := queuedFor_queued queues
  have stored := stored_queued queues
  constructor
  · intro other earlier member
    rcases mem_queuedFor_queued queues member with old | ⟨_, rfl⟩
    · exact keeps.named other earlier old
    · exact named
  · intro other
    rw [queuedFor, List.map_append, List.nodup_append]
    refine ⟨keeps.distinct other, by split <;> simp, ?_⟩
    intro msgId old other' added same
    subst same
    obtain ⟨earlier, earlierIn, rfl⟩ := List.mem_map.mp old
    split at added
    · rename_i sameUser
      rw [List.map_singleton, List.mem_singleton] at added
      exact fresh earlier (sameUser ▸ earlierIn) added
    · cases added
  · intro other
    rw [queuedFor, stored, List.map_append]
    apply (keeps.stored other).append
    split
    · exact List.Sublist.refl _
    · exact List.Sublist.refl _
  · intro other earlier member
    rw [stored]
    rcases mem_queuedFor_queued queues member with old | ⟨rfl, rfl⟩
    · exact (keeps.kept other earlier old).imp id (List.mem_append_left _)
    · exact Or.inr (List.mem_append_right _ (by simp))
  · intro result member
    exact (keeps.loaded result member).trans ((queuedFor_grows queues _).map _)
  · exact keeps.loadedRow
  · intro other msgId id isPending
    obtain ⟨spent, earlier, earlierIn, found⟩ := keeps.pending other msgId id isPending
    exact ⟨spent, earlier, (queuedFor_grows queues other).subset earlierIn, found⟩
  · intro request member
    rw [toStore_queued queues, List.mem_append, List.mem_singleton] at member
    rcases member with old | new
    · exact keeps.marked request old
    · cases new
  · intro load member
    exact (keeps.inOrder load member).trans (queuedFor_grows queues _)

end Queued

/-! ### The database thread -/

def withServer (record : OfflineRecord Text) (server : OfflineServer Text) : OfflineRecord Text :=
  { record with server := server }

theorem KeepsPackets.withSteady (keeps : record.KeepsPackets) (steady : List String) :
    ({ record with steady := steady } : OfflineRecord Text).KeepsPackets :=
  ⟨keeps.named, keeps.distinct, keeps.stored, keeps.kept, keeps.loaded, keeps.loadedRow,
    keeps.pending, keeps.marked, keeps.inOrder⟩

section DatabaseThread
variable {rest : List (OfflineStoreCall Text)}

theorem KeepsPackets.queueOffline (keeps : record.KeepsPackets)
    {request : OfflineEnqueueRequest Text}
    (waiting : record.server.toStore = .queueOffline request :: rest) :
    (record.withServer { record.server with
      toStore := rest
      queue := record.server.queue.queueOffline true request }).KeepsPackets := by
  let added : OfflineRow Text :=
    ⟨record.server.queue.lastId + 1, request.recipientUserId, request.packetJson⟩
  have oldRow : ∀ row ∈ record.server.queue.rows ++ [added],
      row.id ≤ record.server.queue.lastId → row ∈ record.server.queue.rows := by
    intro row member bound
    rcases List.mem_append.mp member with old | new
    · exact old
    · rw [List.mem_singleton.mp new] at bound
      exact absurd bound (Int.not_le.mpr (Int.lt_add_one_of_le (Int.le_refl _)))
  have spent : ∀ id, record.Spent id → (record.withServer { record.server with
      toStore := rest
      queue := record.server.queue.queueOffline true request }).Spent id := by
    intro id spent
    refine ⟨Int.le_add_one spent.1, ?_⟩
    intro row member sameId
    exact spent.2 row (oldRow row member (sameId ▸ spent.1)) sameId
  have stored : ∀ userId, (record.withServer { record.server with
      toStore := rest
      queue := record.server.queue.queueOffline true request }).stored userId =
        record.stored userId := by
    intro userId
    have rows : (record.server.queue.queueOffline true request).rows =
        record.server.queue.rows ++ [added] := rfl
    simp only [OfflineRecord.stored, withServer, OfflineQueue.textsFor, rows, waiting]
    by_cases same : request.recipientUserId = userId <;>
      simp [added, same, OfflineStoreCall.queuedText]
  refine ⟨keeps.named, keeps.distinct, ?_, ?_, keeps.loaded, ?_, ?_, ?_, keeps.inOrder⟩
  · intro userId
    rw [stored]
    exact keeps.stored userId
  · intro userId packet member
    rw [stored]
    exact keeps.kept userId packet member
  · intro result member packet packetIn
    obtain ⟨bound, rows⟩ := keeps.loadedRow result member packet packetIn
    refine ⟨Int.le_add_one bound, ?_⟩
    intro row rowIn sameId
    exact rows row (oldRow row rowIn (sameId ▸ bound)) sameId
  · intro userId msgId id isPending
    exact (keeps.pending userId msgId id isPending).imp (spent id) fun found => found
  · intro marked member id idIn
    exact spent id (keeps.marked marked (waiting ▸ List.mem_cons_of_mem _ member) id idIn)

theorem KeepsPackets.loadOffline (keeps : record.KeepsPackets) {request : OfflineLoadRequest}
    (waiting : record.server.toStore = .loadOffline request :: rest) :
    (record.withServer { record.server with
      toStore := rest
      toMain := record.server.toMain ++
        [record.server.queue.loadOffline true request] }).KeepsPackets := by
  have stored : ∀ userId, (record.withServer { record.server with
      toStore := rest
      toMain := record.server.toMain ++
        [record.server.queue.loadOffline true request] }).stored userId =
        record.stored userId := by
    intro userId
    simp only [OfflineRecord.stored, withServer, waiting]
    rw [List.filterMap_cons_none rfl]
  have shown : (record.server.queue.loadOffline true request).packets.map Prod.snd =
      record.server.queue.textsFor request.userId := by
    simp [OfflineQueue.loadOffline, OfflineQueue.textsFor]
  refine ⟨keeps.named, keeps.distinct, ?_, ?_, ?_, ?_, keeps.pending, ?_, keeps.inOrder⟩
  · intro userId
    rw [stored]
    exact keeps.stored userId
  · intro userId packet member
    rw [stored]
    exact keeps.kept userId packet member
  · intro result member
    rcases List.mem_append.mp member with old | new
    · exact keeps.loaded result old
    · rw [List.mem_singleton.mp new, shown]
      exact (List.sublist_append_left _ _).trans (keeps.stored request.userId)
  · intro result member packet packetIn
    rcases List.mem_append.mp member with old | new
    · exact keeps.loadedRow result old packet packetIn
    · rw [List.mem_singleton.mp new] at packetIn ⊢
      obtain ⟨row, rowIn, recipient, rfl⟩ :=
        record.server.queue.mem_loadOffline true request packet packetIn
      refine ⟨record.server.queue.bounded row rowIn, ?_⟩
      intro other otherIn sameId
      rw [record.server.queue.eq_of_id otherIn rowIn sameId]
      exact ⟨recipient, rfl⟩
  · intro marked member
    exact keeps.marked marked (waiting ▸ List.mem_cons_of_mem _ member)

theorem KeepsPackets.markOfflineDelivered (keeps : record.KeepsPackets)
    {request : DeliveryMarkRequest}
    (waiting : record.server.toStore = .markOfflineDelivered request :: rest) :
    (record.withServer { record.server with
      toStore := rest
      queue := record.server.queue.markOfflineDelivered true request }).KeepsPackets := by
  have rows := record.server.queue.rows_markOfflineDelivered request
  have sameBound := record.server.queue.lastId_markOfflineDelivered true request
  have oldRow : ∀ row ∈ (record.server.queue.markOfflineDelivered true request).rows,
      row ∈ record.server.queue.rows :=
    record.server.queue.mem_markOfflineDelivered true request
  have requested : OfflineStoreCall.markOfflineDelivered request ∈ record.server.toStore :=
    waiting ▸ List.mem_cons_self
  have transit : ∀ userId, record.server.toStore.filterMap (OfflineStoreCall.queuedText userId) =
      rest.filterMap (OfflineStoreCall.queuedText userId) := by
    intro userId
    rw [waiting, List.filterMap_cons_none rfl]
  have spent : ∀ id, record.Spent id → (record.withServer { record.server with
      toStore := rest
      queue := record.server.queue.markOfflineDelivered true request }).Spent id := by
    intro id spent
    refine ⟨sameBound ▸ spent.1, ?_⟩
    intro row member
    exact spent.2 row (oldRow row member)
  refine ⟨keeps.named, keeps.distinct, ?_, ?_, keeps.loaded, ?_, ?_, ?_, keeps.inOrder⟩
  · intro userId
    refine List.Sublist.trans ?_ (keeps.stored userId)
    simp only [OfflineRecord.stored, withServer, OfflineQueue.textsFor, rows, transit]
    exact ((List.filter_sublist.filter _).map _).append (List.Sublist.refl _)
  · intro userId packet member
    rcases keeps.kept userId packet member with routed | stored
    · exact Or.inl routed
    · rcases List.mem_append.mp stored with inTable | inTransit
      · obtain ⟨row, rowIn, text⟩ := List.mem_map.mp inTable
        obtain ⟨rowStored, recipient⟩ := List.mem_filter.mp rowIn
        by_cases doomed : row.id ∈ request.ids
        · obtain ⟨other, otherText, routed⟩ :=
            (keeps.marked request requested row.id doomed).2 row rowStored rfl
          have same : packet = other := encode_injective (text.symm.trans otherText)
          rw [of_decide_eq_true recipient, ← same] at routed
          exact Or.inl routed
        · refine Or.inr (List.mem_append_left _ (List.mem_map.mpr ⟨row, ?_, text⟩))
          refine List.mem_filter.mpr ⟨?_, recipient⟩
          simp only [withServer, rows]
          exact List.mem_filter.mpr ⟨rowStored, decide_eq_true doomed⟩
      · exact Or.inr (List.mem_append_right _ (transit userId ▸ inTransit))
  · intro result member packet packetIn
    obtain ⟨bound, rows⟩ := keeps.loadedRow result member packet packetIn
    exact ⟨sameBound ▸ bound, fun row rowIn => rows row (oldRow row rowIn)⟩
  · intro userId msgId id isPending
    exact (keeps.pending userId msgId id isPending).imp (spent id) fun found => found
  · intro marked member id idIn
    exact spent id (keeps.marked marked (waiting ▸ List.mem_cons_of_mem _ member) id idIn)

end DatabaseThread

theorem KeepsPackets.storeStep (keeps : record.KeepsPackets) :
    (record.next (.storeStep true)).KeepsPackets := by
  have steady : record.next (.storeStep true) =
      { record.withServer (record.server.storeStep true) with
        steady := (record.next (.storeStep true)).steady } := rfl
  rw [steady]
  apply KeepsPackets.withSteady
  unfold OfflineServer.storeStep
  cases waiting : record.server.toStore with
  | nil => exact keeps
  | cons call rest =>
      cases call with
      | queueOffline request => exact keeps.queueOffline waiting
      | loadOffline request => exact keeps.loadOffline waiting
      | markOfflineDelivered request => exact keeps.markOfflineDelivered waiting

theorem KeepsPackets.next (keeps : record.KeepsPackets) {event : OfflineEvent}
    (assumed : record.Assumed event) : (record.next event).KeepsPackets := by
  cases event with
  | session event => exact keeps.session event
  | enqueueIfOffline userId packet =>
      cases queues : record.Queues userId packet with
      | true => exact keeps.queued queues (assumed queues).1 (assumed queues).2
      | false => exact keeps.written queues
  | messageReceivedAck connectionId msgId => exact keeps.messageReceivedAck connectionId msgId
  | storeStep ok =>
      cases assumed
      exact keeps.storeStep
  | offlineLoaded => exact keeps.offlineLoaded

theorem keepsPackets_of_reachable (record : OfflineRecord Text)
    (reached : (offlineRecordSystem Text).Reachable record) : record.KeepsPackets :=
  reached.invariant keepsPackets_initial (fun _ _ _ keeps enabled => keeps.next enabled.2) record

end OfflineRecord

end Records
end ShirohaChat
