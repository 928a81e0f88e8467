import ShirohaChat.Server.OfflineRecord

/-!
# Packets come out of the queue as they went in

Every text that the queue hands over, to a load or to the wire, decodes to a
packet that was queued for the same user.  Nothing is assumed about message ids
or about the statements of the database.
-/

set_option autoImplicit false

namespace ShirohaChat

open Transition

section RoundTrip
variable {Text : Type} [JsonDocument Text]

theorem map_decode_encode (packets : List Packet) :
    (packets.map (Packet.encode : Packet → Text)).map decode = packets.map Except.ok := by
  rw [List.map_map]
  apply List.map_congr_left
  intro packet _
  exact decode_encode packet

/-! ## What a load result puts on the wire -/

structure RowsWritten (manager : SessionManager) (userId : String) (rows : List (Int × Text))
    (wire after : List (SocketWrite Text)) (routed routedAfter : List Packet) : Prop where
  packets : ∃ now, routedAfter = routed ++ now ∧
    after = wire ++ now.flatMap (fun packet => (routeToUser Text manager userId packet).2) ∧
    (now.map Except.ok).Sublist (rows.map fun row => decode row.2)

theorem RowsWritten.none (manager : SessionManager) (userId : String) (rows : List (Int × Text))
    (wire : List (SocketWrite Text)) (routed : List Packet) :
    RowsWritten manager userId rows wire wire routed routed :=
  ⟨[], by simp, by simp, List.nil_sublist _⟩

theorem RowsWritten.append {manager : SessionManager} {userId : String}
    {rows rest : List (Int × Text)} {wire between after : List (SocketWrite Text)}
    {routed routedBetween routedAfter : List Packet}
    (first : RowsWritten manager userId rows wire between routed routedBetween)
    (second : RowsWritten manager userId rest between after routedBetween routedAfter) :
    RowsWritten manager userId (rows ++ rest) wire after routed routedAfter := by
  obtain ⟨now, rfl, rfl, inOrder⟩ := first.packets
  obtain ⟨later, rfl, rfl, laterInOrder⟩ := second.packets
  refine ⟨now ++ later, by rw [List.append_assoc], ?_, ?_⟩
  · rw [List.flatMap_append, List.append_assoc]
  · rw [List.map_append, List.map_append]
    exact inOrder.append laterInOrder

variable (manager : SessionManager)

theorem deliverRow_written (userId : String) (writing : DeliveryLoop (List (SocketWrite Text)))
    (recording : DeliveryLoop (List Packet)) (row : Int × Text)
    (offline : writing.offline = recording.offline) :
    RowsWritten manager userId [row] writing.router
      (deliverRow (wireRouter manager userId) userId writing row).1.router recording.router
      (deliverRow (recordingRouter Text manager userId) userId recording row).1.router := by
  unfold deliverRow
  rw [offline]
  cases decoded : decode row.2 with
  | error problem => exact RowsWritten.none manager userId _ _ _
  | ok packet =>
      have read : ([packet].map Except.ok).Sublist ([row].map fun row => decode row.2) := by
        simp [decoded]
      have sent : (manager.findByUserId userId).isSome = true →
          RowsWritten manager userId [row] writing.router
            (writing.router ++ (routeToUser Text manager userId packet).2)
            recording.router (recording.router ++ [packet]) :=
        fun _ => ⟨[packet], rfl, by simp, read⟩
      have nothing : (manager.findByUserId userId).isSome = false →
          RowsWritten manager userId [row] writing.router
            (writing.router ++ (routeToUser Text manager userId packet).2)
            recording.router recording.router := by
        intro unmapped
        have unsent : (routeToUser Text manager userId packet).2 = [] := by
          rw [routeToUser, Option.isNone_iff_eq_none.mp (Option.isSome_eq_false_iff.mp unmapped)]
        rw [unsent, List.append_nil]
        exact RowsWritten.none manager userId _ _ _
      simp only [wireRouter, recordingRouter, routeToUser_fst]
      split
      · exact RowsWritten.none manager userId _ _ _
      split
      · split
        · exact RowsWritten.none manager userId _ _ _
        · cases mapped : (manager.findByUserId userId).isSome with
          | true => exact sent mapped
          | false => exact nothing mapped
      · cases mapped : (manager.findByUserId userId).isSome with
        | true => exact sent mapped
        | false => exact nothing mapped

theorem deliverRows_written (userId : String) (rows : List (Int × Text)) :
    ∀ (writing : DeliveryLoop (List (SocketWrite Text))) (recording : DeliveryLoop (List Packet)),
      writing.offline = recording.offline → writing.removableIds = recording.removableIds →
      RowsWritten manager userId rows writing.router
        (deliverRows (wireRouter manager userId) userId rows writing).router recording.router
        (deliverRows (recordingRouter Text manager userId) userId rows recording).router := by
  induction rows with
  | nil => exact fun _ _ _ _ => RowsWritten.none manager userId _ _ _
  | cons row rest ih =>
      intro writing recording offline removable
      have round := deliverRow_written manager userId writing recording row offline
      have alike : ∀ (wire : List (SocketWrite Text)) (routed : List Packet) (packet : Packet),
          (wireRouter manager userId wire packet).1 =
            (recordingRouter Text manager userId routed packet).1 := fun _ _ _ => rfl
      obtain ⟨sameOffline, sameRemovable, sameGoesOn⟩ :=
        deliverRow_congr userId alike writing recording row offline removable
      rw [deliverRows_cons, deliverRows_cons, sameGoesOn]
      split
      · exact round.append (ih _ _ sameOffline sameRemovable)
      · exact round.append (RowsWritten.none manager userId rest _ _)

/-- A load result writes the packets it routes, which are packets its rows
decode to, in the order of the rows. -/
theorem onOfflineLoaded_written (offline : OfflineManager) (wire : List (SocketWrite Text))
    (result : OfflineLoadResult Text) :
    (onOfflineLoaded (wireRouter manager result.userId) offline wire result).2.2 =
      wire ++ (routedBy manager offline result).flatMap
        (fun packet => (routeToUser Text manager result.userId packet).2) ∧
    ((routedBy manager offline result).map Except.ok).Sublist
      (result.packets.map fun row => decode row.2) := by
  unfold routedBy onOfflineLoaded
  split
  · exact ⟨by simp, List.nil_sublist _⟩
  · obtain ⟨now, routed, written, inOrder⟩ :=
      (deliverRows_written manager result.userId result.packets ⟨offline, [], wire⟩
        ⟨offline, [], []⟩ rfl rfl).packets
    rw [List.nil_append] at routed
    constructor
    · simp only [routed, written]
    · simp only [routed]
      exact inOrder

/-- What is written for routed packets decodes to packets among them. -/
theorem writes_decode (userId : String) (packets : List Packet) :
    ((packets.flatMap fun packet => (routeToUser Text manager userId packet).2).map
      fun write => decode write.text).Sublist (packets.map Except.ok) := by
  induction packets with
  | nil => exact List.Sublist.refl _
  | cons packet rest ih =>
      rw [List.flatMap_cons, List.map_append, List.map_cons]
      have here : ((routeToUser Text manager userId packet).2.map
          fun write => decode write.text).Sublist [Except.ok packet] := by
        unfold routeToUser ClientSession.sendPacket
        split
        · exact List.nil_sublist _
        · split
          · rw [List.map_singleton, decode_encode]
          · exact List.nil_sublist _
      exact here.append ih

/-! ## Runs -/

/-- The record of the offline server without any assumption about a step. -/
def offlineLogSystem (Text : Type) [JsonDocument Text] :
    System (OfflineRecord Text) OfflineEvent where
  initial := ⟨OfflineServer.empty, [], [], []⟩
  enabled _ _ := True
  next := OfflineRecord.next

namespace OfflineRecord

structure CarriesPackets (record : OfflineRecord Text) : Prop where
  stored : ∀ userId,
    (record.stored userId).Sublist ((record.queuedFor userId).map Packet.encode)
  loaded : ∀ result ∈ record.server.toMain, (result.packets.map Prod.snd).Sublist
    ((record.queuedFor result.userId).map Packet.encode)
  routed : ∀ load ∈ record.loads, load.2.Sublist (record.queuedFor load.1)

variable {record after : OfflineRecord Text}

theorem carriesPackets_initial : CarriesPackets (⟨OfflineServer.empty, [], [], []⟩ :
    OfflineRecord Text) := by
  refine ⟨?_, ?_, ?_⟩ <;>
    simp [queuedFor, OfflineRecord.stored, OfflineServer.empty, OfflineQueue.textsFor,
      OfflineQueue.empty]

theorem CarriesPackets.of_same_queued (carries : record.CarriesPackets)
    (queued : after.queued = record.queued)
    (stored : ∀ userId, (after.stored userId).Sublist (record.stored userId))
    (loaded : ∀ result ∈ after.server.toMain, result ∈ record.server.toMain ∨
      (result.packets.map Prod.snd).Sublist (record.stored result.userId))
    (routed : ∀ load ∈ after.loads, load.2.Sublist (record.queuedFor load.1)) :
    after.CarriesPackets := by
  have sameQueued : ∀ userId, after.queuedFor userId = record.queuedFor userId := by
    intro userId
    rw [queuedFor, queued]
    rfl
  refine ⟨?_, ?_, ?_⟩
  · intro userId
    rw [sameQueued]
    exact (stored userId).trans (carries.stored userId)
  · intro result member
    rw [sameQueued]
    rcases loaded result member with old | new
    · exact carries.loaded result old
    · exact new.trans (carries.stored result.userId)
  · intro load member
    rw [sameQueued]
    exact routed load member

omit [JsonDocument Text] in
theorem stored_of_same_queue (queue : after.server.queue = record.server.queue)
    {calls : List (OfflineStoreCall Text)}
    (toStore : after.server.toStore = record.server.toStore ++ calls)
    (quiet : ∀ call ∈ calls, ∀ userId, call.queuedText userId = none) (userId : String) :
    after.stored userId = record.stored userId := by
  have added : calls.filterMap (OfflineStoreCall.queuedText userId) = [] :=
    List.filterMap_eq_nil_iff.mpr fun call member => quiet call member userId
  unfold OfflineRecord.stored
  rw [queue, toStore, List.filterMap_append, added, List.append_nil]

theorem CarriesPackets.session (carries : record.CarriesPackets) (event : SessionEvent) :
    (record.next (.session event)).CarriesPackets := by
  have same : ∀ calls : List (OfflineStoreCall Text),
      (∀ call ∈ calls, ∀ userId, call.queuedText userId = none) →
      (record.server.sessionEvent event).queue = record.server.queue →
      (record.server.sessionEvent event).toStore = record.server.toStore ++ calls →
      (record.server.sessionEvent event).toMain = record.server.toMain →
      (record.next (.session event)).CarriesPackets := by
    intro calls quiet queue toStore toMain
    refine carries.of_same_queued rfl ?_ ?_ carries.routed
    · intro userId
      have stored : (record.next (.session event)).stored userId = record.stored userId :=
        stored_of_same_queue queue toStore quiet userId
      rw [stored]
    · intro result member
      exact Or.inl (toMain ▸ member)
  cases event with
  | connectAccepted connectionId userId nickname =>
      exact same [.loadOffline ⟨userId⟩] (by simp [OfflineStoreCall.queuedText]) rfl rfl rfl
  | _ => exact same [] (List.forall_mem_nil _) rfl (List.append_nil _).symm rfl

theorem CarriesPackets.messageReceivedAck (carries : record.CarriesPackets)
    (connectionId msgId : String) :
    (record.next (.messageReceivedAck connectionId msgId)).CarriesPackets := by
  have handled := ackHandled record.server connectionId msgId
  have calls : ∃ calls : List (OfflineStoreCall Text),
      (record.server.handleMessageReceivedAck connectionId msgId).toStore =
        record.server.toStore ++ calls ∧
      ∀ call ∈ calls, ∀ userId, call.queuedText userId = none := by
    rcases handled.effect with ⟨_, same, _⟩ | ⟨session, _, _, _, _, toStore⟩
    · exact ⟨[], by rw [same, List.append_nil], List.forall_mem_nil _⟩
    · refine ⟨_, toStore, ?_⟩
      intro call member userId
      obtain ⟨request, _, rfl⟩ := Option.map_eq_some_iff.mp (Option.mem_toList.mp member)
      rfl
  obtain ⟨calls, toStore, quiet⟩ := calls
  refine carries.of_same_queued rfl ?_ ?_ carries.routed
  · intro userId
    have stored : (record.next (.messageReceivedAck connectionId msgId)).stored userId =
        record.stored userId := stored_of_same_queue handled.queue toStore quiet userId
    rw [stored]
  · intro result member
    exact Or.inl (handled.toMain ▸ member)

theorem CarriesPackets.enqueue (carries : record.CarriesPackets) (userId : String)
    (packet : Packet) : (record.next (.enqueueIfOffline userId packet)).CarriesPackets := by
  cases queues : record.Queues userId packet with
  | false =>
      have toStore : (record.next (.enqueueIfOffline userId packet)).server.toStore =
          record.server.toStore ++ [] := (toStore_written queues).trans (List.append_nil _).symm
      have queue : (record.next (.enqueueIfOffline userId packet)).server.queue =
          record.server.queue := rfl
      refine carries.of_same_queued (queued_written queues) ?_
        (fun _ member => Or.inl member) carries.routed
      intro other
      have stored : (record.next (.enqueueIfOffline userId packet)).stored other =
          record.stored other :=
        stored_of_same_queue queue toStore (fun _ member => nomatch member) other
      rw [stored]
  | true =>
      have grows := queuedFor_grows queues
      refine ⟨?_, ?_, ?_⟩
      · intro other
        rw [queuedFor_queued queues, stored_queued queues, List.map_append]
        apply (carries.stored other).append
        split
        · exact List.Sublist.refl _
        · exact List.Sublist.refl _
      · intro result member
        exact (carries.loaded result member).trans ((grows _).map _)
      · intro load member
        exact (carries.routed load member).trans (grows _)

section DatabaseThread
variable {rest : List (OfflineStoreCall Text)}

/-- A failed insertion loses the text, a successful one moves it. -/
theorem CarriesPackets.queueOffline (carries : record.CarriesPackets)
    {request : OfflineEnqueueRequest Text}
    (waiting : record.server.toStore = .queueOffline request :: rest) (ok : Bool) :
    (record.next (.storeStep ok)).CarriesPackets := by
  have server : (record.next (.storeStep ok)).server = { record.server with
      toStore := rest, queue := record.server.queue.queueOffline ok request } :=
    OfflineServer.storeStep_queueOffline waiting ok
  refine carries.of_same_queued rfl ?_ ?_ carries.routed
  · intro userId
    rw [OfflineRecord.stored, OfflineRecord.stored, server, waiting]
    cases ok <;> by_cases isRecipient : request.recipientUserId = userId <;>
      simp [OfflineQueue.queueOffline, OfflineQueue.textsFor, OfflineStoreCall.queuedText,
        isRecipient]
  · rw [server]
    exact fun _ member => Or.inl member

theorem CarriesPackets.loadOffline (carries : record.CarriesPackets)
    {request : OfflineLoadRequest}
    (waiting : record.server.toStore = .loadOffline request :: rest) (ok : Bool) :
    (record.next (.storeStep ok)).CarriesPackets := by
  have server : (record.next (.storeStep ok)).server = { record.server with
      toStore := rest
      toMain := record.server.toMain ++ [record.server.queue.loadOffline ok request] } :=
    OfflineServer.storeStep_loadOffline waiting ok
  have stored : ∀ userId, record.stored userId = record.server.queue.textsFor userId ++
      rest.filterMap (OfflineStoreCall.queuedText userId) := by
    intro userId
    rw [OfflineRecord.stored, waiting, List.filterMap_cons_none rfl]
  refine carries.of_same_queued rfl ?_ ?_ carries.routed
  · intro userId
    rw [stored, OfflineRecord.stored, server]
  · rw [server]
    intro result member
    refine (List.mem_append.mp member).imp id ?_
    intro new
    rw [List.mem_singleton.mp new]
    cases ok with
    | false => exact List.nil_sublist _
    | true =>
        have shown : (record.server.queue.loadOffline true request).packets.map Prod.snd =
            record.server.queue.textsFor request.userId := by
          simp [OfflineQueue.loadOffline, OfflineQueue.textsFor]
        rw [shown, stored]
        exact List.sublist_append_left _ _

theorem CarriesPackets.markOfflineDelivered (carries : record.CarriesPackets)
    {request : DeliveryMarkRequest}
    (waiting : record.server.toStore = .markOfflineDelivered request :: rest) (ok : Bool) :
    (record.next (.storeStep ok)).CarriesPackets := by
  have server : (record.next (.storeStep ok)).server = { record.server with
      toStore := rest
      queue := record.server.queue.markOfflineDelivered ok request } :=
    OfflineServer.storeStep_markOfflineDelivered waiting ok
  refine carries.of_same_queued rfl ?_ ?_ carries.routed
  · intro userId
    rw [OfflineRecord.stored, OfflineRecord.stored, server, waiting, List.filterMap_cons_none rfl]
    refine List.Sublist.append ?_ (List.Sublist.refl _)
    unfold OfflineQueue.textsFor OfflineQueue.markOfflineDelivered
    split
    · exact (List.filter_sublist.filter _).map _
    · exact List.Sublist.refl _
  · rw [server]
    exact fun _ member => Or.inl member

end DatabaseThread

theorem CarriesPackets.storeStep (carries : record.CarriesPackets) (ok : Bool) :
    (record.next (.storeStep ok)).CarriesPackets := by
  cases waiting : record.server.toStore with
  | nil =>
      have server : (record.next (.storeStep ok)).server = record.server :=
        OfflineServer.storeStep_nil waiting ok
      refine carries.of_same_queued rfl ?_ ?_ carries.routed
      · intro userId
        rw [OfflineRecord.stored, server]
        exact List.Sublist.refl _
      · rw [server]
        exact fun _ member => Or.inl member
  | cons call rest =>
      cases call with
      | queueOffline request => exact carries.queueOffline waiting ok
      | loadOffline request => exact carries.loadOffline waiting ok
      | markOfflineDelivered request => exact carries.markOfflineDelivered waiting ok

theorem CarriesPackets.routedBy (carries : record.CarriesPackets)
    {result : OfflineLoadResult Text} (waiting : result ∈ record.server.toMain) :
    (routedBy record.server.sessions record.server.offline result).Sublist
      (record.queuedFor result.userId) := by
  have read := (onOfflineLoaded_written record.server.sessions record.server.offline
    record.server.wire result).2
  have decoded : (result.packets.map fun row => decode row.2).Sublist
      ((record.queuedFor result.userId).map Except.ok) := by
    have texts := (carries.loaded result waiting).map decode
    rwa [List.map_map, map_decode_encode] at texts
  obtain ⟨packets, inOrder, same⟩ := List.sublist_map_iff.mp (read.trans decoded)
  have injective : Function.Injective (List.map (Except.ok : Packet → Except String Packet)) :=
    List.map_injective_iff.mpr fun _ _ => Except.ok.inj
  rwa [injective same]

theorem CarriesPackets.offlineLoaded (carries : record.CarriesPackets) :
    (record.next .offlineLoaded).CarriesPackets := by
  cases waiting : record.server.toMain with
  | nil =>
      have server : (record.next .offlineLoaded).server = record.server :=
        OfflineServer.offlineLoaded_nil waiting
      have loads := loads_offlineLoaded_nil waiting
      refine carries.of_same_queued rfl ?_ ?_ ?_
      · intro userId
        rw [OfflineRecord.stored, server]
        exact List.Sublist.refl _
      · rw [server]
        exact fun _ member => Or.inl member
      · rw [loads]
        exact carries.routed
  | cons result rest =>
      have member : result ∈ record.server.toMain := waiting ▸ List.mem_cons_self
      have server := server_offlineLoaded waiting
      refine carries.of_same_queued rfl ?_ ?_ ?_
      · intro userId
        have queue : (record.next .offlineLoaded).server.queue = record.server.queue := by
          rw [server]
        have toStore := congrArg OfflineServer.toStore server
        have stored : (record.next .offlineLoaded).stored userId = record.stored userId := by
          refine stored_of_same_queue queue toStore ?_ userId
          intro call member userId
          obtain ⟨request, _, rfl⟩ := Option.map_eq_some_iff.mp (Option.mem_toList.mp member)
          rfl
        rw [stored]
      · rw [server]
        intro other otherIn
        exact Or.inl (waiting ▸ List.mem_cons_of_mem _ otherIn)
      · rw [loads_offlineLoaded waiting]
        intro load loadIn
        rcases List.mem_append.mp loadIn with old | new
        · exact carries.routed load old
        · rw [List.mem_singleton.mp new]
          exact carries.routedBy member

theorem CarriesPackets.next (carries : record.CarriesPackets) (event : OfflineEvent) :
    (record.next event).CarriesPackets := by
  cases event with
  | session event => exact carries.session event
  | enqueueIfOffline userId packet => exact carries.enqueue userId packet
  | messageReceivedAck connectionId msgId => exact carries.messageReceivedAck connectionId msgId
  | storeStep ok => exact carries.storeStep ok
  | offlineLoaded => exact carries.offlineLoaded

theorem carriesPackets_of_reachable (record : OfflineRecord Text)
    (reached : (offlineLogSystem Text).Reachable record) : record.CarriesPackets :=
  reached.invariant carriesPackets_initial (fun _ event _ carries _ => carries.next event) record

def DeliversQueued (record : OfflineRecord Text) (result : OfflineLoadResult Text) : Prop :=
  ∃ writes : List (SocketWrite Text),
    (record.next .offlineLoaded).server.wire = record.server.wire ++ writes ∧
    (writes.map fun write => decode write.text).Sublist
      ((record.queuedFor result.userId).map Except.ok)

theorem CarriesPackets.table (carries : record.CarriesPackets) (userId : String) :
    ((record.server.queue.textsFor userId).map decode).Sublist
      ((record.queuedFor userId).map Except.ok) := by
  have texts := ((List.sublist_append_left _ _).trans (carries.stored userId)).map decode
  rwa [map_decode_encode] at texts

theorem CarriesPackets.delivers (carries : record.CarriesPackets)
    {result : OfflineLoadResult Text} {rest : List (OfflineLoadResult Text)}
    (waiting : record.server.toMain = result :: rest) : record.DeliversQueued result := by
  have written := (onOfflineLoaded_written record.server.sessions record.server.offline
    record.server.wire result).1
  have wire := congrArg OfflineServer.wire (server_offlineLoaded waiting)
  exact ⟨_, wire.trans written, (writes_decode _ _ _).trans
    ((carries.routedBy (waiting ▸ List.mem_cons_self)).map _)⟩

end OfflineRecord

/-- A packet comes back from its text, field by field, and so does the packet of
any text that decodes.  The offline queue holds texts of the packets queued for
each user, and what is written when a load is handled are those packets. -/
theorem packets_round_trip :
    (∀ packet : Packet, decode (packet.encode : Text) = .ok packet) ∧
    (∀ (data : Text) (packet : Packet), decode data = .ok packet →
      decode (packet.encode : Text) = .ok packet) ∧
    ∀ record, (offlineLogSystem Text).Reachable record →
      (∀ userId, ((record.server.queue.textsFor userId).map decode).Sublist
        ((record.queuedFor userId).map Except.ok)) ∧
      (∀ load ∈ record.loads, load.2.Sublist (record.queuedFor load.1)) ∧
      ∀ result rest, record.server.toMain = result :: rest → record.DeliversQueued result := by
  refine ⟨decode_encode, fun _ packet _ => decode_encode packet, ?_⟩
  intro record reached
  have carries := OfflineRecord.carriesPackets_of_reachable record reached
  refine ⟨carries.table, carries.routed, ?_⟩
  intro result rest waiting
  exact carries.delivers waiting

def packetForBob : Packet :=
  { cmd := .receiveMessage, msgId := "srv_1", code := 7, message := "hello" }

def bobsLoad : List OfflineEvent :=
  [.enqueueIfOffline "bob" packetForBob, .storeStep true,
    .session (.newConnection "c1" 0), .session (.connectAccepted "c1" "bob" "Bob"),
    .storeStep true]

def bobsLoadRecord : OfflineRecord ParsedText :=
  bobsLoad.foldl OfflineRecord.next ⟨OfflineServer.empty, [], [], []⟩

theorem packets_round_trip_bob :
    decode (packetForBob.encode : ParsedText) = .ok packetForBob ∧
    bobsLoadRecord.DeliversQueued ⟨"bob", [(1, packetForBob.encode)]⟩ := by
  have reached : (offlineLogSystem ParsedText).Reachable bobsLoadRecord :=
    System.Reachable.run bobsLoad _ System.Reachable.initial
      ⟨trivial, trivial, trivial, trivial, trivial, trivial⟩
  exact ⟨packets_round_trip.1 packetForBob,
    (packets_round_trip.2.2 bobsLoadRecord reached).2.2 _ [] rfl⟩

end RoundTrip

end ShirohaChat
