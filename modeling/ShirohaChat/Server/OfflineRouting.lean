import ShirohaChat.Server.OfflineRecord

/-!
# Every queued packet is routed

For a user who has kept his session since his last login, a load that will show
what he has not got yet is on its way, or nothing is left to show.
-/

set_option autoImplicit false

namespace ShirohaChat

open Transition

section Coverage
variable {Text : Type} [JsonDocument Text]

/-! ## A load is on its way for whoever is connected -/

/-- Behind every call that queues something for the user comes a load for him. -/
def LoadFollows (userId : String) : List (OfflineStoreCall Text) → Prop
  | [] => True
  | call :: rest =>
      (call.queuedText userId ≠ none → .loadOffline ⟨userId⟩ ∈ rest) ∧ LoadFollows userId rest

omit [JsonDocument Text] in
theorem LoadFollows.append {userId : String} (added : List (OfflineStoreCall Text))
    (quiet : ∀ call ∈ added, call.queuedText userId = none)
    (calls : List (OfflineStoreCall Text)) :
    LoadFollows userId calls → LoadFollows userId (calls ++ added) := by
  induction calls with
  | nil =>
      intro _
      induction added with
      | nil => trivial
      | cons call rest ih =>
          exact ⟨fun queues => absurd (quiet call List.mem_cons_self) queues,
            ih fun other otherIn => quiet other (List.mem_cons_of_mem _ otherIn)⟩
  | cons call rest ih =>
      rintro ⟨head, tail⟩
      exact ⟨fun queues => List.mem_append_left _ (head queues), ih tail⟩

omit [JsonDocument Text] in
theorem loadFollows_append_load (userId : String) (calls : List (OfflineStoreCall Text)) :
    LoadFollows userId (calls ++ [.loadOffline ⟨userId⟩]) := by
  induction calls with
  | nil => exact ⟨fun queues => absurd rfl queues, trivial⟩
  | cons call rest ih => exact ⟨fun _ => List.mem_append_right _ List.mem_cons_self, ih⟩

namespace OfflineRecord

/-- A load that shows the text to the user has been executed and not handled, or
is still to be executed. -/
def Shown (record : OfflineRecord Text) (userId : String) (text : Text) : Prop :=
  .loadOffline ⟨userId⟩ ∈ record.server.toStore ∨
    ∃ result ∈ record.server.toMain, result.userId = userId ∧ text ∈ result.packets.map Prod.snd

structure Covers (record : OfflineRecord Text) (userId : String) : Prop where
  mapped : (record.server.sessions.findByUserId userId).isSome = true
  follows : LoadFollows userId record.server.toStore
  shown : ∀ packet ∈ record.queuedFor userId,
    packet.encode ∈ record.server.queue.textsFor userId →
      record.Routed userId packet ∨ record.Shown userId packet.encode

variable {record after : OfflineRecord Text} {userId : String}

theorem Covers.of_grows (covers : record.Covers userId)
    (mapped : (after.server.sessions.findByUserId userId).isSome = true)
    (queued : after.queuedFor userId = record.queuedFor userId)
    (queue : after.server.queue = record.server.queue)
    (loads : after.loads = record.loads) (toMain : after.server.toMain = record.server.toMain)
    {added : List (OfflineStoreCall Text)}
    (toStore : after.server.toStore = record.server.toStore ++ added)
    (quiet : ∀ call ∈ added, call.queuedText userId = none) : after.Covers userId := by
  refine ⟨mapped, ?_, ?_⟩
  · rw [toStore]
    exact covers.follows.append added quiet _
  · intro packet member inTable
    rw [queued] at member
    rw [queue] at inTable
    unfold Routed Shown
    rw [loads, toMain, toStore]
    refine (covers.shown packet member inTable).imp id ?_
    exact Or.imp (List.mem_append_left _) id

theorem Covers.session (covers : record.Covers userId) (event : SessionEvent)
    (mapped : ((event.next record.server.sessions).findByUserId userId).isSome = true) :
    (record.next (.session event)).Covers userId := by
  have same : record.server.toStore = record.server.toStore ++ [] := (List.append_nil _).symm
  cases event with
  | connectAccepted connectionId other nickname =>
      refine covers.of_grows mapped rfl rfl rfl rfl rfl ?_
      intro call member
      rw [List.mem_singleton.mp member]
      rfl
  | _ => exact covers.of_grows mapped rfl rfl rfl rfl same (by simp)

theorem covers_connectAccepted (connectionId nickname : String)
    (mapped : ((record.server.sessions.connectAccepted connectionId userId
      nickname).findByUserId userId).isSome = true) :
    (record.next (.session (.connectAccepted connectionId userId nickname))).Covers userId := by
  refine ⟨mapped, loadFollows_append_load userId _, ?_⟩
  intro packet _ _
  exact Or.inr (Or.inl (List.mem_append_right _ List.mem_cons_self))

theorem Covers.messageReceivedAck (covers : record.Covers userId)
    (connectionId msgId : String) :
    (record.next (.messageReceivedAck connectionId msgId)).Covers userId := by
  have handled := ackHandled record.server connectionId msgId
  have mapped : ((record.server.handleMessageReceivedAck connectionId
      msgId).sessions.findByUserId userId).isSome = true := by
    rw [handled.sessions]
    exact covers.mapped
  rcases handled.effect with ⟨_, sameStore, _⟩ | ⟨session, _, _, _, _, toStore⟩
  · have same : (record.server.handleMessageReceivedAck connectionId msgId).toStore =
        record.server.toStore ++ [] := sameStore.trans (List.append_nil _).symm
    exact covers.of_grows mapped rfl handled.queue rfl handled.toMain same (by simp)
  · refine covers.of_grows mapped rfl handled.queue rfl handled.toMain toStore ?_
    intro call member
    obtain ⟨request, _, rfl⟩ := Option.map_eq_some_iff.mp (Option.mem_toList.mp member)
    rfl

theorem Covers.enqueue (covers : record.Covers userId) (other : String) (packet : Packet) :
    (record.next (.enqueueIfOffline other packet)).Covers userId := by
  cases queues : record.Queues other packet with
  | true =>
      have differs : other ≠ userId := by
        rintro rfl
        rw [queues_eq, Option.isNone_iff_eq_none] at queues
        have mapped := covers.mapped
        rw [queues] at mapped
        cases mapped
      refine covers.of_grows covers.mapped ?_ rfl rfl rfl (toStore_queued queues) ?_
      · rw [queuedFor_queued queues, if_neg differs, List.append_nil]
      · intro call member
        rw [List.mem_singleton.mp member]
        exact if_neg differs
  | false =>
      have toStore : (record.next (.enqueueIfOffline other packet)).server.toStore =
          record.server.toStore ++ [] := (toStore_written queues).trans (List.append_nil _).symm
      refine covers.of_grows covers.mapped ?_ rfl rfl rfl toStore (by simp)
      unfold queuedFor
      rw [queued_written queues]

section DatabaseThread
variable {rest : List (OfflineStoreCall Text)}

theorem Covers.shown_of_waiting (covers : record.Covers userId)
    {call : OfflineStoreCall Text} (waiting : record.server.toStore = call :: rest) :
    ∀ packet ∈ record.queuedFor userId, packet.encode ∈ record.server.queue.textsFor userId →
      record.Routed userId packet ∨ .loadOffline ⟨userId⟩ ∈ call :: rest ∨
        ∃ result ∈ record.server.toMain, result.userId = userId ∧
          packet.encode ∈ result.packets.map Prod.snd := by
  rw [← waiting]
  exact covers.shown

theorem Covers.queueOffline (covers : record.Covers userId)
    {request : OfflineEnqueueRequest Text}
    (waiting : record.server.toStore = .queueOffline request :: rest) :
    (record.next (.storeStep true)).Covers userId := by
  have server : (record.next (.storeStep true)).server = { record.server with
      toStore := rest, queue := record.server.queue.queueOffline true request } :=
    OfflineServer.storeStep_queueOffline waiting true
  have follows := covers.follows
  rw [waiting] at follows
  refine ⟨by rw [server]; exact covers.mapped, by rw [server]; exact follows.2, ?_⟩
  intro packet member inTable
  by_cases own : request.recipientUserId = userId
  · refine Or.inr (Or.inl ?_)
    rw [server]
    exact follows.1 (by simp [OfflineStoreCall.queuedText, own])
  · have inOld : packet.encode ∈ record.server.queue.textsFor userId := by
      rw [server] at inTable
      simpa [OfflineQueue.textsFor, OfflineQueue.queueOffline, own] using inTable
    refine (covers.shown_of_waiting waiting packet member inOld).imp id ?_
    unfold Shown
    rw [server]
    exact Or.imp (fun inCalls => by simpa using inCalls) id

theorem Covers.loadOffline (covers : record.Covers userId) {request : OfflineLoadRequest}
    (waiting : record.server.toStore = .loadOffline request :: rest) :
    (record.next (.storeStep true)).Covers userId := by
  have server : (record.next (.storeStep true)).server = { record.server with
      toStore := rest
      toMain := record.server.toMain ++ [record.server.queue.loadOffline true request] } :=
    OfflineServer.storeStep_loadOffline waiting true
  have follows := covers.follows
  rw [waiting] at follows
  refine ⟨by rw [server]; exact covers.mapped, by rw [server]; exact follows.2, ?_⟩
  intro packet member inTable
  rw [server] at inTable
  unfold Shown
  rw [server]
  by_cases own : request.userId = userId
  · refine Or.inr (Or.inr ⟨_, List.mem_append_right _ List.mem_cons_self, ?_, ?_⟩)
    · rw [OfflineQueue.loadOffline_userId]
      exact own
    · simpa [OfflineQueue.loadOffline, OfflineQueue.textsFor, own] using inTable
  · refine (covers.shown_of_waiting waiting packet member inTable).imp id (Or.imp ?_ ?_)
    · intro inCalls
      rcases List.mem_cons.mp inCalls with same | inRest
      · cases same
        exact absurd rfl own
      · exact inRest
    · rintro ⟨result, resultIn, found⟩
      exact ⟨result, List.mem_append_left _ resultIn, found⟩

theorem Covers.markOfflineDelivered (covers : record.Covers userId)
    {request : DeliveryMarkRequest}
    (waiting : record.server.toStore = .markOfflineDelivered request :: rest) :
    (record.next (.storeStep true)).Covers userId := by
  have server : (record.next (.storeStep true)).server = { record.server with
      toStore := rest
      queue := record.server.queue.markOfflineDelivered true request } :=
    OfflineServer.storeStep_markOfflineDelivered waiting true
  have follows := covers.follows
  rw [waiting] at follows
  refine ⟨by rw [server]; exact covers.mapped, by rw [server]; exact follows.2, ?_⟩
  intro packet member inTable
  have inOld : packet.encode ∈ record.server.queue.textsFor userId := by
    rw [server] at inTable
    obtain ⟨row, rowIn, text⟩ := List.mem_map.mp inTable
    obtain ⟨stored, recipient⟩ := List.mem_filter.mp rowIn
    exact List.mem_map.mpr ⟨row, List.mem_filter.mpr
      ⟨record.server.queue.mem_markOfflineDelivered true request row stored, recipient⟩, text⟩
  refine (covers.shown_of_waiting waiting packet member inOld).imp id ?_
  unfold Shown
  rw [server]
  exact Or.imp (fun inCalls => by simpa using inCalls) id

end DatabaseThread

theorem Covers.storeStep (covers : record.Covers userId) :
    (record.next (.storeStep true)).Covers userId := by
  cases waiting : record.server.toStore with
  | nil =>
      have server : (record.next (.storeStep true)).server = record.server :=
        OfflineServer.storeStep_nil waiting true
      have same : (record.next (.storeStep true)).server.toStore = record.server.toStore ++ [] := by
        rw [server, List.append_nil]
      exact covers.of_grows (by rw [server]; exact covers.mapped) rfl (by rw [server]) rfl
        (by rw [server]) same (by simp)
  | cons call rest =>
      cases call with
      | queueOffline request => exact covers.queueOffline waiting
      | loadOffline request => exact covers.loadOffline waiting
      | markOfflineDelivered request => exact covers.markOfflineDelivered waiting

/-- The result that is handled has its packets routed, since the user is mapped. -/
theorem Covers.offlineLoaded (covers : record.Covers userId) (keeps : record.KeepsPackets) :
    (record.next .offlineLoaded).Covers userId := by
  cases waiting : record.server.toMain with
  | nil =>
      have server : (record.next .offlineLoaded).server = record.server :=
        OfflineServer.offlineLoaded_nil waiting
      have loads := loads_offlineLoaded_nil waiting
      have same : (record.next .offlineLoaded).server.toStore = record.server.toStore ++ [] := by
        rw [server, List.append_nil]
      exact covers.of_grows (by rw [server]; exact covers.mapped) rfl (by rw [server]) loads
        (by rw [server]) same (by simp)
  | cons result rest =>
      obtain ⟨packets, inQueue, sameTexts, recorded, routed⟩ := keeps.loadRecorded waiting
      have server := server_offlineLoaded waiting
      have older : ∀ packet, record.Routed userId packet →
          (record.next .offlineLoaded).Routed userId packet := fun packet old =>
        (routed_append (loads_offlineLoaded waiting) _ _).mpr (Or.inl old)
      refine ⟨by rw [server]; exact covers.mapped, ?_, ?_⟩
      · rw [server]
        apply covers.follows.append
        intro call member
        obtain ⟨request, _, rfl⟩ := Option.map_eq_some_iff.mp (Option.mem_toList.mp member)
        rfl
      · intro packet member inTable
        have inOld : packet.encode ∈ record.server.queue.textsFor userId := by
          rw [server] at inTable
          exact inTable
        unfold Shown
        rw [server]
        rcases covers.shown packet member inOld with old | load | ⟨other, otherIn, isUser, shown⟩
        · exact Or.inl (older packet old)
        · exact Or.inr (Or.inl (List.mem_append_left _ load))
        · rw [waiting] at otherIn
          rcases List.mem_cons.mp otherIn with rfl | inRest
          · cases isUser
            rw [sameTexts] at shown
            obtain ⟨same, sameIn, text⟩ := List.mem_map.mp shown
            cases encode_injective text
            exact Or.inl (routed packet sameIn (recorded.handled covers.mapped packet sameIn))
          · exact Or.inr (Or.inr ⟨other, inRest, isUser, shown⟩)

theorem Covers.next (covers : ∀ userId ∈ record.steady, record.Covers userId)
    (keeps : record.KeepsPackets) {event : OfflineEvent} (assumed : record.Assumed event) :
    ∀ userId ∈ (record.next event).steady, (record.next event).Covers userId := by
  intro userId member
  obtain ⟨loggedIn, mapped⟩ := List.mem_filter.mp member
  cases event with
  | session event =>
      cases event with
      | connectAccepted connectionId other nickname =>
          rcases List.mem_cons.mp loggedIn with rfl | steady
          · exact covers_connectAccepted connectionId nickname mapped
          · exact (covers userId steady).session _ mapped
      | newConnection connectionId now => exact (covers userId loggedIn).session _ mapped
      | heartbeat connectionId now => exact (covers userId loggedIn).session _ mapped
      | sweepTimeouts now => exact (covers userId loggedIn).session _ mapped
      | socketClosing connectionId => exact (covers userId loggedIn).session _ mapped
      | disconnected connectionId => exact (covers userId loggedIn).session _ mapped
  | enqueueIfOffline other packet => exact (covers userId loggedIn).enqueue other packet
  | messageReceivedAck connectionId msgId =>
      exact (covers userId loggedIn).messageReceivedAck connectionId msgId
  | storeStep ok =>
      cases assumed
      exact (covers userId loggedIn).storeStep
  | offlineLoaded => exact (covers userId loggedIn).offlineLoaded keeps

theorem covers_of_reachable : ∀ record : OfflineRecord Text,
    (offlineRecordSystem Text).Reachable record →
      ∀ userId ∈ record.steady, record.Covers userId := by
  apply System.Reachable.invariant
  · intro userId member
    cases member
  · intro before event reachedBefore covers enabled
    exact Covers.next covers (keepsPackets_of_reachable before reachedBefore) enabled.2

/-- Whenever nothing is in flight, whoever has been connected since his last
login has got every packet ever queued for him; and each load routes its packets
in the order in which they were queued. -/
theorem queued_packets_routed (record : OfflineRecord Text)
    (reached : (offlineRecordSystem Text).Reachable record) :
    (record.Quiet → ∀ userId ∈ record.steady, ∀ packet ∈ record.queuedFor userId,
      record.Routed userId packet) ∧
    ∀ load ∈ record.loads, load.2.Sublist (record.queuedFor load.1) := by
  have keeps := keepsPackets_of_reachable record reached
  refine ⟨?_, keeps.inOrder⟩
  rintro ⟨noCalls, noResults⟩ userId steady packet queued
  rcases keeps.kept userId packet queued with routed | stored
  · exact routed
  · rw [OfflineRecord.stored, noCalls, List.filterMap_nil, List.append_nil] at stored
    rcases (covers_of_reachable record reached userId steady).shown packet queued stored with
      routed | load | ⟨result, resultIn, _⟩
    · exact routed
    · rw [noCalls] at load
      cases load
    · rw [noResults] at resultIn
      cases resultIn

def bobLogsIn : List OfflineEvent :=
  [.enqueueIfOffline "bob" { cmd := .receiveMessage, msgId := "srv_1" }, .storeStep true,
    .session (.newConnection "c1" 0), .session (.connectAccepted "c1" "bob" "Bob"),
    .storeStep true, .offlineLoaded]

def bobsRecord : OfflineRecord ParsedText :=
  bobLogsIn.foldl OfflineRecord.next ⟨OfflineServer.empty, [], [], []⟩

theorem queued_packets_routed_bob :
    "bob" ∈ bobsRecord.steady ∧
    ∀ packet ∈ bobsRecord.queuedFor "bob", bobsRecord.Routed "bob" packet := by
  have reached : (offlineRecordSystem ParsedText).Reachable bobsRecord := by
    refine System.Reachable.run bobLogsIn _ System.Reachable.initial ?_
    have nonempty : "bob" ≠ "" := by decide
    refine ⟨⟨fun _ => by decide, fun _ => ⟨by decide, fun _ member => nomatch member⟩⟩,
      ⟨trivial, rfl⟩, ⟨⟨⟨by decide, rfl⟩, fun _ _ _ same => nomatch same⟩, trivial⟩,
      ⟨⟨nonempty, fun _ _ _ same => ?_⟩, trivial⟩, ⟨trivial, rfl⟩, ⟨trivial, trivial⟩, trivial⟩
    cases same
    decide
  have steady : "bob" ∈ bobsRecord.steady := by decide
  exact ⟨steady, (queued_packets_routed bobsRecord reached).1 ⟨rfl, rfl⟩ "bob" steady⟩

end OfflineRecord
end Coverage
end ShirohaChat
