import ShirohaChat.Server.DeliveryOrder

/-!
# Queued messages wait until they are acknowledged

A message queued for a user stands in the table, or is on its way there, until
he has acknowledged it.  Rows go only for acknowledged messages, or while
another row with the message's id stays; and rows of one user with one id hold
the same message.
-/

set_option autoImplicit false

namespace ShirohaChat

open Transition OfflineServer

section Records
variable {Text : Type} [JsonDocument Text]

namespace OfflineRecord

def KeptUntilAcknowledged (record : OfflineRecord Text) : Prop :=
  ∀ userId, ∀ packet ∈ record.queuedFor userId, packet.cmd = .receiveMessage →
    packet.encode ∈ record.stored userId ∨
      (userId, packet.msgId) ∈ record.server.acknowledged

def TellsApart (record : OfflineRecord Text) : Prop :=
  ∀ userId, ∀ first ∈ record.queuedFor userId, ∀ second ∈ record.queuedFor userId,
    first.cmd = .receiveMessage → second.cmd = .receiveMessage →
      first.msgId = second.msgId → first = second

variable {record after : OfflineRecord Text}

theorem keptUntilAcknowledged_initial :
    KeptUntilAcknowledged (⟨OfflineServer.empty, [], [], []⟩ : OfflineRecord Text) :=
  fun _ _ queued => absurd queued List.not_mem_nil

theorem KeptUntilAcknowledged.of_grows (kept : record.KeptUntilAcknowledged)
    (queued : ∀ userId, ∀ packet ∈ after.queuedFor userId,
      packet ∈ record.queuedFor userId ∨ packet.encode ∈ after.stored userId)
    (stored : ∀ userId, ∀ text ∈ record.stored userId, text ∈ after.stored userId)
    (acknowledged : ∀ entry ∈ record.server.acknowledged, entry ∈ after.server.acknowledged) :
    after.KeptUntilAcknowledged := by
  intro userId packet isQueued isMessage
  rcases queued userId packet isQueued with old | new
  · rcases kept userId packet old isMessage with waits | done
    · exact Or.inl (stored userId _ waits)
    · exact Or.inr (acknowledged _ done)
  · exact Or.inl new

theorem KeptUntilAcknowledged.of_same (kept : record.KeptUntilAcknowledged)
    (queued : after.queued = record.queued)
    (stored : ∀ userId, after.stored userId = record.stored userId)
    (acknowledged : ∀ entry ∈ record.server.acknowledged, entry ∈ after.server.acknowledged) :
    after.KeptUntilAcknowledged := by
  refine kept.of_grows ?_ ?_ acknowledged
  · intro userId packet isQueued
    rw [queuedFor, queued] at isQueued
    exact Or.inl isQueued
  · intro userId text waits
    rw [stored]
    exact waits

theorem KeptUntilAcknowledged.session (kept : record.KeptUntilAcknowledged)
    (event : SessionEvent) : (record.next (.session event)).KeptUntilAcknowledged := by
  have same : ∀ calls : List (OfflineStoreCall Text),
      (∀ call ∈ calls, ∀ userId, call.queuedText userId = none) →
      (record.server.sessionEvent event).queue = record.server.queue →
      (record.server.sessionEvent event).toStore = record.server.toStore ++ calls →
      (record.server.sessionEvent event).acknowledged = record.server.acknowledged →
      (record.next (.session event)).KeptUntilAcknowledged := by
    intro calls quiet queue toStore acknowledged
    refine kept.of_same rfl (stored_of_same_queue queue toStore quiet) ?_
    intro entry member
    exact acknowledged ▸ member
  cases event with
  | connectAccepted connectionId userId nickname =>
      exact same [.loadOffline ⟨userId⟩] (by simp [OfflineStoreCall.queuedText]) rfl rfl rfl
  | _ => exact same [] (List.forall_mem_nil _) rfl (List.append_nil _).symm rfl

theorem KeptUntilAcknowledged.enqueue (kept : record.KeptUntilAcknowledged) (userId : String)
    (packet : Packet) :
    (record.next (.enqueueIfOffline userId packet)).KeptUntilAcknowledged := by
  cases queues : record.Queues userId packet with
  | false =>
      have toStore : (record.next (.enqueueIfOffline userId packet)).server.toStore =
          record.server.toStore ++ [] := (toStore_written queues).trans (List.append_nil _).symm
      refine kept.of_same (queued_written queues) ?_ fun _ member => member
      exact stored_of_same_queue rfl toStore (List.forall_mem_nil _)
  | true =>
      refine kept.of_grows ?_ ?_ fun _ member => member
      · intro other earlier isQueued
        refine (mem_queuedFor_queued queues isQueued).imp id ?_
        rintro ⟨rfl, rfl⟩
        rw [stored_queued queues, if_pos rfl]
        exact List.mem_append_right _ (List.mem_singleton_self _)
      · intro other text waits
        rw [stored_queued queues]
        exact List.mem_append_left _ waits

theorem KeptUntilAcknowledged.messageReceivedAck (kept : record.KeptUntilAcknowledged)
    (connectionId msgId : String) :
    (record.next (.messageReceivedAck connectionId msgId)).KeptUntilAcknowledged := by
  have handled := ackHandled record.server connectionId msgId
  have calls : ∃ calls : List (OfflineStoreCall Text),
      (record.server.handleMessageReceivedAck connectionId msgId).toStore =
        record.server.toStore ++ calls ∧
      ∀ call ∈ calls, ∀ userId, call.queuedText userId = none := by
    rcases handled.effect with ⟨_, same, _⟩ | ⟨session, _, _, _, _, toStore⟩
    · exact ⟨[], by rw [same, List.append_nil], List.forall_mem_nil _⟩
    · refine ⟨_, toStore, ?_⟩
      intro call member userId
      obtain ⟨request, _, rfl⟩ := Option.map_eq_some_iff.mp (Option.mem_toList.mp member)
      rfl
  obtain ⟨calls, toStore, quiet⟩ := calls
  refine kept.of_same rfl (stored_of_same_queue handled.queue toStore quiet) ?_
  intro entry member
  show entry ∈ (record.server.handleMessageReceivedAck connectionId msgId).acknowledged
  unfold handleMessageReceivedAck
  split
  · exact member
  split
  · exact member
  split
  · exact member
  · exact List.mem_append_left _ member

/-! ## The database thread -/

section DatabaseThread
variable {rest : List (OfflineStoreCall Text)}

theorem KeptUntilAcknowledged.queueOffline (kept : record.KeptUntilAcknowledged)
    {request : OfflineEnqueueRequest Text}
    (waiting : record.server.toStore = .queueOffline request :: rest) :
    (record.next (.storeStep true)).KeptUntilAcknowledged := by
  have server : (record.next (.storeStep true)).server = { record.server with
      toStore := rest, queue := record.server.queue.queueOffline true request } :=
    storeStep_queueOffline waiting true
  refine kept.of_same rfl ?_ (by rw [server]; exact fun _ member => member)
  intro userId
  rw [OfflineRecord.stored, OfflineRecord.stored, server, waiting]
  by_cases isRecipient : request.recipientUserId = userId <;>
    simp [OfflineQueue.queueOffline, OfflineQueue.textsFor, OfflineStoreCall.queuedText,
      isRecipient]

theorem KeptUntilAcknowledged.loadOffline (kept : record.KeptUntilAcknowledged)
    {request : OfflineLoadRequest}
    (waiting : record.server.toStore = .loadOffline request :: rest) (ok : Bool) :
    (record.next (.storeStep ok)).KeptUntilAcknowledged := by
  have server : (record.next (.storeStep ok)).server = { record.server with
      toStore := rest
      toMain := record.server.toMain ++ [record.server.queue.loadOffline ok request] } :=
    storeStep_loadOffline waiting ok
  refine kept.of_same rfl ?_ (by rw [server]; exact fun _ member => member)
  intro userId
  rw [OfflineRecord.stored, OfflineRecord.stored, server, waiting, List.filterMap_cons_none rfl]

/-- A deleted row was acknowledged, or another row holds its message. -/
theorem KeptUntilAcknowledged.markOfflineDelivered (kept : record.KeptUntilAcknowledged)
    (keeps : record.server.KeepsRows) (carries : record.CarriesPackets)
    (apart : record.TellsApart) {request : DeliveryMarkRequest}
    (waiting : record.server.toStore = .markOfflineDelivered request :: rest) (ok : Bool) :
    (record.next (.storeStep ok)).KeptUntilAcknowledged := by
  have server : (record.next (.storeStep ok)).server = { record.server with
      toStore := rest
      queue := record.server.queue.markOfflineDelivered ok request } :=
    storeStep_markOfflineDelivered waiting ok
  have rows := deletesOnlyAcknowledged_storeStep keeps ok
  rw [storeStep_markOfflineDelivered waiting ok] at rows
  intro userId packet isQueued isMessage
  have before : packet ∈ record.queuedFor userId := isQueued
  have inTable : ∀ row ∈ (record.server.queue.markOfflineDelivered ok request).rows,
      row.recipientUserId = userId → row.packetJson = packet.encode →
      packet.encode ∈ (record.next (.storeStep ok)).stored userId := by
    intro row member recipient text
    rw [OfflineRecord.stored, server, ← text]
    refine List.mem_append_left _ (List.mem_map.mpr ⟨row, ?_, rfl⟩)
    exact List.mem_filter.mpr ⟨member, decide_eq_true recipient⟩
  rcases kept userId packet before isMessage with waits | done
  · rw [OfflineRecord.stored, waiting, List.filterMap_cons_none rfl] at waits
    rcases List.mem_append.mp waits with stored | transit
    · obtain ⟨row, chosen, text⟩ := List.mem_map.mp stored
      obtain ⟨member, isRecipient⟩ := List.mem_filter.mp chosen
      have recipient : row.recipientUserId = userId := of_decide_eq_true isRecipient
      by_cases stays : row ∈ (record.server.queue.markOfflineDelivered ok request).rows
      · exact Or.inl (inTable row stays recipient text)
      · have isReceive : receiveId row.packetJson = some packet.msgId := by
          rw [text, receiveId_encode, if_pos isMessage]
        rcases rows row member stays packet.msgId isReceive with
          acknowledged | ⟨other, otherIn, sameRecipient, otherReceive⟩
        · rw [recipient] at acknowledged
          rw [server]
          exact Or.inr acknowledged
        · -- the other row holds a packet queued under the same id
          have otherStored : other.packetJson ∈ record.stored userId := by
            refine List.mem_append_left _ (List.mem_map.mpr ⟨other, ?_, rfl⟩)
            exact List.mem_filter.mpr ⟨OfflineQueue.mem_markOfflineDelivered _ _ _ _ otherIn,
              decide_eq_true (sameRecipient.trans recipient)⟩
          obtain ⟨held, heldQueued, heldText⟩ :=
            List.mem_map.mp ((carries.stored userId).subset otherStored)
          rw [← heldText, receiveId_encode] at otherReceive
          split at otherReceive
          · rename_i heldMessage
            have same := apart userId held heldQueued packet before heldMessage isMessage
              (Option.some.inj otherReceive)
            rw [same] at heldText
            exact Or.inl (inTable other otherIn (sameRecipient.trans recipient) heldText.symm)
          · cases otherReceive
    · refine Or.inl ?_
      rw [OfflineRecord.stored, server]
      exact List.mem_append_right _ transit
  · rw [server]
    exact Or.inr done

end DatabaseThread

theorem KeptUntilAcknowledged.storeStep (kept : record.KeptUntilAcknowledged)
    (keeps : record.server.KeepsRows) (carries : record.CarriesPackets)
    (apart : record.TellsApart) : (record.next (.storeStep true)).KeptUntilAcknowledged := by
  cases waiting : record.server.toStore with
  | nil =>
      have server : (record.next (.storeStep true)).server = record.server :=
        storeStep_nil waiting true
      refine kept.of_same rfl ?_ (by rw [server]; exact fun _ member => member)
      intro userId
      rw [OfflineRecord.stored, server]
      rfl
  | cons call rest =>
      cases call with
      | queueOffline request => exact kept.queueOffline waiting
      | loadOffline request => exact kept.loadOffline waiting true
      | markOfflineDelivered request =>
          exact kept.markOfflineDelivered keeps carries apart waiting true

theorem KeptUntilAcknowledged.offlineLoaded (kept : record.KeptUntilAcknowledged) :
    (record.next .offlineLoaded).KeptUntilAcknowledged := by
  cases waiting : record.server.toMain with
  | nil =>
      have server : (record.next .offlineLoaded).server = record.server :=
        offlineLoaded_nil waiting
      refine kept.of_same rfl ?_ (by rw [server]; exact fun _ member => member)
      intro userId
      rw [OfflineRecord.stored, server]
      rfl
  | cons result rest =>
      have server := server_offlineLoaded waiting
      have queue : (record.next .offlineLoaded).server.queue = record.server.queue := by
        rw [server]
      refine kept.of_same rfl (stored_of_same_queue queue (congrArg OfflineServer.toStore server)
        ?_) (by rw [server]; exact fun _ member => member)
      intro call member userId
      obtain ⟨request, _, rfl⟩ := Option.map_eq_some_iff.mp (Option.mem_toList.mp member)
      rfl

def Succeeds : OfflineEvent → Prop
  | .storeStep ok => ok = true
  | _ => True

theorem KeptUntilAcknowledged.next (kept : record.KeptUntilAcknowledged)
    (keeps : record.server.KeepsRows) (carries : record.CarriesPackets)
    (apart : record.TellsApart) {event : OfflineEvent} (succeeds : Succeeds event) :
    (record.next event).KeptUntilAcknowledged := by
  cases event with
  | session event => exact kept.session event
  | enqueueIfOffline userId packet => exact kept.enqueue userId packet
  | messageReceivedAck connectionId msgId => exact kept.messageReceivedAck connectionId msgId
  | storeStep ok =>
      cases succeeds
      exact kept.storeStep keeps carries apart
  | offlineLoaded => exact kept.offlineLoaded

theorem KeptUntilAcknowledged.enqueues (handed : List (String × Packet)) :
    ∀ record : OfflineRecord Text, record.KeptUntilAcknowledged →
      ((handed.map fun handed => OfflineEvent.enqueueIfOffline handed.1 handed.2).foldl
        OfflineRecord.next record).KeptUntilAcknowledged := by
  induction handed with
  | nil => exact fun _ kept => kept
  | cons first rest ih => exact fun record kept => ih _ (kept.enqueue first.1 first.2)

end OfflineRecord

/-! ## Messages of the whole server -/

theorem enabled_enqueues {handed : List (String × Packet)}
    (named : ∀ entry ∈ handed, entry.2.cmd = .receiveMessage → entry.2.msgId ≠ "") :
    ∀ server : OfflineServer Text, ((offlineSystem Text).restrict NotRedelivered).Enabled server
      (handed.map fun handed => OfflineEvent.enqueueIfOffline handed.1 handed.2) := by
  induction handed with
  | nil => exact fun server => trivial
  | cons first rest ih =>
      intro server
      refine ⟨⟨named first List.mem_cons_self, trivial⟩, ?_⟩
      exact ih (fun entry member => named entry (List.mem_cons_of_mem _ member)) _

variable (sha256 : List Nat → String)

/-- Server ids are generated: none is empty, and none comes again. -/
def FreshServerId (traced : TracedServer Text) : ActingEvent → Prop
  | .packetReceived _ packet stamp => packet.cmd = .sendMessage →
      stamp.serverId ≠ "" ∧ stamp.serverId ∉ traced.accepted.map AcceptedMessage.serverId
  | _ => True

/-- Statements succeed, and no load shows an unacknowledged message again. -/
def QueueKept (traced : TracedServer Text) : ActingEvent → Prop
  | .storeStep ok => ok = true
  | .offlineLoaded => NotRedelivered traced.server.offline .offlineLoaded
  | _ => True

def keepingSystem (Text : Type) [JsonDocument Text] (sha256 : List Nat → String) :
    System (TracedServer Text) ActingEvent :=
  (tracedSystem Text sha256).restrict fun traced event =>
    FreshServerId traced event ∧ QueueKept traced event

theorem manager_reachable : ∀ traced, (tracedSystem Text sha256).Reachable traced →
    sessionSystem.Reachable traced.server.chat.management.manager := by
  refine System.Reachable.simulates (fun traced : TracedServer Text =>
    traced.server.chat.management.manager) rfl ?_
  intro traced event _ enabled
  by_cases isSession : ∃ session, event = .session session
  · obtain ⟨session, rfl⟩ := isSession
    exact Or.inr ⟨session, enabled.1.1, rfl⟩
  · exact Or.inl (manager_actingNext sha256 traced.server event
      fun session isEvent => isSession ⟨session, isEvent⟩)

structure AcceptedMessage.Named (message : AcceptedMessage) : Prop where
  serverId : message.serverId ≠ ""
  sessionId : message.params.sessionId ≠ ""
  senderUserId : message.params.senderUserId ≠ ""

theorem handleSendMessage_sessionId {session : ClientSession} {packet : Packet}
    {params : SendMessageParams} (accepted : handleSendMessage session packet = .ok params) :
    params.sessionId ≠ "" := by
  unfold handleSendMessage at accepted
  simp only at accepted
  split at accepted
  · cases accepted
  split at accepted
  · cases accepted
  split at accepted
  · cases accepted
  split at accepted
  · cases accepted
  rename_i named
  have sessionId := (not_or.mp named).1
  repeat' split at accepted
  all_goals cases accepted
  all_goals exact sessionId

/-- A step lets at most one message through, under the id drawn for it. -/
theorem acceptedBy_cases {traced : TracedServer Text}
    (reached : (tracedSystem Text sha256).Reachable traced) {event : ActingEvent}
    (fresh : FreshServerId traced event) :
    traced.server.acceptedBy sha256 event = [] ∨ ∃ message : AcceptedMessage,
      traced.server.acceptedBy sha256 event = [message] ∧ message.Named ∧
        message.serverId ∉ traced.accepted.map AcceptedMessage.serverId := by
  have wellFormed := sessionsWellFormed_of_reachable _ (manager_reachable sha256 traced reached)
  cases event with
  | packetReceived connectionId packet stamp =>
      simp only [ActingServer.acceptedBy]
      split
      · exact Or.inl rfl
      rename_i session found
      split
      · rename_i isSend
        obtain ⟨named, unused⟩ := fresh isSend
        unfold ActingServer.acceptedFrom
        split
        · exact Or.inl rfl
        · rename_i params handled
          obtain ⟨authenticated, sender, _⟩ := handleSendMessage_ok handled
          have isUser := (wellFormed.authenticatedIff connectionId session found).mp authenticated
          split
          · exact Or.inr ⟨_, rfl, ⟨named, handleSendMessage_sessionId handled,
              sender ▸ isUser⟩, unused⟩
          · exact Or.inl rfl
      · exact Or.inl rfl
  | _ => exact Or.inl rfl

omit [JsonDocument Text] in
theorem MayRead.msgId {ran : List RanLoad} {message : AcceptedMessage} {userId : String}
    {packet : Packet} (mayRead : MayRead sha256 ran message userId packet) :
    packet.msgId = message.serverId := by
  cases mayRead with
  | recipient _ _ _ isPacket =>
      rw [isPacket]
      rfl
  | member _ _ _ _ _ _ _ _ groupName isPacket =>
      rw [isPacket]
      exact (kind_withGroupName message groupName).2.1

inductive OfflineStep (server : ActingServer Text) : ActingEvent → OfflineEvent → Prop where
  | session (event : SessionEvent) : OfflineStep server (.session event) (.session event)
  | acknowledges {connectionId : String} {packet : Packet} (stamp : SendStamp)
      (isAck : packet.cmd = .messageReceivedAck) :
      OfflineStep server (.packetReceived connectionId packet stamp)
        (.messageReceivedAck connectionId packet.msgId)
  | storeStep (ok : Bool) : OfflineStep server (.storeStep ok) (.storeStep ok)
  | offlineLoaded : OfflineStep server .offlineLoaded .offlineLoaded

omit [JsonDocument Text] in
theorem offlineEvents_steps (server : ActingServer Text) (event : ActingEvent) :
    (∃ offline, server.offlineEvents sha256 event = [offline] ∧
      OfflineStep server event offline) ∨
    server.offlineEvents sha256 event = (server.handedBy sha256 event).map fun handed =>
      .enqueueIfOffline handed.1 handed.2 := by
  cases event with
  | session event => exact Or.inl ⟨_, rfl, .session event⟩
  | storeStep ok => exact Or.inl ⟨_, rfl, .storeStep ok⟩
  | offlineLoaded => exact Or.inl ⟨_, rfl, .offlineLoaded⟩
  | packetReceived connectionId packet stamp =>
      rcases offlineEvents_cases sha256 server (.packetReceived connectionId packet stamp) with
        ⟨_, offline, one, other⟩ | calls
      · refine Or.inl ⟨offline, one, ?_⟩
        simp only [ActingServer.offlineEvents] at one
        split at one
        · rename_i isAck
          split at one
          · cases one
          · cases List.singleton_inj.mp one
            exact .acknowledges stamp isAck
        · obtain ⟨handed, _, isEnqueue⟩ := List.map_eq_singleton_iff.mp one
          exact absurd isEnqueue.symm (other _ _)
      · exact Or.inr calls
  | _ => exact Or.inr rfl

/-- In a run that keeps the queue, whatever is queued waits until it is
acknowledged. -/
structure KeepsMessages (traced : TracedServer Text) : Prop where
  named : ∀ message ∈ traced.accepted, message.Named
  distinct : (traced.accepted.map AcceptedMessage.serverId).Nodup
  offline : ((offlineSystem Text).restrict NotRedelivered).Reachable traced.server.offline
  kept : traced.record.KeptUntilAcknowledged

namespace KeepsMessages

variable {sha256} {traced : TracedServer Text} (keeps : KeepsMessages traced)
  (reached : (tracedSystem Text sha256).Reachable traced)
include keeps reached

theorem message_of_handed {userId : String} {packet : Packet}
    (handed : (userId, packet) ∈ traced.handed) (isMessage : packet.cmd = .receiveMessage) :
    ∃ message ∈ traced.accepted,
      MayRead sha256 traced.server.chat.ran message userId packet ∧
        packet.msgId = message.serverId ∧ message.Named := by
  obtain ⟨message, accepted, mayRead⟩ :=
    (confidential_of_reachable sha256 traced reached).handed _ handed isMessage
  exact ⟨message, accepted, mayRead, mayRead.msgId, keeps.named message accepted⟩

/-- No two messages for one user share an id. -/
theorem eq_of_handed {userId : String} {first second : Packet}
    (firstIn : (userId, first) ∈ traced.handed) (secondIn : (userId, second) ∈ traced.handed)
    (isFirst : first.cmd = .receiveMessage) (isSecond : second.cmd = .receiveMessage)
    (sameId : first.msgId = second.msgId) : first = second := by
  obtain ⟨message, accepted, mayRead, ownId, _⟩ :=
    keeps.message_of_handed reached firstIn isFirst
  obtain ⟨other, otherAccepted, otherMayRead, otherId, _⟩ :=
    keeps.message_of_handed reached secondIn isSecond
  obtain rfl : message = other := List.inj_on_of_nodup_map keeps.distinct accepted otherAccepted
    (ownId.symm.trans (sameId.trans otherId))
  cases mayRead with
  | recipient isPrivate _ _ isPacket =>
      cases otherMayRead with
      | recipient _ _ _ otherPacket => exact isPacket.trans otherPacket.symm
      | member isGroup =>
          rw [isPrivate] at isGroup
          exact absurd isGroup (by decide)
  | member isGroup _ _ _ _ _ _ _ groupName isPacket =>
      cases otherMayRead with
      | recipient isPrivate =>
          rw [isGroup] at isPrivate
          exact absurd isPrivate (by decide)
      | member _ _ _ _ _ _ _ _ otherName otherPacket =>
          -- both were handed over as group messages, whose ids do not repeat
          have ids := (keepsOrder_of_reachable traced reached).groups userId
          have distinct : ((traced.messagesFor "group" userId).map Packet.msgId).Nodup :=
            ids.nodup ((keeps.distinct.sublist (List.filter_sublist.map _)).sublist
              ((List.take_sublist _ _).map _))
          have forUser : ∀ packet, (userId, packet) ∈ traced.handed →
              IsMessage "group" packet = true → packet ∈ traced.messagesFor "group" userId := by
            intro packet handed isGroupMessage
            refine List.mem_filter.mpr ⟨List.mem_map.mpr ⟨(userId, packet), ?_, rfl⟩,
              isGroupMessage⟩
            exact List.mem_filter.mpr ⟨handed, decide_eq_true rfl⟩
          refine List.inj_on_of_nodup_map distinct (forUser first firstIn ?_)
            (forUser second secondIn ?_) sameId
          · rw [isPacket, isMessage_withGroupName, isGroup]
            rfl
          · rw [otherPacket, isMessage_withGroupName, isGroup]
            rfl

theorem tellsApart : traced.record.TellsApart := by
  have queued := queued_of_reachable sha256 traced reached
  intro userId first firstIn second secondIn isFirst isSecond sameId
  have handed : ∀ packet ∈ traced.record.queuedFor userId, (userId, packet) ∈ traced.handed := by
    intro packet member
    obtain ⟨entry, entryIn, rfl⟩ := List.mem_map.mp member
    obtain ⟨isQueued, ofUser⟩ := List.mem_filter.mp entryIn
    have sameUser : entry.1 = userId := of_decide_eq_true ofUser
    exact sameUser ▸ queued.subset isQueued
  exact keeps.eq_of_handed reached (handed first firstIn) (handed second secondIn) isFirst
    isSecond sameId

theorem next {event : ActingEvent} (enabled : event.enabled traced.server)
    (fresh : FreshServerId traced event) (queueKept : QueueKept traced event) :
    KeepsMessages (traced.next sha256 event) := by
  obtain ⟨reachedRecord, sameServer⟩ := record_reachable sha256 traced reached
  have carries := OfflineRecord.carriesPackets_of_reachable _ reachedRecord
  have rows : traced.record.server.KeepsRows := by
    rw [sameServer]
    exact keepsRows_of_reachable _ keeps.offline
  have accepted : (traced.next sha256 event).accepted =
      traced.accepted ++ traced.server.acceptedBy sha256 event := rfl
  have named : ∀ message ∈ (traced.next sha256 event).accepted, message.Named := by
    rw [accepted]
    intro message member
    rcases List.mem_append.mp member with old | new
    · exact keeps.named message old
    · rcases acceptedBy_cases sha256 reached fresh with none | ⟨only, one, isNamed, _⟩
      · rw [none] at new
        cases new
      · rw [one] at new
        rw [List.mem_singleton.mp new]
        exact isNamed
  have distinct : ((traced.next sha256 event).accepted.map AcceptedMessage.serverId).Nodup := by
    rw [accepted]
    rcases acceptedBy_cases sha256 reached fresh with none | ⟨only, one, _, unused⟩
    · rw [none, List.append_nil]
      exact keeps.distinct
    · rw [one, List.map_append, List.map_singleton, List.nodup_append]
      refine ⟨keeps.distinct, List.nodup_singleton _, ?_⟩
      intro old isOld new isNew same
      rw [same, List.mem_singleton.mp isNew] at isOld
      exact unused isOld
  have handedNamed : ∀ entry ∈ traced.server.handedBy sha256 event,
      entry.2.cmd = .receiveMessage → entry.2.msgId ≠ "" := by
    intro entry member isMessage
    have later : entry ∈ (traced.next sha256 event).handed := List.mem_append_right _ member
    obtain ⟨message, isAccepted, mayRead⟩ :=
      ((confidential_of_reachable sha256 traced reached).next reached event).handed entry later
        isMessage
    rw [mayRead.msgId]
    exact (named message isAccepted).serverId
  have apart := keeps.tellsApart reached
  refine ⟨named, distinct, ?_, ?_⟩
  · show ((offlineSystem Text).restrict NotRedelivered).Reachable
      (event.next sha256 traced.server).offline
    rw [offline_next]
    refine System.Reachable.run _ _ keeps.offline ?_
    rcases offlineEvents_steps sha256 traced.server event with ⟨offline, one, step⟩ | calls
    · rw [one]
      cases step with
      | session event => exact ⟨⟨enabled.2, trivial⟩, trivial⟩
      | acknowledges stamp isAck => exact ⟨⟨trivial, trivial⟩, trivial⟩
      | storeStep ok => exact ⟨⟨trivial, trivial⟩, trivial⟩
      | offlineLoaded => exact ⟨⟨trivial, queueKept⟩, trivial⟩
    · rw [calls]
      exact enabled_enqueues handedNamed _
  · show ((traced.server.offlineEvents sha256 event).foldl OfflineRecord.next
      traced.record).KeptUntilAcknowledged
    rcases offlineEvents_steps sha256 traced.server event with ⟨offline, one, step⟩ | calls
    · rw [one]
      have succeeds : OfflineRecord.Succeeds offline := by
        cases step with
        | storeStep ok => exact queueKept
        | _ => exact trivial
      exact keeps.kept.next rows carries apart succeeds
    · rw [calls]
      exact OfflineRecord.KeptUntilAcknowledged.enqueues _ _ keeps.kept

end KeepsMessages

theorem keepsMessages_of_reachable : ∀ traced, (keepingSystem Text sha256).Reachable traced →
    KeepsMessages traced := by
  refine System.Reachable.invariant ?_ ?_
  · exact ⟨fun _ member => absurd member List.not_mem_nil, List.nodup_nil,
      System.Reachable.initial, OfflineRecord.keptUntilAcknowledged_initial⟩
  · intro traced event reached keeps enabled
    exact keeps.next reached.of_restrict enabled.1 enabled.2.1 enabled.2.2

/-! ## Acknowledgements -/

/-- Only an acknowledgement from an authenticated session counts as one. -/
theorem acknowledged_offlineNext (server : OfflineServer Text)
    (event : OfflineEvent) :
    ∀ entry ∈ (event.next server).acknowledged, entry ∈ server.acknowledged ∨
      ∃ connectionId msgId session, event = .messageReceivedAck connectionId msgId ∧
        server.sessions.findByConnectionId connectionId = some session ∧
        session.isAuthenticated = true ∧ entry = (session.userId, msgId) := by
  intro entry member
  cases event with
  | session event => cases event <;> exact Or.inl member
  | enqueueIfOffline userId packet => exact Or.inl member
  | messageReceivedAck connectionId msgId =>
      simp only [OfflineEvent.next, handleMessageReceivedAck] at member
      split at member
      · exact Or.inl member
      rename_i session found
      split at member
      · exact Or.inl member
      rename_i authenticated
      split at member
      · exact Or.inl member
      rcases List.mem_append.mp member with old | new
      · exact Or.inl old
      · exact Or.inr ⟨connectionId, msgId, session, rfl, found, not_not.mp authenticated,
          List.mem_singleton.mp new⟩
  | storeStep ok =>
      simp only [OfflineEvent.next, OfflineServer.storeStep] at member
      split at member <;> exact Or.inl member
  | offlineLoaded =>
      simp only [OfflineEvent.next, OfflineServer.offlineLoaded] at member
      split at member <;> exact Or.inl member

theorem acknowledged_enqueues (handed : List (String × Packet)) :
    ∀ server : OfflineServer Text,
      ((handed.map fun handed => OfflineEvent.enqueueIfOffline handed.1 handed.2).foldl
        OfflineEvent.next server).acknowledged = server.acknowledged := by
  induction handed with
  | nil => exact fun server => rfl
  | cons first rest ih => exact fun server => ih _

theorem acknowledged_next {traced : TracedServer Text}
    (reached : (tracedSystem Text sha256).Reachable traced) (event : ActingEvent) :
    ∀ entry ∈ (event.next sha256 traced.server).offline.acknowledged,
      entry ∈ traced.server.offline.acknowledged ∨
      ∃ connectionId packet stamp session, event = .packetReceived connectionId packet stamp ∧
        packet.cmd = .messageReceivedAck ∧
        traced.server.chat.management.manager.findByConnectionId connectionId = some session ∧
        session.isAuthenticated = true ∧ entry = (session.userId, packet.msgId) := by
  have sessions := sessions_of_reachable sha256 traced.server
    (acting_reachable sha256 traced reached)
  intro entry member
  rw [offline_next] at member
  rcases offlineEvents_steps sha256 traced.server event with ⟨offline, one, step⟩ | calls
  · rw [one] at member
    rcases acknowledged_offlineNext traced.server.offline offline entry member with
      old | ⟨connectionId, msgId, session, isAck, found, authenticated, same⟩
    · exact Or.inl old
    · rw [sessions] at found
      cases step with
      | acknowledges stamp isPacket =>
          cases isAck
          exact Or.inr ⟨_, _, stamp, session, rfl, isPacket, found, authenticated, same⟩
      | _ => cases isAck
  · rw [calls, acknowledged_enqueues] at member
    exact Or.inl member

end Records
end ShirohaChat
