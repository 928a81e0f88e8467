import ShirohaChat.Server.SessionRuns
import ShirohaChat.Server.OfflineQueue
import ShirohaChat.Server.OfflineDelivery

/-!
# Offline messages are kept until acknowledged

The server seen from the offline queue: sessions, the pending map, the calls on
their way to the database thread, the table, and the load results on their way
back.  The first queue row of an unacknowledged message is its keeper; the
pending map and every result in flight name the keeper first, and no delete in
flight names it.  A load result handled while one of its rows is already
pending breaks this: the row is taken for a duplicate of itself.
-/

set_option autoImplicit false

namespace ShirohaChat

open Transition

/-- The calls on their way from the main thread to the database thread. -/
inductive OfflineStoreCall (Text : Type) where
  | queueOffline (request : OfflineEnqueueRequest Text)
  | loadOffline (request : OfflineLoadRequest)
  | markOfflineDelivered (request : DeliveryMarkRequest)

/-- `acknowledged` is not state of the program: it records which user has sent
`message_received_ack` for which message id. -/
structure OfflineServer (Text : Type) where
  sessions : SessionManager
  offline : OfflineManager
  toStore : List (OfflineStoreCall Text)
  queue : OfflineQueue Text
  toMain : List (OfflineLoadResult Text)
  wire : List (SocketWrite Text)
  acknowledged : List (String × String)

inductive OfflineEvent where
  | session (event : SessionEvent)
  | enqueueIfOffline (recipientUserId : String) (packet : Packet)
  | messageReceivedAck (connectionId msgId : String)
  | storeStep (ok : Bool)
  | offlineLoaded

section Runs
variable {Text : Type} [JsonDocument Text]

namespace OfflineServer

def empty : OfflineServer Text :=
  ⟨SessionManager.empty, OfflineManager.empty, [], OfflineQueue.empty, [], [], []⟩

/-- `handleConnect` ends in `deliverOnLogin`; `detach` in `userDisconnected`. -/
def sessionEvent (server : OfflineServer Text) (event : SessionEvent) : OfflineServer Text :=
  match event with
  | .connectAccepted connectionId userId nickname =>
      { server with
        sessions := server.sessions.connectAccepted connectionId userId nickname
        toStore := server.toStore ++ [.loadOffline ⟨userId⟩] }
  | .disconnected connectionId =>
      { server with
        sessions := (server.sessions.detach connectionId).1
        offline := server.offline.onUserDisconnected (server.sessions.detach connectionId).2 }
  | other => { server with sessions := other.next server.sessions }

def enqueue (server : OfflineServer Text) (recipientUserId : String) (packet : Packet) :
    OfflineServer Text :=
  let (writes, request) := enqueueIfOffline Text server.sessions recipientUserId packet
  { server with
    wire := server.wire ++ writes
    toStore := server.toStore ++ (request.map .queueOffline).toList }

/-- `MessageHandler::handleMessageReceivedAck` for a packet of that connection. -/
def handleMessageReceivedAck (server : OfflineServer Text) (connectionId msgId : String) :
    OfflineServer Text :=
  match server.sessions.findByConnectionId connectionId with
  | none => server
  | some session =>
      if ¬ session.isAuthenticated then
        { server with
          wire := server.wire ++ session.sendError msgId 401 "Not authenticated" }
      else if msgId = "" then
        { server with wire := server.wire ++ session.sendError msgId 400 "Missing msgId" }
      else
        let (offline, request) := server.offline.handleMessageReceivedAck session.userId msgId
        { server with
          offline := offline
          toStore := server.toStore ++ (request.map .markOfflineDelivered).toList
          acknowledged := server.acknowledged ++ [(session.userId, msgId)] }

def storeStep (server : OfflineServer Text) (ok : Bool) : OfflineServer Text :=
  match server.toStore with
  | [] => server
  | .queueOffline request :: rest =>
      { server with toStore := rest, queue := server.queue.queueOffline ok request }
  | .loadOffline request :: rest =>
      { server with
        toStore := rest
        toMain := server.toMain ++ [server.queue.loadOffline ok request] }
  | .markOfflineDelivered request :: rest =>
      { server with toStore := rest, queue := server.queue.markOfflineDelivered ok request }

def offlineLoaded (server : OfflineServer Text) : OfflineServer Text :=
  match server.toMain with
  | [] => server
  | result :: rest =>
      let (offline, request, wire) :=
        onOfflineLoaded (wireRouter server.sessions result.userId) server.offline server.wire
          result
      { server with
        offline := offline
        toStore := server.toStore ++ (request.map .markOfflineDelivered).toList
        toMain := rest
        wire := wire }

section Steps
variable {server : OfflineServer Text} {rest : List (OfflineStoreCall Text)}

omit [JsonDocument Text] in
theorem storeStep_nil (waiting : server.toStore = []) (ok : Bool) :
    server.storeStep ok = server := by
  rw [storeStep, waiting]

omit [JsonDocument Text] in
theorem storeStep_queueOffline {request : OfflineEnqueueRequest Text}
    (waiting : server.toStore = .queueOffline request :: rest) (ok : Bool) :
    server.storeStep ok = { server with
      toStore := rest, queue := server.queue.queueOffline ok request } := by
  rw [storeStep, waiting]

omit [JsonDocument Text] in
theorem storeStep_loadOffline {request : OfflineLoadRequest}
    (waiting : server.toStore = .loadOffline request :: rest) (ok : Bool) :
    server.storeStep ok = { server with
      toStore := rest
      toMain := server.toMain ++ [server.queue.loadOffline ok request] } := by
  rw [storeStep, waiting]

omit [JsonDocument Text] in
theorem storeStep_markOfflineDelivered {request : DeliveryMarkRequest}
    (waiting : server.toStore = .markOfflineDelivered request :: rest) (ok : Bool) :
    server.storeStep ok = { server with
      toStore := rest, queue := server.queue.markOfflineDelivered ok request } := by
  rw [storeStep, waiting]

theorem offlineLoaded_nil (waiting : server.toMain = []) : server.offlineLoaded = server := by
  rw [offlineLoaded, waiting]

end Steps

end OfflineServer

namespace OfflineEvent

/-- Packets reach `handleConnect` from attached connections only, and the
messages handed to `enqueueIfOffline` carry a generated id. -/
def enabled (server : OfflineServer Text) : OfflineEvent → Prop
  | .session event =>
      event.enabled server.sessions ∧
        ∀ connectionId userId nickname, event = .connectAccepted connectionId userId nickname →
          server.sessions.findByConnectionId connectionId ≠ none
  | .enqueueIfOffline _ packet => packet.cmd = .receiveMessage → packet.msgId ≠ ""
  | _ => True

def next (server : OfflineServer Text) : OfflineEvent → OfflineServer Text
  | .session event => server.sessionEvent event
  | .enqueueIfOffline recipientUserId packet => server.enqueue recipientUserId packet
  | .messageReceivedAck connectionId msgId =>
      server.handleMessageReceivedAck connectionId msgId
  | .storeStep ok => server.storeStep ok
  | .offlineLoaded => server.offlineLoaded

end OfflineEvent

def offlineSystem (Text : Type) [JsonDocument Text] :
    System (OfflineServer Text) OfflineEvent where
  initial := OfflineServer.empty
  enabled := OfflineEvent.enabled
  next := OfflineEvent.next

structure AckHandled (server after : OfflineServer Text) (connectionId msgId : String) :
    Prop where
  sessions : after.sessions = server.sessions
  queue : after.queue = server.queue
  toMain : after.toMain = server.toMain
  effect : (after.offline = server.offline ∧ after.toStore = server.toStore ∧
      ∀ session, server.sessions.findByConnectionId connectionId = some session →
        session.isAuthenticated = true → msgId = "") ∨
    ∃ session, server.sessions.findByConnectionId connectionId = some session ∧
      session.isAuthenticated = true ∧ msgId ≠ "" ∧
      after.offline = (server.offline.handleMessageReceivedAck session.userId msgId).1 ∧
      after.toStore = server.toStore ++
        ((server.offline.handleMessageReceivedAck session.userId msgId).2.map
          .markOfflineDelivered).toList

theorem ackHandled (server : OfflineServer Text) (connectionId msgId : String) :
    AckHandled server (server.handleMessageReceivedAck connectionId msgId) connectionId msgId := by
  unfold OfflineServer.handleMessageReceivedAck
  cases found : server.sessions.findByConnectionId connectionId with
  | none =>
      refine ⟨rfl, rfl, rfl, Or.inl ⟨rfl, rfl, ?_⟩⟩
      intro session none
      cases found.symm.trans none
  | some session =>
      simp only
      split
      · rename_i unauthenticated
        refine ⟨rfl, rfl, rfl, Or.inl ⟨rfl, rfl, ?_⟩⟩
        intro other sameSession authenticated
        cases found.symm.trans sameSession
        exact absurd authenticated unauthenticated
      split
      · rename_i unnamed
        exact ⟨rfl, rfl, rfl, Or.inl ⟨rfl, rfl, fun _ _ _ => unnamed⟩⟩
      · rename_i authenticated named
        exact ⟨rfl, rfl, rfl,
          Or.inr ⟨session, found, not_not.mp authenticated, named, rfl, rfl⟩⟩

/-! ## The keeper of a message -/

theorem find?_filter_of_spared {α : Type} (chosen kept : α → Bool) (items : List α)
    (spared : ∀ item, items.find? chosen = some item → kept item = true) :
    (items.filter kept).find? chosen = items.find? chosen := by
  induction items with
  | nil => rfl
  | cons item rest ih =>
      cases here : chosen item with
      | true =>
          have keptHere := spared item (by rw [List.find?_cons, here])
          rw [List.filter_cons_of_pos keptHere, List.find?_cons, List.find?_cons, here]
      | false =>
          have restSpared : ∀ other, rest.find? chosen = some other → kept other = true := by
            intro other found
            exact spared other (by rw [List.find?_cons, here, found])
          cases keptHere : kept item with
          | true =>
              rw [List.filter_cons_of_pos keptHere, List.find?_cons, List.find?_cons, here]
              exact ih restSpared
          | false =>
              rw [List.filter_cons_of_neg (by rw [keptHere]; exact Bool.false_ne_true),
                List.find?_cons, here]
              exact ih restSpared

/-- The first queue row that holds the message for the user. -/
def OfflineQueue.keeper (queue : OfflineQueue Text) (userId msgId : String) : Option Int :=
  (queue.rows.find? fun row =>
    row.recipientUserId = userId ∧ receiveId row.packetJson = some msgId).map OfflineRow.id

namespace OfflineQueue

variable (queue : OfflineQueue Text)

theorem keeper_mem {userId msgId : String} {id : Int}
    (first : queue.keeper userId msgId = some id) :
    ∃ row ∈ queue.rows, row.id = id ∧ row.recipientUserId = userId ∧
      receiveId row.packetJson = some msgId := by
  obtain ⟨row, found, rfl⟩ := Option.map_eq_some_iff.mp first
  have matches' := List.find?_some found
  simp only [decide_eq_true_eq] at matches'
  exact ⟨row, List.mem_of_find?_eq_some found, rfl, matches'⟩

theorem keeper_of_mem {row : OfflineRow Text} {msgId : String} (member : row ∈ queue.rows)
    (isReceive : receiveId row.packetJson = some msgId) :
    ∃ id, queue.keeper row.recipientUserId msgId = some id := by
  cases first : queue.keeper row.recipientUserId msgId with
  | some id => exact ⟨id, rfl⟩
  | none =>
      have missing := List.find?_eq_none.mp (Option.map_eq_none_iff.mp first) row member
      simp [isReceive] at missing

theorem firstReceive_loadOffline {ok : Bool} {userId msgId : String} {id : Int}
    (first : firstReceive msgId (queue.loadOffline ok ⟨userId⟩).packets = some id) :
    queue.keeper userId msgId = some id := by
  unfold loadOffline at first
  split at first
  · rw [firstReceive, List.find?_map, List.find?_filter] at first
    rw [keeper, ← first, Option.map_map]
    congr 1
    simp
  · cases first

theorem keeper_queueOffline_of_some (ok : Bool) (request : OfflineEnqueueRequest Text)
    {userId msgId : String} {id : Int} (first : queue.keeper userId msgId = some id) :
    (queue.queueOffline ok request).keeper userId msgId = some id := by
  unfold queueOffline
  split
  · obtain ⟨row, found, rfl⟩ := Option.map_eq_some_iff.mp first
    unfold keeper
    rw [List.find?_append, found]
    rfl
  · exact first

theorem keeper_queueOffline (ok : Bool) (request : OfflineEnqueueRequest Text)
    {userId msgId : String} {id : Int}
    (first : (queue.queueOffline ok request).keeper userId msgId = some id) :
    queue.keeper userId msgId = some id ∨ id = queue.lastId + 1 := by
  cases before : queue.keeper userId msgId with
  | some old =>
      rw [queue.keeper_queueOffline_of_some ok request before] at first
      exact Or.inl first
  | none =>
      obtain ⟨row, member, rfl, recipient, isReceive⟩ := keeper_mem _ first
      rcases queue.mem_queueOffline ok request row member with old | added
      · obtain ⟨id, found⟩ := queue.keeper_of_mem old isReceive
        rw [recipient, before] at found
        cases found
      · exact Or.inr (by rw [added])

theorem keeper_markOfflineDelivered (ok : Bool) (request : DeliveryMarkRequest)
    (userId msgId : String)
    (spared : ∀ id, queue.keeper userId msgId = some id → id ∉ request.ids) :
    (queue.markOfflineDelivered ok request).keeper userId msgId = queue.keeper userId msgId := by
  unfold markOfflineDelivered
  split
  · unfold keeper at spared ⊢
    rw [find?_filter_of_spared]
    intro row found
    simpa using spared row.id (by rw [found, Option.map_some])
  · rfl

end OfflineQueue

/-! ## What holds in every run -/

namespace OfflineServer

/-- Row ids are never used again, so a remembered, loaded or marked id is the
row it was; and what is remembered, loaded first or marked respects the keepers
of the messages that are not acknowledged. -/
structure KeepsRows (server : OfflineServer Text) : Prop where
  pendingRow : ∀ userId msgId id, msgId ≠ "" →
    server.offline.pendingId userId msgId = some id →
    id ≤ server.queue.lastId ∧ ∀ row ∈ server.queue.rows, row.id = id →
      row.recipientUserId = userId ∧ receiveId row.packetJson = some msgId
  loadedDistinct : ∀ result ∈ server.toMain, (result.packets.map Prod.fst).Nodup
  loadedRow : ∀ result ∈ server.toMain, ∀ packet ∈ result.packets,
    packet.1 ≤ server.queue.lastId ∧ ∀ row ∈ server.queue.rows, row.id = packet.1 →
      row.recipientUserId = result.userId ∧ row.packetJson = packet.2
  markedRow : ∀ request, OfflineStoreCall.markOfflineDelivered request ∈ server.toStore →
    ∀ id ∈ request.ids, id ≤ server.queue.lastId
  queuedNamed : ∀ request, OfflineStoreCall.queueOffline request ∈ server.toStore →
    receiveId request.packetJson ≠ some ""
  rowNamed : ∀ row ∈ server.queue.rows, receiveId row.packetJson ≠ some ""
  pendingFirst : ∀ userId msgId id, (userId, msgId) ∉ server.acknowledged → msgId ≠ "" →
    server.offline.pendingId userId msgId = some id →
    server.queue.keeper userId msgId = some id
  loadedFirst : ∀ result ∈ server.toMain, ∀ msgId id,
    (result.userId, msgId) ∉ server.acknowledged → msgId ≠ "" →
    firstReceive msgId result.packets = some id →
    server.queue.keeper result.userId msgId = some id
  markSpares : ∀ userId msgId id, (userId, msgId) ∉ server.acknowledged → msgId ≠ "" →
    server.queue.keeper userId msgId = some id →
    ∀ request, OfflineStoreCall.markOfflineDelivered request ∈ server.toStore →
      id ∉ request.ids

/-- The row may be deleted: it is old and keeps no message unacknowledged. -/
def Disposable (server : OfflineServer Text) (acknowledged : List (String × String))
    (id : Int) : Prop :=
  id ≤ server.queue.lastId ∧ ∀ userId msgId, (userId, msgId) ∉ acknowledged → msgId ≠ "" →
    server.queue.keeper userId msgId ≠ some id

theorem KeepsRows.of_same_queue {server after : OfflineServer Text} (keeps : server.KeepsRows)
    (queue : after.queue = server.queue)
    (acknowledged : ∀ pair ∈ server.acknowledged, pair ∈ after.acknowledged)
    (pending : ∀ userId msgId id, msgId ≠ "" →
      after.offline.pendingId userId msgId = some id →
      server.offline.pendingId userId msgId = some id ∨
        ∃ result ∈ server.toMain, result.userId = userId ∧
          firstReceive msgId result.packets = some id)
    (loaded : ∀ result ∈ after.toMain, result ∈ server.toMain)
    (marks : ∀ request, OfflineStoreCall.markOfflineDelivered request ∈ after.toStore →
      OfflineStoreCall.markOfflineDelivered request ∈ server.toStore ∨
        ∀ id ∈ request.ids, server.Disposable after.acknowledged id)
    (queued : ∀ request, OfflineStoreCall.queueOffline request ∈ after.toStore →
      OfflineStoreCall.queueOffline request ∈ server.toStore ∨
        receiveId request.packetJson ≠ some "") :
    after.KeepsRows := by
  have older : ∀ pair, pair ∉ after.acknowledged → pair ∉ server.acknowledged :=
    fun pair absent present => absent (acknowledged pair present)
  refine ⟨?_, ?_, ?_, ?_, ?_, ?_, ?_, ?_, ?_⟩
  · intro userId msgId id named remembered
    rw [queue]
    rcases pending userId msgId id named remembered with old | ⟨result, member, rfl, first⟩
    · exact keeps.pendingRow userId msgId id named old
    · obtain ⟨packetJson, packetIn, isReceive⟩ := firstReceive_mem first
      obtain ⟨bound, rows⟩ := keeps.loadedRow result member _ packetIn
      refine ⟨bound, ?_⟩
      intro row rowIn rowId
      obtain ⟨recipient, sameJson⟩ := rows row rowIn rowId
      exact ⟨recipient, by rw [sameJson, isReceive]⟩
  · intro result member
    exact keeps.loadedDistinct result (loaded result member)
  · intro result member
    rw [queue]
    exact keeps.loadedRow result (loaded result member)
  · intro request member id idIn
    rw [queue]
    rcases marks request member with old | harmless
    · exact keeps.markedRow request old id idIn
    · exact (harmless id idIn).1
  · intro request member
    rcases queued request member with old | named
    · exact keeps.queuedNamed request old
    · exact named
  · rw [queue]
    exact keeps.rowNamed
  · intro userId msgId id unacknowledged named remembered
    rw [queue]
    rcases pending userId msgId id named remembered with old | ⟨result, member, rfl, first⟩
    · exact keeps.pendingFirst userId msgId id (older _ unacknowledged) named old
    · exact keeps.loadedFirst result member msgId id (older _ unacknowledged) named first
  · intro result member msgId id unacknowledged
    rw [queue]
    exact keeps.loadedFirst result (loaded result member) msgId id (older _ unacknowledged)
  · intro userId msgId id unacknowledged named first request member
    rw [queue] at first
    rcases marks request member with old | harmless
    · exact keeps.markSpares userId msgId id (older _ unacknowledged) named first request old
    · intro idIn
      exact (harmless id idIn).2 userId msgId unacknowledged named first

theorem keepsRows_empty : (empty : OfflineServer Text).KeepsRows := by
  refine ⟨?_, ?_, ?_, ?_, ?_, ?_, ?_, ?_, ?_⟩ <;>
    simp [empty, OfflineManager.pendingId_empty, OfflineQueue.empty, OfflineQueue.keeper]

theorem KeepsRows.sessionEvent {server : OfflineServer Text} (keeps : server.KeepsRows)
    (event : SessionEvent) : (server.sessionEvent event).KeepsRows := by
  have quiet : ∀ sessions, ({ server with sessions := sessions } : OfflineServer Text).KeepsRows :=
    fun _ => keeps.of_same_queue rfl (fun _ member => member)
      (fun _ _ _ _ remembered => Or.inl remembered) (fun _ member => member)
      (fun _ member => Or.inl member) (fun _ member => Or.inl member)
  cases event with
  | connectAccepted connectionId userId nickname =>
      refine keeps.of_same_queue rfl (fun _ member => member)
        (fun _ _ _ _ remembered => Or.inl remembered) (fun _ member => member) ?_ ?_
      · intro request member
        exact Or.inl (by simpa [OfflineServer.sessionEvent] using member)
      · intro request member
        exact Or.inl (by simpa [OfflineServer.sessionEvent] using member)
  | disconnected connectionId =>
      refine keeps.of_same_queue rfl (fun _ member => member) ?_ (fun _ member => member)
        (fun _ member => Or.inl member) (fun _ member => Or.inl member)
      intro userId msgId id _ remembered
      simp only [OfflineServer.sessionEvent] at remembered
      rw [OfflineManager.pendingId_onUserDisconnected] at remembered
      split at remembered
      · cases remembered
      · exact Or.inl remembered
  | newConnection connectionId now => exact quiet _
  | heartbeat connectionId now => exact quiet _
  | sweepTimeouts now => exact quiet _
  | socketClosing connectionId => exact quiet _

theorem KeepsRows.enqueue {server : OfflineServer Text} (keeps : server.KeepsRows)
    (recipientUserId : String) (packet : Packet)
    (named : packet.cmd = .receiveMessage → packet.msgId ≠ "") :
    (server.enqueue recipientUserId packet).KeepsRows := by
  refine keeps.of_same_queue rfl (fun _ member => member)
    (fun _ _ _ _ remembered => Or.inl remembered) (fun _ member => member) ?_ ?_
  · intro request member
    exact Or.inl (by simpa [OfflineServer.enqueue] using member)
  · intro request member
    simp only [OfflineServer.enqueue, List.mem_append, Option.mem_toList,
      Option.map_eq_some_iff] at member
    rcases member with old | ⟨added, produced, same⟩
    · exact Or.inl old
    · cases same
      refine Or.inr ?_
      unfold enqueueIfOffline at produced
      split at produced
      · cases produced
      · cases produced
        rw [receiveId_encode]
        split
        · rename_i isReceive
          intro blank
          exact named isReceive (Option.some.inj blank)
        · exact Option.some_ne_none "" ∘ Eq.symm

theorem KeepsRows.handleMessageReceivedAck {server : OfflineServer Text}
    (keeps : server.KeepsRows) (connectionId msgId : String) :
    (server.handleMessageReceivedAck connectionId msgId).KeepsRows := by
  have quiet : ∀ wire, ({ server with wire := wire } : OfflineServer Text).KeepsRows :=
    fun _ => keeps.of_same_queue rfl (fun _ member => member)
      (fun _ _ _ _ remembered => Or.inl remembered) (fun _ member => member)
      (fun _ member => Or.inl member) (fun _ member => Or.inl member)
  unfold OfflineServer.handleMessageReceivedAck
  split
  · exact keeps
  · rename_i session found
    split
    · exact quiet _
    · split
      · exact quiet _
      · refine keeps.of_same_queue rfl (fun _ member => List.mem_append_left _ member) ?_
          (fun _ member => member) ?_ ?_
        · intro userId other id _ remembered
          simp only [OfflineManager.pendingId_handleMessageReceivedAck] at remembered
          split at remembered
          · cases remembered
          · exact Or.inl remembered
        · intro request member
          simp only [List.mem_append, Option.mem_toList, Option.map_eq_some_iff] at member
          rcases member with old | ⟨added, produced, same⟩
          · exact Or.inl old
          · cases same
            obtain ⟨_, named, marked, remembered, ids⟩ :=
              OfflineManager.mark_handleMessageReceivedAck _ _ _ _ produced
            obtain ⟨bound, rows⟩ := keeps.pendingRow _ _ _ named remembered
            refine Or.inr fun id idIn => ?_
            rw [ids, List.mem_singleton] at idIn
            subst idIn
            refine ⟨bound, ?_⟩
            -- the row is this user's copy of this message, which is now acknowledged
            intro userId other unacknowledged _ first
            obtain ⟨row, rowIn, rowId, recipient, isReceive⟩ := server.queue.keeper_mem first
            obtain ⟨rowUser, rowMsg⟩ := rows row rowIn rowId
            rw [recipient] at rowUser
            rw [isReceive, Option.some.injEq] at rowMsg
            rw [rowUser, rowMsg] at unacknowledged
            exact unacknowledged (List.mem_append_right _ (List.mem_singleton_self _))
        · intro request member
          exact Or.inl (by simpa using member)

/-- The result at the front shows no row as new that is already pending and not
yet acknowledged. -/
def NotRedelivered (server : OfflineServer Text) : OfflineEvent → Prop
  | .offlineLoaded => ∀ result, server.toMain.head? = some result →
      ∀ packet ∈ result.packets, ∀ msgId, receiveId packet.2 = some msgId →
        (result.userId, msgId) ∉ server.acknowledged →
        server.offline.pendingId result.userId msgId ≠ some packet.1
  | _ => True

/-- A row that the handled load deletes keeps no message unacknowledged: its message
is remembered under an earlier row, or stands earlier in the load. -/
theorem KeepsRows.disposable_of_loaded {server : OfflineServer Text} (keeps : server.KeepsRows)
    (fresh : server.NotRedelivered .offlineLoaded) {result : OfflineLoadResult Text}
    {rest : List (OfflineLoadResult Text)} (waiting : server.toMain = result :: rest)
    {id : Int} {packetJson : Text} (packetIn : (id, packetJson) ∈ result.packets)
    (reason : ∀ msgId, receiveId packetJson = some msgId → msgId ≠ "" →
      server.offline.pendingId result.userId msgId ≠ none ∨
        firstReceive msgId result.packets ≠ some id) :
    server.Disposable server.acknowledged id := by
  have member : result ∈ server.toMain := waiting ▸ List.mem_cons_self
  obtain ⟨bound, rows⟩ := keeps.loadedRow result member _ packetIn
  refine ⟨bound, ?_⟩
  intro userId msgId unacknowledged named keeper
  obtain ⟨row, rowIn, rowId, recipient, isReceive⟩ := server.queue.keeper_mem keeper
  obtain ⟨rowUser, rowJson⟩ := rows row rowIn rowId
  rw [rowJson] at isReceive
  rw [recipient] at rowUser
  subst rowUser
  rcases reason msgId isReceive named with known | notFirst
  · obtain ⟨remembered, found⟩ := Option.ne_none_iff_exists'.mp known
    have first := keeps.pendingFirst _ msgId remembered unacknowledged named found
    rw [keeper, Option.some.injEq] at first
    rw [← first] at found
    exact fresh result (by rw [waiting, List.head?_cons]) _ packetIn msgId isReceive
      unacknowledged found
  · cases loadedFirst : firstReceive msgId result.packets with
    | none =>
        have missing := List.find?_eq_none.mp (Option.map_eq_none_iff.mp loadedFirst) _ packetIn
        simp [isReceive] at missing
    | some first =>
        have atKeeper := keeps.loadedFirst result member msgId first unacknowledged named
          loadedFirst
        rw [keeper] at atKeeper
        exact notFirst (loadedFirst.trans atKeeper.symm)

theorem KeepsRows.offlineLoaded {server : OfflineServer Text} (keeps : server.KeepsRows)
    (fresh : server.NotRedelivered .offlineLoaded) : server.offlineLoaded.KeepsRows := by
  unfold OfflineServer.offlineLoaded
  split
  · exact keeps
  · rename_i result rest waiting
    have member : result ∈ server.toMain := waiting ▸ List.mem_cons_self
    refine keeps.of_same_queue rfl (fun _ member => member) ?_ ?_ ?_ ?_
    · intro userId msgId id named remembered
      rcases onOfflineLoaded_pending _ server.offline server.wire result userId msgId id named
        remembered with old | ⟨rfl, first⟩
      · exact Or.inl old
      · exact Or.inr ⟨result, member, rfl, first⟩
    · intro other otherIn
      exact waiting ▸ List.mem_cons_of_mem _ otherIn
    · intro request requested
      simp only [List.mem_append, Option.mem_toList, Option.map_eq_some_iff] at requested
      rcases requested with old | ⟨added, produced, same⟩
      · exact Or.inl old
      · cases same
        refine Or.inr fun id idIn => ?_
        obtain ⟨packetJson, packetIn, reason⟩ := onOfflineLoaded_mark _ server.offline server.wire
          result request (keeps.loadedDistinct result member) produced id idIn
        exact keeps.disposable_of_loaded fresh waiting packetIn reason
    · intro request requested
      exact Or.inl (by simpa using requested)

/-! ## The database thread -/

theorem KeepsRows.pop {server : OfflineServer Text} {call : OfflineStoreCall Text}
    {rest : List (OfflineStoreCall Text)} (keeps : server.KeepsRows)
    (waiting : server.toStore = call :: rest) :
    ({ server with toStore := rest } : OfflineServer Text).KeepsRows :=
  keeps.of_same_queue rfl (fun _ member => member)
    (fun _ _ _ _ remembered => Or.inl remembered) (fun _ member => member)
    (fun _ member => Or.inl (waiting ▸ List.mem_cons_of_mem _ member))
    (fun _ member => Or.inl (waiting ▸ List.mem_cons_of_mem _ member))

theorem KeepsRows.queueOffline {server : OfflineServer Text} (keeps : server.KeepsRows)
    (ok : Bool) (request : OfflineEnqueueRequest Text)
    (named : receiveId request.packetJson ≠ some "") :
    ({ server with queue := server.queue.queueOffline ok request } :
      OfflineServer Text).KeepsRows := by
  have grows := server.queue.lastId_queueOffline_le ok request
  have oldRow : ∀ row ∈ (server.queue.queueOffline ok request).rows,
      row.id ≤ server.queue.lastId → row ∈ server.queue.rows := by
    intro row rowIn bound
    rcases server.queue.mem_queueOffline ok request row rowIn with old | added
    · exact old
    · rw [added] at bound
      exact absurd bound (Int.not_le.mpr (Int.lt_add_one_of_le (Int.le_refl _)))
  refine ⟨?_, keeps.loadedDistinct, ?_, ?_, keeps.queuedNamed, ?_, ?_, ?_, ?_⟩
  · intro userId msgId id msgNamed remembered
    obtain ⟨bound, rows⟩ := keeps.pendingRow userId msgId id msgNamed remembered
    exact ⟨Int.le_trans bound grows, fun row rowIn rowId =>
      rows row (oldRow row rowIn (rowId ▸ bound)) rowId⟩
  · intro result member packet packetIn
    obtain ⟨bound, rows⟩ := keeps.loadedRow result member packet packetIn
    exact ⟨Int.le_trans bound grows, fun row rowIn rowId =>
      rows row (oldRow row rowIn (rowId ▸ bound)) rowId⟩
  · intro marked member id idIn
    exact Int.le_trans (keeps.markedRow marked member id idIn) grows
  · intro row rowIn
    rcases server.queue.mem_queueOffline ok request row rowIn with old | added
    · exact keeps.rowNamed row old
    · rw [added]
      exact named
  · intro userId msgId id unacknowledged msgNamed remembered
    exact server.queue.keeper_queueOffline_of_some ok request
      (keeps.pendingFirst userId msgId id unacknowledged msgNamed remembered)
  · intro result member msgId id unacknowledged msgNamed first
    exact server.queue.keeper_queueOffline_of_some ok request
      (keeps.loadedFirst result member msgId id unacknowledged msgNamed first)
  · intro userId msgId id unacknowledged msgNamed keeper marked member idIn
    rcases server.queue.keeper_queueOffline ok request keeper with old | new
    · exact keeps.markSpares userId msgId id unacknowledged msgNamed old marked member idIn
    · have bound := keeps.markedRow marked member id idIn
      rw [new] at bound
      exact absurd bound (Int.not_le.mpr (Int.lt_add_one_of_le (Int.le_refl _)))

theorem KeepsRows.loadOffline {server : OfflineServer Text} (keeps : server.KeepsRows)
    (ok : Bool) (request : OfflineLoadRequest) :
    ({ server with toMain := server.toMain ++ [server.queue.loadOffline ok request] } :
      OfflineServer Text).KeepsRows := by
  refine ⟨keeps.pendingRow, ?_, ?_, keeps.markedRow, keeps.queuedNamed, keeps.rowNamed,
    keeps.pendingFirst, ?_, keeps.markSpares⟩
  · intro result member
    rcases List.mem_append.mp member with old | added
    · exact keeps.loadedDistinct result old
    · rw [List.mem_singleton.mp added]
      exact server.queue.loadOffline_ids_nodup ok request
  · intro result member packet packetIn
    rcases List.mem_append.mp member with old | added
    · exact keeps.loadedRow result old packet packetIn
    · rw [List.mem_singleton.mp added] at packetIn ⊢
      obtain ⟨row, rowIn, recipient, rfl⟩ := server.queue.mem_loadOffline ok request packet packetIn
      refine ⟨server.queue.bounded row rowIn, ?_⟩
      intro other otherIn sameId
      rw [server.queue.eq_of_id otherIn rowIn sameId, server.queue.loadOffline_userId]
      exact ⟨recipient, rfl⟩
  · intro result member msgId id unacknowledged named first
    rcases List.mem_append.mp member with old | added
    · exact keeps.loadedFirst result old msgId id unacknowledged named first
    · rw [List.mem_singleton.mp added] at first ⊢
      rw [server.queue.loadOffline_userId]
      exact server.queue.firstReceive_loadOffline first

theorem KeepsRows.markOfflineDelivered {server : OfflineServer Text} (keeps : server.KeepsRows)
    (ok : Bool) (request : DeliveryMarkRequest)
    (requested : OfflineStoreCall.markOfflineDelivered request ∈ server.toStore) :
    ({ server with queue := server.queue.markOfflineDelivered ok request } :
      OfflineServer Text).KeepsRows := by
  have sameBound := server.queue.lastId_markOfflineDelivered ok request
  have oldRow := server.queue.mem_markOfflineDelivered ok request
  have sameKeeper : ∀ userId msgId, (userId, msgId) ∉ server.acknowledged → msgId ≠ "" →
      (server.queue.markOfflineDelivered ok request).keeper userId msgId =
        server.queue.keeper userId msgId := by
    intro userId msgId unacknowledged named
    refine server.queue.keeper_markOfflineDelivered ok request userId msgId ?_
    intro id keeper
    exact keeps.markSpares userId msgId id unacknowledged named keeper request requested
  refine ⟨?_, keeps.loadedDistinct, ?_, ?_, keeps.queuedNamed, ?_, ?_, ?_, ?_⟩
  · intro userId msgId id named remembered
    obtain ⟨bound, rows⟩ := keeps.pendingRow userId msgId id named remembered
    exact ⟨sameBound ▸ bound, fun row rowIn => rows row (oldRow row rowIn)⟩
  · intro result member packet packetIn
    obtain ⟨bound, rows⟩ := keeps.loadedRow result member packet packetIn
    exact ⟨sameBound ▸ bound, fun row rowIn => rows row (oldRow row rowIn)⟩
  · intro marked member id idIn
    exact sameBound ▸ keeps.markedRow marked member id idIn
  · intro row rowIn
    exact keeps.rowNamed row (oldRow row rowIn)
  · intro userId msgId id unacknowledged named remembered
    rw [sameKeeper userId msgId unacknowledged named]
    exact keeps.pendingFirst userId msgId id unacknowledged named remembered
  · intro result member msgId id unacknowledged named first
    rw [sameKeeper result.userId msgId unacknowledged named]
    exact keeps.loadedFirst result member msgId id unacknowledged named first
  · intro userId msgId id unacknowledged named keeper
    rw [sameKeeper userId msgId unacknowledged named] at keeper
    exact keeps.markSpares userId msgId id unacknowledged named keeper

theorem KeepsRows.storeStep {server : OfflineServer Text} (keeps : server.KeepsRows)
    (ok : Bool) : (server.storeStep ok).KeepsRows := by
  unfold OfflineServer.storeStep
  cases waiting : server.toStore with
  | nil => exact keeps
  | cons call rest =>
      have member : call ∈ server.toStore := waiting ▸ List.mem_cons_self
      cases call with
      | queueOffline request =>
          exact (keeps.queueOffline ok request (keeps.queuedNamed request member)).pop waiting
      | loadOffline request => exact (keeps.loadOffline ok request).pop waiting
      | markOfflineDelivered request =>
          exact (keeps.markOfflineDelivered ok request member).pop waiting

end OfflineServer

open OfflineServer

theorem keepsRows_of_reachable (server : OfflineServer Text)
    (reached : ((offlineSystem Text).restrict NotRedelivered).Reachable server) :
    server.KeepsRows := by
  refine System.Reachable.invariant keepsRows_empty ?_ server reached
  intro before event _ keeps enabled
  cases event with
  | session event => exact keeps.sessionEvent event
  | enqueueIfOffline recipientUserId packet =>
      exact keeps.enqueue recipientUserId packet enabled.1
  | messageReceivedAck connectionId msgId =>
      exact keeps.handleMessageReceivedAck connectionId msgId
  | storeStep ok => exact keeps.storeStep ok
  | offlineLoaded => exact keeps.offlineLoaded enabled.2

/-- Each row that goes held no message, or an acknowledged one, or one of which
another row stays. -/
def DeletesOnlyAcknowledged (before after : OfflineServer Text) : Prop :=
  ∀ row ∈ before.queue.rows, row ∉ after.queue.rows →
    ∀ msgId, receiveId row.packetJson = some msgId →
      (row.recipientUserId, msgId) ∈ before.acknowledged ∨
        ∃ other ∈ after.queue.rows, other.recipientUserId = row.recipientUserId ∧
          receiveId other.packetJson = some msgId

theorem deletesOnlyAcknowledged_of_kept {before after : OfflineServer Text}
    (kept : ∀ row ∈ before.queue.rows, row ∈ after.queue.rows) :
    DeletesOnlyAcknowledged before after :=
  fun row member gone => absurd (kept row member) gone

theorem deletesOnlyAcknowledged_storeStep {server : OfflineServer Text}
    (keeps : server.KeepsRows) (ok : Bool) :
    DeletesOnlyAcknowledged server (server.storeStep ok) := by
  unfold OfflineServer.storeStep
  cases waiting : server.toStore with
  | nil => exact deletesOnlyAcknowledged_of_kept fun _ member => member
  | cons call rest =>
      have member : call ∈ server.toStore := waiting ▸ List.mem_cons_self
      cases call with
      | queueOffline request =>
          exact deletesOnlyAcknowledged_of_kept fun row member =>
            server.queue.mem_queueOffline_of_mem ok request row member
      | loadOffline request => exact deletesOnlyAcknowledged_of_kept fun _ member => member
      | markOfflineDelivered request =>
          intro row rowIn _ msgId isReceive
          by_cases acknowledged : (row.recipientUserId, msgId) ∈ server.acknowledged
          · exact Or.inl acknowledged
          · have named : msgId ≠ "" := by
              rintro rfl
              exact keeps.rowNamed row rowIn isReceive
            obtain ⟨id, keeper⟩ := server.queue.keeper_of_mem rowIn isReceive
            have stays : (server.queue.markOfflineDelivered ok request).keeper
                row.recipientUserId msgId = some id := by
              rw [server.queue.keeper_markOfflineDelivered ok request, keeper]
              intro first firstIs
              exact keeps.markSpares _ _ first acknowledged named firstIs request member
            obtain ⟨other, otherIn, _, recipient, otherReceive⟩ := OfflineQueue.keeper_mem _ stays
            exact Or.inr ⟨other, otherIn, recipient, otherReceive⟩

/-- As long as no load result shows a row again that is pending and not yet
acknowledged, every step deletes only rows of acknowledged messages. -/
theorem offline_row_deleted_only_acknowledged (server : OfflineServer Text)
    (reached : ((offlineSystem Text).restrict NotRedelivered).Reachable server)
    (event : OfflineEvent) : DeletesOnlyAcknowledged server (event.next server) := by
  have keeps := keepsRows_of_reachable server reached
  cases event with
  | session event =>
      cases event <;> exact deletesOnlyAcknowledged_of_kept fun _ member => member
  | enqueueIfOffline recipientUserId packet =>
      exact deletesOnlyAcknowledged_of_kept fun _ member => member
  | messageReceivedAck connectionId msgId =>
      refine deletesOnlyAcknowledged_of_kept fun row member => ?_
      simp only [OfflineEvent.next, OfflineServer.handleMessageReceivedAck]
      split
      · exact member
      · split
        · exact member
        · split <;> exact member
  | storeStep ok => exact deletesOnlyAcknowledged_storeStep keeps ok
  | offlineLoaded =>
      refine deletesOnlyAcknowledged_of_kept fun row member => ?_
      simp only [OfflineEvent.next, OfflineServer.offlineLoaded]
      split <;> exact member

def bobAcknowledges : List OfflineEvent :=
  [.enqueueIfOffline "bob" { cmd := .receiveMessage, msgId := "srv_1" }, .storeStep true,
    .session (.newConnection "c1" 0), .session (.connectAccepted "c1" "bob" "Bob"),
    .storeStep true, .offlineLoaded, .messageReceivedAck "c1" "srv_1"]

theorem offline_row_deleted_only_acknowledged_bob :
    DeletesOnlyAcknowledged
      (bobAcknowledges.foldl OfflineEvent.next (OfflineServer.empty : OfflineServer ParsedText))
      (OfflineEvent.next
        (bobAcknowledges.foldl OfflineEvent.next OfflineServer.empty) (.storeStep true)) := by
  have reached : ((offlineSystem ParsedText).restrict NotRedelivered).Reachable
      (bobAcknowledges.foldl OfflineEvent.next OfflineServer.empty) := by
    refine System.Reachable.run bobAcknowledges _ System.Reachable.initial ?_
    have nonempty : "bob" ≠ "" := by decide
    refine ⟨⟨fun _ => by decide, trivial⟩, ⟨trivial, trivial⟩,
      ⟨⟨⟨by decide, rfl⟩, fun _ _ _ same => nomatch same⟩, trivial⟩,
      ⟨⟨nonempty, fun _ _ _ same => ?_⟩, trivial⟩, ⟨trivial, trivial⟩, ⟨trivial, ?_⟩,
      ⟨trivial, trivial⟩, trivial⟩
    · cases same
      decide
    · intro result _ packet _ msgId _ _
      exact (Option.some_ne_none _).symm
  exact offline_row_deleted_only_acknowledged _ reached (.storeStep true)

/-- Bob's login is accepted twice on one connection: the second load shows the
row of the message he has just been sent. -/
def bobConnectsTwice : List OfflineEvent :=
  [.enqueueIfOffline "bob" { cmd := .receiveMessage, msgId := "srv_1" }, .storeStep true,
    .session (.newConnection "c1" 0), .session (.connectAccepted "c1" "bob" "Bob"),
    .session (.connectAccepted "c1" "bob" "Bob"),
    .storeStep true, .storeStep true, .offlineLoaded, .offlineLoaded]

/-- The only copy of an unacknowledged message is deleted. -/
theorem offline_row_deleted_unacknowledged :
    ¬ ∀ server, (offlineSystem ParsedText).Reachable server → ∀ event : OfflineEvent,
      event.enabled server → DeletesOnlyAcknowledged server (event.next server) := by
  intro always
  have reached : (offlineSystem ParsedText).Reachable
      (bobConnectsTwice.foldl OfflineEvent.next OfflineServer.empty) := by
    refine System.Reachable.run bobConnectsTwice _ System.Reachable.initial ?_
    have nonempty : "bob" ≠ "" := by decide
    refine ⟨fun _ => by decide, trivial, ⟨⟨by decide, rfl⟩, fun _ _ _ same => nomatch same⟩,
      ⟨nonempty, fun _ _ _ same => ?_⟩, ⟨nonempty, fun _ _ _ same => ?_⟩, trivial, trivial,
      trivial, trivial, trivial⟩
    · cases same
      decide
    · cases same
      decide
  have gone : ∀ row : OfflineRow ParsedText, row ∉ (OfflineEvent.next
      (bobConnectsTwice.foldl OfflineEvent.next OfflineServer.empty)
      (.storeStep true)).queue.rows := by
    intro row member
    cases member
  let message : Packet := { cmd := .receiveMessage, msgId := "srv_1" }
  rcases always _ reached (.storeStep true) trivial ⟨1, "bob", message.encode⟩
      (List.Mem.head _) (gone _) "srv_1" (receiveId_encode message) with
    acknowledged | ⟨other, member, _⟩
  · cases acknowledged
  · exact gone other member

end Runs
end ShirohaChat
