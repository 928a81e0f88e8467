import ShirohaChat.Server.OfflineManager
import Mathlib.Data.List.Nodup

/-!
# The offline queue table

`id` is an `AUTOINCREMENT` key: a new row gets a number above every number ever
used, so the rows stand in the order of their ids and the `ORDER BY id ASC` of
`loadOffline` is the order of the table.  `ok` is false where the database is
not open or the statement fails.
-/

set_option autoImplicit false

namespace ShirohaChat

structure OfflineRow (Text : Type) where
  id : Int
  recipientUserId : String
  packetJson : Text

structure OfflineQueue (Text : Type) where
  rows : List (OfflineRow Text)
  /-- The entry of `sqlite_sequence`. -/
  lastId : Int
  ascending : rows.Pairwise fun earlier later => earlier.id < later.id
  bounded : ∀ row ∈ rows, row.id ≤ lastId

namespace OfflineQueue

variable {Text : Type}

def empty : OfflineQueue Text := ⟨[], 0, List.Pairwise.nil, by simp⟩

def queueOffline (queue : OfflineQueue Text) (ok : Bool)
    (request : OfflineEnqueueRequest Text) : OfflineQueue Text :=
  if ok then
    { rows := queue.rows ++
        [⟨queue.lastId + 1, request.recipientUserId, request.packetJson⟩]
      lastId := queue.lastId + 1
      ascending := by
        rw [List.pairwise_append]
        refine ⟨queue.ascending, List.pairwise_singleton _ _, ?_⟩
        intro row member added addedIn
        rw [List.mem_singleton.mp addedIn]
        exact Int.lt_add_one_of_le (queue.bounded row member)
      bounded := by
        intro row member
        rcases List.mem_append.mp member with old | added
        · exact Int.le_of_lt (Int.lt_add_one_of_le (queue.bounded row old))
        · cases List.mem_singleton.mp added
          exact Int.le_refl _ }
  else queue

def loadOffline (queue : OfflineQueue Text) (ok : Bool) (request : OfflineLoadRequest) :
    OfflineLoadResult Text :=
  if ok then
    ⟨request.userId, (queue.rows.filter fun row => row.recipientUserId = request.userId).map
      fun row => (row.id, row.packetJson)⟩
  else ⟨request.userId, []⟩

def markOfflineDelivered (queue : OfflineQueue Text) (ok : Bool)
    (request : DeliveryMarkRequest) : OfflineQueue Text :=
  if ok ∧ request.ids ≠ [] then
    { rows := queue.rows.filter fun row => row.id ∉ request.ids
      lastId := queue.lastId
      ascending := queue.ascending.filter _
      bounded := fun row member => queue.bounded row (List.mem_filter.mp member).1 }
  else queue

theorem eq_of_id (queue : OfflineQueue Text) {left right : OfflineRow Text}
    (leftIn : left ∈ queue.rows) (rightIn : right ∈ queue.rows) (same : left.id = right.id) :
    left = right := by
  have distinct : (queue.rows.map OfflineRow.id).Nodup :=
    (List.pairwise_map.mpr queue.ascending).imp fun less => Int.ne_of_lt less
  exact List.inj_on_of_nodup_map distinct leftIn rightIn same

theorem mem_queueOffline (queue : OfflineQueue Text) (ok : Bool)
    (request : OfflineEnqueueRequest Text) (row : OfflineRow Text)
    (member : row ∈ (queue.queueOffline ok request).rows) :
    row ∈ queue.rows ∨
      row = ⟨queue.lastId + 1, request.recipientUserId, request.packetJson⟩ := by
  unfold queueOffline at member
  split at member
  · rcases List.mem_append.mp member with old | added
    · exact Or.inl old
    · exact Or.inr (List.mem_singleton.mp added)
  · exact Or.inl member

theorem mem_queueOffline_of_mem (queue : OfflineQueue Text) (ok : Bool)
    (request : OfflineEnqueueRequest Text) (row : OfflineRow Text)
    (member : row ∈ queue.rows) : row ∈ (queue.queueOffline ok request).rows := by
  unfold queueOffline
  split
  · exact List.mem_append_left _ member
  · exact member

theorem lastId_queueOffline_le (queue : OfflineQueue Text) (ok : Bool)
    (request : OfflineEnqueueRequest Text) :
    queue.lastId ≤ (queue.queueOffline ok request).lastId := by
  unfold queueOffline
  split
  · exact Int.le_of_lt (Int.lt_add_one_of_le (Int.le_refl _))
  · exact Int.le_refl _

theorem mem_loadOffline (queue : OfflineQueue Text) (ok : Bool)
    (request : OfflineLoadRequest) (packet : Int × Text)
    (member : packet ∈ (queue.loadOffline ok request).packets) :
    ∃ row ∈ queue.rows, row.recipientUserId = request.userId ∧
      packet = (row.id, row.packetJson) := by
  unfold loadOffline at member
  split at member
  · obtain ⟨row, rowIn, rfl⟩ := List.mem_map.mp member
    obtain ⟨stored, recipient⟩ := List.mem_filter.mp rowIn
    exact ⟨row, stored, by simpa using recipient, rfl⟩
  · cases member

theorem loadOffline_userId (queue : OfflineQueue Text) (ok : Bool)
    (request : OfflineLoadRequest) :
    (queue.loadOffline ok request).userId = request.userId := by
  unfold loadOffline
  split <;> rfl

theorem loadOffline_ids_nodup (queue : OfflineQueue Text) (ok : Bool)
    (request : OfflineLoadRequest) :
    ((queue.loadOffline ok request).packets.map Prod.fst).Nodup := by
  unfold loadOffline
  split
  · rw [List.map_map]
    refine List.pairwise_map.mpr ?_
    exact (queue.ascending.filter _).imp fun less => Int.ne_of_lt less
  · exact List.nodup_nil

theorem mem_markOfflineDelivered (queue : OfflineQueue Text) (ok : Bool)
    (request : DeliveryMarkRequest) (row : OfflineRow Text)
    (member : row ∈ (queue.markOfflineDelivered ok request).rows) : row ∈ queue.rows := by
  unfold markOfflineDelivered at member
  split at member
  · exact (List.mem_filter.mp member).1
  · exact member

theorem rows_markOfflineDelivered (queue : OfflineQueue Text) (request : DeliveryMarkRequest) :
    (queue.markOfflineDelivered true request).rows =
      queue.rows.filter fun row => row.id ∉ request.ids := by
  unfold markOfflineDelivered
  split
  · rfl
  · rename_i nothing
    have noIds : request.ids = [] := by simpa using nothing
    simp [noIds]

theorem lastId_markOfflineDelivered (queue : OfflineQueue Text) (ok : Bool)
    (request : DeliveryMarkRequest) :
    (queue.markOfflineDelivered ok request).lastId = queue.lastId := by
  unfold markOfflineDelivered
  split <;> rfl

end OfflineQueue
end ShirohaChat
