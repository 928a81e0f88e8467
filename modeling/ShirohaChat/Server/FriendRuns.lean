import ShirohaChat.Lib.Transition
import ShirohaChat.Server.FriendRepository

/-!
# Runs of the friend tables

Users, requests and friendships change by single calls of the database thread,
each of which may fail at any statement.  Pending requests stay unique for each
pair and apart from friendships.  An accepted request has its friendship exactly
when the program and the database order the two user ids alike.
-/

set_option autoImplicit false

namespace ShirohaChat

open Transition CodeUnits

/-! ## Pairs -/

theorem pairLow_pairHigh {left right : String} (differ : left ≠ right) :
    qLess (pairLow left right) (pairHigh left right) = true := by
  unfold pairLow pairHigh
  rcases qLess_total differ with less | greater
  · simp [less]
  · simp [greater, qLess_asymm greater]

theorem pair_of_qLess {low high left right : String} (less : qLess low high = true)
    (same : (left = low ∧ right = high) ∨ (left = high ∧ right = low)) :
    pairLow left right = low ∧ pairHigh left right = high := by
  rcases same with ⟨rfl, rfl⟩ | ⟨rfl, rfl⟩
  · simp [pairLow, pairHigh, less]
  · simp [pairLow, pairHigh, qLess_asymm less]

theorem FriendRequestRow.between_pair (row : FriendRequestRow) (left right : String) :
    row.between (pairLow left right) (pairHigh left right) ↔ row.between left right := by
  unfold FriendRequestRow.between pairLow pairHigh
  split
  · exact Iff.rfl
  · exact or_comm

theorem FriendRequestRow.between_self (row : FriendRequestRow) :
    row.between row.fromUserId row.toUserId := Or.inl ⟨rfl, rfl⟩

theorem FriendRequestRow.between_comm (row other : FriendRequestRow)
    (same : row.between other.fromUserId other.toUserId) :
    other.between row.fromUserId row.toUserId := by
  rcases same with ⟨fromSame, toSame⟩ | ⟨fromSame, toSame⟩
  · exact Or.inl ⟨fromSame.symm, toSame.symm⟩
  · exact Or.inr ⟨toSame.symm, fromSame.symm⟩

/-! ## What one call does -/

theorem createFriendRequest_cases (store : FriendStore) (run : FriendCreateRun)
    (request : FriendRequestCreateRequest) :
    ((createFriendRequest store run request).2.success = false ∧
      (createFriendRequest store run request).1 = store) ∨
    ((createFriendRequest store run request).2.success = true ∧
      request.fromUserId ≠ request.toUserId ∧
      (∀ row ∈ store.friendships.rows,
        ¬ (row.userLow = pairLow request.fromUserId request.toUserId ∧
          row.userHigh = pairHigh request.fromUserId request.toUserId)) ∧
      (∀ row ∈ store.friendRequests.rows,
        ¬ (row.between request.fromUserId request.toUserId ∧ row.status = .pending)) ∧
      ∃ friendRequests row, (createFriendRequest store run request).1 =
          { store with friendRequests := friendRequests } ∧
        friendRequests.rows = store.friendRequests.rows ++ [row] ∧
        row.fromUserId = request.fromUserId ∧ row.toUserId = request.toUserId ∧
        row.status = .pending) := by
  generalize called : createFriendRequest store run request = outcome
  unfold createFriendRequest at called
  simp only at called
  split at called
  · exact Or.inl (by rw [← called]; exact ⟨rfl, rfl⟩)
  split at called
  · exact Or.inl (by rw [← called]; exact ⟨rfl, rfl⟩)
  split at called
  · exact Or.inl (by rw [← called]; exact ⟨rfl, rfl⟩)
  rename_i differ
  split at called
  · exact Or.inl (by rw [← called]; exact ⟨rfl, rfl⟩)
  split at called
  · exact Or.inl (by rw [← called]; exact ⟨rfl, rfl⟩)
  split at called
  · exact Or.inl (by rw [← called]; exact ⟨rfl, rfl⟩)
  rename_i notFriends
  split at called
  · exact Or.inl (by rw [← called]; exact ⟨rfl, rfl⟩)
  split at called
  · exact Or.inl (by rw [← called]; exact ⟨rfl, rfl⟩)
  rename_i notPending
  split at called
  · exact Or.inl (by rw [← called]; exact ⟨rfl, rfl⟩)
  rename_i friendRequests inserted
  refine Or.inr ?_
  rw [← called]
  refine ⟨rfl, differ, ?_, ?_, friendRequests, ⟨run.requestId, request.fromUserId,
    request.toUserId, .pending, request.message, run.createdAt, none⟩, rfl, ?_, rfl, rfl, rfl⟩
  · simpa [RowTable.count_eq_zero] using notFriends
  · simpa [RowTable.count_eq_zero] using notPending
  · split at inserted
    · exact (RowTable.insert?_eq_some inserted).2
    · cases inserted

theorem decideFriendRequest_cases (store : FriendStore) (run : FriendDecideRun)
    (request : FriendDecisionRequest) :
    ((decideFriendRequest store run request).2.success = false ∧
      (decideFriendRequest store run request).1 = store) ∨
    ((decideFriendRequest store run request).2.success = true ∧
      ∃ row ∈ store.friendRequests.rows, row.requestId = request.requestId ∧
        request.operatorUserId = row.toUserId ∧ row.status = .pending ∧
        ((request.operation = .reject ∧ (decideFriendRequest store run request).1 =
            { store with friendRequests :=
                store.friendRequests.handle request.requestId .rejected run.handledAt }) ∨
          (request.operation = .accept ∧ (decideFriendRequest store run request).1 =
            { store with
              friendRequests :=
                store.friendRequests.handle request.requestId .accepted run.handledAt
              friendships := store.friendships.befriend
                (pairLow row.fromUserId row.toUserId)
                (pairHigh row.fromUserId row.toUserId) run.handledAt }))) := by
  generalize called : decideFriendRequest store run request = outcome
  unfold decideFriendRequest at called
  simp only at called
  split at called
  · exact Or.inl (by rw [← called]; exact ⟨rfl, rfl⟩)
  split at called
  · exact Or.inl (by rw [← called]; exact ⟨rfl, rfl⟩)
  split at called
  · exact Or.inl (by rw [← called]; exact ⟨rfl, rfl⟩)
  rename_i row selected
  have found : row ∈ store.friendRequests.rows ∧ row.requestId = request.requestId := by
    split at selected
    · exact (store.friendRequests.find?_eq_some request.requestId row).mp selected
    · cases selected
  split at called
  · exact Or.inl (by rw [← called]; exact ⟨rfl, rfl⟩)
  rename_i isRecipient
  split at called
  · exact Or.inl (by rw [← called]; exact ⟨rfl, rfl⟩)
  rename_i isPending
  have recipient := not_not.mp isRecipient
  have pending := not_not.mp isPending
  split at called
  · rename_i rejects
    split at called
    · exact Or.inl (by rw [← called]; exact ⟨rfl, rfl⟩)
    · refine Or.inr ?_
      rw [← called]
      exact ⟨rfl, row, found.1, found.2, recipient, pending, Or.inl ⟨rejects, rfl⟩⟩
  · rename_i accepts
    split at called
    · exact Or.inl (by rw [← called]; exact ⟨rfl, rfl⟩)
    split at called
    · exact Or.inl (by rw [← called]; exact ⟨rfl, rfl⟩)
    split at called
    · exact Or.inl (by rw [← called]; exact ⟨rfl, rfl⟩)
    split at called
    · exact Or.inl (by rw [← called]; exact ⟨rfl, rfl⟩)
    · refine Or.inr ?_
      rw [← called]
      exact ⟨rfl, row, found.1, found.2, recipient, pending, Or.inr ⟨accepts, rfl⟩⟩

/-- A handled table has the same requests; only the pending row of that id has
changed, and only in its status and time. -/
theorem mem_handle (friendRequests : FriendRequestTable) (requestId : String)
    (status : FriendStatus) (handledAt : String) (row : FriendRequestRow) :
    row ∈ (friendRequests.handle requestId status handledAt).rows ↔
      ∃ old ∈ friendRequests.rows, row =
        if old.requestId = requestId ∧ old.status = .pending then
          { old with status := status, handledAt := some handledAt }
        else old := by
  unfold FriendRequestTable.handle
  rw [RowTable.mem_updateWhere]
  simp only [decide_eq_true_eq]

theorem mem_befriend (friendships : FriendshipTable) (userLow userHigh createdAt : String)
    (row : FriendshipRow) (member : row ∈ (friendships.befriend userLow userHigh createdAt).rows) :
    row ∈ friendships.rows ∨ (row.userLow = userLow ∧ row.userHigh = userHigh) := by
  unfold FriendshipTable.befriend at member
  split at member
  · rename_i checked
    by_cases taken : (userLow, userHigh) ∈
        friendships.rows.map fun row => (row.userLow, row.userHigh)
    · rw [friendships.insertOrIgnore_taken _ taken] at member
      exact Or.inl member
    · rw [friendships.insertOrIgnore_fresh _ taken] at member
      rcases List.mem_append.mp member with old | added
      · exact Or.inl old
      · rw [List.mem_singleton.mp added]
        exact Or.inr ⟨rfl, rfl⟩
  · exact Or.inl member

/-- The pair has its row exactly when the check admits it. -/
theorem befriend_has_row (friendships : FriendshipTable) (userLow userHigh createdAt : String) :
    (∃ row ∈ (friendships.befriend userLow userHigh createdAt).rows,
        row.userLow = userLow ∧ row.userHigh = userHigh) ↔ sqlLess userLow userHigh = true := by
  constructor
  · rintro ⟨row, _, rfl, rfl⟩
    exact row.checked
  · intro checked
    unfold FriendshipTable.befriend
    rw [dif_pos checked]
    by_cases taken : (userLow, userHigh) ∈
        friendships.rows.map fun row => (row.userLow, row.userHigh)
    · rw [friendships.insertOrIgnore_taken _ taken]
      obtain ⟨row, member, same⟩ := List.mem_map.mp taken
      exact ⟨row, member, congrArg Prod.fst same, congrArg Prod.snd same⟩
    · refine ⟨⟨userLow, userHigh, createdAt, checked⟩, ?_, rfl, rfl⟩
      rw [friendships.insertOrIgnore_fresh _ taken]
      exact List.mem_append_right _ (List.mem_singleton_self _)

/-! ## Runs -/

inductive FriendEvent where
  | ensureUser (run : EnsureUserRun) (userId nickname : String)
  | createFriendRequest (run : FriendCreateRun) (request : FriendRequestCreateRequest)
  | decideFriendRequest (run : FriendDecideRun) (request : FriendDecisionRequest)

namespace FriendEvent

def next (store : FriendStore) : FriendEvent → FriendStore
  | .ensureUser run userId nickname =>
      { store with users := (ensureUserAndGetNickname store.users run userId nickname).1 }
  | .createFriendRequest run request => (ShirohaChat.createFriendRequest store run request).1
  | .decideFriendRequest run request => (ShirohaChat.decideFriendRequest store run request).1

def Fails (store : FriendStore) : FriendEvent → Prop
  | .ensureUser _ _ _ => False
  | .createFriendRequest run request =>
      (ShirohaChat.createFriendRequest store run request).2.success = false
  | .decideFriendRequest run request =>
      (ShirohaChat.decideFriendRequest store run request).2.success = false

end FriendEvent

def friendSystem : System FriendStore FriendEvent where
  initial := FriendStore.empty
  enabled := fun _ _ => True
  next := FriendEvent.next

structure FriendsConsistent (store : FriendStore) : Prop where
  notSelf : ∀ row ∈ store.friendRequests.rows, row.fromUserId ≠ row.toUserId
  onePending : ∀ first ∈ store.friendRequests.rows, ∀ second ∈ store.friendRequests.rows,
    first.status = .pending → second.status = .pending →
    first.between second.fromUserId second.toUserId → first = second
  friendsNotPending : ∀ friendship ∈ store.friendships.rows,
    ∀ row ∈ store.friendRequests.rows,
      row.between friendship.userLow friendship.userHigh → row.status ≠ .pending
  normalised : ∀ friendship ∈ store.friendships.rows,
    qLess friendship.userLow friendship.userHigh = true
  accepted : ∀ friendship ∈ store.friendships.rows, ∃ row ∈ store.friendRequests.rows,
    row.between friendship.userLow friendship.userHigh ∧ row.status = .accepted

namespace FriendsConsistent

variable {store : FriendStore}

theorem empty : FriendsConsistent FriendStore.empty := by
  refine ⟨?_, ?_, ?_, ?_, ?_⟩
  · intro row member
    cases member
  · intro first member
    cases member
  · intro friendship member
    cases member
  · intro friendship member
    cases member
  · intro friendship member
    cases member

/-- A new pending request between two users who have neither a pending request
nor a friendship. -/
theorem request (consistent : FriendsConsistent store) (friendRequests : FriendRequestTable)
    (added : FriendRequestRow)
    (appended : friendRequests.rows = store.friendRequests.rows ++ [added])
    (differ : added.fromUserId ≠ added.toUserId)
    (notFriends : ∀ row ∈ store.friendships.rows,
      ¬ (row.userLow = pairLow added.fromUserId added.toUserId ∧
        row.userHigh = pairHigh added.fromUserId added.toUserId))
    (notPending : ∀ row ∈ store.friendRequests.rows,
      ¬ (row.between added.fromUserId added.toUserId ∧ row.status = .pending)) :
    FriendsConsistent { store with friendRequests := friendRequests } := by
  have sources : ∀ row, row ∈ friendRequests.rows →
      row ∈ store.friendRequests.rows ∨ row = added := by
    intro row member
    rw [appended] at member
    simpa using member
  refine ⟨?_, ?_, ?_, consistent.normalised, ?_⟩
  · intro row member
    rcases sources row member with old | rfl
    · exact consistent.notSelf row old
    · exact differ
  · intro first firstIn second secondIn firstPending secondPending between
    rcases sources first firstIn with firstOld | rfl
    · rcases sources second secondIn with secondOld | rfl
      · exact consistent.onePending first firstOld second secondOld firstPending secondPending
          between
      · exact absurd ⟨between, firstPending⟩ (notPending first firstOld)
    · rcases sources second secondIn with secondOld | rfl
      · exact absurd ⟨first.between_comm second between, secondPending⟩
          (notPending second secondOld)
      · rfl
  · intro friendship friendshipIn row member between
    rcases sources row member with old | rfl
    · exact consistent.friendsNotPending friendship friendshipIn row old between
    · obtain ⟨low, high⟩ :=
        pair_of_qLess (consistent.normalised friendship friendshipIn) between
      exact absurd ⟨low.symm, high.symm⟩ (notFriends friendship friendshipIn)
  · intro friendship friendshipIn
    obtain ⟨row, member, between, accepted⟩ := consistent.accepted friendship friendshipIn
    refine ⟨row, ?_, between, accepted⟩
    rw [appended]
    exact List.mem_append_left _ member

/-- Handling a pending request: statuses only move away from pending, and the
handled request is no longer pending. -/
theorem handle (consistent : FriendsConsistent store) (requestId : String)
    (status : FriendStatus) (handledAt : String) (isHandled : status ≠ .pending) :
    FriendsConsistent { store with
      friendRequests := store.friendRequests.handle requestId status handledAt } := by
  have sources : ∀ row ∈ (store.friendRequests.handle requestId status handledAt).rows,
      ∃ old ∈ store.friendRequests.rows, row.fromUserId = old.fromUserId ∧
        row.toUserId = old.toUserId ∧ (row.status = .pending → row = old) := by
    intro row member
    obtain ⟨old, oldIn, rfl⟩ := (mem_handle _ _ _ _ _).mp member
    refine ⟨old, oldIn, ?_⟩
    split
    · exact ⟨rfl, rfl, fun pending => absurd pending isHandled⟩
    · exact ⟨rfl, rfl, fun _ => rfl⟩
  refine ⟨?_, ?_, ?_, consistent.normalised, ?_⟩
  · intro row member
    obtain ⟨old, oldIn, sameFrom, sameTo, _⟩ := sources row member
    rw [sameFrom, sameTo]
    exact consistent.notSelf old oldIn
  · intro first firstIn second secondIn firstPending secondPending between
    obtain ⟨_, firstOld, _, _, firstSame⟩ := sources first firstIn
    obtain ⟨_, secondOld, _, _, secondSame⟩ := sources second secondIn
    rw [← firstSame firstPending] at firstOld
    rw [← secondSame secondPending] at secondOld
    exact consistent.onePending first firstOld second secondOld firstPending secondPending
      between
  · intro friendship friendshipIn row member between pending
    obtain ⟨_, oldIn, _, _, same⟩ := sources row member
    rw [← same pending] at oldIn
    exact consistent.friendsNotPending friendship friendshipIn row oldIn between pending
  · intro friendship friendshipIn
    obtain ⟨row, member, between, accepted⟩ := consistent.accepted friendship friendshipIn
    refine ⟨row, ?_, between, accepted⟩
    refine (mem_handle _ _ _ _ _).mpr ⟨row, member, ?_⟩
    rw [if_neg]
    rintro ⟨_, pending⟩
    rw [accepted] at pending
    cases pending

/-- A friendship joins two users whose request has just been accepted. -/
theorem befriend (consistent : FriendsConsistent store) (accepted : FriendRequestRow)
    (acceptedIn : accepted ∈ store.friendRequests.rows) (isAccepted : accepted.status = .accepted)
    (noPending : ∀ row ∈ store.friendRequests.rows,
      row.between accepted.fromUserId accepted.toUserId → row.status ≠ .pending)
    (createdAt : String) :
    FriendsConsistent { store with
      friendships := store.friendships.befriend
        (pairLow accepted.fromUserId accepted.toUserId)
        (pairHigh accepted.fromUserId accepted.toUserId) createdAt } := by
  have sources := mem_befriend store.friendships (pairLow accepted.fromUserId accepted.toUserId)
    (pairHigh accepted.fromUserId accepted.toUserId) createdAt
  refine ⟨consistent.notSelf, consistent.onePending, ?_, ?_, ?_⟩
  · intro friendship friendshipIn row member between
    rcases sources friendship friendshipIn with old | ⟨isLow, isHigh⟩
    · exact consistent.friendsNotPending friendship old row member between
    · rw [isLow, isHigh, row.between_pair] at between
      exact noPending row member between
  · intro friendship friendshipIn
    rcases sources friendship friendshipIn with old | ⟨isLow, isHigh⟩
    · exact consistent.normalised friendship old
    · rw [isLow, isHigh]
      exact pairLow_pairHigh (consistent.notSelf accepted acceptedIn)
  · intro friendship friendshipIn
    rcases sources friendship friendshipIn with old | ⟨isLow, isHigh⟩
    · exact consistent.accepted friendship old
    · refine ⟨accepted, acceptedIn, ?_, isAccepted⟩
      rw [isLow, isHigh, accepted.between_pair]
      exact accepted.between_self

theorem accept (consistent : FriendsConsistent store) (row : FriendRequestRow)
    (member : row ∈ store.friendRequests.rows) (pending : row.status = .pending)
    (handledAt : String) :
    FriendsConsistent { store with
      friendRequests := store.friendRequests.handle row.requestId .accepted handledAt
      friendships := store.friendships.befriend (pairLow row.fromUserId row.toUserId)
        (pairHigh row.fromUserId row.toUserId) handledAt } := by
  have handled := consistent.handle row.requestId .accepted handledAt nofun
  have acceptedIn : ({ row with status := .accepted, handledAt := some handledAt } :
      FriendRequestRow) ∈
      (store.friendRequests.handle row.requestId .accepted handledAt).rows :=
    (mem_handle _ _ _ _ _).mpr ⟨row, member, (if_pos ⟨rfl, pending⟩).symm⟩
  refine handled.befriend _ acceptedIn rfl ?_ handledAt
  intro other otherIn between stillPending
  obtain ⟨old, oldIn, rfl⟩ := (mem_handle _ _ _ _ _).mp otherIn
  -- a request that is still pending has not been handled, and there was only one
  split at stillPending
  · cases stillPending
  · rename_i notHandled
    rw [if_neg notHandled] at between
    have same := consistent.onePending old oldIn row member stillPending pending between
    exact notHandled ⟨congrArg FriendRequestRow.requestId same, stillPending⟩

theorem step (consistent : FriendsConsistent store) (event : FriendEvent) :
    FriendsConsistent (event.next store) := by
  cases event with
  | ensureUser run userId nickname =>
      obtain ⟨notSelf, onePending, friendsNotPending, normalised, accepted⟩ := consistent
      exact ⟨notSelf, onePending, friendsNotPending, normalised, accepted⟩
  | createFriendRequest run request =>
      rcases createFriendRequest_cases store run request with
        ⟨_, unchanged⟩ |
        ⟨_, differ, notFriends, notPending, table, row, after, appended, isFrom, isTo, _⟩
      · simp only [FriendEvent.next, unchanged]
        exact consistent
      · simp only [FriendEvent.next, after]
        rw [← isFrom, ← isTo] at differ notFriends notPending
        exact consistent.request table row appended differ notFriends notPending
  | decideFriendRequest run request =>
      rcases decideFriendRequest_cases store run request with
        ⟨_, unchanged⟩ |
        ⟨_, row, member, sameId, _, pending, ⟨_, after⟩ | ⟨_, after⟩⟩
      · simp only [FriendEvent.next, unchanged]
        exact consistent
      · simp only [FriendEvent.next, after]
        exact consistent.handle request.requestId .rejected run.handledAt nofun
      · simp only [FriendEvent.next, after, ← sameId]
        exact consistent.accept row member pending run.handledAt

end FriendsConsistent

theorem friendsConsistent_of_reachable (store : FriendStore)
    (reached : friendSystem.Reachable store) : FriendsConsistent store := by
  refine System.Reachable.invariant FriendsConsistent.empty ?_ store reached
  intro before event _ consistent _
  exact consistent.step event

/-! ## Requests and their statuses -/

/-- Every request survives a call with its users; its status stays, or it was
pending and its recipient has decided it. -/
def StatusesKept (store : FriendStore) (event : FriendEvent) : Prop :=
  ∀ row ∈ store.friendRequests.rows, ∃ after ∈ (event.next store).friendRequests.rows,
    after.requestId = row.requestId ∧ after.fromUserId = row.fromUserId ∧
      after.toUserId = row.toUserId ∧
      (after.status = row.status ∨
        (row.status = .pending ∧ (after.status = .accepted ∨ after.status = .rejected) ∧
          ∃ run request, event = .decideFriendRequest run request ∧
            request.requestId = row.requestId ∧ request.operatorUserId = row.toUserId))

theorem statusesKept_of_subset {store : FriendStore} {event : FriendEvent}
    (kept : ∀ row ∈ store.friendRequests.rows, row ∈ (event.next store).friendRequests.rows) :
    StatusesKept store event :=
  fun row member => ⟨row, kept row member, rfl, rfl, rfl, Or.inl rfl⟩

theorem statusesKept_handle {store : FriendStore} (run : FriendDecideRun)
    (request : FriendDecisionRequest) (decided : FriendRequestRow)
    (decidedIn : decided ∈ store.friendRequests.rows)
    (sameId : decided.requestId = request.requestId)
    (recipient : request.operatorUserId = decided.toUserId) (status : FriendStatus)
    (isHandled : status = .accepted ∨ status = .rejected)
    (after : (FriendEvent.next store (.decideFriendRequest run request)).friendRequests =
      store.friendRequests.handle request.requestId status run.handledAt) :
    StatusesKept store (.decideFriendRequest run request) := by
  intro row member
  refine ⟨_, after ▸ (mem_handle _ _ _ _ _).mpr ⟨row, member, rfl⟩, ?_⟩
  split
  · rename_i handled
    have same := store.friendRequests.eq_of_key member decidedIn (handled.1.trans sameId.symm)
    exact ⟨rfl, rfl, rfl, Or.inr ⟨handled.2, isHandled, run, request, rfl, handled.1.symm,
      same ▸ recipient⟩⟩
  · exact ⟨rfl, rfl, rfl, Or.inl rfl⟩

theorem statusesKept (store : FriendStore) (event : FriendEvent) : StatusesKept store event := by
  cases event with
  | ensureUser run userId nickname => exact statusesKept_of_subset fun _ member => member
  | createFriendRequest run request =>
      refine statusesKept_of_subset fun row member => ?_
      rcases createFriendRequest_cases store run request with
        ⟨_, unchanged⟩ | ⟨_, _, _, _, table, _, after, appended, _⟩
      · simp only [FriendEvent.next, unchanged]
        exact member
      · simp only [FriendEvent.next, after, appended]
        exact List.mem_append_left _ member
  | decideFriendRequest run request =>
      rcases decideFriendRequest_cases store run request with
        ⟨_, unchanged⟩ |
        ⟨_, row, member, sameId, recipient, pending, ⟨_, after⟩ | ⟨_, after⟩⟩
      · refine statusesKept_of_subset fun row member => ?_
        simp only [FriendEvent.next, unchanged]
        exact member
      · exact statusesKept_handle run request row member sameId recipient .rejected
          (Or.inr rfl) (by simp only [FriendEvent.next, after])
      · exact statusesKept_handle run request row member sameId recipient .accepted
          (Or.inl rfl) (by simp only [FriendEvent.next, after])

theorem unchanged_of_fails (store : FriendStore) (event : FriendEvent)
    (fails : event.Fails store) : event.next store = store := by
  cases event with
  | ensureUser run userId nickname => cases fails
  | createFriendRequest run request =>
      rcases createFriendRequest_cases store run request with ⟨_, unchanged⟩ | ⟨success, _⟩
      · exact unchanged
      · exact absurd (success.symm.trans fails) (by decide)
  | decideFriendRequest run request =>
      rcases decideFriendRequest_cases store run request with ⟨_, unchanged⟩ | ⟨success, _⟩
      · exact unchanged
      · exact absurd (success.symm.trans fails) (by decide)

/-- The friend tables in every reachable state, and what one call may do. -/
theorem friend_tables_consistent (store : FriendStore)
    (reached : friendSystem.Reachable store) :
    (∀ first ∈ store.friendRequests.rows, ∀ second ∈ store.friendRequests.rows,
      first.status = .pending → second.status = .pending →
      first.between second.fromUserId second.toUserId → first = second) ∧
    (∀ friendship ∈ store.friendships.rows, ∀ row ∈ store.friendRequests.rows,
      row.between friendship.userLow friendship.userHigh → row.status ≠ .pending) ∧
    (∀ row ∈ store.friendRequests.rows, row.fromUserId ≠ row.toUserId) ∧
    ∀ event : FriendEvent, StatusesKept store event ∧
      (event.Fails store → event.next store = store) := by
  have consistent := friendsConsistent_of_reachable store reached
  exact ⟨consistent.onePending, consistent.friendsNotPending, consistent.notSelf,
    fun event => ⟨statusesKept store event, unchanged_of_fails store event⟩⟩

def aliceAsksBob : List FriendEvent :=
  [.ensureUser {} "bob" "Bob",
    .createFriendRequest { requestId := "frq_1", createdAt := "2026-01-01T00:00:00.000Z" }
      ⟨"m1", "alice", "bob", "hello"⟩]

theorem aliceAsksBob_reached :
    friendSystem.Reachable (aliceAsksBob.foldl FriendEvent.next FriendStore.empty) :=
  System.Reachable.run aliceAsksBob _ System.Reachable.initial ⟨trivial, trivial, trivial⟩

def carolAsksToo : List FriendEvent :=
  aliceAsksBob ++
    [.decideFriendRequest { handledAt := "2026-01-01T00:01:00.000Z" }
        ⟨"m2", "frq_1", "bob", .accept⟩,
      .createFriendRequest { requestId := "frq_2", createdAt := "2026-01-01T00:02:00.000Z" }
        ⟨"m3", "carol", "bob", "hi"⟩]

theorem friend_tables_consistent_alice :
    (carolAsksToo.foldl FriendEvent.next FriendStore.empty).friendRequests.rows.map
        (fun row => (row.fromUserId, row.status)) =
      [("alice", .accepted), ("carol", .pending)] ∧
    ∀ event : FriendEvent,
      StatusesKept (carolAsksToo.foldl FriendEvent.next FriendStore.empty) event := by
  have reached : friendSystem.Reachable
      (carolAsksToo.foldl FriendEvent.next FriendStore.empty) :=
    System.Reachable.run carolAsksToo _ System.Reachable.initial
      ⟨trivial, trivial, trivial, trivial, trivial⟩
  exact ⟨by decide, fun event => ((friend_tables_consistent _ reached).2.2.2 event).1⟩

/-! ## Accepted requests and friendships -/

def FriendshipRow.joins (row : FriendshipRow) (left right : String) : Prop :=
  (left = row.userLow ∧ right = row.userHigh) ∨ (left = row.userHigh ∧ right = row.userLow)

instance (row : FriendshipRow) (left right : String) : Decidable (row.joins left right) :=
  inferInstanceAs (Decidable (_ ∨ _))

theorem FriendshipRow.joins_comm (row : FriendshipRow) (left right : String) :
    row.joins left right ↔ row.joins right left := by
  unfold FriendshipRow.joins
  constructor
  · rintro (⟨isLow, isHigh⟩ | ⟨isHigh, isLow⟩)
    · exact Or.inr ⟨isHigh, isLow⟩
    · exact Or.inl ⟨isLow, isHigh⟩
  · rintro (⟨isLow, isHigh⟩ | ⟨isHigh, isLow⟩)
    · exact Or.inr ⟨isHigh, isLow⟩
    · exact Or.inl ⟨isLow, isHigh⟩

theorem count_joins_comm (friendships : FriendshipTable) (left right : String) :
    friendships.count (fun row => row.joins left right) =
      friendships.count fun row => row.joins right left := by
  congr 1
  funext row
  exact decide_eq_decide.mpr (row.joins_comm left right)

theorem FriendshipRow.low_ne_high (row : FriendshipRow) : row.userLow ≠ row.userHigh := by
  intro same
  have less := row.checked
  rw [same] at less
  exact absurd less (by rw [sqlLess_asymm less]; exact Bool.false_ne_true)

/-- The friend list names the other user once for each row that joins the two. -/
theorem count_loadFriendList (store : FriendStore) (query : FriendListQuery) (other : String) :
    (loadFriendList store true true query).friendUserIds.count other =
      store.friendships.count fun row => row.joins query.userId other := by
  have listed : ∀ row : FriendshipRow,
      (row.friendOf query.userId = other ∧
        (row.userLow = query.userId ∨ row.userHigh = query.userId)) ↔
      row.joins query.userId other := by
    intro row
    have differ := row.low_ne_high
    unfold FriendshipRow.friendOf FriendshipRow.joins
    by_cases isLow : row.userLow = query.userId
    · rw [if_pos isLow]
      constructor
      · rintro ⟨rfl, _⟩
        exact Or.inl ⟨isLow.symm, rfl⟩
      · rintro (⟨_, isHigh⟩ | ⟨isHigh, _⟩)
        · exact ⟨isHigh.symm, Or.inl isLow⟩
        · exact absurd (isLow.trans isHigh) differ
    · rw [if_neg isLow]
      constructor
      · rintro ⟨rfl, isHigh⟩
        exact Or.inr ⟨(isHigh.resolve_left isLow).symm, rfl⟩
      · rintro (⟨same, _⟩ | ⟨isHigh, isOther⟩)
        · exact absurd same.symm isLow
        · exact ⟨isOther.symm, Or.inr isHigh.symm⟩
  have perm := (newestFirst_perm FriendshipRow.createdAt (store.friendships.select fun row =>
    row.userLow = query.userId ∨ row.userHigh = query.userId)).map
      fun row => row.friendOf query.userId
  simp only [loadFriendList]
  rw [if_neg (by decide), if_neg (by decide)]
  simp only
  rw [perm.count_eq, List.count, List.countP_map, RowTable.select, List.countP_filter,
    List.countP_eq_length_filter, RowTable.count, RowTable.select]
  congr 1
  apply List.filter_congr
  intro row _
  rw [Bool.eq_iff_iff, Bool.and_eq_true, decide_eq_true_eq, decide_eq_true_eq,
    Function.comp_apply, beq_iff_eq]
  exact listed row

/-- The accepted request, exactly one friendship of the pair, and each user
exactly once in the other's list. -/
def Befriended (store : FriendStore) (requestId fromUserId toUserId : String) : Prop :=
  (∃ row ∈ store.friendRequests.rows, row.requestId = requestId ∧ row.status = .accepted) ∧
    store.friendships.count (fun row => row.joins fromUserId toUserId) = 1 ∧
    ∀ reqMsgId,
      (loadFriendList store true true ⟨reqMsgId, fromUserId⟩).friendUserIds.count toUserId = 1 ∧
      (loadFriendList store true true ⟨reqMsgId, toUserId⟩).friendUserIds.count fromUserId = 1

theorem count_joins (store : FriendStore) (consistent : FriendsConsistent store)
    (left right : String) :
    store.friendships.count (fun row => row.joins left right) = 1 ↔
      ∃ row ∈ store.friendships.rows,
        row.userLow = pairLow left right ∧ row.userHigh = pairHigh left right := by
  have normal : ∀ row ∈ store.friendships.rows, row.joins left right →
      pairLow left right = row.userLow ∧ pairHigh left right = row.userHigh :=
    fun row member => pair_of_qLess (consistent.normalised row member)
  constructor
  · intro one
    by_contra missing
    have none : store.friendships.count (fun row => row.joins left right) = 0 := by
      refine (store.friendships.count_eq_zero _).mpr ?_
      intro row member
      rw [decide_eq_false_iff_not]
      intro joins
      obtain ⟨isLow, isHigh⟩ := normal row member joins
      exact missing ⟨row, member, isLow.symm, isHigh.symm⟩
    omega
  · rintro ⟨row, member, isLow, isHigh⟩
    have joins : row.joins left right := by
      unfold pairLow at isLow
      unfold pairHigh at isHigh
      by_cases less : qLess left right = true
      · rw [if_pos less] at isLow isHigh
        exact Or.inl ⟨isLow.symm, isHigh.symm⟩
      · rw [if_neg less] at isLow isHigh
        exact Or.inr ⟨isHigh.symm, isLow.symm⟩
    have atMostOne := store.friendships.count_key_le_one (fun row => row.joins left right)
      (pairLow left right, pairHigh left right) fun other otherIn otherJoins => by
        obtain ⟨isLow, isHigh⟩ := normal other otherIn (of_decide_eq_true otherJoins)
        rw [isLow, isHigh]
    have atLeastOne : store.friendships.count (fun row => row.joins left right) ≠ 0 := by
      intro none
      have absent := (store.friendships.count_eq_zero _).mp none row member
      exact of_decide_eq_false absent joins
    omega

theorem pair_sqlLess_iff {left right : String} (differ : left ≠ right) :
    sqlLess (pairLow left right) (pairHigh left right) = true ↔
      OrdersAgree left.toList right.toList := by
  rw [← qLess_eq_sqlLess_iff]
  unfold pairLow pairHigh
  rcases qLess_total differ with less | greater
  · simp only [less, if_true]
    exact eq_comm
  · have notLess := qLess_asymm greater
    simp only [notLess, Bool.false_eq_true, if_false]
    constructor
    · intro sqlGreater
      exact (sqlLess_asymm sqlGreater).symm
    · intro sqlNotLess
      rcases sqlLess_total differ with sqlLess' | sqlGreater
      · rw [sqlLess'] at sqlNotLess
        cases sqlNotLess
      · exact sqlGreater

/-- A successful Accept leaves the two users befriended exactly when the two
orders agree on their ids; and every friendship has an accepted request. -/
theorem accepted_request_befriends_iff (store : FriendStore)
    (reached : friendSystem.Reachable store) :
    (∀ friendship ∈ store.friendships.rows, ∃ row ∈ store.friendRequests.rows,
      row.between friendship.userLow friendship.userHigh ∧ row.status = .accepted) ∧
    ∀ run request, request.operation = .accept →
      (decideFriendRequest store run request).2.success = true →
      ∃ row ∈ store.friendRequests.rows, row.requestId = request.requestId ∧
        (Befriended (decideFriendRequest store run request).1 row.requestId row.fromUserId
            row.toUserId ↔
          OrdersAgree row.fromUserId.toList row.toUserId.toList) := by
  have consistent := friendsConsistent_of_reachable store reached
  refine ⟨consistent.accepted, ?_⟩
  intro run request accepts success
  rcases decideFriendRequest_cases store run request with
    ⟨failure, _⟩ | ⟨_, row, member, sameId, _, pending, ⟨rejects, _⟩ | ⟨_, after⟩⟩
  · rw [success] at failure
    cases failure
  · rw [accepts] at rejects
    cases rejects
  · refine ⟨row, member, sameId, ?_⟩
    have differ := consistent.notSelf row member
    have afterConsistent := consistent.accept row member pending run.handledAt
    rw [after, ← sameId]
    have isAccepted : ∃ handled ∈
        (store.friendRequests.handle row.requestId .accepted run.handledAt).rows,
        handled.requestId = row.requestId ∧ handled.status = .accepted :=
      ⟨_, (mem_handle _ _ _ _ _).mpr ⟨row, member, (if_pos ⟨rfl, pending⟩).symm⟩, rfl, rfl⟩
    have counted := count_joins _ afterConsistent row.fromUserId row.toUserId
    have hasRow := befriend_has_row store.friendships (pairLow row.fromUserId row.toUserId)
      (pairHigh row.fromUserId row.toUserId) run.handledAt
    rw [← pair_sqlLess_iff differ, ← hasRow]
    constructor
    · rintro ⟨_, one, _⟩
      exact counted.mp one
    · intro joined
      have one := counted.mpr joined
      refine ⟨isAccepted, one, ?_⟩
      intro reqMsgId
      rw [count_loadFriendList, count_loadFriendList,
        count_joins_comm _ row.toUserId row.fromUserId]
      exact ⟨one, one⟩

def acceptedAt : FriendDecideRun := { handledAt := "2026-01-02T00:00:00.000Z" }

theorem accepted_request_befriends_iff_alice :
    ∃ row ∈ (aliceAsksBob.foldl FriendEvent.next FriendStore.empty).friendRequests.rows,
      row.requestId = "frq_1" ∧
        (Befriended (decideFriendRequest (aliceAsksBob.foldl FriendEvent.next FriendStore.empty)
            acceptedAt ⟨"m2", "frq_1", "bob", .accept⟩).1
            row.requestId row.fromUserId row.toUserId ↔
          OrdersAgree row.fromUserId.toList row.toUserId.toList) :=
  (accepted_request_befriends_iff _ aliceAsksBob_reached).2 acceptedAt
    ⟨"m2", "frq_1", "bob", .accept⟩ rfl (by decide)

/-- U+FF5E: after every supplementary character in UTF-16, before them in UTF-8. -/
def tildeId : String := String.ofList [Char.ofNat 0xFF5E]

/-- U+10000. -/
def linearBId : String := String.ofList [Char.ofNat 0x10000]

def tildeAsksLinearB : List FriendEvent :=
  [.ensureUser {} linearBId "B",
    .createFriendRequest { requestId := "frq_1", createdAt := "2026-01-01T00:00:00.000Z" }
      ⟨"m1", tildeId, linearBId, "hello"⟩]

/-- The Accept succeeds, and the database holds no friendship of the two. -/
theorem accepted_request_without_friendship :
    ¬ ∀ store, friendSystem.Reachable store → ∀ run request, request.operation = .accept →
      (decideFriendRequest store run request).2.success = true →
      ∀ row ∈ store.friendRequests.rows, row.requestId = request.requestId →
        Befriended (decideFriendRequest store run request).1 row.requestId row.fromUserId
          row.toUserId := by
  intro always
  have reached : friendSystem.Reachable
      (tildeAsksLinearB.foldl FriendEvent.next FriendStore.empty) :=
    System.Reachable.run tildeAsksLinearB _ System.Reachable.initial ⟨trivial, trivial, trivial⟩
  obtain ⟨_, one, _⟩ := always _ reached acceptedAt ⟨"m2", "frq_1", linearBId, .accept⟩ rfl
    (by decide) _ (List.Mem.head _) rfl
  exact absurd one (by decide)

end ShirohaChat
