import ShirohaChat.Server.MemberLoads

/-!
# Who is told about a change of a group

The management server with a record of the group operations the database
thread has committed, of the tables each member list was read from, and of what
was handed to `enqueueIfOffline` because of which request.
-/

set_option autoImplicit false

namespace ShirohaChat

open Transition Correlation

structure GroupChange where
  request : IssuedRequest
  groupId : String
  leaver : Option String
  deriving DecidableEq

/-- The change a call has made to the tables; the leave that dissolves the
group is none. -/
def committedChange (request : IssuedRequest) (after : GroupStore) :
    StoreCall → StoreReply → Option GroupChange
  | .createGroup _, .groupCreated result =>
      if result.success then some ⟨request, result.groupId, none⟩ else none
  | .addMember op, .memberOpCompleted result =>
      if result.success then some ⟨request, op.groupId, none⟩ else none
  | .removeMember op, .memberOpCompleted result =>
      if result.success then some ⟨request, op.groupId, some op.targetUserId⟩ else none
  | .leaveGroup op, .memberOpCompleted result =>
      if result.success ∧ (after.groups.find? op.groupId).isSome then
        some ⟨request, op.groupId, some op.operatorUserId⟩
      else none
  | _, _ => none

def entriesOf {Item : Type} (request : IssuedRequest) (entries : List (IssuedRequest × Item)) :
    List Item :=
  (entries.filter fun entry => entry.1 = request).map Prod.snd

/-- Only `state` is state of the program. -/
structure NotifyRecord where
  state : ManagementState
  changes : List GroupChange := []
  loads : List (IssuedRequest × GroupStore) := []
  told : List (IssuedRequest × String × Packet) := []
  drawn : List String := []

namespace NotifyRecord

def committed (record : NotifyRecord) : ManagementEvent → List GroupChange
  | .executeNext run =>
      match record.state.calls with
      | [] => []
      | (request, call) :: _ =>
          let (database, reply) := executeStoreCall record.state.database run call
          (committedChange request database.groupStore call reply).toList
  | _ => []

def loaded (record : NotifyRecord) : ManagementEvent → List (IssuedRequest × GroupStore)
  | .executeNext _ =>
      match record.state.calls with
      | (request, .loadGroupMembers _) :: _ => [(request, record.state.database.groupStore)]
      | _ => []
  | _ => []

/-- What the step hands to `enqueueIfOffline`, for the request whose result it
handles. -/
def tells (record : NotifyRecord) : ManagementEvent → List (IssuedRequest × String × Packet)
  | .handleNext stamp =>
      match record.state.replies with
      | [] => []
      | (request, _) :: _ =>
          ((record.state.handleNext stamp).notified.drop record.state.notified.length).map
            fun entry => (request, entry)
  | _ => []

def next (record : NotifyRecord) (event : ManagementEvent) : NotifyRecord where
  state := event.next record.state
  changes := record.changes ++ record.committed event
  loads := record.loads ++ record.loaded event
  told := record.told ++ record.tells event
  drawn :=
    match event with
    | .handleNext stamp => stamp.firstUuid :: record.drawn
    | _ => record.drawn

/-- Member lists are read without an error, and generated ids never come again. -/
def Assumed (record : NotifyRecord) : ManagementEvent → Prop
  | .executeNext run => run.groupMembers = {}
  | .handleNext stamp => stamp.firstUuid ∉ record.drawn
  | _ => True

def InFlight (record : NotifyRecord) (request : IssuedRequest) : Prop :=
  request ∈ record.state.replies.map Prod.fst ++ record.state.calls.map Prod.fst

end NotifyRecord

def notifySystem : System NotifyRecord ManagementEvent where
  initial := { state := ManagementState.empty }
  enabled record event :=
    (event.enabled record.state ∧ NotWaiting record.state event) ∧ record.Assumed event
  next := NotifyRecord.next

/-- The members of the group and the user who was taken out are told once,
nobody else is, and they are told of a change of the group. -/
structure TellsExactly (store : GroupStore) (change : GroupChange)
    (told : List (String × Packet)) : Prop where
  once : ∀ userId, told.countP (fun entry => entry.1 = userId) =
    if 0 < store.membership change.groupId userId ∨ change.leaver = some userId then 1 else 0
  changed : ∀ entry ∈ told, entry.2.cmd = .groupMemberChanged

/-! ## What a notification hands out -/

def GroupSignal.told : GroupSignal → Option (String × Packet)
  | .enqueueIfOffline userId packet => some (userId, packet)
  | _ => none

def notices (store : GroupStore) (groupId targetUserId : String) (packet : Packet) :
    List (String × Packet) :=
  let members := (oldestFirst MemberRow.joinedAt
    (store.members.select fun row => row.groupId = groupId)).map MemberRow.userId
  let present := members.map fun userId => (userId, packet)
  if targetUserId ≠ "" ∧ targetUserId ∉ members then present ++ [(targetUserId, packet)]
  else present

theorem mem_members_iff (store : GroupStore) (groupId userId : String) :
    userId ∈ (oldestFirst MemberRow.joinedAt
      (store.members.select fun row => row.groupId = groupId)).map MemberRow.userId ↔
      0 < store.membership groupId userId := by
  have sameMembers := (oldestFirst_perm MemberRow.joinedAt
    (store.members.select fun row => row.groupId = groupId)).map MemberRow.userId
  rw [sameMembers.mem_iff, List.mem_map, GroupStore.membership, RowTable.count,
    List.length_pos_iff_exists_mem]
  simp only [RowTable.mem_select, decide_eq_true_eq]
  constructor
  · rintro ⟨row, ⟨rowIn, ofGroup⟩, isUser⟩
    exact ⟨row, rowIn, ofGroup, isUser⟩
  · rintro ⟨row, rowIn, ofGroup, isUser⟩
    exact ⟨row, ⟨rowIn, ofGroup⟩, isUser⟩

theorem countP_notices (store : GroupStore) (groupId targetUserId : String) (packet : Packet)
    (userId : String) :
    (notices store groupId targetUserId packet).countP (fun entry => entry.1 = userId) =
      if 0 < store.membership groupId userId ∨ (targetUserId ≠ "" ∧ targetUserId = userId) then 1
      else 0 := by
  have isMember := mem_members_iff store groupId
  have distinct : ((oldestFirst MemberRow.joinedAt
      (store.members.select fun row => row.groupId = groupId)).map MemberRow.userId).Nodup :=
    ((oldestFirst_perm MemberRow.joinedAt _).map MemberRow.userId).nodup_iff.mpr
      (store.memberIds_nodup groupId)
  unfold notices
  simp only
  generalize ((oldestFirst MemberRow.joinedAt
    (store.members.select fun row => row.groupId = groupId)).map MemberRow.userId) =
    members at isMember distinct ⊢
  have present : (members.map fun other => (other, packet)).countP
      (fun entry => entry.1 = userId) = if 0 < store.membership groupId userId then 1 else 0 := by
    rw [List.countP_map]
    have counted : members.countP ((fun entry : String × Packet => decide (entry.1 = userId)) ∘
        fun other => (other, packet)) = members.count userId := by
      rw [List.count]
      apply List.countP_congr
      intro other _
      simp
    rw [counted]
    by_cases member : userId ∈ members
    · rw [List.count_eq_one_of_mem distinct member, if_pos ((isMember userId).mp member)]
    · rw [List.count_eq_zero_of_not_mem member, if_neg fun is => member ((isMember userId).mpr is)]
  split
  · rename_i absent
    rw [List.countP_append, present, List.countP_singleton]
    by_cases own : targetUserId = userId
    · have notMember : ¬ 0 < store.membership groupId userId := fun is =>
        absent.2 (own ▸ (isMember userId).mpr is)
      simp [notMember, own, own ▸ absent.1]
    · simp [own]
  · rename_i included
    rw [present]
    by_cases own : targetUserId ≠ "" ∧ targetUserId = userId
    · have member : 0 < store.membership groupId userId := by
        refine (isMember userId).mp ?_
        by_contra absent
        exact included ⟨own.1, own.2 ▸ absent⟩
      rw [if_pos member, if_pos (Or.inl member)]
    · simp [own]

theorem cmd_of_mem_notices {store : GroupStore} {groupId targetUserId : String}
    {packet : Packet} {entry : String × Packet}
    (member : entry ∈ notices store groupId targetUserId packet) : entry.2 = packet := by
  unfold notices at member
  simp only at member
  split at member
  · rcases List.mem_append.mp member with present | left
    · obtain ⟨_, _, rfl⟩ := List.mem_map.mp present
      rfl
    · rw [List.mem_singleton.mp left]
  · obtain ⟨_, _, rfl⟩ := List.mem_map.mp member
    rfl

theorem tellsExactly_notices (store : GroupStore) {change : GroupChange} {packet : Packet}
    (named : change.leaver ≠ some "") (isChange : packet.cmd = .groupMemberChanged) :
    TellsExactly store change
      (notices store change.groupId (change.leaver.getD "") packet) := by
  constructor
  · intro userId
    rw [countP_notices]
    have sameLeaver : (change.leaver.getD "" ≠ "" ∧ change.leaver.getD "" = userId) ↔
        change.leaver = some userId := by
      cases left : change.leaver with
      | none => simp
      | some leaver =>
          rw [left] at named
          have nonempty : leaver ≠ "" := fun empty => named (congrArg some empty)
          simp [nonempty]
    simp only [sameLeaver]
  · intro entry member
    rw [cmd_of_mem_notices member]
    exact isChange

/-- With its group gone, nobody is told: that is right only where nobody was
taken out. -/
theorem tellsExactly_nil_iff {store : GroupStore} (consistent : GroupsConsistent store)
    {change : GroupChange} (gone : store.groups.find? change.groupId = none) :
    TellsExactly store change [] ↔ change.leaver = none := by
  have nobody : ∀ userId, ¬ 0 < store.membership change.groupId userId := by
    intro userId positive
    obtain ⟨row, member⟩ := List.length_pos_iff_exists_mem.mp positive
    obtain ⟨rowIn, ofGroup⟩ := (RowTable.mem_select _ _ _).mp member
    obtain ⟨group, groupIn, sameId⟩ := consistent.grouped row rowIn
    exact (RowTable.find?_eq_none _ _).mp gone group groupIn
      (sameId.trans (of_decide_eq_true ofGroup).1)
  constructor
  · intro exactly
    cases left : change.leaver with
    | none => rfl
    | some leaver =>
        have once := exactly.once leaver
        simp [left] at once
  · intro stays
    constructor
    · intro userId
      simp [nobody userId, stays]
    · intro entry member
      cases member

end ShirohaChat
