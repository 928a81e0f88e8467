import ShirohaChat.Server.GroupLists

/-!
# The group tables and the aggregate

The rules of a group are written twice: in the checks of the group repository,
and in the class `Group`.  A stored group is read as an aggregate, and every
member operation does to the tables what the aggregate's method does.
-/

set_option autoImplicit false

namespace ShirohaChat

/-! ## A stored group as an aggregate -/

def MemberRole.toDomain : MemberRole → GroupMemberRole
  | .creator => .creator
  | .member => .member

def MemberRow.toMember (row : MemberRow) : GroupMember := ⟨row.userId, row.role.toDomain⟩

namespace GroupStore

def membersOf (store : GroupStore) (groupId : String) : List GroupMember :=
  (store.members.select fun row => row.groupId = groupId).map MemberRow.toMember

/-- The aggregate with the creator and the members of the stored group. -/
def aggregate (store : GroupStore) (group : GroupRow) : Group :=
  { groupId := group.groupId
    groupName := some group.name
    creatorUserId := some group.creatorUserId
    members := store.membersOf group.groupId }

theorem length_membersOf (store : GroupStore) (groupId : String) :
    (store.membersOf groupId).length = store.memberCount groupId :=
  List.length_map _

theorem isMember_aggregate (store : GroupStore) (group : GroupRow) (userId : String) :
    (store.aggregate group).isMember userId = true ↔
      store.membership group.groupId userId ≠ 0 := by
  rw [membership_ne_zero]
  unfold Group.isMember aggregate membersOf IsMember
  rw [List.any_map, List.any_eq_true]
  constructor
  · rintro ⟨row, member, isUser⟩
    obtain ⟨rowIn, ofGroup⟩ := (store.members.mem_select _ row).mp member
    exact ⟨row, rowIn, of_decide_eq_true ofGroup, of_decide_eq_true isUser⟩
  · rintro ⟨row, rowIn, ofGroup, isUser⟩
    exact ⟨row, (store.members.mem_select _ row).mpr ⟨rowIn, decide_eq_true ofGroup⟩,
      decide_eq_true isUser⟩

theorem membersOf_insertMember {store after : GroupStore} {row : MemberRow}
    (inserted : store.insertMember row = some after) :
    after.membersOf row.groupId = store.membersOf row.groupId ++ [row.toMember] := by
  obtain ⟨_, rows, _⟩ := GroupStore.insertMember_eq_some inserted
  simp [membersOf, RowTable.select, rows]

theorem membersOf_deleteMember (store : GroupStore) (groupId userId : String) :
    (store.deleteMember groupId userId).membersOf groupId =
      (store.membersOf groupId).eraseP fun member => member.userId = userId := by
  have distinct : ((store.membersOf groupId).map GroupMember.userId).Nodup := by
    have ids := store.memberIds_nodup groupId
    rw [membersOf, List.map_map]
    exact ids
  rw [RowTable.eraseP_key distinct]
  unfold membersOf deleteMember RowTable.select RowTable.deleteWhere
  rw [List.filter_map, List.filter_filter, List.filter_filter]
  congr 1
  apply List.filter_congr
  intro row _
  by_cases ofGroup : row.groupId = groupId <;> by_cases isUser : row.userId = userId <;>
    simp [ofGroup, isUser, MemberRow.toMember]

theorem exists_insertMember {store : GroupStore} (row : MemberRow) {group : GroupRow}
    (stored : store.groups.find? row.groupId = some group)
    (absent : store.membership row.groupId row.userId = 0) :
    ∃ after, store.insertMember row = some after := by
  have fresh : (row.groupId, row.userId) ∉
      store.members.rows.map fun row => (row.groupId, row.userId) := by
    intro taken
    obtain ⟨other, otherIn, sameKey⟩ := List.mem_map.mp taken
    have excluded := (store.members.count_eq_zero _).mp absent other otherIn
    rw [decide_eq_false_iff_not] at excluded
    exact excluded (Prod.ext_iff.mp sameKey)
  unfold insertMember
  rw [stored]
  cases inserted : store.members.insert? row with
  | none => exact absurd ((store.members.insert?_eq_none row).mp inserted) fresh
  | some members => exact ⟨_, rfl⟩

theorem membersOf_deleteGroup (store : GroupStore) (groupId : String) :
    (store.deleteGroup groupId).membersOf groupId = [] := by
  unfold membersOf deleteGroup RowTable.select RowTable.deleteWhere
  rw [List.map_eq_nil_iff, List.filter_filter, List.filter_eq_nil_iff]
  intro row _
  simp

end GroupStore

/-! ## The operations -/

def MemberOpRun.undisturbed (run : MemberOpRun) : MemberOpRun := { now := run.now }

theorem addMember_of_success {store : GroupStore} {run : MemberOpRun}
    {request : GroupMemberOpRequest} (success : (addMember store run request).2.success = true) :
    addMember store run.undisturbed request = addMember store run request := by
  cases isOpen : run.isOpen with
  | false => simp [addMember, memberOpFailed, isOpen] at success
  | true =>
      cases groupSelected : run.groupSelected with
      | false => simp [addMember, memberOpFailed, isOpen, groupSelected] at success
      | true =>
          cases found : store.groups.find? request.groupId with
          | none => simp [addMember, memberOpFailed, isOpen, groupSelected, found] at success
          | some group =>
              simp only [addMember, MemberOpRun.undisturbed, isOpen, groupSelected, found,
                not_true_eq_false, ↓reduceIte, ne_eq, Bool.not_eq_true, ge_iff_le, gt_iff_lt,
                ite_not, false_or] at success ⊢
              grind [memberOpFailed]

theorem removeMember_of_success {store : GroupStore} {run : MemberOpRun}
    {request : GroupMemberOpRequest}
    (success : (removeMember store run request).2.success = true) :
    removeMember store run.undisturbed request = removeMember store run request := by
  simp only [removeMember, MemberOpRun.undisturbed] at success ⊢
  grind [memberOpFailed]

theorem leaveGroup_of_success {store : GroupStore} {run : MemberOpRun}
    {request : GroupMemberOpRequest} (success : (leaveGroup store run request).2.success = true) :
    leaveGroup store run.undisturbed request = leaveGroup store run request := by
  simp only [leaveGroup, MemberOpRun.undisturbed] at success ⊢
  grind [memberOpFailed]

structure Refines (group : GroupRow) (outcome : GroupStore × GroupMemberOpResult)
    (aggregate : Group × GroupOperationResult) : Prop where
  result : outcome.2.success = true ↔
    aggregate.2 = .success ∨ aggregate.2 = .groupDissolved
  row : outcome.1.groups.find? group.groupId =
    if aggregate.1.isDissolved then none else some group
  members : outcome.1.membersOf group.groupId = aggregate.1.members

section Operations
variable {store : GroupStore} {group : GroupRow}
  (stored : store.groups.find? group.groupId = some group)
include stored

theorem refines_refused {result : GroupMemberOpResult} {refusal : GroupOperationResult}
    (failed : result.success = false) (refused : refusal ≠ .success)
    (standing : refusal ≠ .groupDissolved) :
    Refines group (store, result) (store.aggregate group, refusal) := by
  refine ⟨?_, stored, rfl⟩
  rw [failed]
  exact iff_of_false Bool.false_ne_true (fun either => either.elim refused standing)

theorem refines_addMember {targetUserId : String}
    (registered : store.users.countOf targetUserId ≠ 0) (run : MemberOpRun) (reqMsgId : String) :
    Refines group
      (addMember store run.undisturbed
        ⟨reqMsgId, group.groupId, targetUserId, group.creatorUserId, .add⟩)
      ((store.aggregate group).addMember targetUserId) := by
  have memberIff := store.isMember_aggregate group targetUserId
  have size : (store.aggregate group).members.length = store.memberCount group.groupId :=
    store.length_membersOf group.groupId
  -- the tables look at the limit first, the aggregate at the membership
  by_cases full : store.memberCount group.groupId ≥ maxGroupMembers
  · have called : addMember store run.undisturbed
        ⟨reqMsgId, group.groupId, targetUserId, group.creatorUserId, .add⟩ =
        (store, memberOpFailed ⟨reqMsgId, group.groupId, targetUserId, group.creatorUserId, .add⟩
          400 "Group member limit reached") := by
      simp [addMember, MemberOpRun.undisturbed, stored, registered, full]
    rw [called, Group.addMember]
    split
    · exact refines_refused stored rfl (by decide) (by decide)
    · rw [if_pos (by omega)]
      exact refines_refused stored rfl (by decide) (by decide)
  by_cases isIn : store.membership group.groupId targetUserId > 0
  · have called : addMember store run.undisturbed
        ⟨reqMsgId, group.groupId, targetUserId, group.creatorUserId, .add⟩ =
        (store, memberOpFailed ⟨reqMsgId, group.groupId, targetUserId, group.creatorUserId, .add⟩
          409 "User already in group") := by
      simp [addMember, MemberOpRun.undisturbed, stored, registered, full, isIn]
    rw [called, Group.addMember, if_pos (memberIff.mpr (by omega))]
    exact refines_refused stored rfl (by decide) (by decide)
  · have absent : store.membership group.groupId targetUserId = 0 := by omega
    obtain ⟨after, inserted⟩ := GroupStore.exists_insertMember
      ⟨group.groupId, targetUserId, .member, run.now⟩ stored absent
    have called : addMember store run.undisturbed
        ⟨reqMsgId, group.groupId, targetUserId, group.creatorUserId, .add⟩ =
        (after, memberOpDone
          ⟨reqMsgId, group.groupId, targetUserId, group.creatorUserId, .add⟩) := by
      simp [addMember, MemberOpRun.undisturbed, stored, registered, full,
        absent, inserted]
    have outside : ¬ (store.aggregate group).isMember targetUserId = true :=
      fun isMember => memberIff.mp isMember absent
    rw [called, Group.addMember, if_neg outside, if_neg (by omega)]
    refine ⟨iff_of_true rfl (Or.inl rfl), ?_, GroupStore.membersOf_insertMember inserted⟩
    rw [(GroupStore.insertMember_eq_some inserted).1]
    exact stored

theorem refines_removeMember (run : MemberOpRun) (targetUserId reqMsgId : String) :
    Refines group
      (removeMember store run.undisturbed
        ⟨reqMsgId, group.groupId, targetUserId, group.creatorUserId, .remove⟩)
      ((store.aggregate group).removeMember group.creatorUserId targetUserId) := by
  have memberIff := store.isMember_aggregate group targetUserId
  by_cases isCreator : targetUserId = group.creatorUserId
  · have called : removeMember store run.undisturbed
        ⟨reqMsgId, group.groupId, targetUserId, group.creatorUserId, .remove⟩ =
        (store, memberOpFailed
          ⟨reqMsgId, group.groupId, targetUserId, group.creatorUserId, .remove⟩
          403 "Cannot remove creator from group") := by
      simp [removeMember, MemberOpRun.undisturbed, stored, isCreator]
    have creator : targetUserId = (store.aggregate group).creator := isCreator
    rw [called, Group.removeMember, if_pos creator]
    exact refines_refused stored rfl (by decide) (by decide)
  have other : ¬ targetUserId = (store.aggregate group).creator := isCreator
  by_cases isOut : store.membership group.groupId targetUserId = 0
  · have called : removeMember store run.undisturbed
        ⟨reqMsgId, group.groupId, targetUserId, group.creatorUserId, .remove⟩ =
        (store, memberOpFailed
          ⟨reqMsgId, group.groupId, targetUserId, group.creatorUserId, .remove⟩
          404 "User not in group") := by
      simp [removeMember, MemberOpRun.undisturbed, stored, isCreator, isOut]
    rw [called, Group.removeMember, if_neg other,
      if_pos fun isMember => memberIff.mp isMember isOut]
    exact refines_refused stored rfl (by decide) (by decide)
  · have called : removeMember store run.undisturbed
        ⟨reqMsgId, group.groupId, targetUserId, group.creatorUserId, .remove⟩ =
        (store.deleteMember group.groupId targetUserId, memberOpDone
          ⟨reqMsgId, group.groupId, targetUserId, group.creatorUserId, .remove⟩) := by
      simp [removeMember, MemberOpRun.undisturbed, stored, isCreator, isOut]
    rw [called, Group.removeMember, if_neg other, if_neg (not_not_intro (memberIff.mpr isOut))]
    exact ⟨iff_of_true rfl (Or.inl rfl), stored, store.membersOf_deleteMember _ _⟩

theorem refines_leaveGroup (run : MemberOpRun) (userId reqMsgId : String) :
    Refines group
      (leaveGroup store run.undisturbed ⟨reqMsgId, group.groupId, userId, userId, .leave⟩)
      ((store.aggregate group).leave userId) := by
  have memberIff := store.isMember_aggregate group userId
  have size : (store.aggregate group).members.length = store.memberCount group.groupId :=
    store.length_membersOf group.groupId
  by_cases isOut : store.membership group.groupId userId = 0
  · have called : leaveGroup store run.undisturbed
        ⟨reqMsgId, group.groupId, userId, userId, .leave⟩ =
        (store, memberOpFailed ⟨reqMsgId, group.groupId, userId, userId, .leave⟩
          404 "User not in group") := by
      simp [leaveGroup, MemberOpRun.undisturbed, stored, isOut]
    rw [called, Group.leave, if_pos fun isMember => memberIff.mp isMember isOut]
    exact refines_refused stored rfl (by decide) (by decide)
  have inside : ¬¬ (store.aggregate group).isMember userId = true :=
    not_not_intro (memberIff.mpr isOut)
  by_cases isCreator : userId = group.creatorUserId
  · subst isCreator
    have creator : group.creatorUserId = (store.aggregate group).creator := rfl
    have someone : store.membership group.groupId group.creatorUserId ≤
        store.memberCount group.groupId :=
      store.members.count_mono fun row both => decide_eq_true (of_decide_eq_true both).1
    by_cases alone : store.memberCount group.groupId = 1
    · have called : leaveGroup store run.undisturbed
          ⟨reqMsgId, group.groupId, group.creatorUserId, group.creatorUserId, .leave⟩ =
          (store.deleteGroup group.groupId, memberOpDone
            ⟨reqMsgId, group.groupId, group.creatorUserId, group.creatorUserId, .leave⟩) := by
        simp [leaveGroup, MemberOpRun.undisturbed, stored, isOut, alone]
      rw [called, Group.leave, if_neg inside, if_pos creator, if_neg (by omega)]
      refine ⟨iff_of_true rfl (Or.inr rfl), ?_, store.membersOf_deleteGroup _⟩
      rw [GroupStore.deleteGroup, RowTable.find?_deleteWhere, stored]
      simp
    · have called : leaveGroup store run.undisturbed
          ⟨reqMsgId, group.groupId, group.creatorUserId, group.creatorUserId, .leave⟩ =
          (store, memberOpFailed
            ⟨reqMsgId, group.groupId, group.creatorUserId, group.creatorUserId, .leave⟩
            403 "Creator cannot leave group with remaining members") := by
        simp [leaveGroup, MemberOpRun.undisturbed, stored, isOut, alone]
      rw [called, Group.leave, if_neg inside, if_pos creator, if_pos (by omega)]
      exact refines_refused stored rfl (by decide) (by decide)
  · have other : ¬ userId = (store.aggregate group).creator := isCreator
    have called : leaveGroup store run.undisturbed
        ⟨reqMsgId, group.groupId, userId, userId, .leave⟩ =
        (store.deleteMember group.groupId userId,
          memberOpDone ⟨reqMsgId, group.groupId, userId, userId, .leave⟩) := by
      simp [leaveGroup, MemberOpRun.undisturbed, stored, isOut, isCreator]
    rw [called, Group.leave, if_neg inside, if_neg other]
    exact ⟨iff_of_true rfl (Or.inl rfl), stored, store.membersOf_deleteMember _ _⟩

end Operations

/-- The operation refines the method, or one of its statements failed and with it
the operation, which changed nothing. -/
def RefinesUnlessDisturbed (store : GroupStore) (group : GroupRow) (run : MemberOpRun)
    (operation : MemberOpRun → GroupStore × GroupMemberOpResult)
    (aggregate : Group × GroupOperationResult) : Prop :=
  Refines group (operation run) aggregate ∨
    run ≠ run.undisturbed ∧ (operation run).2.success = false ∧ (operation run).1 = store

theorem refines_or_disturbed {store : GroupStore} {group : GroupRow} {run : MemberOpRun}
    {operation : MemberOpRun → GroupStore × GroupMemberOpResult}
    {aggregate : Group × GroupOperationResult}
    (refines : Refines group (operation run.undisturbed) aggregate)
    (same : (operation run).2.success = true → operation run.undisturbed = operation run)
    (unchanged : (operation run).2.success = false → (operation run).1 = store) :
    RefinesUnlessDisturbed store group run operation aggregate := by
  cases success : (operation run).2.success with
  | true =>
      rw [same success] at refines
      exact Or.inl refines
  | false =>
      by_cases undisturbed : run = run.undisturbed
      · rw [← undisturbed] at refines
        exact Or.inl refines
      · exact Or.inr ⟨undisturbed, success, unchanged success⟩

/-- Member operations of the creator on registered users, and anybody's leaving,
succeed exactly when the aggregate's methods do, and leave the same group behind,
unless a statement fails. -/
theorem group_store_refines_aggregate (store : GroupStore) (group : GroupRow)
    (stored : store.groups.find? group.groupId = some group) (run : MemberOpRun)
    (reqMsgId userId targetUserId : String) (registered : store.users.countOf targetUserId ≠ 0) :
    RefinesUnlessDisturbed store group run (fun run => addMember store run
        ⟨reqMsgId, group.groupId, targetUserId, group.creatorUserId, .add⟩)
      ((store.aggregate group).addMember targetUserId) ∧
    RefinesUnlessDisturbed store group run (fun run => removeMember store run
        ⟨reqMsgId, group.groupId, targetUserId, group.creatorUserId, .remove⟩)
      ((store.aggregate group).removeMember group.creatorUserId targetUserId) ∧
    RefinesUnlessDisturbed store group run (fun run => leaveGroup store run
        ⟨reqMsgId, group.groupId, userId, userId, .leave⟩)
      ((store.aggregate group).leave userId) := by
  refine ⟨?_, ?_, ?_⟩
  · refine refines_or_disturbed (refines_addMember stored registered run reqMsgId)
      addMember_of_success ?_
    intro failed
    rcases addMember_cases store run _ with ⟨_, same⟩ | ⟨success, _⟩
    · exact same
    · rw [failed] at success
      cases success
  · refine refines_or_disturbed (refines_removeMember stored run targetUserId reqMsgId)
      removeMember_of_success ?_
    intro failed
    rcases removeMember_cases store run _ with ⟨_, same⟩ | ⟨success, _⟩
    · exact same
    · rw [failed] at success
      cases success
  · refine refines_or_disturbed (refines_leaveGroup stored run userId reqMsgId)
      leaveGroup_of_success ?_
    intro failed
    rcases leaveGroup_cases store run _ with ⟨_, same⟩ | ⟨success, _⟩
    · exact same
    · rw [failed] at success
      cases success

def friendsGroup : GroupRow :=
  ⟨"grp_1", "friends", "alice", "2026-01-01T00:00:00.000Z", "2026-01-01T00:00:00.000Z"⟩

theorem group_store_refines_aggregate_bob :
    ((aliceBobGroup.aggregate friendsGroup).addMember "bob").2 = .alreadyMember ∧
    ((aliceBobGroup.aggregate friendsGroup).leave "bob").2 = .success ∧
    RefinesUnlessDisturbed aliceBobGroup friendsGroup { now := "2026-01-03T00:00:00.000Z" }
      (fun run => addMember aliceBobGroup run ⟨"m3", "grp_1", "bob", "alice", .add⟩)
      ((aliceBobGroup.aggregate friendsGroup).addMember "bob") ∧
    RefinesUnlessDisturbed aliceBobGroup friendsGroup { now := "2026-01-03T00:00:00.000Z" }
      (fun run => removeMember aliceBobGroup run ⟨"m3", "grp_1", "bob", "alice", .remove⟩)
      ((aliceBobGroup.aggregate friendsGroup).removeMember "alice" "bob") ∧
    RefinesUnlessDisturbed aliceBobGroup friendsGroup { now := "2026-01-03T00:00:00.000Z" }
      (fun run => leaveGroup aliceBobGroup run ⟨"m3", "grp_1", "bob", "bob", .leave⟩)
      ((aliceBobGroup.aggregate friendsGroup).leave "bob") :=
  ⟨by decide, by decide, group_store_refines_aggregate aliceBobGroup friendsGroup (by decide) _
    "m3" "bob" "bob" (by decide)⟩

end ShirohaChat
