import ShirohaChat.Server.GroupRuns

/-!
# Group lists

A loaded list has each group of the user once, with exactly its members.  Every
id in it is clean: users log in under trimmed ids, the ids of groups are drawn,
and the invited are trimmed or known users.
-/

set_option autoImplicit false

namespace ShirohaChat

def GroupStore.IsMember (store : GroupStore) (groupId userId : String) : Prop :=
  ∃ row ∈ store.members.rows, row.groupId = groupId ∧ row.userId = userId

/-! ## Clean ids -/

structure CleanIds (store : GroupStore) : Prop where
  users : ∀ row ∈ store.users.rows, CleanText row.userId
  groups : ∀ row ∈ store.groups.rows, CleanText row.groupId
  members : ∀ row ∈ store.members.rows, CleanText row.userId

/-- Who logs in or creates a group has the id of a session, and the id of a new
group is drawn. -/
def GroupEvent.Admitted : GroupEvent → Prop
  | .ensureUser _ userId _ => CleanText userId
  | .createGroup run request => CleanText run.groupId ∧ CleanText request.creatorUserId
  | _ => True

theorem cleanText_of_mem_cleanedMembers (memberIds : List String) :
    ∀ {seen : List String} {memberId : String}, memberId ∈ cleanedMembers seen memberIds →
      CleanText memberId := by
  induction memberIds with
  | nil =>
      intro seen memberId member
      cases member
  | cons invited rest ih =>
      intro seen memberId member
      rw [cleanedMembers] at member
      split at member
      · rename_i fresh
        rcases List.mem_cons.mp member with rfl | inRest
        · exact cleanText_trimmed fresh.1
        · exact ih inRest
      · exact ih member

theorem GroupStore.users_insertMember {store after : GroupStore} {row : MemberRow}
    (inserted : store.insertMember row = some after) : after.users = store.users := by
  unfold insertMember at inserted
  split at inserted
  · cases inserted
  · obtain ⟨members, _, rfl⟩ := Option.map_eq_some_iff.mp inserted
    rfl

theorem users_insertMembers (run : GroupCreateRun) (memberIds : List String) :
    ∀ {store after : GroupStore}, insertMembers run memberIds store = .ok after →
      after.users = store.users := by
  induction memberIds with
  | nil =>
      intro store after inserted
      cases inserted
      rfl
  | cons memberId rest ih =>
      intro store after inserted
      rw [insertMembers] at inserted
      split at inserted
      · cases inserted
      · rename_i added step
        split at step
        · exact (ih inserted).trans (GroupStore.users_insertMember step)
        · cases step

theorem users_createGroup (store : GroupStore) (run : GroupCreateRun)
    (request : GroupCreateRequest) :
    (createGroup store run request).1.users = store.users := by
  unfold createGroup
  simp only
  split
  · rfl
  split
  · rfl
  split
  · rfl
  split
  · rfl
  split
  · rfl
  split
  · rfl
  rename_i withCreator creatorStep
  split
  · rfl
  rename_i inserted memberSteps
  split
  · rfl
  split at creatorStep
  · have creatorUsers := GroupStore.users_insertMember creatorStep
    exact (users_insertMembers run _ memberSteps).trans creatorUsers
  · cases creatorStep

namespace CleanIds

variable {store : GroupStore}

theorem empty : CleanIds GroupStore.empty := by
  constructor
  · intro row member
    cases member
  · intro row member
    cases member
  · intro row member
    cases member

theorem mono (clean : CleanIds store) {after : GroupStore} (sameUsers : after.users = store.users)
    (groups : ∀ row ∈ after.groups.rows, row ∈ store.groups.rows)
    (members : ∀ row ∈ after.members.rows, row ∈ store.members.rows) : CleanIds after :=
  ⟨fun row member => clean.users row (sameUsers ▸ member),
    fun row member => clean.groups row (groups row member),
    fun row member => clean.members row (members row member)⟩

theorem withoutMember (clean : CleanIds store) (groupId userId : String) :
    CleanIds (store.deleteMember groupId userId) :=
  clean.mono rfl (fun _ member => member)
    fun row member => ((store.members.mem_deleteWhere _ row).mp member).1

theorem created (clean : CleanIds store) {run : GroupCreateRun} {request : GroupCreateRequest}
    {after : GroupStore} (sameUsers : after.users = store.users)
    (created : GroupCreated store run request after) (drawn : CleanText run.groupId)
    (creator : CleanText request.creatorUserId) : CleanIds after := by
  refine ⟨fun row member => clean.users row (sameUsers ▸ member), ?_, ?_⟩
  · intro row member
    rw [created.groups] at member
    rcases List.mem_append.mp member with old | new
    · exact clean.groups row old
    · rw [List.mem_singleton.mp new]
      exact drawn
  · intro row member
    rw [created.members] at member
    rcases List.mem_append.mp member with old | new
    · exact clean.members row old
    · rcases List.mem_cons.mp new with rfl | invited
      · exact creator
      · obtain ⟨memberId, cleaned, rfl⟩ := List.mem_map.mp invited
        exact cleanText_of_mem_cleanedMembers _ cleaned

theorem next (clean : CleanIds store) {event : GroupEvent} (admitted : event.Admitted) :
    CleanIds (event.next store) := by
  cases event with
  | ensureUser run userId nickname =>
      refine ⟨?_, clean.groups, clean.members⟩
      intro row member
      rcases mem_ensureUser member with old | new
      · exact clean.users row old
      · rw [new]
        exact admitted
  | createGroup run request =>
      rcases createGroup_cases store run request with ⟨_, same⟩ | ⟨_, created⟩
      · rw [GroupEvent.next, same]
        exact clean
      · exact clean.created (users_createGroup store run request) created admitted.1 admitted.2
  | addMember run request =>
      rcases addMember_cases store run request with ⟨_, same⟩ | ⟨_, known, _, inserted⟩
      · rw [GroupEvent.next, same]
        exact clean
      · obtain ⟨sameGroups, appended, _⟩ := GroupStore.insertMember_eq_some inserted
        obtain ⟨user, userIn, isTarget⟩ := known
        refine ⟨?_, ?_, ?_⟩
        · intro row member
          rw [GroupEvent.next, GroupStore.users_insertMember inserted] at member
          exact clean.users row member
        · intro row member
          rw [GroupEvent.next, sameGroups] at member
          exact clean.groups row member
        · intro row member
          rw [GroupEvent.next, appended] at member
          rcases List.mem_append.mp member with old | new
          · exact clean.members row old
          · rw [List.mem_singleton.mp new, ← isTarget]
            exact clean.users user userIn
  | removeMember run request =>
      rcases removeMember_cases store run request with ⟨_, same⟩ | ⟨_, _, _, _, _, after⟩
      · rw [GroupEvent.next, same]
        exact clean
      · rw [GroupEvent.next, after]
        exact clean.withoutMember _ _
  | leaveGroup run request =>
      rcases leaveGroup_cases store run request with
        ⟨_, same⟩ | ⟨_, _, _, _, ⟨_, _, after⟩ | ⟨_, after⟩⟩
      · rw [GroupEvent.next, same]
        exact clean
      · rw [GroupEvent.next, after]
        exact clean.mono rfl (fun row member => ((store.groups.mem_deleteWhere _ row).mp member).1)
          fun row member => ((store.members.mem_deleteWhere _ row).mp member).1
      · rw [GroupEvent.next, after]
        exact clean.withoutMember _ _

end CleanIds

/-! ## What a list shows -/

structure ListsGroups (store : GroupStore) (userId : String) (groups : List GroupListEntry) :
    Prop where
  distinct : (groups.map GroupListEntry.groupId).Nodup
  listed : ∀ groupId,
    groupId ∈ groups.map GroupListEntry.groupId ↔ store.IsMember groupId userId
  distinctMembers : ∀ entry ∈ groups, entry.memberUserIds.Nodup
  members : ∀ entry ∈ groups, ∀ memberId,
    memberId ∈ entry.memberUserIds ↔ store.IsMember entry.groupId memberId

namespace GroupStore

variable (store : GroupStore)

/-- The join finds a group at most once, since the user has one member row. -/
theorem groupsOf_eq_filter (userId : String) :
    store.groupsOf userId = store.groups.rows.filter fun group =>
      store.membership group.groupId userId ≠ 0 := by
  unfold groupsOf
  induction store.groups.rows with
  | nil => rfl
  | cons group rest ih =>
      rw [List.flatMap_cons, ih]
      have atMostOne : store.membership group.groupId userId ≤ 1 :=
        store.members.count_key_le_one _ (group.groupId, userId) fun row _ chosen => by
          obtain ⟨ofGroup, isUser⟩ := of_decide_eq_true chosen
          rw [ofGroup, isUser]
      have counted : (store.members.select fun row =>
          row.groupId = group.groupId ∧ row.userId = userId).length =
          store.membership group.groupId userId := rfl
      rw [List.map_const', counted]
      by_cases isMember : store.membership group.groupId userId = 0
      · simp [isMember]
      · have one : store.membership group.groupId userId = 1 := by omega
        simp [one]

theorem membership_ne_zero (groupId userId : String) :
    store.membership groupId userId ≠ 0 ↔ store.IsMember groupId userId := by
  rw [ne_eq, membership, store.members.count_eq_zero]
  simp [IsMember]

theorem groupsOf_distinct (userId : String) :
    ((store.groupsOf userId).map GroupRow.groupId).Nodup := by
  rw [groupsOf_eq_filter]
  exact List.Nodup.sublist (List.filter_sublist.map _) store.groups.keysNodup

/-- Sorting the members of several groups and picking those of one gives the
members of that group. -/
theorem pickedMembers_perm {groupIds : List String} {groupId : String}
    (listed : groupId ∈ groupIds) :
    (((oldestFirst MemberRow.joinedAt (store.members.select fun row =>
        row.groupId ∈ groupIds)).filter fun row => row.groupId = groupId).map
          MemberRow.userId).Perm
      ((store.members.select fun row => row.groupId = groupId).map MemberRow.userId) := by
  apply List.Perm.map
  have picked : (store.members.select fun row => row.groupId ∈ groupIds).filter
      (fun row => row.groupId = groupId) =
      store.members.select fun row => row.groupId = groupId := by
    rw [RowTable.select, List.filter_filter]
    apply List.filter_congr
    intro row _
    by_cases ofGroup : row.groupId = groupId
    · simp [ofGroup, listed]
    · simp [ofGroup]
  rw [← picked]
  exact (oldestFirst_perm _ _).filter _

end GroupStore

namespace GroupRepository

def shownGroups (store : GroupStore) (userId : String) : List GroupRow :=
  newestFirst GroupRow.updatedAt (newestFirst GroupRow.createdAt (store.groupsOf userId))

theorem shownGroups_perm (store : GroupStore) (userId : String) :
    (shownGroups store userId).Perm (store.groupsOf userId) :=
  (newestFirst_perm _ _).trans (newestFirst_perm _ _)

theorem shownGroups_distinct (store : GroupStore) (userId : String) :
    ((shownGroups store userId).map GroupRow.groupId).Nodup :=
  ((shownGroups_perm store userId).map GroupRow.groupId).nodup_iff.mpr
    (store.groupsOf_distinct userId)

theorem mem_shownGroups (store : GroupStore) (userId : String) (group : GroupRow) :
    group ∈ shownGroups store userId ↔
      group ∈ store.groups.rows ∧ store.IsMember group.groupId userId := by
  rw [(shownGroups_perm store userId).mem_iff, store.groupsOf_eq_filter, List.mem_filter,
    decide_eq_true_iff, store.membership_ne_zero]

end GroupRepository

theorem loadGroupList_ok {store : GroupStore} (consistent : GroupsConsistent store)
    (query : GroupListQuery) :
    (loadGroupList store {} query).success = true ∧
      ListsGroups store query.userId (loadGroupList store {} query).groups := by
  unfold loadGroupList
  simp only [not_true, if_false, and_false]
  rw [← GroupRepository.shownGroups]
  refine ⟨trivial, ?_, ?_, ?_, ?_⟩
  · rw [List.map_map]
    exact GroupRepository.shownGroups_distinct store query.userId
  · intro groupId
    rw [List.map_map, List.mem_map]
    constructor
    · rintro ⟨group, shown, rfl⟩
      exact ((GroupRepository.mem_shownGroups store query.userId group).mp shown).2
    · rintro ⟨row, member, rfl, isUser⟩
      obtain ⟨group, groupIn, ofGroup⟩ := consistent.grouped row member
      refine ⟨group, ?_, ofGroup⟩
      exact (GroupRepository.mem_shownGroups store query.userId group).mpr
        ⟨groupIn, row, member, ofGroup.symm, isUser⟩
  · intro entry entryIn
    obtain ⟨group, groupIn, rfl⟩ := List.mem_map.mp entryIn
    exact (store.pickedMembers_perm (List.mem_map_of_mem groupIn)).nodup_iff.mpr
      (store.memberIds_nodup group.groupId)
  · intro entry entryIn memberId
    obtain ⟨group, groupIn, rfl⟩ := List.mem_map.mp entryIn
    refine (store.pickedMembers_perm (List.mem_map_of_mem groupIn)).mem_iff.trans ?_
    rw [List.mem_map]
    constructor
    · rintro ⟨row, chosen, isMember⟩
      obtain ⟨member, ofGroup⟩ := (store.members.mem_select _ row).mp chosen
      exact ⟨row, member, of_decide_eq_true ofGroup, isMember⟩
    · rintro ⟨row, member, ofGroup, isMember⟩
      exact ⟨row, (store.members.mem_select _ row).mpr ⟨member, decide_eq_true ofGroup⟩, isMember⟩

end ShirohaChat
