import ShirohaChat.Lib.Scatter
import ShirohaChat.Server.GroupLists

/-!
# Group lists by one batched query

A loaded list reads the members of all its groups at once and sorts the rows
into the entries through an index of the group ids.  It shows for every group
the members that a query for this group alone reads.
-/

set_option autoImplicit false

namespace ShirohaChat

namespace GroupRepository

def listEntry (group : GroupRow) : GroupListEntry :=
  ⟨group.groupId, group.name, group.creatorUserId, group.createdAt, group.updatedAt, []⟩

def appendMember (entry : GroupListEntry) (row : MemberRow) : GroupListEntry :=
  { entry with memberUserIds := entry.memberUserIds ++ [row.userId] }

def loadGroupList (store : GroupStore) (run : GroupListRun) (query : GroupListQuery) :
    GroupListResult :=
  let refuse (errorMessage : String) : GroupListResult :=
    ⟨query.reqMsgId, query.userId, [], false, errorMessage⟩
  if ¬ run.isOpen then refuse "Database not open"
  else if ¬ run.executed then refuse "Database query failed"
  else
    let groups := (newestFirst GroupRow.updatedAt
      (newestFirst GroupRow.createdAt (store.groupsOf query.userId))).map listEntry
    let groupIds := groups.map GroupListEntry.groupId
    if groupIds = [] then ⟨query.reqMsgId, query.userId, groups, true, ""⟩
    else if ¬ run.membersSelected then refuse "Failed to load group members"
    else
      let groupIndex := Scatter.indexed groupIds 0 ∅
      let rows := oldestFirst MemberRow.joinedAt
        (store.members.select fun row => row.groupId ∈ groupIds)
      ⟨query.reqMsgId, query.userId,
        Scatter.scatter MemberRow.groupId appendMember groupIndex rows groups, true, ""⟩

theorem foldl_appendMember (rows : List MemberRow) : ∀ entry : GroupListEntry,
    rows.foldl appendMember entry =
      { entry with memberUserIds := entry.memberUserIds ++ rows.map MemberRow.userId } := by
  induction rows with
  | nil =>
      intro entry
      simp
  | cons row rest ih =>
      intro entry
      rw [List.foldl_cons, ih]
      simp [appendMember]

/-- The rows scattered through the index are those picked by the id of the group. -/
theorem loadGroupList_eq (store : GroupStore) (run : GroupListRun) (query : GroupListQuery) :
    loadGroupList store run query = ShirohaChat.loadGroupList store run query := by
  have distinct := shownGroups_distinct store query.userId
  unfold loadGroupList ShirohaChat.loadGroupList
  simp only
  split
  · rfl
  split
  · rfl
  rw [← shownGroups]
  have sameIds : ((shownGroups store query.userId).map listEntry).map GroupListEntry.groupId =
      (shownGroups store query.userId).map GroupRow.groupId := by
    rw [List.map_map]
    rfl
  rw [sameIds]
  by_cases none : (shownGroups store query.userId).map GroupRow.groupId = []
  · rw [if_pos none, if_neg (fun both => both.1 none), List.map_eq_nil_iff.mp none]
    rfl
  · rw [if_neg none]
    by_cases selected : run.membersSelected = true
    · rw [if_neg (not_not.mpr selected), if_neg (fun both => both.2 selected)]
      congr 1
      have scattered := Scatter.scatter_eq_map MemberRow.groupId appendMember
        GroupListEntry.groupId (fun _ _ => rfl)
        (oldestFirst MemberRow.joinedAt (store.members.select fun row =>
          row.groupId ∈ (shownGroups store query.userId).map GroupRow.groupId))
        ((shownGroups store query.userId).map listEntry) (sameIds.symm ▸ distinct)
      rw [sameIds] at scattered
      rw [scattered, List.map_map]
      apply List.map_congr_left
      intro group _
      rw [Function.comp_apply, foldl_appendMember]
      rfl
    · rw [if_pos selected, if_pos ⟨none, selected⟩]

theorem loadGroupMembers_ok {store : GroupStore} {group : GroupRow}
    (groupIn : group ∈ store.groups.rows) (reqMsgId : String) :
    loadGroupMembers store {} ⟨group.groupId, reqMsgId⟩ =
      ⟨group.groupId, group.name, (oldestFirst MemberRow.joinedAt
        (store.members.select fun row => row.groupId = group.groupId)).map MemberRow.userId,
        reqMsgId, true, 0, ""⟩ := by
  have found := (store.groups.find?_eq_some group.groupId group).mpr ⟨groupIn, rfl⟩
  unfold loadGroupMembers
  simp [found]

/-- The batched list has the groups of the user, each once and with the members
that a query for the group alone reads. -/
theorem loadGroupList_members (store : GroupStore) (query : GroupListQuery) :
    (loadGroupList store {} query).success = true ∧
    ((loadGroupList store {} query).groups.map GroupListEntry.groupId).Nodup ∧
    (∀ groupId, groupId ∈ (loadGroupList store {} query).groups.map GroupListEntry.groupId ↔
      (∃ group ∈ store.groups.rows, group.groupId = groupId) ∧
        store.IsMember groupId query.userId) ∧
    ∀ entry ∈ (loadGroupList store {} query).groups, ∀ reqMsgId,
      (loadGroupMembers store {} ⟨entry.groupId, reqMsgId⟩).success = true ∧
      (loadGroupMembers store {} ⟨entry.groupId, reqMsgId⟩).groupName = entry.groupName ∧
      entry.memberUserIds.Perm (loadGroupMembers store {} ⟨entry.groupId, reqMsgId⟩).members := by
  rw [loadGroupList_eq]
  unfold ShirohaChat.loadGroupList
  simp only [not_true, if_false, and_false]
  rw [← shownGroups]
  refine ⟨trivial, ?_, ?_, ?_⟩
  · rw [List.map_map]
    exact shownGroups_distinct store query.userId
  · intro groupId
    rw [List.map_map, List.mem_map]
    constructor
    · rintro ⟨group, shown, rfl⟩
      obtain ⟨groupIn, isMember⟩ := (mem_shownGroups store query.userId group).mp shown
      exact ⟨⟨group, groupIn, rfl⟩, isMember⟩
    · rintro ⟨⟨group, groupIn, rfl⟩, isMember⟩
      exact ⟨group, (mem_shownGroups store query.userId group).mpr ⟨groupIn, isMember⟩, rfl⟩
  · intro entry entryIn reqMsgId
    obtain ⟨group, shown, rfl⟩ := List.mem_map.mp entryIn
    rw [loadGroupMembers_ok ((mem_shownGroups store query.userId group).mp shown).1 reqMsgId]
    refine ⟨rfl, rfl, ?_⟩
    have listed : group.groupId ∈ (shownGroups store query.userId).map GroupRow.groupId :=
      List.mem_map_of_mem shown
    have picked := store.pickedMembers_perm listed
    exact picked.trans ((oldestFirst_perm _ _).map MemberRow.userId).symm

end GroupRepository
end ShirohaChat
