import ShirohaChat.Lib.Transition
import ShirohaChat.Server.GroupRepository

/-!
# Runs of the group tables

Groups are created with their members in one transaction and change by single
member operations, each of which may fail at any statement.  Every group keeps
its creator, who alone has the creator's role, and stays within the limit.
-/

set_option autoImplicit false

namespace ShirohaChat

open Transition

/-! ## What the statements do -/

namespace GroupStore

theorem insertMember_eq_some {store after : GroupStore} {row : MemberRow}
    (inserted : store.insertMember row = some after) :
    after.groups = store.groups ∧ after.members.rows = store.members.rows ++ [row] ∧
      ∃ group ∈ store.groups.rows, group.groupId = row.groupId := by
  unfold insertMember at inserted
  cases found : store.groups.find? row.groupId with
  | none =>
      rw [found] at inserted
      cases inserted
  | some group =>
      rw [found] at inserted
      obtain ⟨members, added, rfl⟩ := Option.map_eq_some_iff.mp inserted
      exact ⟨rfl, (RowTable.insert?_eq_some added).2, group,
        (store.groups.find?_eq_some row.groupId group).mp found⟩

end GroupStore

theorem insertMembers_ok (run : GroupCreateRun) (memberIds : List String) :
    ∀ {store after : GroupStore}, insertMembers run memberIds store = .ok after →
      after.groups = store.groups ∧ after.members.rows = store.members.rows ++
        memberIds.map fun memberId => ⟨run.groupId, memberId, .member, run.now⟩ := by
  induction memberIds with
  | nil =>
      intro store after inserted
      cases inserted
      exact ⟨rfl, by simp⟩
  | cons memberId rest ih =>
      intro store after inserted
      rw [insertMembers] at inserted
      split at inserted
      · cases inserted
      · rename_i added step
        split at step
        · obtain ⟨groups, members, _⟩ := GroupStore.insertMember_eq_some step
          obtain ⟨restGroups, restMembers⟩ := ih inserted
          exact ⟨restGroups.trans groups, by simp [restMembers, members]⟩
        · cases step

structure GroupCreated (store : GroupStore) (run : GroupCreateRun)
    (request : GroupCreateRequest) (after : GroupStore) : Prop where
  fresh : ∀ group ∈ store.groups.rows, group.groupId ≠ run.groupId
  groups : after.groups.rows = store.groups.rows ++
    [⟨run.groupId, request.groupName, request.creatorUserId, run.now, run.now⟩]
  members : after.members.rows = store.members.rows ++
    (⟨run.groupId, request.creatorUserId, .creator, run.now⟩ ::
      (cleanedMembers [request.creatorUserId] request.memberUserIds).map fun memberId =>
        ⟨run.groupId, memberId, .member, run.now⟩)
  limit : 1 + (cleanedMembers [request.creatorUserId] request.memberUserIds).length ≤
    maxGroupMembers

theorem createGroup_cases (store : GroupStore) (run : GroupCreateRun)
    (request : GroupCreateRequest) :
    ((createGroup store run request).2.success = false ∧
      (createGroup store run request).1 = store) ∨
    ((createGroup store run request).2.success = true ∧
      GroupCreated store run request (createGroup store run request).1) := by
  generalize called : createGroup store run request = outcome
  unfold createGroup at called
  simp only at called
  split at called
  · exact Or.inl (by rw [← called]; exact ⟨rfl, rfl⟩)
  split at called
  · exact Or.inl (by rw [← called]; exact ⟨rfl, rfl⟩)
  rename_i within
  split at called
  · exact Or.inl (by rw [← called]; exact ⟨rfl, rfl⟩)
  split at called
  · exact Or.inl (by rw [← called]; exact ⟨rfl, rfl⟩)
  split at called
  · exact Or.inl (by rw [← called]; exact ⟨rfl, rfl⟩)
  rename_i groups groupStep
  split at called
  · exact Or.inl (by rw [← called]; exact ⟨rfl, rfl⟩)
  rename_i withCreator creatorStep
  split at called
  · exact Or.inl (by rw [← called]; exact ⟨rfl, rfl⟩)
  rename_i inserted memberSteps
  split at called
  · exact Or.inl (by rw [← called]; exact ⟨rfl, rfl⟩)
  refine Or.inr ?_
  rw [← called]
  split at groupStep
  · split at creatorStep
    · obtain ⟨free, addedGroup⟩ := RowTable.insert?_eq_some groupStep
      obtain ⟨sameGroups, addedCreator, _⟩ := GroupStore.insertMember_eq_some creatorStep
      obtain ⟨insertedGroups, insertedMembers⟩ := insertMembers_ok run _ memberSteps
      refine ⟨rfl, ?_, ?_, ?_, Nat.not_lt.mp within⟩
      · intro group member sameId
        exact free (List.mem_map.mpr ⟨group, member, sameId⟩)
      · rw [insertedGroups, sameGroups, addedGroup]
      · rw [insertedMembers, addedCreator, List.append_assoc, List.singleton_append]
    · cases creatorStep
  · cases groupStep

theorem addMember_cases (store : GroupStore) (run : MemberOpRun)
    (request : GroupMemberOpRequest) :
    ((addMember store run request).2.success = false ∧
      (addMember store run request).1 = store) ∨
    ((addMember store run request).2.success = true ∧
      (∃ row ∈ store.users.rows, row.userId = request.targetUserId) ∧
      store.memberCount request.groupId < maxGroupMembers ∧
      store.insertMember ⟨request.groupId, request.targetUserId, .member, run.now⟩ =
        some (addMember store run request).1) := by
  generalize called : addMember store run request = outcome
  unfold addMember at called
  simp only at called
  split at called
  · exact Or.inl (by rw [← called]; exact ⟨rfl, rfl⟩)
  split at called
  · exact Or.inl (by rw [← called]; exact ⟨rfl, rfl⟩)
  split at called
  · exact Or.inl (by rw [← called]; exact ⟨rfl, rfl⟩)
  split at called
  · exact Or.inl (by rw [← called]; exact ⟨rfl, rfl⟩)
  rename_i known
  have targetKnown := store.users.exists_of_countOf fun zero => known (Or.inr zero)
  split at called
  · exact Or.inl (by rw [← called]; exact ⟨rfl, rfl⟩)
  split at called
  · exact Or.inl (by rw [← called]; exact ⟨rfl, rfl⟩)
  rename_i within
  split at called
  · exact Or.inl (by rw [← called]; exact ⟨rfl, rfl⟩)
  split at called
  · exact Or.inl (by rw [← called]; exact ⟨rfl, rfl⟩)
  split at called
  · exact Or.inl (by rw [← called]; exact ⟨rfl, rfl⟩)
  rename_i after inserted
  refine Or.inr ?_
  rw [← called]
  split at inserted
  · exact ⟨rfl, targetKnown, Nat.not_le.mp within, inserted⟩
  · cases inserted

theorem removeMember_cases (store : GroupStore) (run : MemberOpRun)
    (request : GroupMemberOpRequest) :
    ((removeMember store run request).2.success = false ∧
      (removeMember store run request).1 = store) ∨
    ((removeMember store run request).2.success = true ∧
      ∃ group ∈ store.groups.rows, group.groupId = request.groupId ∧
        request.targetUserId ≠ group.creatorUserId ∧
        (removeMember store run request).1 =
          store.deleteMember request.groupId request.targetUserId) := by
  generalize called : removeMember store run request = outcome
  unfold removeMember at called
  simp only at called
  split at called
  · exact Or.inl (by rw [← called]; exact ⟨rfl, rfl⟩)
  split at called
  · exact Or.inl (by rw [← called]; exact ⟨rfl, rfl⟩)
  rename_i group selected
  split at called
  · exact Or.inl (by rw [← called]; exact ⟨rfl, rfl⟩)
  split at called
  · exact Or.inl (by rw [← called]; exact ⟨rfl, rfl⟩)
  rename_i notCreator
  split at called
  · exact Or.inl (by rw [← called]; exact ⟨rfl, rfl⟩)
  split at called
  · exact Or.inl (by rw [← called]; exact ⟨rfl, rfl⟩)
  split at called
  · exact Or.inl (by rw [← called]; exact ⟨rfl, rfl⟩)
  refine Or.inr ?_
  rw [← called]
  split at selected
  · obtain ⟨member, sameId⟩ := (store.groups.find?_eq_some request.groupId group).mp selected
    exact ⟨rfl, group, member, sameId, notCreator, rfl⟩
  · cases selected

theorem leaveGroup_cases (store : GroupStore) (run : MemberOpRun)
    (request : GroupMemberOpRequest) :
    ((leaveGroup store run request).2.success = false ∧
      (leaveGroup store run request).1 = store) ∨
    ((leaveGroup store run request).2.success = true ∧
      ∃ group ∈ store.groups.rows, group.groupId = request.groupId ∧
        ((request.operatorUserId = group.creatorUserId ∧
            store.memberCount request.groupId = 1 ∧
            (leaveGroup store run request).1 = store.deleteGroup request.groupId) ∨
          (request.operatorUserId ≠ group.creatorUserId ∧
            (leaveGroup store run request).1 =
              store.deleteMember request.groupId request.operatorUserId))) := by
  generalize called : leaveGroup store run request = outcome
  unfold leaveGroup at called
  simp only at called
  split at called
  · exact Or.inl (by rw [← called]; exact ⟨rfl, rfl⟩)
  split at called
  · exact Or.inl (by rw [← called]; exact ⟨rfl, rfl⟩)
  rename_i group selected
  have found : group ∈ store.groups.rows ∧ group.groupId = request.groupId := by
    split at selected
    · exact (store.groups.find?_eq_some request.groupId group).mp selected
    · cases selected
  split at called
  · exact Or.inl (by rw [← called]; exact ⟨rfl, rfl⟩)
  split at called
  · exact Or.inl (by rw [← called]; exact ⟨rfl, rfl⟩)
  split at called
  · rename_i isCreator
    split at called
    · exact Or.inl (by rw [← called]; exact ⟨rfl, rfl⟩)
    split at called
    · rename_i alone
      split at called
      · exact Or.inl (by rw [← called]; exact ⟨rfl, rfl⟩)
      · refine Or.inr ?_
        rw [← called]
        exact ⟨rfl, group, found.1, found.2, Or.inl ⟨isCreator, alone, rfl⟩⟩
    · exact Or.inl (by rw [← called]; exact ⟨rfl, rfl⟩)
  · rename_i notCreator
    split at called
    · exact Or.inl (by rw [← called]; exact ⟨rfl, rfl⟩)
    · refine Or.inr ?_
      rw [← called]
      exact ⟨rfl, group, found.1, found.2, Or.inr ⟨notCreator, rfl⟩⟩

/-! ## Runs -/

inductive GroupEvent where
  | ensureUser (run : EnsureUserRun) (userId nickname : String)
  | createGroup (run : GroupCreateRun) (request : GroupCreateRequest)
  | addMember (run : MemberOpRun) (request : GroupMemberOpRequest)
  | removeMember (run : MemberOpRun) (request : GroupMemberOpRequest)
  | leaveGroup (run : MemberOpRun) (request : GroupMemberOpRequest)

namespace GroupEvent

def next (store : GroupStore) : GroupEvent → GroupStore
  | .ensureUser run userId nickname =>
      { store with users := (ensureUserAndGetNickname store.users run userId nickname).1 }
  | .createGroup run request => (ShirohaChat.createGroup store run request).1
  | .addMember run request => (ShirohaChat.addMember store run request).1
  | .removeMember run request => (ShirohaChat.removeMember store run request).1
  | .leaveGroup run request => (ShirohaChat.leaveGroup store run request).1

def Fails (store : GroupStore) : GroupEvent → Prop
  | .ensureUser _ _ _ => False
  | .createGroup run request => (ShirohaChat.createGroup store run request).2.success = false
  | .addMember run request => (ShirohaChat.addMember store run request).2.success = false
  | .removeMember run request => (ShirohaChat.removeMember store run request).2.success = false
  | .leaveGroup run request => (ShirohaChat.leaveGroup store run request).2.success = false

/-- A call that reports failure leaves every table as it was. -/
theorem next_of_fails {store : GroupStore} {event : GroupEvent} (fails : event.Fails store) :
    event.next store = store := by
  cases event with
  | ensureUser run userId nickname => exact fails.elim
  | createGroup run request =>
      rcases createGroup_cases store run request with ⟨_, same⟩ | ⟨success, _⟩
      · exact same
      · simp [Fails, success] at fails
  | addMember run request =>
      rcases addMember_cases store run request with ⟨_, same⟩ | ⟨success, _⟩
      · exact same
      · simp [Fails, success] at fails
  | removeMember run request =>
      rcases removeMember_cases store run request with ⟨_, same⟩ | ⟨success, _⟩
      · exact same
      · simp [Fails, success] at fails
  | leaveGroup run request =>
      rcases leaveGroup_cases store run request with ⟨_, same⟩ | ⟨success, _⟩
      · exact same
      · simp [Fails, success] at fails

end GroupEvent

def groupSystem : System GroupStore GroupEvent where
  initial := GroupStore.empty
  enabled := fun _ _ => True
  next := GroupEvent.next

structure GroupsConsistent (store : GroupStore) : Prop where
  grouped : ∀ row ∈ store.members.rows, ∃ group ∈ store.groups.rows,
    group.groupId = row.groupId
  creatorIn : ∀ group ∈ store.groups.rows, ∃ row ∈ store.members.rows,
    row.groupId = group.groupId ∧ row.userId = group.creatorUserId ∧ row.role = .creator
  creatorRole : ∀ group ∈ store.groups.rows, ∀ row ∈ store.members.rows,
    row.groupId = group.groupId → row.role = .creator → row.userId = group.creatorUserId
  bounded : ∀ group ∈ store.groups.rows, store.memberCount group.groupId ≤ maxGroupMembers

namespace GroupsConsistent

variable {store : GroupStore}

theorem empty : GroupsConsistent GroupStore.empty := by
  constructor
  · intro row member
    cases member
  · intro group member
    cases member
  · intro group member
    cases member
  · intro group member
    cases member

theorem withUsers (consistent : GroupsConsistent store) (users : UserTable) :
    GroupsConsistent { store with users := users } :=
  ⟨consistent.grouped, consistent.creatorIn, consistent.creatorRole, consistent.bounded⟩

/-- The new group's id occurs in no member row, since each has its group. -/
theorem created (consistent : GroupsConsistent store) {run : GroupCreateRun}
    {request : GroupCreateRequest} {after : GroupStore}
    (created : GroupCreated store run request after) : GroupsConsistent after := by
  have noMember : ∀ row ∈ store.members.rows, row.groupId ≠ run.groupId := by
    intro row member sameId
    obtain ⟨group, groupIn, ofGroup⟩ := consistent.grouped row member
    exact created.fresh group groupIn (ofGroup.trans sameId)
  have groups : ∀ group, group ∈ after.groups.rows ↔ group ∈ store.groups.rows ∨
      group = ⟨run.groupId, request.groupName, request.creatorUserId, run.now, run.now⟩ := by
    intro group
    simp [created.groups]
  have members : ∀ row, row ∈ after.members.rows ↔ row ∈ store.members.rows ∨
      row = ⟨run.groupId, request.creatorUserId, .creator, run.now⟩ ∨
      ∃ memberId ∈ cleanedMembers [request.creatorUserId] request.memberUserIds,
        row = ⟨run.groupId, memberId, .member, run.now⟩ := by
    intro row
    simp [created.members, eq_comm]
  refine ⟨?_, ?_, ?_, ?_⟩
  · intro row member
    rcases (members row).mp member with old | rfl | ⟨memberId, _, rfl⟩
    · obtain ⟨group, groupIn, ofGroup⟩ := consistent.grouped row old
      exact ⟨group, (groups group).mpr (Or.inl groupIn), ofGroup⟩
    · exact ⟨_, (groups _).mpr (Or.inr rfl), rfl⟩
    · exact ⟨_, (groups _).mpr (Or.inr rfl), rfl⟩
  · intro group groupIn
    rcases (groups group).mp groupIn with old | rfl
    · obtain ⟨row, member, isCreator⟩ := consistent.creatorIn group old
      exact ⟨row, (members row).mpr (Or.inl member), isCreator⟩
    · exact ⟨_, (members _).mpr (Or.inr (Or.inl rfl)), rfl, rfl, rfl⟩
  · intro group groupIn row member sameGroup hasRole
    rcases (groups group).mp groupIn with old | rfl
    · rcases (members row).mp member with oldRow | rfl | ⟨memberId, _, rfl⟩
      · exact consistent.creatorRole group old row oldRow sameGroup hasRole
      · exact absurd sameGroup.symm (created.fresh group old)
      · cases hasRole
    · rcases (members row).mp member with oldRow | rfl | ⟨memberId, _, rfl⟩
      · exact absurd sameGroup (noMember row oldRow)
      · rfl
      · cases hasRole
  · intro group groupIn
    rw [GroupStore.memberCount, RowTable.count_append created.members]
    rcases (groups group).mp groupIn with old | rfl
    · have bound := consistent.bounded group old
      have apart : run.groupId ≠ group.groupId := (created.fresh group old).symm
      simpa [apart, GroupStore.memberCount, List.filter_map, Function.comp_def] using bound
    · have none : store.members.count (fun row => row.groupId = run.groupId) = 0 :=
        (store.members.count_eq_zero _).mpr fun row member =>
          decide_eq_false (noMember row member)
      have limit := created.limit
      rw [none]
      simp only [List.filter_cons, decide_true, if_true, List.length_cons, List.filter_map,
        Function.comp_def, List.filter_true, List.length_map]
      omega

theorem added (consistent : GroupsConsistent store) {groupId userId now : String}
    {after : GroupStore}
    (within : store.memberCount groupId < maxGroupMembers)
    (inserted : store.insertMember ⟨groupId, userId, .member, now⟩ = some after) :
    GroupsConsistent after := by
  obtain ⟨sameGroups, appended, group, groupIn, ofGroup⟩ :=
    GroupStore.insertMember_eq_some inserted
  have members : ∀ row, row ∈ after.members.rows ↔
      row ∈ store.members.rows ∨ row = ⟨groupId, userId, .member, now⟩ := by
    intro row
    simp [appended]
  constructor
  · intro row member
    rw [sameGroups]
    rcases (members row).mp member with old | rfl
    · exact consistent.grouped row old
    · exact ⟨group, groupIn, ofGroup⟩
  · intro stored storedIn
    rw [sameGroups] at storedIn
    obtain ⟨row, member, isCreator⟩ := consistent.creatorIn stored storedIn
    exact ⟨row, (members row).mpr (Or.inl member), isCreator⟩
  · intro stored storedIn row member sameGroup hasRole
    rw [sameGroups] at storedIn
    rcases (members row).mp member with old | rfl
    · exact consistent.creatorRole stored storedIn row old sameGroup hasRole
    · cases hasRole
  · intro stored storedIn
    rw [sameGroups] at storedIn
    have bound := consistent.bounded stored storedIn
    rw [GroupStore.memberCount, RowTable.count_append appended]
    by_cases ofStored : groupId = stored.groupId
    · subst ofStored
      simp [GroupStore.memberCount] at within ⊢
      omega
    · simpa [ofStored, GroupStore.memberCount] using bound

theorem withoutMember (consistent : GroupsConsistent store) {group : GroupRow}
    (groupIn : group ∈ store.groups.rows) {userId : String}
    (notCreator : userId ≠ group.creatorUserId) :
    GroupsConsistent (store.deleteMember group.groupId userId) := by
  have kept : ∀ row ∈ (store.deleteMember group.groupId userId).members.rows,
      row ∈ store.members.rows := by
    intro row member
    exact ((store.members.mem_deleteWhere _ row).mp member).1
  constructor
  · intro row member
    exact consistent.grouped row (kept row member)
  · intro stored storedIn
    obtain ⟨row, member, ofGroup, isCreator, hasRole⟩ := consistent.creatorIn stored storedIn
    refine ⟨row, (store.members.mem_deleteWhere _ row).mpr ⟨member, ?_⟩,
      ofGroup, isCreator, hasRole⟩
    rw [decide_eq_false_iff_not]
    rintro ⟨sameGroup, sameUser⟩
    have same : stored = group :=
      store.groups.eq_of_key storedIn groupIn (ofGroup.symm.trans sameGroup)
    exact notCreator (sameUser.symm.trans (same ▸ isCreator))
  · intro stored storedIn row member
    exact consistent.creatorRole stored storedIn row (kept row member)
  · intro stored storedIn
    have bound := consistent.bounded stored storedIn
    exact le_trans (store.members.count_deleteWhere_le _ _) bound

theorem withoutGroup (consistent : GroupsConsistent store) (groupId : String) :
    GroupsConsistent (store.deleteGroup groupId) := by
  have groups : ∀ group, group ∈ (store.deleteGroup groupId).groups.rows ↔
      group ∈ store.groups.rows ∧ group.groupId ≠ groupId := by
    intro group
    simp [GroupStore.deleteGroup, RowTable.mem_deleteWhere]
  have members : ∀ row, row ∈ (store.deleteGroup groupId).members.rows ↔
      row ∈ store.members.rows ∧ row.groupId ≠ groupId := by
    intro row
    simp [GroupStore.deleteGroup, RowTable.mem_deleteWhere]
  constructor
  · intro row member
    obtain ⟨stored, notDoomed⟩ := (members row).mp member
    obtain ⟨group, groupIn, ofGroup⟩ := consistent.grouped row stored
    exact ⟨group, (groups group).mpr ⟨groupIn, ofGroup ▸ notDoomed⟩, ofGroup⟩
  · intro group groupIn
    obtain ⟨stored, notDoomed⟩ := (groups group).mp groupIn
    obtain ⟨row, member, ofGroup, isCreator⟩ := consistent.creatorIn group stored
    exact ⟨row, (members row).mpr ⟨member, ofGroup ▸ notDoomed⟩, ofGroup, isCreator⟩
  · intro group groupIn row member
    exact consistent.creatorRole group ((groups group).mp groupIn).1 row
      ((members row).mp member).1
  · intro group groupIn
    have bound := consistent.bounded group ((groups group).mp groupIn).1
    exact le_trans (store.members.count_deleteWhere_le _ _) bound

theorem next (consistent : GroupsConsistent store) (event : GroupEvent) :
    GroupsConsistent (event.next store) := by
  cases event with
  | ensureUser run userId nickname => exact consistent.withUsers _
  | createGroup run request =>
      rcases createGroup_cases store run request with ⟨_, same⟩ | ⟨_, created⟩
      · rw [GroupEvent.next, same]
        exact consistent
      · exact consistent.created created
  | addMember run request =>
      rcases addMember_cases store run request with ⟨_, same⟩ | ⟨_, _, within, inserted⟩
      · rw [GroupEvent.next, same]
        exact consistent
      · exact consistent.added within inserted
  | removeMember run request =>
      rcases removeMember_cases store run request with
        ⟨_, same⟩ | ⟨_, group, groupIn, sameId, notCreator, after⟩
      · rw [GroupEvent.next, same]
        exact consistent
      · rw [GroupEvent.next, after, ← sameId]
        exact consistent.withoutMember groupIn notCreator
  | leaveGroup run request =>
      rcases leaveGroup_cases store run request with
        ⟨_, same⟩ | ⟨_, group, groupIn, sameId, ⟨_, _, after⟩ | ⟨notCreator, after⟩⟩
      · rw [GroupEvent.next, same]
        exact consistent
      · rw [GroupEvent.next, after]
        exact consistent.withoutGroup _
      · rw [GroupEvent.next, after, ← sameId]
        exact consistent.withoutMember groupIn notCreator

end GroupsConsistent

theorem groupsConsistent_of_reachable (store : GroupStore)
    (reached : groupSystem.Reachable store) : GroupsConsistent store :=
  reached.invariant GroupsConsistent.empty fun _ event _ consistent _ => consistent.next event

theorem GroupStore.memberIds_nodup (store : GroupStore) (groupId : String) :
    ((store.members.select fun row => row.groupId = groupId).map MemberRow.userId).Nodup :=
  store.members.nodup_second groupId

theorem GroupsConsistent.count_creator {store : GroupStore} (consistent : GroupsConsistent store)
    {group : GroupRow} (groupIn : group ∈ store.groups.rows) :
    store.members.count (fun row => row.groupId = group.groupId ∧ row.role = .creator) = 1 := by
  obtain ⟨row, member, ofGroup, _, hasRole⟩ := consistent.creatorIn group groupIn
  have atLeastOne := store.members.one_le_count
    (fun row => row.groupId = group.groupId ∧ row.role = .creator) member
    (decide_eq_true ⟨ofGroup, hasRole⟩)
  have atMostOne := store.members.count_key_le_one
    (fun row => row.groupId = group.groupId ∧ row.role = .creator)
    (group.groupId, group.creatorUserId) fun other otherIn chosen => by
      obtain ⟨otherGroup, otherRole⟩ := of_decide_eq_true chosen
      rw [otherGroup, consistent.creatorRole group groupIn other otherIn otherGroup otherRole]
  omega

/-- In every reachable state the groups keep their creators and their size, no
member is orphaned, and a failing call changes nothing. -/
theorem group_tables_consistent (store : GroupStore) (reached : groupSystem.Reachable store) :
    (∀ group ∈ store.groups.rows,
      store.membership group.groupId group.creatorUserId = 1 ∧
      store.members.count (fun row => row.groupId = group.groupId ∧ row.role = .creator) = 1 ∧
      (∀ row ∈ store.members.rows, row.groupId = group.groupId →
        (row.role = .creator ↔ row.userId = group.creatorUserId)) ∧
      ((store.members.select fun row => row.groupId = group.groupId).map
        MemberRow.userId).Nodup ∧
      1 ≤ store.memberCount group.groupId ∧
      store.memberCount group.groupId ≤ maxGroupMembers) ∧
    (∀ row ∈ store.members.rows, ∃ group ∈ store.groups.rows, group.groupId = row.groupId) ∧
    ∀ event : GroupEvent, event.Fails store → event.next store = store := by
  have consistent := groupsConsistent_of_reachable store reached
  refine ⟨?_, consistent.grouped, fun event fails => GroupEvent.next_of_fails fails⟩
  intro group groupIn
  obtain ⟨creator, creatorMember, ofGroup, isCreator, hasRole⟩ :=
    consistent.creatorIn group groupIn
  refine ⟨?_, consistent.count_creator groupIn, ?_,
    store.memberIds_nodup group.groupId, ?_, consistent.bounded group groupIn⟩
  · have atLeastOne := store.members.one_le_count
      (fun row => row.groupId = group.groupId ∧ row.userId = group.creatorUserId)
      creatorMember (decide_eq_true ⟨ofGroup, isCreator⟩)
    have atMostOne := store.members.count_key_le_one
      (fun row => row.groupId = group.groupId ∧ row.userId = group.creatorUserId)
      (group.groupId, group.creatorUserId) fun other _ chosen => by
        obtain ⟨otherGroup, otherUser⟩ := of_decide_eq_true chosen
        rw [otherGroup, otherUser]
    unfold GroupStore.membership
    omega
  · intro row member sameGroup
    constructor
    · exact consistent.creatorRole group groupIn row member sameGroup
    · intro sameUser
      have same : row = creator := store.members.eq_of_key member creatorMember
        (Prod.ext (sameGroup.trans ofGroup.symm) (sameUser.trans isCreator.symm))
      rw [same]
      exact hasRole
  · exact store.members.one_le_count (fun row => row.groupId = group.groupId) creatorMember
      (decide_eq_true ofGroup)

def aliceInvitesBob : List GroupEvent :=
  [.ensureUser {} "alice" "Alice", .ensureUser {} "bob" "Bob",
    .createGroup { groupId := "grp_1", now := "2026-01-01T00:00:00.000Z" }
      ⟨"m1", "friends", "alice", [" bob ", "bob", "alice", ""]⟩,
    .leaveGroup { now := "2026-01-02T00:00:00.000Z" } ⟨"m2", "grp_1", "alice", "alice", .leave⟩]

def aliceBobGroup : GroupStore := aliceInvitesBob.foldl GroupEvent.next GroupStore.empty

theorem group_tables_consistent_alice :
    aliceBobGroup.memberCount "grp_1" = 2 ∧
    ∀ event : GroupEvent, event.Fails aliceBobGroup → event.next aliceBobGroup = aliceBobGroup :=
  ⟨by decide, (group_tables_consistent aliceBobGroup (System.Reachable.run aliceInvitesBob _
    System.Reachable.initial ⟨trivial, trivial, trivial, trivial, trivial⟩)).2.2⟩

end ShirohaChat
