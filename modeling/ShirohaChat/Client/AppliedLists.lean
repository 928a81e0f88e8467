import ShirohaChat.Client.GroupSync
import ShirohaChat.Client.LocalGroups
import ShirohaChat.Server.GroupLists
import ShirohaChat.Server.ManagementHandlers

/-!
# What an applied group list leaves

The server's answer to a `group_list` request, read and applied by the client:
the local tables then hold exactly the groups and members that the server had
when it executed the request.
-/

set_option autoImplicit false

namespace ShirohaChat

open LocalDatabase

/-! ## Applying a list -/

structure StorableEntries (entries : List GroupListEntryDto) : Prop where
  distinct : (entries.map GroupListEntryDto.groupId).Nodup
  named : ∀ entry ∈ entries, entry.groupId ≠ ""
  hasName : ∀ entry ∈ entries, entry.groupName.isSome = true
  hasCreator : ∀ entry ∈ entries, entry.creatorUserId.isSome = true
  members : ∀ entry ∈ entries, (entry.members.map GroupMember.userId).Nodup

theorem StorableEntries.tail {entry : GroupListEntryDto} {rest : List GroupListEntryDto}
    (storable : StorableEntries (entry :: rest)) : StorableEntries rest where
  distinct := (List.nodup_cons.mp storable.distinct).2
  named other otherIn := storable.named other (List.mem_cons_of_mem _ otherIn)
  hasName other otherIn := storable.hasName other (List.mem_cons_of_mem _ otherIn)
  hasCreator other otherIn := storable.hasCreator other (List.mem_cons_of_mem _ otherIn)
  members other otherIn := storable.members other (List.mem_cons_of_mem _ otherIn)

theorem sameGroups_saveGroupSession (db : LocalDatabase) (groupId displayName : String) :
    SameGroups db (saveGroupSession db groupId displayName) := by
  unfold saveGroupSession
  split
  · exact sameGroups_saveSession db _
  · exact sameGroups_saveSession db _

theorem LocalDatabase.Idle.saveGroupSession {db : LocalDatabase} (idle : db.Idle)
    (groupId displayName : String) : (saveGroupSession db groupId displayName).Idle := by
  unfold ShirohaChat.saveGroupSession
  split
  · exact idle.saveSession _
  · exact idle.saveSession _

theorem groupSaved_applyEntry {db : LocalDatabase} (idle : db.Idle) (entry : GroupListEntryDto)
    (named : entry.groupId ≠ "") (hasName : entry.groupName.isSome = true)
    (hasCreator : entry.creatorUserId.isSome = true)
    (distinct : (entry.members.map GroupMember.userId).Nodup) :
    GroupSaved db (applyEntry db entry)
      ⟨entry.groupId, entry.groupName, entry.creatorUserId, entry.members, false⟩ := by
  obtain ⟨name, isName⟩ := Option.isSome_iff_exists.mp hasName
  obtain ⟨creatorUserId, isCreator⟩ := Option.isSome_iff_exists.mp hasCreator
  have saved := idle.groupSaved
    ⟨entry.groupId, entry.groupName, entry.creatorUserId, entry.members, false⟩ named isName
    isCreator distinct
  unfold applyEntry
  rw [if_neg named]
  refine ⟨saved.idle.saveGroupSession _ _, ?_, ?_⟩
  · intro groupId
    rw [(sameGroups_saveGroupSession _ _ _).hasGroup]
    exact saved.hasGroup groupId
  · intro groupId userId
    rw [(sameGroups_saveGroupSession _ _ _).hasMember]
    exact saved.hasMember groupId userId

/-- After the first loop every listed group is stored with the listed members,
and the others are as they were. -/
theorem applyEntries_ok (entries : List GroupListEntryDto) :
    ∀ db : LocalDatabase, db.Idle → StorableEntries entries →
      (entries.foldl applyEntry db).Idle ∧
      (∀ groupId, (entries.foldl applyEntry db).HasGroup groupId ↔
        groupId ∈ entries.map GroupListEntryDto.groupId ∨ db.HasGroup groupId) ∧
      ∀ entry ∈ entries, ∀ userId, (entries.foldl applyEntry db).HasMember entry.groupId userId ↔
        userId ∈ entry.members.map GroupMember.userId := by
  have kept : ∀ (entries : List GroupListEntryDto) (groupId : String), ∀ db : LocalDatabase,
      db.Idle → StorableEntries entries → groupId ∉ entries.map GroupListEntryDto.groupId →
      ∀ userId, (entries.foldl applyEntry db).HasMember groupId userId ↔
        db.HasMember groupId userId := by
    intro entries groupId
    induction entries with
    | nil =>
        intro db _ _ _ userId
        exact Iff.rfl
    | cons entry rest ih =>
        intro db idle storable unlisted userId
        have saved := groupSaved_applyEntry idle entry (storable.named _ List.mem_cons_self)
          (storable.hasName _ List.mem_cons_self) (storable.hasCreator _ List.mem_cons_self)
          (storable.members _ List.mem_cons_self)
        rw [List.map_cons, List.mem_cons, not_or] at unlisted
        rw [List.foldl_cons, ih _ saved.idle storable.tail unlisted.2, saved.hasMember,
          if_neg unlisted.1]
  induction entries with
  | nil =>
      intro db idle _
      exact ⟨idle, by simp, by simp⟩
  | cons entry rest ih =>
      intro db idle storable
      have saved := groupSaved_applyEntry idle entry (storable.named _ List.mem_cons_self)
        (storable.hasName _ List.mem_cons_self) (storable.hasCreator _ List.mem_cons_self)
        (storable.members _ List.mem_cons_self)
      obtain ⟨restIdle, restGroups, restMembers⟩ := ih _ saved.idle storable.tail
      refine ⟨restIdle, ?_, ?_⟩
      · intro groupId
        rw [List.foldl_cons, restGroups, saved.hasGroup, List.map_cons, List.mem_cons]
        tauto
      · intro listed listedIn userId
        rcases List.mem_cons.mp listedIn with rfl | inRest
        · rw [List.foldl_cons, kept rest listed.groupId _ saved.idle storable.tail
            (List.nodup_cons.mp storable.distinct).1, saved.hasMember, if_pos rfl]
        · exact restMembers listed inRest userId

/-! ## Stale groups -/

structure Cleared (cleared : List String) (db after : LocalDatabase) : Prop where
  idle : after.Idle
  groups : ∀ row, row ∈ after.view.groups.rows ↔
    row ∈ db.view.groups.rows ∧ row.groupId ∉ cleared
  groupMembers : ∀ row, row ∈ after.view.groupMembers.rows ↔
    row ∈ db.view.groupMembers.rows ∧ row.groupId ∉ cleared
  sessions : ∀ row, row ∈ after.view.sessions.rows ↔
    row ∈ db.view.sessions.rows ∧ row.sessionId ∉ cleared
  messages : ∀ row, row ∈ after.view.messages.rows ↔
    row ∈ db.view.messages.rows ∧ row.sessionId ∉ cleared
  pendingAcks : ∀ msgId, msgId ∈ after.view.pendingAcks ↔
    msgId ∈ db.view.pendingAcks ∧
      ∀ row ∈ db.view.messages.rows, row.msgId = msgId → row.sessionId ∉ cleared

theorem Cleared.nil {db : LocalDatabase} (idle : db.Idle) : Cleared [] db db where
  idle := idle
  groups := by simp
  groupMembers := by simp
  sessions := by simp
  messages := by simp
  pendingAcks := by simp

theorem Cleared.cons {groupId : String} {rest : List String} {db middle after : LocalDatabase}
    (first : Cleared [groupId] db middle) (others : Cleared rest middle after) :
    Cleared (groupId :: rest) db after where
  idle := others.idle
  groups row := by
    rw [others.groups, first.groups, List.mem_singleton, List.mem_cons, not_or, and_assoc]
  groupMembers row := by
    rw [others.groupMembers, first.groupMembers, List.mem_singleton, List.mem_cons, not_or,
      and_assoc]
  sessions row := by
    rw [others.sessions, first.sessions, List.mem_singleton, List.mem_cons, not_or, and_assoc]
  messages row := by
    rw [others.messages, first.messages, List.mem_singleton, List.mem_cons, not_or, and_assoc]
  pendingAcks msgId := by
    rw [others.pendingAcks, first.pendingAcks, and_assoc]
    apply and_congr_right
    intro _
    constructor
    · rintro ⟨notFirst, notRest⟩ row rowIn ownId
      have differs := notFirst row rowIn ownId
      rw [List.mem_cons, not_or]
      exact ⟨fun same => differs (List.mem_singleton.mpr same),
        notRest row ((first.messages row).mpr ⟨rowIn, differs⟩) ownId⟩
    · intro kept
      constructor
      · intro row rowIn ownId same
        exact kept row rowIn ownId (List.mem_singleton.mp same ▸ List.mem_cons_self)
      · intro row rowIn ownId inRest
        exact kept row ((first.messages row).mp rowIn).1 ownId (List.mem_cons_of_mem _ inRest)

theorem cleared_clearStale {db : LocalDatabase} (idle : db.Idle) {groupId : String}
    (named : groupId ≠ "") : Cleared [groupId] db (clearStale db groupId) := by
  have removedView := idle.view_removeGroup named
  have removedIdle := idle.removeGroup groupId
  have afterIdle := removedIdle.removeSession groupId
  have view := removedIdle.view_removeSession named
  unfold clearStale
  generalize (db.removeGroup 0 {} groupId).1 = removed at removedView view afterIdle
  generalize (removed.removeSession 0 {} groupId).1 = after at view afterIdle
  rw [removedView] at view
  refine ⟨afterIdle, ?_, ?_, ?_, ?_, ?_⟩
  · intro row
    rw [view, RowTable.mem_deleteWhere, decide_eq_false_iff_not, List.mem_singleton]
  · intro row
    rw [view, RowTable.mem_deleteWhere, decide_eq_false_iff_not, List.mem_singleton]
  · intro row
    rw [view, RowTable.mem_deleteWhere, decide_eq_false_iff_not, List.mem_singleton]
  · intro row
    rw [view, RowTable.mem_deleteWhere, decide_eq_false_iff_not, List.mem_singleton]
  · intro msgId
    rw [view, Finset.mem_filter]
    simp only [List.mem_map, RowTable.mem_select, decide_eq_true_eq, List.mem_singleton,
      not_exists, not_and, and_imp]
    apply and_congr_right
    intro _
    constructor
    · intro unowned row rowIn ownId ofGroup
      exact unowned row rowIn ofGroup ownId
    · intro unowned row rowIn ofGroup ownId
      exact unowned row rowIn ownId ofGroup

theorem cleared_foldl (active : List String) (stored : List LocalGroupRow) :
    ∀ db : LocalDatabase, db.Idle → (∀ row ∈ stored, row.groupId ≠ "") →
      Cleared ((stored.map LocalGroupRow.groupId).filter fun groupId => groupId ∉ active) db
        (stored.foldl (fun db row => if row.groupId ∈ active then db
          else clearStale db row.groupId) db) := by
  induction stored with
  | nil =>
      intro db idle _
      exact Cleared.nil idle
  | cons row rest ih =>
      intro db idle named
      have restNamed : ∀ other ∈ rest, other.groupId ≠ "" := fun other otherIn =>
        named other (List.mem_cons_of_mem _ otherIn)
      rw [List.foldl_cons, List.map_cons]
      by_cases listed : row.groupId ∈ active
      · rw [if_pos listed, List.filter_cons_of_neg (by simpa using listed)]
        exact ih db idle restNamed
      · have first := cleared_clearStale idle (named row List.mem_cons_self)
        rw [if_neg listed, List.filter_cons_of_pos (by simpa using listed)]
        exact Cleared.cons first (ih _ first.idle restNamed)

theorem Cleared.hasGroup {cleared : List String} {db after : LocalDatabase}
    (wasCleared : Cleared cleared db after) (groupId : String) :
    after.HasGroup groupId ↔ db.HasGroup groupId ∧ groupId ∉ cleared := by
  constructor
  · rintro ⟨row, rowIn, rfl⟩
    obtain ⟨before, kept⟩ := (wasCleared.groups row).mp rowIn
    exact ⟨⟨row, before, rfl⟩, kept⟩
  · rintro ⟨⟨row, rowIn, rfl⟩, kept⟩
    exact ⟨row, (wasCleared.groups row).mpr ⟨rowIn, kept⟩, rfl⟩

theorem Cleared.hasMember {cleared : List String} {db after : LocalDatabase}
    (wasCleared : Cleared cleared db after) (groupId userId : String) :
    after.HasMember groupId userId ↔ db.HasMember groupId userId ∧ groupId ∉ cleared := by
  constructor
  · rintro ⟨row, rowIn, rfl, ofUser⟩
    obtain ⟨before, kept⟩ := (wasCleared.groupMembers row).mp rowIn
    exact ⟨⟨row, before, rfl, ofUser⟩, kept⟩
  · rintro ⟨⟨row, rowIn, rfl, ofUser⟩, kept⟩
    exact ⟨row, (wasCleared.groupMembers row).mpr ⟨rowIn, kept⟩, rfl, ofUser⟩

theorem notMem_stale_iff {active : List String} {stored : List LocalGroupRow}
    {groupId : String} :
    groupId ∉ ((stored.map LocalGroupRow.groupId).filter fun other => other ∉ active) ↔
      groupId ∈ active ∨ ∀ row ∈ stored, row.groupId ≠ groupId := by
  rw [List.mem_filter, List.mem_map, decide_eq_true_eq, not_and_not_right]
  constructor
  · intro listed
    by_cases isActive : groupId ∈ active
    · exact Or.inl isActive
    · exact Or.inr fun row rowIn ownId => isActive (listed ⟨row, rowIn, ownId⟩)
  · rintro (isActive | gone) ⟨row, rowIn, ownId⟩
    · exact isActive
    · exact absurd ownId (gone row rowIn)

/-! ## What is stored -/

theorem applyGroupList_ok {db : LocalDatabase} (idle : db.Idle) (unnamed : ¬ db.HasGroup "")
    {entries : List GroupListEntryDto} (storable : StorableEntries entries) :
    (applyGroupList db entries).Idle ∧
    (∀ groupId, (applyGroupList db entries).HasGroup groupId ↔
      groupId ∈ entries.map GroupListEntryDto.groupId) ∧
    ∀ entry ∈ entries, ∀ userId, (applyGroupList db entries).HasMember entry.groupId userId ↔
      userId ∈ entry.members.map GroupMember.userId := by
  obtain ⟨savedIdle, savedGroups, savedMembers⟩ := applyEntries_ok entries db idle storable
  have allActive : (entries.map GroupListEntryDto.groupId).filter (fun groupId => groupId ≠ "") =
      entries.map GroupListEntryDto.groupId := by
    apply List.filter_eq_self.mpr
    intro groupId listed
    obtain ⟨entry, entryIn, rfl⟩ := List.mem_map.mp listed
    simpa using storable.named entry entryIn
  unfold applyGroupList
  simp only [allActive]
  generalize entries.foldl applyEntry db = saved at savedIdle savedGroups savedMembers
  have named : ∀ row ∈ saved.listGroups true, row.groupId ≠ "" := by
    intro row stored unnamedRow
    rcases (savedGroups "").mp ⟨row, stored, unnamedRow⟩ with listed | old
    · obtain ⟨entry, entryIn, unnamedEntry⟩ := List.mem_map.mp listed
      exact storable.named entry entryIn unnamedEntry
    · exact unnamed old
  have cleared := cleared_foldl (entries.map GroupListEntryDto.groupId) (saved.listGroups true)
    saved savedIdle named
  refine ⟨cleared.idle, ?_, ?_⟩
  · intro groupId
    rw [cleared.hasGroup, notMem_stale_iff]
    constructor
    · rintro ⟨⟨row, stored, rfl⟩, listed | gone⟩
      · exact listed
      · exact absurd rfl (gone row stored)
    · intro listed
      exact ⟨(savedGroups groupId).mpr (Or.inl listed), Or.inl listed⟩
  · intro entry entryIn userId
    rw [cleared.hasMember, notMem_stale_iff, savedMembers entry entryIn]
    exact and_iff_left (Or.inl (List.mem_map_of_mem entryIn))

/-! ## Reading an answer -/

def GroupListEntry.received (entry : GroupListEntry) : GroupListEntryDto :=
  ⟨entry.groupId, some (trimmed entry.groupName), some (trimmed entry.creatorUserId),
    entry.memberUserIds⟩

theorem parseGroupList_onGroupListLoaded {result : GroupListResult}
    (success : result.success = true)
    (groupIds : ∀ entry ∈ result.groups, CleanText entry.groupId)
    (memberIds : ∀ entry ∈ result.groups, ∀ memberId ∈ entry.memberUserIds, CleanText memberId) :
    parseGroupList (GroupHandler.onGroupListLoaded result) =
      result.groups.map GroupListEntry.received := by
  unfold GroupHandler.onGroupListLoaded
  rw [if_neg (by simp [success])]
  simp only [parseGroupList, Packet.makeAck, QJsonObject.value, List.find?_cons_of_pos,
    decide_true, Option.map_some, jsonArray, List.filterMap_map]
  refine (List.filterMap_congr (g := some ∘ GroupListEntry.received) ?_).trans
    (congrFun List.filterMap_eq_map _)
  intro entry entryIn
  have cleanGroup := groupIds entry entryIn
  have cleanMembers : entry.memberUserIds.map trimmed = entry.memberUserIds :=
    (List.map_congr_left fun memberId member =>
      (memberIds entry entryIn memberId member).trimmed).trans (List.map_id _)
  simp [jsonObject, jsonText, jsonString, toJsonArray, cleanGroup.trimmed, cleanGroup.nonempty,
    GroupListEntry.received, Function.comp_def, cleanMembers]

/-- The members that are stored for a listed group are the listed ones. -/
theorem memberIds_received {entry : GroupListEntry} (someone : entry.memberUserIds ≠ [])
    (clean : ∀ memberId ∈ entry.memberUserIds, CleanText memberId) :
    entry.received.members.map GroupMember.userId = entry.memberUserIds := by
  have listed : entry.received.listedIds = entry.memberUserIds :=
    if_neg fun empty => someone empty.1
  unfold GroupListEntryDto.members
  rw [listed]
  revert clean
  induction entry.memberUserIds with
  | nil =>
      intro _
      rfl
  | cons memberId rest ih =>
      intro clean
      have head := clean memberId List.mem_cons_self
      rw [List.filterMap_cons, head.trimmed, if_neg head.nonempty, List.map_cons,
        ih fun other otherIn => clean other (List.mem_cons_of_mem _ otherIn)]

structure DescribesGroups (userId : String) (store : GroupStore)
    (entries : List GroupListEntryDto) : Prop where
  storable : StorableEntries entries
  listed : ∀ groupId,
    groupId ∈ entries.map GroupListEntryDto.groupId ↔ store.IsMember groupId userId
  members : ∀ entry ∈ entries, ∀ memberId,
    memberId ∈ entry.members.map GroupMember.userId ↔ store.IsMember entry.groupId memberId

/-- An answer describes the groups as they were when it was executed. -/
theorem describesGroups_answer {store : GroupStore} (consistent : GroupsConsistent store)
    (clean : CleanIds store) (query : GroupListQuery) :
    DescribesGroups query.userId store
      (parseGroupList (GroupHandler.onGroupListLoaded (loadGroupList store {} query))) := by
  obtain ⟨success, lists⟩ := loadGroupList_ok consistent query
  generalize loadGroupList store {} query = result at success lists
  have isMember : ∀ entry ∈ result.groups, store.IsMember entry.groupId query.userId :=
    fun entry entryIn => (lists.listed entry.groupId).mp (List.mem_map_of_mem entryIn)
  have groupIds : ∀ entry ∈ result.groups, CleanText entry.groupId := by
    intro entry entryIn
    obtain ⟨row, member, ofGroup, _⟩ := isMember entry entryIn
    obtain ⟨group, groupIn, sameId⟩ := consistent.grouped row member
    rw [← ofGroup, ← sameId]
    exact clean.groups group groupIn
  have memberIds : ∀ entry ∈ result.groups, ∀ memberId ∈ entry.memberUserIds,
      CleanText memberId := by
    intro entry entryIn memberId listed
    obtain ⟨row, member, _, isUser⟩ := (lists.members entry entryIn memberId).mp listed
    rw [← isUser]
    exact clean.members row member
  have someone : ∀ entry ∈ result.groups, entry.memberUserIds ≠ [] := fun entry entryIn =>
    List.ne_nil_of_mem ((lists.members entry entryIn query.userId).mpr (isMember entry entryIn))
  have received : ∀ entry ∈ result.groups,
      entry.received.members.map GroupMember.userId = entry.memberUserIds :=
    fun entry entryIn => memberIds_received (someone entry entryIn) (memberIds entry entryIn)
  rw [parseGroupList_onGroupListLoaded success groupIds memberIds]
  have sameIds : (result.groups.map GroupListEntry.received).map GroupListEntryDto.groupId =
      result.groups.map GroupListEntry.groupId := by
    rw [List.map_map]
    rfl
  refine ⟨⟨?_, ?_, ?_, ?_, ?_⟩, ?_, ?_⟩
  · rw [sameIds]
    exact lists.distinct
  · rw [List.forall_mem_map]
    exact fun entry entryIn => (groupIds entry entryIn).nonempty
  · rw [List.forall_mem_map]
    exact fun _ _ => rfl
  · rw [List.forall_mem_map]
    exact fun _ _ => rfl
  · rw [List.forall_mem_map]
    intro entry entryIn
    rw [received entry entryIn]
    exact lists.distinctMembers entry entryIn
  · intro groupId
    rw [sameIds]
    exact lists.listed groupId
  · rw [List.forall_mem_map]
    intro entry entryIn memberId
    rw [received entry entryIn]
    exact lists.members entry entryIn memberId

def ShowsGroups (userId : String) (db : LocalDatabase) (store : GroupStore) : Prop :=
  (∀ groupId, db.HasGroup groupId ↔ store.IsMember groupId userId) ∧
  ∀ groupId, store.IsMember groupId userId →
    ∀ memberId, db.HasMember groupId memberId ↔ store.IsMember groupId memberId

theorem ShowsGroups.of_sameGroups {userId : String} {db after : LocalDatabase}
    {store : GroupStore} (shows : ShowsGroups userId db store) (same : SameGroups db after) :
    ShowsGroups userId after store :=
  ⟨fun groupId => (same.hasGroup groupId).trans (shows.1 groupId),
    fun groupId isMember memberId =>
      (same.hasMember groupId memberId).trans (shows.2 groupId isMember memberId)⟩

theorem showsGroups_applyGroupList {userId : String} {db : LocalDatabase} {store : GroupStore}
    {entries : List GroupListEntryDto} (idle : db.Idle) (unnamed : ¬ db.HasGroup "")
    (describes : DescribesGroups userId store entries) :
    ShowsGroups userId (applyGroupList db entries) store := by
  obtain ⟨_, groups, members⟩ := applyGroupList_ok idle unnamed describes.storable
  refine ⟨fun groupId => (groups groupId).trans (describes.listed groupId), ?_⟩
  intro groupId isMember memberId
  obtain ⟨entry, entryIn, rfl⟩ := List.mem_map.mp ((describes.listed groupId).mpr isMember)
  exact (members entry entryIn memberId).trans (describes.members entry entryIn memberId)

end ShirohaChat
