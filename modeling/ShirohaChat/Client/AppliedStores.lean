import ShirohaChat.Client.AppliedLists
import ShirohaChat.Client.SoundStores

/-!
# The whole store after an applied group list

All tables that `applyGroupList` touches: the listed groups with their members
and sessions, the stored groups that are no longer listed, and what is left
alone.
-/

set_option autoImplicit false

namespace ShirohaChat

open LocalDatabase

namespace GroupListEntryDto

def groupRow (entry : GroupListEntryDto) : LocalGroupRow :=
  ⟨entry.groupId, entry.groupName.getD "", entry.creator⟩

/-- The members that an entry asks for: the listed ones, or its creator alone. -/
def wantedMembers (entry : GroupListEntryDto) : List GroupMember :=
  (if entry.memberUserIds = [] then [entry.creator] else entry.memberUserIds).map fun userId =>
    ⟨userId, if userId = entry.creator then .creator else .member⟩

end GroupListEntryDto

structure ListedEntries (entries : List GroupListEntryDto) : Prop where
  distinct : (entries.map GroupListEntryDto.groupId).Nodup
  named : ∀ entry ∈ entries, entry.groupId ≠ ""
  hasName : ∀ entry ∈ entries, entry.groupName.isSome = true
  creator : ∀ entry ∈ entries, CleanText entry.creator
  members : ∀ entry ∈ entries, ∀ memberId ∈ entry.memberUserIds, CleanText memberId
  distinctMembers : ∀ entry ∈ entries, entry.memberUserIds.Nodup

theorem ListedEntries.tail {entry : GroupListEntryDto} {rest : List GroupListEntryDto}
    (listed : ListedEntries (entry :: rest)) : ListedEntries rest where
  distinct := (List.nodup_cons.mp listed.distinct).2
  named other otherIn := listed.named other (List.mem_cons_of_mem _ otherIn)
  hasName other otherIn := listed.hasName other (List.mem_cons_of_mem _ otherIn)
  creator other otherIn := listed.creator other (List.mem_cons_of_mem _ otherIn)
  members other otherIn := listed.members other (List.mem_cons_of_mem _ otherIn)
  distinctMembers other otherIn := listed.distinctMembers other (List.mem_cons_of_mem _ otherIn)

theorem members_eq_wanted {entry : GroupListEntryDto} (creator : CleanText entry.creator)
    (members : ∀ memberId ∈ entry.memberUserIds, CleanText memberId) :
    entry.members = entry.wantedMembers := by
  have listed : entry.listedIds =
      if entry.memberUserIds = [] then [entry.creator] else entry.memberUserIds := by
    unfold GroupListEntryDto.listedIds
    simp [creator.nonempty]
  have clean : ∀ userId ∈ entry.listedIds, CleanText userId := by
    rw [listed]
    intro userId userIn
    split at userIn
    · rw [List.mem_singleton.mp userIn]
      exact creator
    · exact members userId userIn
  unfold GroupListEntryDto.members GroupListEntryDto.wantedMembers
  rw [← listed]
  generalize entry.listedIds = userIds at clean
  induction userIds with
  | nil => rfl
  | cons userId rest ih =>
      have first := clean userId List.mem_cons_self
      rw [List.filterMap_cons, List.map_cons, first.trimmed, if_neg first.nonempty,
        ih fun other otherIn => clean other (List.mem_cons_of_mem _ otherIn)]

theorem nodup_wantedMembers {entry : GroupListEntryDto}
    (distinct : entry.memberUserIds.Nodup) :
    (entry.wantedMembers.map GroupMember.userId).Nodup := by
  unfold GroupListEntryDto.wantedMembers
  rw [List.map_map, show (GroupMember.userId ∘ fun userId : String =>
    (⟨userId, if userId = entry.creator then .creator else .member⟩ : GroupMember)) = id from rfl,
    List.map_id]
  split
  · exact List.nodup_singleton _
  · exact distinct

theorem creatorUserId_of_clean {entry : GroupListEntryDto} (creator : CleanText entry.creator) :
    entry.creatorUserId = some entry.creator := by
  unfold GroupListEntryDto.creator at creator ⊢
  cases found : entry.creatorUserId with
  | none =>
      rw [found] at creator
      exact absurd rfl creator.nonempty
  | some creatorUserId => rfl

/-! ## One entry -/

theorem view_saveGroupSession {db : LocalDatabase} (sound : db.SoundSessions) {groupId : String}
    (named : groupId ≠ "") (displayName : String) :
    ∃ session : Session, session.sessionId = groupId ∧
      session.unreadCount = db.unreadOf groupId ∧
      (saveGroupSession db groupId displayName).view =
        { db.view with sessions := sessionsAfterSave db.view.sessions session } := by
  have saves : ∀ session : Session, session.sessionId = groupId →
      (db.saveSession 0 {} session).1.view =
        { db.view with sessions := sessionsAfterSave db.view.sessions session } := by
    intro session ownId
    exact sound.idle.view_saveSession true (by rw [ownId]; exact named)
  unfold saveGroupSession
  cases loaded : db.loadSession true true groupId with
  | some session =>
      obtain ⟨sameId, sameCount⟩ := loadSession_eq_some loaded
      exact ⟨session.updateMetadata displayName "", sameId, sameCount, saves _ sameId⟩
  | none =>
      refine ⟨⟨groupId, .groupChat, "", displayName, "", 0⟩, rfl, ?_, saves _ rfl⟩
      rw [unreadOf_absent ((loadSession_eq_none named).mp loaded)]

structure EntriesStored (entries : List GroupListEntryDto) (db after : LocalDatabase) : Prop where
  sound : after.SoundSessions
  groups : ∀ row, row ∈ after.view.groups.rows ↔
    (∃ entry ∈ entries, row = entry.groupRow) ∨
      (row ∈ db.view.groups.rows ∧ row.groupId ∉ entries.map GroupListEntryDto.groupId)
  groupMembers : ∀ row, row ∈ after.view.groupMembers.rows ↔
    (∃ entry ∈ entries, row ∈ entry.members.map (memberRow entry.groupId)) ∨
      (row ∈ db.view.groupMembers.rows ∧ row.groupId ∉ entries.map GroupListEntryDto.groupId)
  sessions : ∀ row, row.sessionId ∉ entries.map GroupListEntryDto.groupId →
    (row ∈ after.view.sessions.rows ↔ row ∈ db.view.sessions.rows)
  hasSession : ∀ sessionId, after.HasSession sessionId ↔
    sessionId ∈ entries.map GroupListEntryDto.groupId ∨ db.HasSession sessionId
  unreadOf : ∀ sessionId, after.unreadOf sessionId = db.unreadOf sessionId
  messages : after.view.messages = db.view.messages
  pendingAcks : after.view.pendingAcks = db.view.pendingAcks

theorem EntriesStored.nil {db : LocalDatabase} (sound : db.SoundSessions) :
    EntriesStored [] db db where
  sound := sound
  groups := by simp
  groupMembers := by simp
  sessions := by simp
  hasSession := by simp
  unreadOf _ := rfl
  messages := rfl
  pendingAcks := rfl

theorem first_or_rest {ofFirst ofRest old other unlisted : Prop} (fresh : ofFirst → unlisted) :
    (ofRest ∨ (ofFirst ∨ old ∧ other) ∧ unlisted) ↔
      ((ofFirst ∨ ofRest) ∨ old ∧ other ∧ unlisted) := by
  tauto

theorem EntriesStored.cons {entry : GroupListEntryDto} {rest : List GroupListEntryDto}
    {db middle after : LocalDatabase} (fresh : entry.groupId ∉ rest.map GroupListEntryDto.groupId)
    (first : EntriesStored [entry] db middle) (others : EntriesStored rest middle after) :
    EntriesStored (entry :: rest) db after where
  sound := others.sound
  groups row := by
    rw [others.groups, first.groups]
    simp only [List.map_cons, List.map_nil, List.mem_cons, exists_eq_or_imp, not_or,
      List.not_mem_nil, or_false, exists_eq_left]
    have ownFresh : row = entry.groupRow → row.groupId ∉ rest.map GroupListEntryDto.groupId := by
      rintro rfl
      exact fresh
    exact first_or_rest ownFresh
  groupMembers row := by
    rw [others.groupMembers, first.groupMembers]
    simp only [List.map_cons, List.map_nil, List.mem_cons, exists_eq_or_imp, not_or,
      List.not_mem_nil, or_false, exists_eq_left]
    have ownFresh : row ∈ entry.members.map (memberRow entry.groupId) →
        row.groupId ∉ rest.map GroupListEntryDto.groupId := by
      intro rowIn
      obtain ⟨member, _, rfl⟩ := List.mem_map.mp rowIn
      exact fresh
    exact first_or_rest ownFresh
  sessions row unlisted := by
    rw [List.map_cons, List.mem_cons, not_or] at unlisted
    rw [others.sessions row unlisted.2, first.sessions row (by simpa using unlisted.1)]
  hasSession sessionId := by
    rw [others.hasSession, first.hasSession]
    simp only [List.map_cons, List.map_nil, List.mem_cons, List.not_mem_nil, or_false]
    tauto
  unreadOf sessionId := (others.unreadOf sessionId).trans (first.unreadOf sessionId)
  messages := others.messages.trans first.messages
  pendingAcks := others.pendingAcks.trans first.pendingAcks

theorem mem_groupsAfterSave (groups : LocalGroupTable) (saved row : LocalGroupRow) :
    row ∈ (groupsAfterSave groups saved).rows ↔
      row = saved ∨ (row ∈ groups.rows ∧ row.groupId ≠ saved.groupId) := by
  rw [RowTable.mem_iff_find?, groupsAfterSave, RowTable.find?_upsert, RowTable.mem_iff_find?]
  by_cases own : row.groupId = saved.groupId
  · have replaced : ((groups.find? row.groupId).map fun old =>
        { saved with groupId := old.groupId }).getD saved = saved := by
      cases found : groups.find? row.groupId with
      | none => rfl
      | some old =>
          have sameId := ((RowTable.find?_eq_some _ _ _).mp found).2.trans own
          rw [Option.map_some, Option.getD_some, sameId]
    rw [if_pos own, replaced]
    simp [own, eq_comm]
  · have differs : row ≠ saved := by
      rintro rfl
      exact own rfl
    rw [if_neg own]
    simp [own, differs]

theorem entriesStored_applyEntry {db : LocalDatabase} (sound : db.SoundSessions)
    (entry : GroupListEntryDto) (named : entry.groupId ≠ "")
    (hasName : entry.groupName.isSome = true) (creator : CleanText entry.creator)
    (distinct : (entry.members.map GroupMember.userId).Nodup) :
    EntriesStored [entry] db (applyEntry db entry) := by
  obtain ⟨name, isName⟩ := Option.isSome_iff_exists.mp hasName
  have isCreator := creatorUserId_of_clean creator
  obtain ⟨groupMembers, savedView, memberRows⟩ := sound.idle.view_saveGroup
    ⟨entry.groupId, entry.groupName, entry.creatorUserId, entry.members, false⟩ named isName
    isCreator distinct
  have savedIdle := sound.idle.saveGroup
    ⟨entry.groupId, entry.groupName, entry.creatorUserId, entry.members, false⟩
  unfold applyEntry
  rw [if_neg named]
  simp only
  generalize (db.saveGroup 0 {}
    ⟨entry.groupId, entry.groupName, entry.creatorUserId, entry.members, false⟩).1 = saved
    at savedView savedIdle
  have sameSessions : saved.view.sessions = db.view.sessions := by rw [savedView]
  have savedSound := sound.of_sessions savedIdle sameSessions
  generalize resolveGroupDisplayName saved entry.groupId (entry.groupName.getD "") = displayName
  obtain ⟨session, ownId, sameCount, view⟩ := view_saveGroupSession savedSound named displayName
  have idle := savedIdle.saveGroupSession entry.groupId displayName
  generalize saveGroupSession saved entry.groupId displayName = after at view idle
  have counted : 0 ≤ session.unreadCount := sameCount ▸ Int.le_max_left _ _
  have stored := savedSound.of_sessionsAfterSave idle (by rw [ownId]; exact named) counted
    (by rw [view]) (by rw [view])
  have groups : after.view.groups =
      groupsAfterSave db.view.groups ⟨entry.groupId, name, entry.creator⟩ := by
    rw [view, savedView]
  have ownRow : entry.groupRow = ⟨entry.groupId, name, entry.creator⟩ := by
    rw [GroupListEntryDto.groupRow, isName]
    rfl
  have members : after.view.groupMembers = groupMembers := by rw [view, savedView]
  refine ⟨stored.sound, ?_, ?_, ?_, ?_, ?_, by rw [view, savedView], by rw [view, savedView]⟩
  · intro row
    rw [groups, mem_groupsAfterSave, ← ownRow]
    simp [GroupListEntryDto.groupRow]
  · intro row
    rw [members, memberRows, List.mem_append, RowTable.mem_deleteWhere]
    simp [or_comm]
  · intro row unlisted
    rw [List.map_cons, List.map_nil, List.mem_singleton] at unlisted
    have sessions : after.view.sessions = sessionsAfterSave db.view.sessions session := by
      rw [view, sameSessions]
    rw [sessions, RowTable.mem_iff_find?, sessionsAfterSave, RowTable.find?_upsert,
      if_neg (by rw [ownId]; exact unlisted), ← RowTable.mem_iff_find?]
  · intro sessionId
    rw [stored.hasSession, ownId, hasSession_congr sameSessions]
    simp
  · intro sessionId
    rw [stored.unreadOf, ownId, unreadOf_congr sameSessions]
    split
    · rename_i own
      rw [own.2, sameCount, unreadOf_congr sameSessions]
    · rfl

theorem entriesStored_foldl (entries : List GroupListEntryDto) :
    ∀ db : LocalDatabase, db.SoundSessions → ListedEntries entries →
      EntriesStored entries db (entries.foldl applyEntry db) := by
  induction entries with
  | nil =>
      intro db sound _
      exact EntriesStored.nil sound
  | cons entry rest ih =>
      intro db sound listed
      obtain ⟨fresh, distinctRest⟩ := List.nodup_cons.mp listed.distinct
      have wanted := members_eq_wanted (listed.creator _ List.mem_cons_self)
        (listed.members _ List.mem_cons_self)
      have first := entriesStored_applyEntry sound entry (listed.named _ List.mem_cons_self)
        (listed.hasName _ List.mem_cons_self) (listed.creator _ List.mem_cons_self) (by
          rw [wanted]
          exact nodup_wantedMembers (listed.distinctMembers _ List.mem_cons_self))
      exact EntriesStored.cons fresh first (ih _ first.sound listed.tail)

/-! ## The whole list -/

/-- A session that applying a list keeps: a listed one, or one of no group. -/
def KeptSession (entries : List GroupListEntryDto) (db : LocalDatabase) (sessionId : String) :
    Prop :=
  sessionId ∈ entries.map GroupListEntryDto.groupId ∨ ¬ db.HasGroup sessionId

structure ListApplied (entries : List GroupListEntryDto) (db after : LocalDatabase) : Prop where
  groups : ∀ row, row ∈ after.view.groups.rows ↔ ∃ entry ∈ entries, row = entry.groupRow
  members : ∀ entry ∈ entries, ∀ row : LocalGroupMemberRow, row.groupId = entry.groupId →
    (row ∈ after.view.groupMembers.rows ↔ ⟨row.userId, row.role⟩ ∈ entry.wantedMembers)
  hasSession : ∀ entry ∈ entries, after.HasSession entry.groupId
  counts : ∀ row ∈ db.view.sessions.rows, KeptSession entries db row.sessionId →
    ∃ kept ∈ after.view.sessions.rows,
      kept.sessionId = row.sessionId ∧ kept.unreadCount = row.unreadCount
  messages : ∀ row, row ∈ after.view.messages.rows ↔
    row ∈ db.view.messages.rows ∧ KeptSession entries db row.sessionId
  pendingAcks : ∀ msgId, msgId ∈ after.view.pendingAcks ↔
    msgId ∈ db.view.pendingAcks ∧ ∀ row ∈ db.view.messages.rows, row.msgId = msgId →
      KeptSession entries db row.sessionId
  removed : ∀ groupId, ¬ KeptSession entries db groupId →
    ¬ after.HasGroup groupId ∧ ¬ after.HasSession groupId ∧
      ∀ userId, ¬ after.HasMember groupId userId
  untouched : ∀ row : SessionRow, row.sessionId ∉ entries.map GroupListEntryDto.groupId →
    ¬ db.HasGroup row.sessionId →
      (row ∈ after.view.sessions.rows ↔ row ∈ db.view.sessions.rows)

/-- The groups that the second loop clears are the stored ones that are not listed. -/
theorem cleared_iff {entries : List GroupListEntryDto} {db saved : LocalDatabase}
    (stored : EntriesStored entries db saved) (sessionId : String) :
    sessionId ∉ ((saved.listGroups true).map LocalGroupRow.groupId).filter (fun groupId =>
        groupId ∉ entries.map GroupListEntryDto.groupId) ↔ KeptSession entries db sessionId := by
  have hasGroup : sessionId ∈ (saved.listGroups true).map LocalGroupRow.groupId ↔
      saved.HasGroup sessionId := by
    rw [List.mem_map]
    exact Iff.rfl
  unfold KeptSession
  rw [List.mem_filter, hasGroup, decide_eq_true_eq]
  by_cases listed : sessionId ∈ entries.map GroupListEntryDto.groupId
  · simp [listed]
  · have sameGroup : saved.HasGroup sessionId ↔ db.HasGroup sessionId := by
      constructor
      · rintro ⟨row, rowIn, rfl⟩
        rcases (stored.groups row).mp rowIn with ⟨entry, entryIn, rfl⟩ | old
        · exact absurd (List.mem_map_of_mem entryIn) listed
        · exact ⟨row, old.1, rfl⟩
      · rintro ⟨row, rowIn, rfl⟩
        exact ⟨row, (stored.groups row).mpr (Or.inr ⟨rowIn, listed⟩), rfl⟩
    simp [listed, sameGroup]

namespace EntriesStored

variable {entries : List GroupListEntryDto} {db saved after : LocalDatabase}

theorem mem_groups_cleared (stored : EntriesStored entries db saved) (row : LocalGroupRow) :
    (row ∈ saved.view.groups.rows ∧ KeptSession entries db row.groupId) ↔
      ∃ entry ∈ entries, row = entry.groupRow := by
  rw [stored.groups]
  constructor
  · rintro ⟨entry | old, keptRow⟩
    · exact entry
    · exact absurd (keptRow.resolve_right (not_not.mpr ⟨row, old.1, rfl⟩)) old.2
  · rintro ⟨entry, entryIn, rfl⟩
    exact ⟨Or.inl ⟨entry, entryIn, rfl⟩, Or.inl (List.mem_map_of_mem entryIn)⟩

theorem mem_members_listed (stored : EntriesStored entries db saved)
    (listed : ListedEntries entries) {entry : GroupListEntryDto} (entryIn : entry ∈ entries)
    {row : LocalGroupMemberRow} (ownGroup : row.groupId = entry.groupId) :
    row ∈ saved.view.groupMembers.rows ↔ ⟨row.userId, row.role⟩ ∈ entry.wantedMembers := by
  have wanted := members_eq_wanted (listed.creator _ entryIn) (listed.members _ entryIn)
  have isListed := List.mem_map_of_mem (f := GroupListEntryDto.groupId) entryIn
  rw [stored.groupMembers, ownGroup]
  constructor
  · rintro (⟨other, otherIn, rowIn⟩ | old)
    · obtain ⟨member, memberIn, rfl⟩ := List.mem_map.mp rowIn
      have sameEntry : other = entry :=
        List.inj_on_of_nodup_map listed.distinct otherIn entryIn ownGroup
      rw [← wanted, ← sameEntry]
      exact memberIn
    · exact absurd isListed old.2
  · intro member
    refine Or.inl ⟨entry, entryIn, ?_⟩
    rw [wanted]
    refine List.mem_map.mpr ⟨_, member, ?_⟩
    rw [memberRow, ← ownGroup]

theorem session_kept (stored : EntriesStored entries db saved) (sound : db.SoundSessions)
    {row : SessionRow} (rowIn : row ∈ db.view.sessions.rows) :
    ∃ kept ∈ saved.view.sessions.rows,
      kept.sessionId = row.sessionId ∧ kept.unreadCount = row.unreadCount := by
  obtain ⟨found, foundIn, sameId⟩ :=
    (stored.hasSession row.sessionId).mpr (Or.inr ⟨row, rowIn, rfl⟩)
  refine ⟨found, foundIn, sameId, ?_⟩
  rw [← sound.unreadOf_row rowIn, ← stored.unreadOf, ← sameId,
    stored.sound.unreadOf_row foundIn]

end EntriesStored

theorem Cleared.removed {cleared : List String} {db after : LocalDatabase}
    (wasCleared : Cleared cleared db after) {groupId : String} (isCleared : groupId ∈ cleared) :
    ¬ after.HasGroup groupId ∧ ¬ after.HasSession groupId ∧
      ∀ userId, ¬ after.HasMember groupId userId := by
  refine ⟨?_, ?_, ?_⟩
  · intro hasGroup
    exact ((wasCleared.hasGroup groupId).mp hasGroup).2 isCleared
  · rintro ⟨row, rowIn, rfl⟩
    exact ((wasCleared.sessions row).mp rowIn).2 isCleared
  · intro userId hasMember
    exact ((wasCleared.hasMember groupId userId).mp hasMember).2 isCleared

theorem EntriesStored.listApplied {entries : List GroupListEntryDto}
    {db saved after : LocalDatabase} (sound : db.SoundSessions) (listed : ListedEntries entries)
    (stored : EntriesStored entries db saved)
    (cleared : Cleared (((saved.listGroups true).map LocalGroupRow.groupId).filter fun groupId =>
      groupId ∉ entries.map GroupListEntryDto.groupId) saved after) :
    ListApplied entries db after := by
  have kept := cleared_iff stored
  have ownKept : ∀ entry ∈ entries, KeptSession entries db entry.groupId := fun entry entryIn =>
    Or.inl (List.mem_map_of_mem entryIn)
  refine ⟨?_, ?_, ?_, ?_, ?_, ?_, ?_, ?_⟩
  · intro row
    rw [cleared.groups, kept, stored.mem_groups_cleared]
  · intro entry entryIn row ownGroup
    rw [cleared.groupMembers, kept, stored.mem_members_listed listed entryIn ownGroup, ownGroup]
    exact and_iff_left (ownKept entry entryIn)
  · intro entry entryIn
    obtain ⟨row, rowIn, ownId⟩ :=
      (stored.hasSession entry.groupId).mpr (Or.inl (List.mem_map_of_mem entryIn))
    exact ⟨row, (cleared.sessions row).mpr ⟨rowIn, (kept _).mpr (ownId ▸ ownKept entry entryIn)⟩,
      ownId⟩
  · intro row rowIn keptRow
    obtain ⟨found, foundIn, sameId, sameCount⟩ := stored.session_kept sound rowIn
    exact ⟨found, (cleared.sessions found).mpr ⟨foundIn, (kept _).mpr (sameId ▸ keptRow)⟩,
      sameId, sameCount⟩
  · intro row
    rw [cleared.messages, kept, stored.messages]
  · intro msgId
    rw [cleared.pendingAcks, stored.pendingAcks, stored.messages]
    simp only [kept]
  · intro groupId gone
    exact cleared.removed (not_not.mp ((not_congr (kept groupId)).mpr gone))
  · intro row unlisted noGroup
    rw [cleared.sessions, kept, stored.sessions row unlisted]
    exact and_iff_left (Or.inr noGroup)

/-- Applying a list to any store leaves the groups of the list, takes the stored
groups that are not listed away with all that is theirs, and keeps the rest. -/
theorem applyGroupList_listApplied (db : LocalDatabase) (sound : SoundStore db)
    (entries : List GroupListEntryDto) (listed : ListedEntries entries) :
    ListApplied entries db (applyGroupList db entries) := by
  have stored := entriesStored_foldl entries db sound.sessions listed
  have allActive : (entries.map GroupListEntryDto.groupId).filter (fun groupId => groupId ≠ "") =
      entries.map GroupListEntryDto.groupId := by
    apply List.filter_eq_self.mpr
    intro groupId groupIn
    obtain ⟨entry, entryIn, rfl⟩ := List.mem_map.mp groupIn
    simpa using listed.named entry entryIn
  unfold applyGroupList
  simp only [allActive]
  generalize entries.foldl applyEntry db = saved at stored
  have named : ∀ row ∈ saved.listGroups true, row.groupId ≠ "" := by
    intro row rowIn
    rcases (stored.groups row).mp rowIn with ⟨entry, entryIn, rfl⟩ | old
    · exact listed.named entry entryIn
    · exact sound.tables.groups row old.1
  exact stored.listApplied sound.sessions listed
    (cleared_foldl _ _ saved stored.sound.idle named)

/-- A store with a group that is no longer listed, one that is, and a private
session. -/
def staleStore : LocalDatabase where
  committed := {
    messages := ⟨[⟨"m1", "g1", "bob", "old", .sending, "2024-05-01T10:00:00Z", none⟩,
      ⟨"m2", "g2", "bob", "kept", .sending, "2024-05-01T10:01:00Z", none⟩,
      ⟨"m3", "p1", "bob", "private", .delivered, "2024-05-01T10:02:00Z", none⟩], by decide⟩
    pendingAcks := {"m1", "m2"}
    sessions := ⟨[⟨"g1", .groupChat, "Old", "", 2⟩, ⟨"g2", .groupChat, "Kept", "", 3⟩,
      ⟨"p1", .privateChat, "Bob", "bob", 1⟩], by decide⟩
    groups := ⟨[⟨"g1", "Old", "bob"⟩, ⟨"g2", "Kept", "bob"⟩], by decide⟩
    groupMembers := ⟨[⟨"g1", "bob", .creator⟩, ⟨"g2", "bob", .creator⟩], by decide⟩ }

def newerList : List GroupListEntryDto :=
  [⟨"g2", some "Kept", some "bob", ["bob", "carol"]⟩, ⟨"g3", some "New", some "dave", []⟩]

theorem applyGroupList_listApplied_stale :
    ListApplied newerList staleStore (applyGroupList staleStore newerList) := by
  exact applyGroupList_listApplied staleStore ⟨rfl, by decide, by decide⟩ newerList
    ⟨by decide, by decide, by decide, by decide, by decide, by decide⟩

end ShirohaChat
