import ShirohaChat.Client.LocalStore

/-!
# What the group repository does to the local tables

Outside of a transaction, and where only constraints can fail, a group with
distinct members is stored with exactly these members, and no other group
changes.
-/

set_option autoImplicit false

namespace ShirohaChat
/-- A transaction of its own, which commits or is undone. -/
def TransactionRun.ending (commits : Bool) : TransactionRun :=
  { commit := if commits then .committed else .undone }

theorem TransactionRun.ending_closed (commits : Bool) :
    (TransactionRun.ending commits).commit ≠ .leftOpen := by
  cases commits <;> simp [TransactionRun.ending]

namespace LocalDatabase

def HasGroup (db : LocalDatabase) (groupId : String) : Prop :=
  ∃ row ∈ db.view.groups.rows, row.groupId = groupId

def HasMember (db : LocalDatabase) (groupId userId : String) : Prop :=
  ∃ row ∈ db.view.groupMembers.rows, row.groupId = groupId ∧ row.userId = userId

def Idle (db : LocalDatabase) : Prop := db.transaction = none

variable {db : LocalDatabase}

section Transactions
variable {Value : Type}

/-- A commit that does not leave the transaction open ends it either way. -/
theorem runInTransaction_closed (db : LocalDatabase) {run : TransactionRun}
    (closed : run.commit ≠ .leftOpen) (callback : LocalDatabase → LocalDatabase × Option Value) :
    db.runInTransaction 0 run callback = (db, none) ∨
      ∃ after value, callback { db with transaction := some db.committed } = (after, some value) ∧
        db.runInTransaction 0 run callback = ({ committed := after.view }, some value) := by
  unfold LocalDatabase.runInTransaction
  split
  · exact Or.inl rfl
  split
  · contradiction
  split
  · exact Or.inl rfl
  cases ran : callback { db with transaction := some db.committed } with
  | mk after result =>
      cases result with
      | none => exact Or.inl rfl
      | some value =>
          cases outcome : run.commit with
          | committed => exact Or.inr ⟨after, value, rfl, rfl⟩
          | undone => exact Or.inl rfl
          | leftOpen => exact absurd outcome closed

theorem Idle.runInTransaction_closed (idle : db.Idle) {run : TransactionRun}
    (closed : run.commit ≠ .leftOpen) (callback : LocalDatabase → LocalDatabase × Option Value) :
    (db.runInTransaction 0 run callback).1.Idle := by
  rcases db.runInTransaction_closed closed callback with undone | ⟨after, value, _, ended⟩
  · rw [undone]
    exact idle
  · rw [ended]
    rfl

theorem Idle.runInTransaction_ending (idle : db.Idle) (commits : Bool)
    (callback : LocalDatabase → LocalDatabase × Option Value) :
    db.runInTransaction 0 (.ending commits) callback =
      match callback { db with transaction := some db.committed } with
      | (_, none) => (db, none)
      | (after, some value) =>
          if commits then ({ committed := after.view }, some value) else (db, none) := by
  have begun : ¬ ¬ ((true : Bool) = true ∧ db.transaction.isNone = true) := by
    rw [show db.transaction = none from idle]
    simp
  unfold LocalDatabase.runInTransaction
  rw [if_neg (by simp [TransactionRun.ending]), if_neg (by simp)]
  apply (if_neg begun).trans
  cases callback { db with transaction := some db.committed } with
  | mk after result =>
      cases result with
      | none => rfl
      | some value => cases commits <;> rfl

theorem Idle.runInTransaction_eq (idle : db.Idle)
    (callback : LocalDatabase → LocalDatabase × Option Value) :
    db.runInTransaction 0 {} callback =
      match callback { db with transaction := some db.committed } with
      | (_, none) => (db, none)
      | (after, some value) => ({ committed := after.view }, some value) :=
  idle.runInTransaction_ending true callback

theorem Idle.view_runInTransaction (idle : db.Idle)
    {callback : LocalDatabase → LocalDatabase × Option Value} {after : LocalDatabase}
    {value : Value}
    (ran : callback { db with transaction := some db.committed } = (after, some value)) :
    (db.runInTransaction 0 {} callback).1.view = after.view := by
  rw [idle.runInTransaction_eq, ran]
  rfl

theorem Idle.view_eq (idle : db.Idle) : db.view = db.committed := by
  rw [view, show db.transaction = none from idle]
  rfl

end Transactions

/-! ## Which operations leave the connection idle -/

theorem Idle.write (idle : db.Idle) (tables : LocalTables) : (db.write tables).Idle := by
  unfold LocalDatabase.write
  rw [show db.transaction = none from idle]
  rfl

theorem Idle.updateMessageStatus (idle : db.Idle) (ok : Bool) (msgId : String)
    (status : MessageStatus) (serverId : String) :
    (db.updateMessageStatus ok msgId status serverId).1.Idle := by
  unfold LocalDatabase.updateMessageStatus
  split
  · exact idle
  · exact idle.write _

theorem Idle.upsertPendingAck (idle : db.Idle) (ok : Bool) (msgId : String) :
    (db.upsertPendingAck ok msgId).1.Idle := by
  unfold LocalDatabase.upsertPendingAck
  split
  · exact idle.write _
  · exact idle

theorem Idle.removePendingAck (idle : db.Idle) (ok : Bool) (msgId : String) :
    (db.removePendingAck ok msgId).1.Idle := by
  unfold LocalDatabase.removePendingAck
  split
  · exact idle.write _
  · exact idle

theorem Idle.saveGroup_closed (idle : db.Idle) (run : SaveGroupRun)
    (closed : run.transaction.commit ≠ .leftOpen) (group : Group) :
    (db.saveGroup 0 run group).1.Idle := by
  unfold LocalDatabase.saveGroup
  split
  · exact idle
  · exact idle.runInTransaction_closed closed _

theorem Idle.removeGroup_closed (idle : db.Idle) (run : RemoveGroupRun)
    (closed : run.transaction.commit ≠ .leftOpen) (groupId : String) :
    (db.removeGroup 0 run groupId).1.Idle := by
  unfold LocalDatabase.removeGroup
  split
  · exact idle
  · exact idle.runInTransaction_closed closed _

theorem Idle.saveSession_closed (idle : db.Idle) (run : SaveRun)
    (closed : run.transaction.commit ≠ .leftOpen) (session : Session) :
    (db.saveSession 0 run session).1.Idle := by
  unfold LocalDatabase.saveSession
  split
  · exact idle
  · exact idle.runInTransaction_closed closed _

theorem Idle.removeSession_closed (idle : db.Idle) (run : RemoveSessionRun)
    (closed : run.transaction.commit ≠ .leftOpen) (sessionId : String) :
    (db.removeSession 0 run sessionId).1.Idle := by
  unfold LocalDatabase.removeSession
  split
  · exact idle
  · exact idle.runInTransaction_closed closed _

theorem Idle.saveGroup (idle : db.Idle) (group : Group) : (db.saveGroup 0 {} group).1.Idle :=
  idle.saveGroup_closed {} (by simp) group

theorem Idle.removeGroup (idle : db.Idle) (groupId : String) :
    (db.removeGroup 0 {} groupId).1.Idle :=
  idle.removeGroup_closed {} (by simp) groupId

theorem Idle.saveSession (idle : db.Idle) (session : Session) :
    (db.saveSession 0 {} session).1.Idle :=
  idle.saveSession_closed {} (by simp) session

theorem Idle.removeSession (idle : db.Idle) (sessionId : String) :
    (db.removeSession 0 {} sessionId).1.Idle :=
  idle.removeSession_closed {} (by simp) sessionId

/-- A session is removed with its messages and their acknowledgements. -/
theorem Idle.view_removeSession (idle : db.Idle) {sessionId : String} (named : sessionId ≠ "") :
    (db.removeSession 0 {} sessionId).1.view = { db.view with
      pendingAcks := db.view.pendingAcks.filter fun msgId => msgId ∉
        (db.view.messages.select fun row => row.sessionId = sessionId).map LocalMessageRow.msgId
      messages := db.view.messages.deleteWhere fun row => row.sessionId = sessionId
      sessions := db.view.sessions.deleteWhere fun row => row.sessionId = sessionId } := by
  unfold LocalDatabase.removeSession
  rw [if_neg named, idle.runInTransaction_eq, idle.view_eq]
  rfl

theorem Idle.removeSession_view (idle : db.Idle) (sessionId : String) :
    (db.removeSession 0 {} sessionId).1 = db ∨
      (db.removeSession 0 {} sessionId).1.view.messages =
          (db.view.messages.deleteWhere fun row => row.sessionId = sessionId) ∧
        (db.removeSession 0 {} sessionId).1.view.pendingAcks =
          db.view.pendingAcks.filter fun msgId => msgId ∉
            (db.view.messages.select fun row => row.sessionId = sessionId).map
              LocalMessageRow.msgId := by
  by_cases named : sessionId = ""
  · exact Or.inl (congrArg Prod.fst (if_pos named))
  · rw [idle.view_removeSession named]
    exact Or.inr ⟨rfl, rfl⟩

/-! ## The group tables -/

structure SameGroups (db other : LocalDatabase) : Prop where
  groups : other.view.groups = db.view.groups
  groupMembers : other.view.groupMembers = db.view.groupMembers

theorem SameGroups.refl (db : LocalDatabase) : SameGroups db db := ⟨rfl, rfl⟩

theorem SameGroups.trans {first second third : LocalDatabase} (left : SameGroups first second)
    (right : SameGroups second third) : SameGroups first third :=
  ⟨right.groups.trans left.groups, right.groupMembers.trans left.groupMembers⟩

theorem SameGroups.hasGroup {other : LocalDatabase} (same : SameGroups db other)
    (groupId : String) : other.HasGroup groupId ↔ db.HasGroup groupId := by
  rw [HasGroup, HasGroup, same.groups]

theorem SameGroups.hasMember {other : LocalDatabase} (same : SameGroups db other)
    (groupId userId : String) : other.HasMember groupId userId ↔ db.HasMember groupId userId := by
  rw [HasMember, HasMember, same.groupMembers]

theorem sameGroups_saveSession (db : LocalDatabase) (session : Session) :
    SameGroups db (db.saveSession 0 {} session).1 := by
  have kept := frame_saveSession (fun tables => (tables.groups, tables.groupMembers))
    (fun _ _ => rfl) db 0 {} session
  exact ⟨congrArg Prod.fst kept, congrArg Prod.snd kept⟩

theorem sameGroups_removeSession (db : LocalDatabase) (sessionId : String) :
    SameGroups db (db.removeSession 0 {} sessionId).1 := by
  have kept := frame_removeSession (fun tables => (tables.groups, tables.groupMembers))
    (fun _ _ _ _ => rfl) db 0 {} sessionId
  exact ⟨congrArg Prod.fst kept, congrArg Prod.snd kept⟩

def memberRow (groupId : String) (member : GroupMember) : LocalGroupMemberRow :=
  ⟨groupId, member.userId, member.role⟩

theorem insertMembers_ok (groupId : String) (members : List GroupMember) :
    ∀ db : LocalDatabase, (members.map GroupMember.userId).Nodup →
      (∀ member ∈ members, ¬ db.HasMember groupId member.userId) →
      ∃ after groupMembers,
        db.insertMembers (fun _ => true) groupId members = (after, some ()) ∧
        after.view = { db.view with groupMembers := groupMembers } ∧
        groupMembers.rows = db.view.groupMembers.rows ++ members.map (memberRow groupId) := by
  induction members with
  | nil =>
      intro db _ _
      exact ⟨db, db.view.groupMembers, rfl, rfl, by simp⟩
  | cons member rest ih =>
      intro db distinct absent
      obtain ⟨fresh, distinctRest⟩ := List.nodup_cons.mp distinct
      cases inserted : db.view.groupMembers.insert? ⟨groupId, member.userId, member.role⟩ with
      | none =>
          obtain ⟨row, rowIn, sameKey⟩ :=
            List.mem_map.mp ((db.view.groupMembers.insert?_eq_none _).mp inserted)
          obtain ⟨sameGroup, sameUser⟩ := Prod.mk.inj sameKey
          exact absurd ⟨row, rowIn, sameGroup, sameUser⟩ (absent member List.mem_cons_self)
      | some groupMembers =>
          have rows := (RowTable.insert?_eq_some inserted).2
          obtain ⟨after, final, ran, view, finalRows⟩ := ih
            (db.write { db.view with groupMembers := groupMembers }) distinctRest (by
              rintro other otherIn ⟨row, rowIn, sameGroup, sameUser⟩
              rw [view_write, rows, List.mem_append, List.mem_singleton] at rowIn
              rcases rowIn with old | rfl
              · exact absent other (List.mem_cons_of_mem _ otherIn) ⟨row, old, sameGroup, sameUser⟩
              · exact fresh (List.mem_map.mpr ⟨other, otherIn, sameUser.symm⟩))
          rw [view_write] at view finalRows
          refine ⟨after, final, ?_, view, ?_⟩
          · rw [LocalDatabase.insertMembers, if_neg (by simp), inserted]
            exact ran
          · rw [finalRows, rows, List.append_assoc]
            rfl

def groupsAfterSave (groups : LocalGroupTable) (row : LocalGroupRow) : LocalGroupTable :=
  groups.upsert row (fun old => { row with groupId := old.groupId }) fun _ => rfl

/-- A named group with distinct members is stored with these and no other ones. -/
theorem Idle.view_saveGroup (idle : db.Idle) (group : Group) (named : group.groupId ≠ "")
    {name creatorUserId : String} (hasName : group.groupName = some name)
    (hasCreator : group.creatorUserId = some creatorUserId)
    (distinct : (group.members.map GroupMember.userId).Nodup) :
    ∃ groupMembers : LocalGroupMemberTable,
      (db.saveGroup 0 {} group).1.view = { db.view with
        groups := groupsAfterSave db.view.groups ⟨group.groupId, name, creatorUserId⟩
        groupMembers := groupMembers } ∧
      groupMembers.rows = (db.view.groupMembers.deleteWhere fun member =>
        member.groupId = group.groupId).rows ++ group.members.map (memberRow group.groupId) := by
  have committedView : ({ db with transaction := some db.committed } : LocalDatabase).view =
      db.view := idle.view_eq.symm
  generalize startedDef : ({ db with transaction := some db.committed } : LocalDatabase) =
    started at committedView
  let upserted := started.write { started.view with
    groups := groupsAfterSave started.view.groups ⟨group.groupId, name, creatorUserId⟩ }
  let emptied := upserted.write { upserted.view with
    groupMembers := upserted.view.groupMembers.deleteWhere fun member =>
      member.groupId = group.groupId }
  have absent : ∀ member ∈ group.members,
      ¬ emptied.HasMember group.groupId member.userId := by
    rintro member _ ⟨row, rowIn, sameGroup, _⟩
    rw [view_write, RowTable.mem_deleteWhere] at rowIn
    simp [sameGroup] at rowIn
  obtain ⟨after, groupMembers, inserted, view, rows⟩ :=
    insertMembers_ok group.groupId group.members emptied distinct absent
  refine ⟨groupMembers, ?_, ?_⟩
  · unfold LocalDatabase.saveGroup
    rw [if_neg named]
    refine (idle.view_runInTransaction (?_ : _ = (after, some ()))).trans ?_
    · simp only [hasName, hasCreator, startedDef]
      rw [if_neg (by simp)]
      exact inserted
    · rw [view, view_write, view_write, committedView]
  · rw [rows, view_write, view_write, committedView]

structure GroupSaved (db after : LocalDatabase) (group : Group) : Prop where
  idle : after.Idle
  hasGroup : ∀ groupId, after.HasGroup groupId ↔ groupId = group.groupId ∨ db.HasGroup groupId
  hasMember : ∀ groupId userId, after.HasMember groupId userId ↔
    if groupId = group.groupId then userId ∈ group.members.map GroupMember.userId
    else db.HasMember groupId userId

theorem Idle.groupSaved (idle : db.Idle) (group : Group) (named : group.groupId ≠ "")
    {name creatorUserId : String} (hasName : group.groupName = some name)
    (hasCreator : group.creatorUserId = some creatorUserId)
    (distinct : (group.members.map GroupMember.userId).Nodup) :
    GroupSaved db (db.saveGroup 0 {} group).1 group := by
  obtain ⟨groupMembers, view, rows⟩ :=
    idle.view_saveGroup group named hasName hasCreator distinct
  refine ⟨idle.saveGroup group, ?_, ?_⟩
  · intro groupId
    unfold HasGroup
    rw [view]
    exact RowTable.exists_key_upsert _ _ _ _ groupId
  · intro groupId userId
    have members : (db.saveGroup 0 {} group).1.view.groupMembers = groupMembers := by rw [view]
    unfold HasMember
    rw [members, rows]
    simp only [List.mem_append, RowTable.mem_deleteWhere, decide_eq_false_iff_not, List.mem_map]
    by_cases own : groupId = group.groupId
    · rw [if_pos own]
      constructor
      · rintro ⟨row, ⟨_, other⟩ | ⟨member, memberIn, rfl⟩, sameGroup, sameUser⟩
        · exact absurd (sameGroup.trans own) other
        · exact ⟨member, memberIn, sameUser⟩
      · rintro ⟨member, memberIn, rfl⟩
        exact ⟨_, Or.inr ⟨member, memberIn, rfl⟩, own.symm, rfl⟩
    · rw [if_neg own]
      constructor
      · rintro ⟨row, ⟨old, _⟩ | ⟨member, _, rfl⟩, sameGroup, sameUser⟩
        · exact ⟨row, old, sameGroup, sameUser⟩
        · exact absurd sameGroup.symm own
      · rintro ⟨row, old, rfl, rfl⟩
        exact ⟨row, Or.inl ⟨old, own⟩, rfl, rfl⟩

/-- Whether or not it succeeds, saving adds no group but its own, and none
without an id. -/
theorem Idle.hasGroup_of_saveGroup (idle : db.Idle) (group : Group) (groupId : String)
    (stored : (db.saveGroup 0 {} group).1.HasGroup groupId) :
    (groupId = group.groupId ∧ group.groupId ≠ "") ∨ db.HasGroup groupId := by
  unfold LocalDatabase.saveGroup at stored
  split at stored
  · exact Or.inr stored
  · rename_i named
    simp only [idle.runInTransaction_eq] at stored
    split at stored
    · exact Or.inr stored
    · rename_i after value ran
      split at ran
      · rename_i name creatorUserId _ _ _
        rw [if_neg (by simp)] at ran
        have groups := frame_insertMembers LocalTables.groups (fun _ _ => rfl) (fun _ => true)
          group.groupId group.members
        have kept := (congrArg (fun result => result.1.view.groups) ran).symm.trans (groups _)
        simp only [view_write] at kept
        have sameStarted : ({ db with transaction := some db.committed } : LocalDatabase).view =
            db.view := idle.view_eq.symm
        have upserted : (∃ row ∈ after.view.groups.rows, row.groupId = groupId) := stored
        rw [kept, sameStarted] at upserted
        rcases (RowTable.exists_key_upsert _ _ _ _ groupId).mp upserted with own | old
        · exact Or.inl ⟨own, named⟩
        · exact Or.inr old
      · cases ran

theorem Idle.view_removeGroup (idle : db.Idle) {removed : String} (named : removed ≠ "") :
    (db.removeGroup 0 {} removed).1.view = { db.view with
      groupMembers := db.view.groupMembers.deleteWhere fun member => member.groupId = removed
      groups := db.view.groups.deleteWhere fun row => row.groupId = removed } := by
  unfold LocalDatabase.removeGroup
  rw [if_neg named, idle.runInTransaction_eq, idle.view_eq]
  rfl

structure GroupRemoved (db after : LocalDatabase) (removed : String) : Prop where
  idle : after.Idle
  hasGroup : ∀ groupId, after.HasGroup groupId ↔ groupId ≠ removed ∧ db.HasGroup groupId
  hasMember : ∀ groupId userId, after.HasMember groupId userId ↔
    groupId ≠ removed ∧ db.HasMember groupId userId

theorem Idle.groupRemoved (idle : db.Idle) (removed : String) (named : removed ≠ "") :
    GroupRemoved db (db.removeGroup 0 {} removed).1 removed := by
  have view := idle.view_removeGroup named
  refine ⟨idle.removeGroup removed, ?_, ?_⟩
  · intro groupId
    unfold HasGroup
    rw [view]
    simp only [RowTable.mem_deleteWhere, decide_eq_false_iff_not]
    constructor
    · rintro ⟨row, ⟨rowIn, other⟩, rfl⟩
      exact ⟨other, row, rowIn, rfl⟩
    · rintro ⟨other, row, rowIn, rfl⟩
      exact ⟨row, ⟨rowIn, other⟩, rfl⟩
  · intro groupId userId
    unfold HasMember
    rw [view]
    simp only [RowTable.mem_deleteWhere, decide_eq_false_iff_not]
    constructor
    · rintro ⟨member, ⟨memberIn, other⟩, rfl, rfl⟩
      exact ⟨other, member, memberIn, rfl, rfl⟩
    · rintro ⟨other, member, memberIn, rfl, rfl⟩
      exact ⟨member, ⟨memberIn, other⟩, rfl, rfl⟩

end LocalDatabase
end ShirohaChat
