import ShirohaChat.Client.GroupSyncRuns
import ShirohaChat.Server.GroupAggregate

/-!
# Member operations replayed on the client

When the server acknowledges a member operation, the client repeats it on its
own copy of the group.  A leave is repeated as a removal by the creator, which
does for a member what the server does, and nothing for the creator, whose
leaving dissolves the group.
-/

set_option autoImplicit false

namespace ShirohaChat

open LocalDatabase
open GroupSyncClient (applyMemberOp)

/-! ## The server's side -/

def executeMemberOp (store : GroupStore) (run : MemberOpRun) (request : GroupMemberOpRequest) :
    GroupStore × GroupMemberOpResult :=
  match request.operation with
  | .add => addMember store run request
  | .remove => removeMember store run request
  | .leave => leaveGroup store run request

/-- The creator's leaving is the operation that dissolves a group. -/
def Dissolves (group : GroupRow) (request : GroupMemberOpRequest) : Prop :=
  request.operation = .leave ∧ request.operatorUserId = group.creatorUserId

instance (group : GroupRow) (request : GroupMemberOpRequest) :
    Decidable (Dissolves group request) :=
  inferInstanceAs (Decidable (_ ∧ _))

namespace GroupStore

theorem isMember_insertMember {store after : GroupStore} {row : MemberRow}
    (inserted : store.insertMember row = some after) (userId : String) :
    after.IsMember row.groupId userId ↔
      userId = row.userId ∨ store.IsMember row.groupId userId := by
  obtain ⟨_, rows, _⟩ := GroupStore.insertMember_eq_some inserted
  unfold IsMember
  rw [rows]
  constructor
  · rintro ⟨other, member, ofGroup, isUser⟩
    rcases List.mem_append.mp member with old | new
    · exact Or.inr ⟨other, old, ofGroup, isUser⟩
    · rw [List.mem_singleton.mp new] at isUser
      exact Or.inl isUser.symm
  · rintro (rfl | ⟨other, member, ofGroup, isUser⟩)
    · exact ⟨row, by simp, rfl, rfl⟩
    · exact ⟨other, List.mem_append_left _ member, ofGroup, isUser⟩

theorem not_isMember_of_inserted {store after : GroupStore} {row : MemberRow}
    (inserted : store.insertMember row = some after) :
    ¬ store.IsMember row.groupId row.userId := by
  rintro ⟨other, member, ofGroup, isUser⟩
  obtain ⟨_, rows, _⟩ := GroupStore.insertMember_eq_some inserted
  have distinct := after.members.keysNodup
  rw [rows, List.map_append, List.nodup_append] at distinct
  have sameKey : (other.groupId, other.userId) = (row.groupId, row.userId) :=
    Prod.ext ofGroup isUser
  exact distinct.2.2 _ (List.mem_map_of_mem member) _ (List.mem_singleton_self _) sameKey

theorem isMember_deleteMember (store : GroupStore) (groupId removed userId : String) :
    (store.deleteMember groupId removed).IsMember groupId userId ↔
      userId ≠ removed ∧ store.IsMember groupId userId := by
  unfold IsMember deleteMember
  simp only [RowTable.mem_deleteWhere, decide_eq_false_iff_not]
  constructor
  · rintro ⟨row, ⟨member, spared⟩, ofGroup, rfl⟩
    exact ⟨fun same => spared ⟨ofGroup, same⟩, row, member, ofGroup, rfl⟩
  · rintro ⟨other, row, member, ofGroup, rfl⟩
    exact ⟨row, ⟨member, fun both => other both.2⟩, ofGroup, rfl⟩

theorem not_isMember_deleteGroup (store : GroupStore) (groupId userId : String) :
    ¬ (store.deleteGroup groupId).IsMember groupId userId := by
  unfold IsMember deleteGroup
  simp only [RowTable.mem_deleteWhere, decide_eq_false_iff_not]
  rintro ⟨row, ⟨_, spared⟩, ofGroup, _⟩
  exact spared ofGroup

end GroupStore

/-- What an accepted operation does to a group: a member comes in, one who is not
the creator goes out, or the group goes with its last member. -/
inductive MemberOpEffect (store after : GroupStore) (group : GroupRow)
    (request : GroupMemberOpRequest) : Prop where
  | added (isAdd : request.operation = .add)
      (outside : ¬ store.IsMember group.groupId request.targetUserId)
      (room : store.memberCount group.groupId < maxGroupMembers)
      (members : ∀ userId, after.IsMember group.groupId userId ↔
        userId = request.targetUserId ∨ store.IsMember group.groupId userId)
      (row : after.groups.find? group.groupId = some group)
  | takenOut (notAdd : request.operation ≠ .add)
      (other : request.targetUserId ≠ group.creatorUserId)
      (inside : store.IsMember group.groupId request.targetUserId)
      (members : ∀ userId, after.IsMember group.groupId userId ↔
        userId ≠ request.targetUserId ∧ store.IsMember group.groupId userId)
      (row : after.groups.find? group.groupId = some group)
  | dissolved (dissolves : Dissolves group request)
      (inside : store.IsMember group.groupId group.creatorUserId)
      (members : ∀ userId, ¬ after.IsMember group.groupId userId)
      (row : after.groups.find? group.groupId = none)

section Server
variable {store : GroupStore} {run : MemberOpRun} {request : GroupMemberOpRequest}
  {group : GroupRow}

theorem removeMember_inside (success : (removeMember store run request).2.success = true) :
    store.membership request.groupId request.targetUserId ≠ 0 := by
  intro outside
  simp only [removeMember] at success
  grind [memberOpFailed]

theorem leaveGroup_inside (success : (leaveGroup store run request).2.success = true) :
    store.membership request.groupId request.operatorUserId ≠ 0 := by
  intro outside
  simp only [leaveGroup] at success
  grind [memberOpFailed]

theorem eq_of_stored (stored : store.groups.find? request.groupId = some group)
    {other : GroupRow} (otherIn : other ∈ store.groups.rows)
    (ofRequest : other.groupId = request.groupId) : other = group := by
  obtain ⟨groupIn, isGroup⟩ := (store.groups.find?_eq_some _ _).mp stored
  exact store.groups.eq_of_key otherIn groupIn (ofRequest.trans isGroup.symm)

/-- An operation on a stored group that succeeds has one of the three effects. -/
theorem memberOpEffect_of_success (stored : store.groups.find? request.groupId = some group)
    (leaves : request.operation = .leave → request.targetUserId = request.operatorUserId)
    (success : (executeMemberOp store run request).2.success = true) :
    MemberOpEffect store (executeMemberOp store run request).1 group request := by
  have isGroup : group.groupId = request.groupId := ((store.groups.find?_eq_some _ _).mp stored).2
  unfold executeMemberOp at success ⊢
  cases operation : request.operation with
  | add =>
      simp only [operation] at success ⊢
      rcases addMember_cases store run request with ⟨failed, _⟩ | ⟨_, _, room, inserted⟩
      · rw [failed] at success
        cases success
      · refine .added operation ?_ (isGroup ▸ room) ?_ ?_
        · rw [isGroup]
          exact GroupStore.not_isMember_of_inserted inserted
        · rw [isGroup]
          exact GroupStore.isMember_insertMember inserted
        · rw [(GroupStore.insertMember_eq_some inserted).1, isGroup]
          exact stored
  | remove =>
      simp only [operation] at success ⊢
      have inside := (store.membership_ne_zero _ _).mp (removeMember_inside success)
      rcases removeMember_cases store run request with
        ⟨failed, _⟩ | ⟨_, found, foundIn, ofRequest, other, after⟩
      · rw [failed] at success
        cases success
      · rw [eq_of_stored stored foundIn ofRequest] at other
        refine .takenOut (by rw [operation]; decide) other (isGroup ▸ inside) ?_ ?_
        · rw [after, isGroup]
          exact store.isMember_deleteMember _ _
        · rw [after, isGroup]
          exact stored
  | leave =>
      simp only [operation] at success ⊢
      have inside := (store.membership_ne_zero _ _).mp (leaveGroup_inside success)
      rcases leaveGroup_cases store run request with ⟨failed, _⟩ |
        ⟨_, found, foundIn, ofRequest, ⟨isCreator, _, after⟩ | ⟨other, after⟩⟩
      · rw [failed] at success
        cases success
      · rw [eq_of_stored stored foundIn ofRequest] at isCreator
        refine .dissolved ⟨operation, isCreator⟩ (isGroup ▸ isCreator ▸ inside) ?_ ?_
        · rw [after, isGroup]
          exact store.not_isMember_deleteGroup _
        · rw [after, isGroup, GroupStore.deleteGroup, RowTable.find?_deleteWhere, stored]
          simp [isGroup]
      · rw [eq_of_stored stored foundIn ofRequest, ← leaves operation] at other
        rw [← leaves operation] at inside after
        refine .takenOut (by rw [operation]; decide) other (isGroup ▸ inside) ?_ ?_
        · rw [after, isGroup]
          exact store.isMember_deleteMember _ _
        · rw [after, isGroup]
          exact stored

theorem memberOpDone_of_success (success : (executeMemberOp store run request).2.success = true) :
    (executeMemberOp store run request).2 = memberOpDone request := by
  unfold executeMemberOp at success ⊢
  cases operation : request.operation with
  | add =>
      simp only [operation, addMember] at success ⊢
      grind [memberOpFailed]
  | remove =>
      simp only [operation, removeMember] at success ⊢
      grind [memberOpFailed]
  | leave =>
      simp only [operation, leaveGroup] at success ⊢
      grind [memberOpFailed]

end Server

/-! ## The client's copy -/

structure LocalCopy (db : LocalDatabase) (row : LocalGroupRow) (group : Group) : Prop where
  loaded : db.loadGroup true true row.groupId = some group
  groupId : group.groupId = row.groupId
  groupName : group.groupName = some row.name
  creatorUserId : group.creatorUserId = some row.creatorUserId
  standing : group.isDissolved = false
  distinct : (group.members.map GroupMember.userId).Nodup
  members : ∀ userId, userId ∈ group.members.map GroupMember.userId ↔
    db.HasMember row.groupId userId

theorem exists_localCopy {db : LocalDatabase} {row : LocalGroupRow}
    (rowIn : row ∈ db.view.groups.rows) (named : row.groupId ≠ "") :
    ∃ group, LocalCopy db row group := by
  have found : db.view.groups.find? row.groupId = some row :=
    (db.view.groups.find?_eq_some _ _).mpr ⟨rowIn, rfl⟩
  let members : List GroupMember :=
    (db.view.groupMembers.select fun member => member.groupId = row.groupId).map
      fun member => ⟨member.userId, member.role⟩
  refine ⟨⟨row.groupId, some row.name, some row.creatorUserId, members, false⟩,
    ?_, rfl, rfl, rfl, rfl, ?_, ?_⟩
  · unfold LocalDatabase.loadGroup
    rw [if_neg (by simp [named]), found]
    rfl
  · rw [List.map_map]
    exact db.view.groupMembers.nodup_second row.groupId
  · intro userId
    rw [List.map_map, List.mem_map]
    constructor
    · rintro ⟨member, memberIn, rfl⟩
      obtain ⟨stored, ofGroup⟩ := (RowTable.mem_select _ _ member).mp memberIn
      exact ⟨member, stored, of_decide_eq_true ofGroup, rfl⟩
    · rintro ⟨member, stored, ofGroup, rfl⟩
      exact ⟨member, (RowTable.mem_select _ _ member).mpr ⟨stored, decide_eq_true ofGroup⟩, rfl⟩

def GroupMemberOp.named : GroupMemberOp → String
  | .add => "add"
  | .remove => "remove"
  | .leave => "leave"

structure Replayed (db after : LocalDatabase) (groupId : String) (isMember : String → Prop) :
    Prop where
  idle : after.Idle
  hasGroup : after.HasGroup groupId
  members : ∀ userId, after.HasMember groupId userId ↔ isMember userId

section Replay
variable {db : LocalDatabase} {row : LocalGroupRow} {group : Group}

theorem LocalCopy.isMember (copy : LocalCopy db row group) (userId : String) :
    group.isMember userId = true ↔ db.HasMember row.groupId userId := by
  rw [← copy.members, Group.isMember_iff]

theorem LocalCopy.length_members (copy : LocalCopy db row group) {store : GroupStore}
    (agree : ∀ userId, db.HasMember row.groupId userId ↔ store.IsMember row.groupId userId) :
    group.members.length = store.memberCount row.groupId := by
  have same : (group.members.map GroupMember.userId).Perm
      ((store.members.select fun member => member.groupId = row.groupId).map
        MemberRow.userId) := by
    apply (List.perm_ext_iff_of_nodup copy.distinct (store.memberIds_nodup row.groupId)).mpr
    intro userId
    rw [copy.members, agree, GroupStore.IsMember, List.mem_map]
    simp only [RowTable.mem_select, decide_eq_true_eq, and_assoc]
  have sameLength := same.length_eq
  rwa [List.length_map, List.length_map] at sameLength

theorem LocalCopy.creator (copy : LocalCopy db row group) : group.creator = row.creatorUserId := by
  rw [Group.creator, copy.creatorUserId]
  rfl

theorem LocalCopy.replayed (copy : LocalCopy db row group) (idle : db.Idle)
    (named : row.groupId ≠ "") {members : List GroupMember}
    (distinct : (members.map GroupMember.userId).Nodup) :
    Replayed db (db.saveGroup 0 {} { group with members := members }).1 row.groupId
      (fun userId => userId ∈ members.map GroupMember.userId) := by
  have saved := idle.groupSaved { group with members := members }
    (by rw [copy.groupId]; exact named) copy.groupName copy.creatorUserId distinct
  refine ⟨saved.idle, (saved.hasGroup _).mpr (Or.inl copy.groupId.symm), ?_⟩
  intro userId
  rw [saved.hasMember, if_pos copy.groupId.symm]

theorem LocalCopy.replayed_add (copy : LocalCopy db row group) (idle : db.Idle)
    (named : row.groupId ≠ "") {userId : String} (target : userId ≠ "")
    (outside : ¬ db.HasMember row.groupId userId)
    (room : group.members.length < maxGroupMembers) :
    Replayed db (applyMemberOp db row.groupId "add" true userId) row.groupId
      (fun other => other = userId ∨ db.HasMember row.groupId other) := by
  have absent : ¬ group.isMember userId = true :=
    fun inside => outside ((copy.isMember _).mp inside)
  have added : (group.addMember userId).1 =
      { group with members := group.members ++ [⟨userId, .member⟩] } := by
    rw [Group.addMember, if_neg absent, if_neg (not_not_intro room)]
  have applied : applyMemberOp db row.groupId "add" true userId =
      (db.saveGroup 0 {} { group with members := group.members ++ [⟨userId, .member⟩] }).1 := by
    unfold applyMemberOp
    rw [if_neg (by simp [named]), copy.loaded]
    simp [target, added, copy.standing]
  have fresh : userId ∉ group.members.map GroupMember.userId :=
    fun member => outside ((copy.members userId).mp member)
  have distinct : ((group.members ++ [(⟨userId, .member⟩ : GroupMember)]).map
      GroupMember.userId).Nodup := by
    rw [List.map_append, List.map_singleton, ← List.concat_eq_append]
    exact copy.distinct.concat fresh
  rw [applied]
  have saved := copy.replayed idle named distinct
  refine ⟨saved.idle, saved.hasGroup, ?_⟩
  intro other
  rw [saved.members, List.map_append, List.mem_append, copy.members, List.map_singleton,
    List.mem_singleton, or_comm]

theorem LocalCopy.replayed_takeOut (copy : LocalCopy db row group) (idle : db.Idle)
    (named : row.groupId ≠ "") {operation : GroupMemberOp} (notAdd : operation ≠ .add)
    {userId : String} (target : userId ≠ "") (other : userId ≠ row.creatorUserId)
    (inside : db.HasMember row.groupId userId) :
    Replayed db (applyMemberOp db row.groupId operation.named true userId) row.groupId
      (fun remaining => remaining ≠ userId ∧ db.HasMember row.groupId remaining) := by
  let remaining := group.members.eraseP fun member => member.userId = userId
  have removed : (group.removeMember group.creator userId).1 =
      { group with members := remaining } := by
    rw [Group.removeMember, if_neg (copy.creator ▸ other),
      if_neg (not_not_intro ((copy.isMember userId).mpr inside))]
  have applied : applyMemberOp db row.groupId operation.named true userId =
      (db.saveGroup 0 {} { group with members := remaining }).1 := by
    unfold applyMemberOp
    rw [if_neg (by simp [named]), copy.loaded]
    cases operation with
    | add => exact absurd rfl notAdd
    | remove => simp [GroupMemberOp.named, target, removed, copy.standing]
    | leave => simp [GroupMemberOp.named, target, removed, copy.standing]
  have distinct : (remaining.map GroupMember.userId).Nodup :=
    copy.distinct.sublist (List.eraseP_sublist.map _)
  rw [applied]
  have saved := copy.replayed idle named distinct
  refine ⟨saved.idle, saved.hasGroup, ?_⟩
  intro left
  rw [saved.members, ← copy.members]
  unfold remaining
  rw [RowTable.eraseP_key copy.distinct]
  simp only [List.mem_map, List.mem_filter, decide_eq_true_eq]
  constructor
  · rintro ⟨member, ⟨memberIn, spared⟩, rfl⟩
    exact ⟨spared, member, memberIn, rfl⟩
  · rintro ⟨spared, member, memberIn, rfl⟩
    exact ⟨member, ⟨memberIn, spared⟩, rfl⟩

/-- The creator's leave is replayed as a removal of the creator, which the
aggregate refuses: the copy is saved as it was. -/
theorem LocalCopy.replayed_creator (copy : LocalCopy db row group) (idle : db.Idle)
    (named : row.groupId ≠ "") (target : row.creatorUserId ≠ "") :
    Replayed db (applyMemberOp db row.groupId "leave" true row.creatorUserId) row.groupId
      (fun userId => db.HasMember row.groupId userId) := by
  have refused : (group.removeMember group.creator row.creatorUserId).1 = group := by
    rw [Group.removeMember, if_pos copy.creator.symm]
  have applied : applyMemberOp db row.groupId "leave" true row.creatorUserId =
      (db.saveGroup 0 {} { group with members := group.members }).1 := by
    unfold applyMemberOp
    rw [if_neg (by simp [named]), copy.loaded]
    simp [target, refused, copy.standing]
  rw [applied]
  have saved := copy.replayed idle named copy.distinct
  refine ⟨saved.idle, saved.hasGroup, ?_⟩
  intro userId
  rw [saved.members, copy.members]

end Replay

/-! ## The acknowledgement -/

structure AgreesOn (db : LocalDatabase) (store : GroupStore) (group : GroupRow) : Prop where
  creator : ∃ row ∈ db.view.groups.rows,
    row.groupId = group.groupId ∧ row.creatorUserId = group.creatorUserId
  members : ∀ userId, db.HasMember group.groupId userId ↔ store.IsMember group.groupId userId

structure SentMemberOp (client : GroupSyncClient) (request : GroupMemberOpRequest) : Prop where
  pending : client.pendingMemberOps.lookup request.reqMsgId =
    some ⟨request.groupId, request.targetUserId, request.operation.named⟩
  operator : request.operatorUserId = client.userId
  leaves : request.operation = .leave → request.targetUserId = request.operatorUserId
  target : request.targetUserId ≠ ""
  group : request.groupId ≠ ""

section Acknowledgement
variable {client : GroupSyncClient}

/-- What `sendAddMember`, `sendRemoveMember` and `sendLeaveGroup` of a client with
a user leave behind. -/
theorem sentMemberOp_sendMemberOp (connected : client.connected = true)
    (msgId groupId userId : String) (operation : GroupMemberOp)
    (hasGroup : trimmed groupId ≠ "") (hasUser : client.userId ≠ "")
    (hasTarget : operation ≠ .leave → trimmed userId ≠ "") :
    SentMemberOp (client.sendMemberOp msgId operation.named groupId userId)
      ⟨msgId, trimmed groupId, if operation = .leave then client.userId else trimmed userId,
        client.userId, operation⟩ := by
  have isLeave : operation.named = "leave" ↔ operation = .leave := by
    cases operation <;> decide
  have sent : ¬ (¬ client.connected ∨ trimmed groupId = "" ∨
      (operation.named ≠ "leave" ∧ trimmed userId = "")) := by
    rw [ne_eq, isLeave]
    rintro (off | noGroup | ⟨notLeave, noTarget⟩)
    · exact off connected
    · exact hasGroup noGroup
    · exact hasTarget notLeave noTarget
  unfold GroupSyncClient.sendMemberOp
  simp only [isLeave] at sent ⊢
  rw [if_neg sent]
  refine ⟨?_, rfl, fun leave => if_pos leave, ?_, hasGroup⟩
  · rw [FiniteMap.lookup_insert, if_pos rfl]
  · change (if operation = .leave then client.userId else trimmed userId) ≠ ""
    split
    · exact hasUser
    · rename_i notLeave
      exact hasTarget notLeave

/-- The local members are the server's, and the group is gone here when it is gone
there. -/
def InStep (db : LocalDatabase) (store : GroupStore) (groupId : String) : Prop :=
  (∀ userId, db.HasMember groupId userId ↔ store.IsMember groupId userId) ∧
    (¬ db.HasGroup groupId ↔ store.groups.find? groupId = none)

theorem syncGroupSessions_ok (idle : client.db.Idle) :
    client.syncGroupSessions.db.Idle ∧ SameGroups client.db client.syncGroupSessions.db := by
  unfold GroupSyncClient.syncGroupSessions
  split
  · exact ⟨idle, SameGroups.refl _⟩
  split
  · exact ⟨idle, SameGroups.refl _⟩
  · exact loadSessions_ok idle

variable {store : GroupStore} {run : MemberOpRun} {request : GroupMemberOpRequest}
  {group : GroupRow}

/-- An accepted operation reaches the replay with the target it was sent with. -/
theorem handleIncomingPacket_memberOp (sent : SentMemberOp client request) :
    client.handleIncomingPacket
      (GroupHandler.onMemberOpCompleted request.operation (memberOpDone request)) =
    GroupSyncClient.onMemberOpResult
      { client with pendingMemberOps := client.pendingMemberOps.erase request.reqMsgId }
      request.groupId request.operation.named true request.targetUserId := by
  have handled : ∀ cmd, client.handleMemberOpAck request.operation.named
      (Packet.makeAck cmd request.reqMsgId 200 "" [("groupId", .string request.groupId)]) =
      GroupSyncClient.onMemberOpResult
        { client with pendingMemberOps := client.pendingMemberOps.erase request.reqMsgId }
        request.groupId request.operation.named true request.targetUserId := by
    intro cmd
    unfold GroupSyncClient.handleMemberOpAck
    simp only [Packet.makeAck, sent.pending]
    rfl
  cases operation : request.operation with
  | add =>
      rw [operation] at handled
      exact handled .addMemberAck
  | remove =>
      rw [operation] at handled
      exact handled .removeMemberAck
  | leave =>
      rw [operation] at handled
      exact handled .leaveGroupAck

theorem Replayed.of_sameGroups {db after final : LocalDatabase} {groupId : String}
    {isMember : String → Prop} (replayed : Replayed db after groupId isMember)
    (idle : final.Idle) (same : SameGroups after final) : Replayed db final groupId isMember where
  idle := idle
  hasGroup := (same.hasGroup groupId).mpr replayed.hasGroup
  members userId := (same.hasMember groupId userId).trans (replayed.members userId)

theorem Replayed.inStep {db after : LocalDatabase} {groupId : String}
    {isMember : String → Prop} (replayed : Replayed db after groupId isMember)
    (members : ∀ userId, store.IsMember groupId userId ↔ isMember userId)
    (row : store.groups.find? groupId = some group) : InStep after store groupId := by
  refine ⟨fun userId => (replayed.members userId).trans (members userId).symm, ?_⟩
  rw [row]
  exact iff_of_false (not_not_intro replayed.hasGroup) nofun

theorem Replayed.handleIncomingPacket {isMember : String → Prop}
    (replayed : Replayed client.db (applyMemberOp client.db request.groupId
      request.operation.named true request.targetUserId) request.groupId isMember)
    (sent : SentMemberOp client request)
    (success : (executeMemberOp store run request).2.success = true) :
    Replayed client.db (client.handleIncomingPacket (GroupHandler.onMemberOpCompleted
      request.operation (executeMemberOp store run request).2)).db request.groupId isMember := by
  rw [memberOpDone_of_success success, handleIncomingPacket_memberOp sent]
  let applied : GroupSyncClient := { client with
    pendingMemberOps := client.pendingMemberOps.erase request.reqMsgId
    db := applyMemberOp client.db request.groupId request.operation.named true
      request.targetUserId }
  have synced := @syncGroupSessions_ok applied replayed.idle
  unfold GroupSyncClient.onMemberOpResult
  rw [if_neg (by simp [sent.group])]
  exact replayed.of_sameGroups synced.1 synced.2

/-- What the effect on the server becomes when it is replayed on a copy that agreed:
the same members, except that a creator who dissolved the group stays in the copy. -/
theorem MemberOpEffect.replayed {db : LocalDatabase} {after : GroupStore}
    (effect : MemberOpEffect store after group request) (idle : db.Idle)
    (agrees : AgreesOn db store group) (named : group.groupId ≠ "")
    (target : request.targetUserId ≠ "")
    (leaves : request.operation = .leave → request.targetUserId = request.operatorUserId) :
    ∃ isMember, Replayed db (applyMemberOp db group.groupId request.operation.named true
        request.targetUserId) group.groupId isMember ∧
      ((¬ Dissolves group request ∧ after.groups.find? group.groupId = some group ∧
          ∀ userId, after.IsMember group.groupId userId ↔ isMember userId) ∨
        (Dissolves group request ∧ isMember group.creatorUserId ∧
          ∀ userId, ¬ after.IsMember group.groupId userId)) := by
  obtain ⟨row, rowIn, ofGroup, creator⟩ := agrees.creator
  obtain ⟨copy, isCopy⟩ := exists_localCopy rowIn (ofGroup ▸ named)
  have agree := agrees.members
  rw [← ofGroup] at agree named ⊢
  cases effect with
  | added isAdd outside room members stands =>
      rw [← ofGroup] at outside room members stands
      have kept : ¬ Dissolves group request := by
        rintro ⟨isLeave, _⟩
        rw [isAdd] at isLeave
        cases isLeave
      have absent : ¬ db.HasMember row.groupId request.targetUserId :=
        fun inside => outside ((agree _).mp inside)
      rw [isAdd]
      refine ⟨_, isCopy.replayed_add idle named target absent ?_, Or.inl ⟨kept, stands, ?_⟩⟩
      · rw [isCopy.length_members agree]
        exact room
      · intro userId
        rw [members, agree]
  | takenOut notAdd other inside members stands =>
      rw [← ofGroup] at inside members stands
      have kept : ¬ Dissolves group request := fun dissolves =>
        other ((leaves dissolves.1).trans dissolves.2)
      refine ⟨_, isCopy.replayed_takeOut idle named notAdd target (creator ▸ other)
        ((agree _).mpr inside), Or.inl ⟨kept, stands, ?_⟩⟩
      intro userId
      rw [members, agree]
  | dissolved dissolves inside members gone =>
      rw [← ofGroup] at inside members
      have isCreator : request.targetUserId = row.creatorUserId :=
        (leaves dissolves.1).trans (dissolves.2.trans creator.symm)
      rw [dissolves.1, isCreator]
      exact ⟨_, isCopy.replayed_creator idle named (isCreator ▸ target),
        Or.inr ⟨dissolves, (agree _).mpr inside, members⟩⟩

/-- After the client has handled the acknowledgement of an accepted operation, its
copy is in step with the server exactly when the server did not dissolve the
group. -/
theorem member_op_replayed_iff (idle : client.db.Idle) (sent : SentMemberOp client request)
    (stored : store.groups.find? request.groupId = some group)
    (agrees : AgreesOn client.db store group)
    (success : (executeMemberOp store run request).2.success = true) :
    InStep (client.handleIncomingPacket (GroupHandler.onMemberOpCompleted request.operation
        (executeMemberOp store run request).2)).db
      (executeMemberOp store run request).1 request.groupId ↔
    ¬ Dissolves group request := by
  have isGroup : group.groupId = request.groupId := ((store.groups.find?_eq_some _ _).mp stored).2
  have effect := memberOpEffect_of_success stored sent.leaves success
  obtain ⟨isMember, replayed, cases⟩ :=
    effect.replayed idle agrees (isGroup ▸ sent.group) sent.target sent.leaves
  rw [isGroup] at replayed cases
  have handled := replayed.handleIncomingPacket sent success
  rcases cases with ⟨kept, row, members⟩ | ⟨dissolves, creatorStays, noMembers⟩
  · exact iff_of_true (handled.inStep members row) kept
  · refine iff_of_false ?_ (not_not_intro dissolves)
    rintro ⟨sameMembers, _⟩
    have stays := (handled.members group.creatorUserId).mpr creatorStays
    exact noMembers _ ((sameMembers _).mp stays)

end Acknowledgement

def aliceAlone : GroupStore :=
  [GroupEvent.ensureUser {} "alice" "Alice", .ensureUser {} "bob" "Bob",
    .createGroup { groupId := "grp_1", now := "2026-01-01T00:00:00.000Z" }
      ⟨"m1", "friends", "alice", []⟩].foldl GroupEvent.next GroupStore.empty

def alicesGroups : LocalDatabase :=
  (LocalDatabase.saveGroup {} 0 {}
    ⟨"grp_1", some "friends", some "alice", [⟨"alice", .creator⟩], false⟩).1

theorem alicesGroups_agree : AgreesOn alicesGroups aliceAlone friendsGroup := by
  have localMembers : alicesGroups.view.groupMembers.rows = [⟨"grp_1", "alice", .creator⟩] := rfl
  have members : aliceAlone.members.rows =
      [⟨"grp_1", "alice", .creator, "2026-01-01T00:00:00.000Z"⟩] := by decide
  refine ⟨⟨⟨"grp_1", "friends", "alice"⟩, List.mem_singleton_self _, rfl, rfl⟩, ?_⟩
  intro userId
  unfold LocalDatabase.HasMember GroupStore.IsMember
  rw [localMembers, members]
  simp [friendsGroup]

def alicesClient (operation : GroupMemberOp) (userId : String) : GroupSyncClient :=
  ({ db := alicesGroups, userId := "alice" } : GroupSyncClient).sendMemberOp "m2" operation.named
    "grp_1" userId

/-- alice leaves, the server dissolves her group, and her client keeps it. -/
theorem member_op_replayed_alice_leaves :
    AgreesOn (alicesClient .leave "").db aliceAlone friendsGroup ∧
    SentMemberOp (alicesClient .leave "") ⟨"m2", "grp_1", "alice", "alice", .leave⟩ ∧
    (executeMemberOp aliceAlone { now := "2026-01-02T00:00:00.000Z" }
      ⟨"m2", "grp_1", "alice", "alice", .leave⟩).2.success = true ∧
    ¬ InStep ((alicesClient .leave "").handleIncomingPacket
        (GroupHandler.onMemberOpCompleted .leave (executeMemberOp aliceAlone
          { now := "2026-01-02T00:00:00.000Z" } ⟨"m2", "grp_1", "alice", "alice", .leave⟩).2)).db
      (executeMemberOp aliceAlone { now := "2026-01-02T00:00:00.000Z" }
        ⟨"m2", "grp_1", "alice", "alice", .leave⟩).1 "grp_1" := by
  refine ⟨alicesGroups_agree, ⟨rfl, rfl, fun _ => rfl, by decide, by decide⟩, by decide, ?_⟩
  rintro ⟨_, gone⟩
  refine gone.mpr (by decide) ⟨⟨"grp_1", "friends", "alice"⟩, ?_, rfl⟩
  decide

theorem member_op_replayed_alice_adds :
    InStep ((alicesClient .add "bob").handleIncomingPacket
        (GroupHandler.onMemberOpCompleted .add (executeMemberOp aliceAlone
          { now := "2026-01-02T00:00:00.000Z" } ⟨"m2", "grp_1", "bob", "alice", .add⟩).2)).db
      (executeMemberOp aliceAlone { now := "2026-01-02T00:00:00.000Z" }
        ⟨"m2", "grp_1", "bob", "alice", .add⟩).1 "grp_1" ↔
    ¬ Dissolves friendsGroup ⟨"m2", "grp_1", "bob", "alice", .add⟩ :=
  @member_op_replayed_iff (alicesClient .add "bob") aliceAlone
    { now := "2026-01-02T00:00:00.000Z" } ⟨"m2", "grp_1", "bob", "alice", .add⟩ friendsGroup rfl
    ⟨rfl, rfl, nofun, by decide, by decide⟩ (by decide) alicesGroups_agree (by decide)

end ShirohaChat
