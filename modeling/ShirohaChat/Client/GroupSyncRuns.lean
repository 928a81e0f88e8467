import ShirohaChat.Client.AppliedLists
import ShirohaChat.Lib.Refresh
import ShirohaChat.Lib.Transition

/-!
# Runs of a client that keeps its groups in step

One logged-in client and the server's group tables, with what is under way
between them.  The client's protocol is the one of `Lib.Refresh`: the answers
are the group lists, and the notices are what makes the client ask again.
-/

set_option autoImplicit false

namespace ShirohaChat

open Transition LocalDatabase

/-! ## What every handler keeps of the local tables -/

structure LocalDatabase.Sound (db : LocalDatabase) : Prop where
  idle : db.Idle
  unnamed : ¬ db.HasGroup ""

namespace LocalDatabase.Sound

variable {db : LocalDatabase}

theorem of_sameGroups (sound : db.Sound) {after : LocalDatabase} (idle : after.Idle)
    (same : SameGroups db after) : after.Sound :=
  ⟨idle, fun hasIt => sound.unnamed ((same.hasGroup "").mp hasIt)⟩

theorem saveGroup (sound : db.Sound) (group : Group) : (db.saveGroup 0 {} group).1.Sound := by
  refine ⟨sound.idle.saveGroup group, fun hasIt => ?_⟩
  rcases sound.idle.hasGroup_of_saveGroup group "" hasIt with ⟨same, named⟩ | old
  · exact named same.symm
  · exact sound.unnamed old

theorem removeGroup (sound : db.Sound) (groupId : String) :
    (db.removeGroup 0 {} groupId).1.Sound := by
  by_cases named : groupId = ""
  · unfold LocalDatabase.removeGroup
    rw [if_pos named]
    exact sound
  · have removed := sound.idle.groupRemoved groupId named
    exact ⟨removed.idle, fun hasIt => sound.unnamed ((removed.hasGroup "").mp hasIt).2⟩

theorem saveGroupSession (sound : db.Sound) (groupId displayName : String) :
    (saveGroupSession db groupId displayName).Sound :=
  sound.of_sameGroups (sound.idle.saveGroupSession groupId displayName)
    (sameGroups_saveGroupSession db groupId displayName)

theorem applyEntry (sound : db.Sound) (entry : GroupListEntryDto) :
    (applyEntry db entry).Sound := by
  unfold ShirohaChat.applyEntry
  split
  · exact sound
  · exact (sound.saveGroup _).saveGroupSession _ _

theorem clearStale (sound : db.Sound) (groupId : String) : (clearStale db groupId).Sound := by
  have removed := sound.removeGroup groupId
  exact removed.of_sameGroups (removed.idle.removeSession groupId)
    (sameGroups_removeSession _ groupId)

theorem applyGroupList (sound : db.Sound) (entries : List GroupListEntryDto) :
    (applyGroupList db entries).Sound := by
  unfold ShirohaChat.applyGroupList
  refine List.foldlRecOn _ _ ?_ ?_
  · exact List.foldlRecOn entries ShirohaChat.applyEntry sound fun _ applied entry _ =>
      applied.applyEntry entry
  · intro cleared clearedSound row _
    split
    · exact clearedSound
    · exact clearedSound.clearStale row.groupId

theorem storeCreatedGroup (sound : db.Sound) (success : Bool) (groupId : String)
    (groupName : Option String) (memberUserIds : List String) :
    (GroupSyncClient.storeCreatedGroup db success groupId groupName memberUserIds).Sound := by
  unfold GroupSyncClient.storeCreatedGroup
  split
  · exact sound
  · exact sound.saveGroup _

theorem applyMemberOp (sound : db.Sound) (groupId operation : String) (success : Bool)
    (userId : String) :
    (GroupSyncClient.applyMemberOp db groupId operation success userId).Sound := by
  unfold GroupSyncClient.applyMemberOp
  split
  · exact sound
  cases db.loadGroup true true groupId with
  | none => exact sound
  | some group =>
      simp only
      generalize (if operation = "add" ∧ userId ≠ "" then (group.addMember userId).1
        else if (operation = "remove" ∨ operation = "leave") ∧ userId ≠ "" then
          (group.removeMember group.creator userId).1 else group) = edited
      split
      · exact sound.removeGroup groupId
      · exact sound.saveGroup edited

end LocalDatabase.Sound

/-! ## Sessions do not touch the groups -/

theorem ensureGroupSession_ok {db : LocalDatabase} (idle : db.Idle) (row : LocalGroupRow) :
    (ensureGroupSession db row).Idle ∧ SameGroups db (ensureGroupSession db row) := by
  unfold ensureGroupSession
  split
  · exact ⟨idle, SameGroups.refl db⟩
  split
  · split
    · exact ⟨idle.saveSession _, sameGroups_saveSession db _⟩
    · exact ⟨idle, SameGroups.refl db⟩
  · exact ⟨idle.saveSession _, sameGroups_saveSession db _⟩

theorem refreshSession_ok {db : LocalDatabase} (idle : db.Idle) (row : SessionRow) :
    (refreshSession db row).Idle ∧ SameGroups db (refreshSession db row) := by
  unfold refreshSession
  split
  · exact ⟨idle, SameGroups.refl db⟩
  simp only
  split
  · split
    · exact ⟨idle.saveSession _, sameGroups_saveSession db _⟩
    · exact ⟨idle, SameGroups.refl db⟩
  · exact ⟨idle, SameGroups.refl db⟩

theorem loadSessions_ok {db : LocalDatabase} (idle : db.Idle) :
    (loadSessions db).Idle ∧ SameGroups db (loadSessions db) := by
  have ensured : ((db.listGroups true).foldl ensureGroupSession db).Idle ∧
      SameGroups db ((db.listGroups true).foldl ensureGroupSession db) := by
    refine List.foldlRecOn (motive := fun after => after.Idle ∧ SameGroups db after) _
      ensureGroupSession ⟨idle, SameGroups.refl db⟩ ?_
    intro before kept row _
    have step := ensureGroupSession_ok kept.1 row
    exact ⟨step.1, kept.2.trans step.2⟩
  refine List.foldlRecOn (motive := fun after => after.Idle ∧ SameGroups db after) _
    refreshSession ensured ?_
  intro before kept row _
  have step := refreshSession_ok kept.1 row
  exact ⟨step.1, kept.2.trans step.2⟩

theorem LocalDatabase.Sound.loadSessions {db : LocalDatabase} (sound : db.Sound) :
    (loadSessions db).Sound :=
  have loaded := loadSessions_ok sound.idle
  sound.of_sameGroups loaded.1 loaded.2

/-! ## What a packet does to the client -/

/-- What makes the client ask for the list again: a group that changed, and a
request of its own that succeeded. -/
def isSyncNotice (packet : Packet) : Bool :=
  match packet.cmd with
  | .createGroupAck => packet.code = 200
  | .addMemberAck | .removeMemberAck | .leaveGroupAck =>
      packet.code = 200 ∧ packet.text "groupId" ≠ ""
  | .groupMemberChanged => packet.text "groupId" ≠ ""
  | _ => false

/-- The successful acknowledgements of the server are notices. -/
theorem isSyncNotice_onGroupCreated (groupName : String) {result : GroupCreateResult}
    (success : result.success = true) :
    isSyncNotice (GroupHandler.onGroupCreated groupName result) = true := by
  simp [isSyncNotice, GroupHandler.onGroupCreated, Packet.makeAck, ackCode, success]

theorem isSyncNotice_onMemberOpCompleted (operation : GroupMemberOp)
    {result : GroupMemberOpResult} (success : result.success = true)
    (named : result.groupId ≠ "") :
    isSyncNotice (GroupHandler.onMemberOpCompleted operation result) = true := by
  cases operation <;>
    simp [isSyncNotice, GroupHandler.onMemberOpCompleted, GroupHandler.memberOpAck,
      Packet.makeAck, Packet.text, QJsonObject.value, jsonText, jsonString, ackCode, success,
      named]

namespace GroupSyncClient

structure Handles (client after : GroupSyncClient) (notice : Bool) : Prop where
  connected : after.connected = true
  sound : after.db.Sound
  asks : notice = true → after.groupSyncInProgress = true ∧
    after.sentLists = client.sentLists + if client.groupSyncInProgress then 0 else 1
  ignores : notice = false → after.db = client.db ∧
    after.groupSyncInProgress = client.groupSyncInProgress ∧ after.sentLists = client.sentLists

variable {client : GroupSyncClient}

theorem Handles.unchanged (connected : client.connected = true) (sound : client.db.Sound) :
    Handles client client false where
  connected := connected
  sound := sound
  asks isNotice := by cases isNotice
  ignores _ := ⟨rfl, rfl, rfl⟩

theorem Handles.of_asks {after : GroupSyncClient} (connected : after.connected = true)
    (sound : after.db.Sound) (asking : after.groupSyncInProgress = true)
    (sent : after.sentLists = client.sentLists + if client.groupSyncInProgress then 0 else 1) :
    Handles client after true where
  connected := connected
  sound := sound
  asks _ := ⟨asking, sent⟩
  ignores other := by cases other

theorem handles_syncGroupSessions (connected : client.connected = true) {db : LocalDatabase}
    (sound : db.Sound) : Handles client (syncGroupSessions { client with db := db }) true := by
  unfold syncGroupSessions
  cases asking : client.groupSyncInProgress with
  | true =>
      rw [if_pos rfl]
      exact Handles.of_asks connected sound rfl (by simp [asking])
  | false =>
      rw [if_neg (by simp), if_pos connected]
      exact Handles.of_asks connected sound rfl (by simp [asking])

theorem db_syncGroupSessions (connected : client.connected = true) :
    client.syncGroupSessions.db = client.db := by
  unfold syncGroupSessions
  split
  · rfl
  · rfl

theorem handles_onCreateGroupResult (connected : client.connected = true)
    (sound : client.db.Sound) (success : Bool) (groupId : String) (groupName : Option String)
    (memberUserIds : List String) :
    Handles client (client.onCreateGroupResult success groupId groupName memberUserIds)
      success := by
  have stored := sound.storeCreatedGroup success groupId groupName memberUserIds
  unfold onCreateGroupResult
  cases success with
  | false => exact Handles.unchanged connected sound
  | true =>
      rw [if_neg (by simp)]
      have synced := handles_syncGroupSessions connected (stored.saveGroupSession groupId
        (resolveGroupDisplayName (storeCreatedGroup client.db true groupId groupName
          memberUserIds) groupId (groupName.getD "")))
      obtain ⟨asking, sent⟩ := synced.asks rfl
      exact Handles.of_asks synced.connected synced.sound.loadSessions asking sent

theorem handles_onMemberOpResult (connected : client.connected = true)
    (sound : client.db.Sound) (groupId operation : String) (success : Bool) (userId : String) :
    Handles client (client.onMemberOpResult groupId operation success userId)
      (success = true ∧ groupId ≠ "") := by
  have applied := sound.applyMemberOp groupId operation success userId
  unfold onMemberOpResult
  by_cases refused : ¬ success = true ∨ groupId = ""
  · have notNotice : ¬ (success = true ∧ groupId ≠ "") := by tauto
    have same : applyMemberOp client.db groupId operation success userId = client.db :=
      if_pos refused
    rw [decide_eq_false notNotice, if_pos refused, same]
    exact Handles.unchanged connected sound
  · have isNotice : success = true ∧ groupId ≠ "" := by tauto
    rw [decide_eq_true isNotice, if_neg refused]
    exact handles_syncGroupSessions connected applied

theorem handles_onGroupMemberChanged (connected : client.connected = true)
    (sound : client.db.Sound) (groupId groupName : String) :
    Handles client (client.onGroupMemberChanged groupId groupName) (groupId ≠ "") := by
  unfold onGroupMemberChanged
  by_cases unnamed : groupId = ""
  · rw [decide_eq_false (not_not.mpr unnamed), if_pos unnamed]
    exact Handles.unchanged connected sound
  · rw [decide_eq_true unnamed, if_neg unnamed]
    apply handles_syncGroupSessions connected
    split
    · exact sound
    split
    · exact sound.saveGroup _
    · exact sound

theorem Handles.of_pending {after : GroupSyncClient} {notice : Bool}
    (creates : FiniteMap String PendingGroupCreate) (ops : FiniteMap String PendingMemberOp)
    (handled : Handles { client with pendingGroupCreates := creates, pendingMemberOps := ops }
      after notice) : Handles client after notice :=
  ⟨handled.connected, handled.sound, handled.asks, handled.ignores⟩

theorem handles_handleCreateGroupAck (connected : client.connected = true)
    (sound : client.db.Sound) (packet : Packet) :
    Handles client (client.handleCreateGroupAck packet) (packet.code = 200) := by
  unfold handleCreateGroupAck
  simp only
  split
  · exact handles_onCreateGroupResult connected sound _ _ _ _
  · apply Handles.of_pending (client.pendingGroupCreates.erase packet.msgId)
      client.pendingMemberOps
    apply handles_onCreateGroupResult
    · exact connected
    · exact sound

theorem handles_handleMemberOpAck (connected : client.connected = true)
    (sound : client.db.Sound) (operation : String) (packet : Packet) :
    Handles client (client.handleMemberOpAck operation packet)
      (packet.code = 200 ∧ packet.text "groupId" ≠ "") := by
  have sameNotice : decide (decide (packet.code = 200) = true ∧ packet.text "groupId" ≠ "") =
      decide (packet.code = 200 ∧ packet.text "groupId" ≠ "") := by
    simp only [decide_eq_true_eq]
  rw [← sameNotice]
  unfold handleMemberOpAck
  simp only
  split
  · exact handles_onMemberOpResult connected sound _ _ _ _
  · apply Handles.of_pending client.pendingGroupCreates
      (client.pendingMemberOps.erase packet.msgId)
    apply handles_onMemberOpResult
    · exact connected
    · exact sound

theorem handles_handleIncomingPacket (connected : client.connected = true)
    (sound : client.db.Sound) {packet : Packet} (notList : packet.cmd ≠ .groupListAck) :
    Handles client (client.handleIncomingPacket packet) (isSyncNotice packet) := by
  unfold handleIncomingPacket isSyncNotice
  cases cmd : packet.cmd with
  | createGroupAck => exact handles_handleCreateGroupAck connected sound packet
  | addMemberAck => exact handles_handleMemberOpAck connected sound "add" packet
  | removeMemberAck => exact handles_handleMemberOpAck connected sound "remove" packet
  | leaveGroupAck => exact handles_handleMemberOpAck connected sound "leave" packet
  | groupMemberChanged => exact handles_onGroupMemberChanged connected sound _ _
  | groupListAck => exact absurd cmd notList
  | _ => exact Handles.unchanged connected sound

/-- A group list ends the question; what it names is then stored. -/
theorem handleIncomingPacket_list (connected : client.connected = true)
    (sound : client.db.Sound) {packet : Packet} (isList : packet.cmd = .groupListAck) :
    (client.handleIncomingPacket packet).connected = true ∧
    (client.handleIncomingPacket packet).db.Sound ∧
    (client.handleIncomingPacket packet).groupSyncInProgress = false ∧
    (client.handleIncomingPacket packet).sentLists = client.sentLists ∧
    ∀ userId store, packet.code = 200 →
      DescribesGroups userId store (parseGroupList packet) →
      ShowsGroups userId (client.handleIncomingPacket packet).db store := by
  unfold handleIncomingPacket
  rw [isList]
  simp only
  split
  · rename_i failed
    exact ⟨connected, sound.loadSessions, rfl, rfl, fun _ _ succeeded => absurd succeeded failed⟩
  · have applied := sound.applyGroupList (parseGroupList packet)
    refine ⟨connected, applied.loadSessions, rfl, rfl, fun userId store _ describes => ?_⟩
    exact (showsGroups_applyGroupList sound.idle sound.unnamed describes).of_sameGroups
      (loadSessions_ok applied.idle).2

end GroupSyncClient

/-! ## The client and the server -/

def Touches (userId : String) (store after : GroupStore) : Prop :=
  ∃ groupId, (store.IsMember groupId userId ∨ after.IsMember groupId userId) ∧
    ∃ memberId, ¬ (store.IsMember groupId memberId ↔ after.IsMember groupId memberId)

/-- `executed` counts the client's `group_list` requests; `answers`, `owed` and
`channel` are those of `Refresh.State`. -/
structure GroupSyncState where
  store : GroupStore
  executed : Nat
  answers : List Packet
  owed : List Nat
  channel : List Packet
  client : GroupSyncClient

inductive GroupSyncEvent where
  | operation (event : GroupEvent) (notified : Bool)
  | executeList (reqMsgId : String)
  | sendAnswer
  | sendNotice (position : Nat) (packet : Packet)
  | sendPacket (packet : Packet)
  | deliver
  | syncGroupSessions
  | createGroup (msgId groupName : String) (memberUserIds : List String)
  | memberOp (msgId operation groupId userId : String)

namespace GroupSyncState

def next (userId : String) (state : GroupSyncState) : GroupSyncEvent → GroupSyncState
  | .operation event notified =>
      { state with
        store := event.next state.store
        owed := if notified then state.owed ++ [state.answers.length] else state.owed }
  | .executeList reqMsgId =>
      { state with
        executed := state.executed + 1
        answers := state.answers ++
          [GroupHandler.onGroupListLoaded (loadGroupList state.store {} ⟨reqMsgId, userId⟩)] }
  | .sendAnswer =>
      match state.answers with
      | [] => state
      | answer :: rest =>
          { state with
            answers := rest
            owed := state.owed.map Nat.pred
            channel := state.channel ++ [answer] }
  | .sendNotice position packet =>
      { state with
        owed := state.owed.eraseIdx position
        channel := state.channel ++ [packet] }
  | .sendPacket packet => { state with channel := state.channel ++ [packet] }
  | .deliver =>
      match state.channel with
      | [] => state
      | packet :: rest =>
          { state with channel := rest, client := state.client.handleIncomingPacket packet }
  | .syncGroupSessions => { state with client := state.client.syncGroupSessions }
  | .createGroup msgId groupName memberUserIds =>
      { state with client := state.client.sendCreateGroup msgId groupName memberUserIds }
  | .memberOp msgId operation groupId target =>
      { state with client := state.client.sendMemberOp msgId operation groupId target }

/-- A change that touches the user's groups owes him a notice, which waits for
the answers that were executed before. -/
def Enabled (userId : String) (state : GroupSyncState) : GroupSyncEvent → Prop
  | .operation event notified => event.Admitted ∧
      (Touches userId state.store (event.next state.store) → notified = true)
  | .executeList _ => state.executed < state.client.sentLists
  | .sendNotice position packet =>
      state.owed[position]? = some 0 ∧ isSyncNotice packet = true
  | .sendPacket packet => packet.cmd ≠ .groupListAck
  | _ => True

def Quiet (state : GroupSyncState) : Prop :=
  state.executed = state.client.sentLists ∧ state.answers = [] ∧ state.owed = [] ∧
    state.channel = []

end GroupSyncState

def groupSyncSystem (userId : String) (store : GroupStore) (db : LocalDatabase) :
    System GroupSyncState GroupSyncEvent where
  initial := {
    store := store, executed := 0, answers := [], owed := [], channel := []
    client := GroupSyncClient.initializeAfterAuthentication { db := db, userId := userId } }
  enabled := GroupSyncState.Enabled userId
  next := GroupSyncState.next userId

/-! ## The refresh protocol it runs -/

def groupListProtocol (userId : String) : Refresh.Protocol GroupStore Packet LocalDatabase where
  isAnswer packet := packet.cmd = .groupListAck
  isNotice := isSyncNotice
  Current store packet :=
    packet.code = 200 ∧ DescribesGroups userId store (parseGroupList packet)
  Shows := ShowsGroups userId
  distinct packet isAnswer := by
    rw [isSyncNotice, of_decide_eq_true isAnswer]

def GroupSyncState.view (state : GroupSyncState) :
    Refresh.State GroupStore Packet LocalDatabase where
  server := state.store
  questions := state.client.sentLists - state.executed
  answers := state.answers
  owed := state.owed
  channel := state.channel
  asking := state.client.groupSyncInProgress
  copy := state.client.db

section Untouched
variable {userId : String} {store after : GroupStore}

theorem sameMembers_of_untouched (untouched : ¬ Touches userId store after) (groupId : String)
    (isMember : store.IsMember groupId userId ∨ after.IsMember groupId userId)
    (memberId : String) :
    store.IsMember groupId memberId ↔ after.IsMember groupId memberId := by
  by_contra differ
  exact untouched ⟨groupId, isMember, memberId, differ⟩

theorem isMember_of_untouched (untouched : ¬ Touches userId store after) (groupId : String) :
    store.IsMember groupId userId ↔ after.IsMember groupId userId := by
  constructor
  · intro isMember
    exact (sameMembers_of_untouched untouched groupId (Or.inl isMember) userId).mp isMember
  · intro isMember
    exact (sameMembers_of_untouched untouched groupId (Or.inr isMember) userId).mpr isMember

theorem DescribesGroups.of_untouched {entries : List GroupListEntryDto}
    (describes : DescribesGroups userId store entries)
    (untouched : ¬ Touches userId store after) : DescribesGroups userId after entries := by
  refine ⟨describes.storable, ?_, ?_⟩
  · intro groupId
    exact (describes.listed groupId).trans (isMember_of_untouched untouched groupId)
  · intro entry entryIn memberId
    have isMember := (describes.listed entry.groupId).mp (List.mem_map_of_mem entryIn)
    exact (describes.members entry entryIn memberId).trans
      (sameMembers_of_untouched untouched entry.groupId (Or.inl isMember) memberId)

theorem ShowsGroups.of_untouched {db : LocalDatabase} (shows : ShowsGroups userId db store)
    (untouched : ¬ Touches userId store after) : ShowsGroups userId db after := by
  refine ⟨?_, ?_⟩
  · intro groupId
    exact (shows.1 groupId).trans (isMember_of_untouched untouched groupId)
  · intro groupId isMember memberId
    have before := (isMember_of_untouched untouched groupId).mpr isMember
    exact (shows.2 groupId before memberId).trans
      (sameMembers_of_untouched untouched groupId (Or.inl before) memberId)

end Untouched

/-! ## What holds in every run -/

structure SyncInvariant (userId : String) (state : GroupSyncState) : Prop where
  consistent : GroupsConsistent state.store
  clean : CleanIds state.store
  connected : state.client.connected = true
  sound : state.client.db.Sound
  counted : state.executed ≤ state.client.sentLists
  fresh : Refresh.Fresh (groupListProtocol userId) state.view

namespace SyncInvariant

variable {userId : String} {state : GroupSyncState}

theorem operation (holds : SyncInvariant userId state) {event : GroupEvent} {notified : Bool}
    (admitted : event.Admitted)
    (owes : Touches userId state.store (event.next state.store) → notified = true) :
    SyncInvariant userId (state.next userId (.operation event notified)) := by
  have fresh : Refresh.Fresh (groupListProtocol userId)
      (state.next userId (.operation event notified)).view := by
    cases notified with
    | true => exact holds.fresh.step (Refresh.Step.change state.view (event.next state.store))
    | false =>
        have untouched : ¬ Touches userId state.store (event.next state.store) := fun touches => by
          cases owes touches
        exact holds.fresh.step (Refresh.Step.quietChange state.view (event.next state.store)
          (fun _ current => ⟨current.1, current.2.of_untouched untouched⟩)
          fun _ shows => shows.of_untouched untouched)
  exact ⟨holds.consistent.next event, holds.clean.next admitted, holds.connected, holds.sound,
    holds.counted, fresh⟩

theorem executeList (holds : SyncInvariant userId state) (reqMsgId : String)
    (asked : state.executed < state.client.sentLists) :
    SyncInvariant userId (state.next userId (.executeList reqMsgId)) := by
  refine ⟨holds.consistent, holds.clean, holds.connected, holds.sound, asked, ?_⟩
  obtain ⟨success, _⟩ := loadGroupList_ok holds.consistent ⟨reqMsgId, userId⟩
  have code : (GroupHandler.onGroupListLoaded
      (loadGroupList state.store {} ⟨reqMsgId, userId⟩)).code = 200 := by
    unfold GroupHandler.onGroupListLoaded
    rw [if_neg (by simp [success])]
    rfl
  refine holds.fresh.step (Refresh.Step.execute state.view
    (state.client.sentLists - (state.executed + 1)) _ ?_ ?_
    ⟨code, describesGroups_answer holds.consistent holds.clean ⟨reqMsgId, userId⟩⟩)
  · change state.client.sentLists - state.executed = _
    omega
  · exact decide_eq_true (GroupHandler.onGroupListLoaded_cmd _)

theorem sendAnswer (holds : SyncInvariant userId state) :
    SyncInvariant userId (state.next userId .sendAnswer) := by
  simp only [GroupSyncState.next]
  split
  · exact holds
  · rename_i answer rest next
    exact ⟨holds.consistent, holds.clean, holds.connected, holds.sound, holds.counted,
      holds.fresh.step (Refresh.Step.sendAnswer state.view answer rest next)⟩

theorem sendNotice (holds : SyncInvariant userId state) {position : Nat} {packet : Packet}
    (due : state.owed[position]? = some 0) (isNotice : isSyncNotice packet = true) :
    SyncInvariant userId (state.next userId (.sendNotice position packet)) := by
  refine ⟨holds.consistent, holds.clean, holds.connected, holds.sound, holds.counted, ?_⟩
  obtain ⟨inside, isDue⟩ := List.getElem?_eq_some_iff.mp due
  have around : state.owed =
      state.owed.take position ++ 0 :: state.owed.drop (position + 1) := by
    rw [← isDue, List.getElem_cons_drop, List.take_append_drop]
  have sent := holds.fresh.step (Refresh.Step.sendNotice state.view packet _ _ around isNotice)
  rw [← List.eraseIdx_eq_take_drop_succ] at sent
  exact sent

theorem sendPacket (holds : SyncInvariant userId state) {packet : Packet}
    (notList : packet.cmd ≠ .groupListAck) :
    SyncInvariant userId (state.next userId (.sendPacket packet)) :=
  ⟨holds.consistent, holds.clean, holds.connected, holds.sound, holds.counted,
    holds.fresh.step (Refresh.Step.sendOther state.view packet (decide_eq_false notList))⟩

/-- The three kinds of packets: a list, a notice, and what is neither. -/
theorem deliver (holds : SyncInvariant userId state) :
    SyncInvariant userId (state.next userId .deliver) := by
  simp only [GroupSyncState.next]
  split
  · exact holds
  rename_i packet rest next
  by_cases isList : packet.cmd = .groupListAck
  · obtain ⟨connected, sound, asking, sent, shows⟩ :=
      GroupSyncClient.handleIncomingPacket_list holds.connected holds.sound isList
    refine ⟨holds.consistent, holds.clean, connected, sound, ?_, ?_⟩
    · simp only [sent]
      exact holds.counted
    · have received := holds.fresh.step (Refresh.Step.receiveAnswer state.view packet rest
        (state.client.handleIncomingPacket packet).db next (decide_eq_true isList)
        fun store current => shows userId store current.1 current.2)
      simpa only [GroupSyncState.view, asking, sent] using received
  · have handled := GroupSyncClient.handles_handleIncomingPacket holds.connected holds.sound isList
    cases isNotice : isSyncNotice packet with
    | true =>
        obtain ⟨asking, sent⟩ := handled.asks isNotice
        have counted := holds.counted
        refine ⟨holds.consistent, holds.clean, handled.connected, handled.sound, ?_, ?_⟩
        · simp only [sent]
          omega
        · have received := holds.fresh.step (Refresh.Step.receiveNotice state.view packet rest
            (state.client.handleIncomingPacket packet).db next isNotice)
          simp only [GroupSyncState.view, asking, sent] at received ⊢
          rw [Nat.sub_add_comm counted]
          exact received
    | false =>
        obtain ⟨sameDb, sameAsking, sameSent⟩ := handled.ignores isNotice
        refine ⟨holds.consistent, holds.clean, handled.connected, handled.sound, ?_, ?_⟩
        · simp only [sameSent]
          exact holds.counted
        · have received := holds.fresh.step (Refresh.Step.receiveOther state.view packet rest
            state.client.db next (decide_eq_false isList) isNotice fun _ shows => shows)
          simpa only [GroupSyncState.view, sameDb, sameAsking, sameSent] using received

theorem syncGroupSessions (holds : SyncInvariant userId state) :
    SyncInvariant userId (state.next userId .syncGroupSessions) := by
  have handled := GroupSyncClient.handles_syncGroupSessions holds.connected holds.sound
  obtain ⟨asking, sent⟩ := handled.asks rfl
  have sameDb := GroupSyncClient.db_syncGroupSessions holds.connected
  have counted := holds.counted
  refine ⟨holds.consistent, holds.clean, handled.connected, handled.sound, ?_, ?_⟩
  · change state.executed ≤ state.client.syncGroupSessions.sentLists
    rw [sent]
    omega
  · have asked := holds.fresh.step (Refresh.Step.ask state.view)
    simp only [GroupSyncState.next, GroupSyncState.view, asking, sent, sameDb] at asked ⊢
    rw [Nat.sub_add_comm counted]
    exact asked

/-- Requests of the client are only remembered until they are answered. -/
theorem request (holds : SyncInvariant userId state) {client : GroupSyncClient}
    (connected : client.connected = state.client.connected) (db : client.db = state.client.db)
    (asking : client.groupSyncInProgress = state.client.groupSyncInProgress)
    (sent : client.sentLists = state.client.sentLists) :
    SyncInvariant userId { state with client := client } := by
  have sameView : ({ state with client := client } : GroupSyncState).view = state.view := by
    simp only [GroupSyncState.view, db, asking, sent]
  refine ⟨holds.consistent, holds.clean, connected.trans holds.connected, ?_, ?_, ?_⟩
  · simpa only [db] using holds.sound
  · simpa only [sent] using holds.counted
  · rw [sameView]
    exact holds.fresh

theorem next (holds : SyncInvariant userId state) {event : GroupSyncEvent}
    (enabled : state.Enabled userId event) : SyncInvariant userId (state.next userId event) := by
  cases event with
  | operation event notified => exact holds.operation enabled.1 enabled.2
  | executeList reqMsgId => exact holds.executeList reqMsgId enabled
  | sendAnswer => exact holds.sendAnswer
  | sendNotice position packet => exact holds.sendNotice enabled.1 enabled.2
  | sendPacket packet => exact holds.sendPacket enabled
  | deliver => exact holds.deliver
  | syncGroupSessions => exact holds.syncGroupSessions
  | createGroup msgId groupName memberUserIds =>
      apply holds.request <;> (unfold GroupSyncClient.sendCreateGroup; split <;> rfl)
  | memberOp msgId operation groupId target =>
      apply holds.request <;>
        (unfold GroupSyncClient.sendMemberOp; simp only; split <;> rfl)

end SyncInvariant

theorem syncInvariant_initial {userId : String} {store : GroupStore} {db : LocalDatabase}
    (consistent : GroupsConsistent store) (clean : CleanIds store) (sound : db.Sound) :
    SyncInvariant userId (groupSyncSystem userId store db).initial := by
  refine ⟨consistent, clean, rfl, sound.loadSessions, Nat.zero_le _, ?_⟩
  refine ⟨rfl, ?_, ?_, trivial, ?_⟩
  · intro answer executed
    cases executed
  · intro answer executed
    cases executed
  · intro idle
    cases idle

/-- Whatever was dropped on the way, a client with nothing in flight has the
groups of its user, and each with its members. -/
theorem groups_in_step (userId : String) (store : GroupStore) (db : LocalDatabase)
    (stored : (groupSystem.restrict fun _ event => event.Admitted).Reachable store)
    (sound : db.Sound) (state : GroupSyncState)
    (reached : (groupSyncSystem userId store db).Reachable state) (quiet : state.Quiet) :
    (∀ groupId, state.client.db.HasGroup groupId ↔ state.store.IsMember groupId userId) ∧
    ∀ groupId, state.store.IsMember groupId userId →
      ∀ memberId, state.client.db.HasMember groupId memberId ↔
        state.store.IsMember groupId memberId := by
  have consistent := groupsConsistent_of_reachable store stored.of_restrict
  have clean : CleanIds store := stored.invariant CleanIds.empty
    (fun _ _ _ clean enabled => clean.next enabled.2) store
  have holds : SyncInvariant userId state := reached.invariant
    (syncInvariant_initial consistent clean sound)
    (fun _ _ _ holds enabled => holds.next enabled) state
  obtain ⟨executed, answers, owed, channel⟩ := quiet
  have unasked : state.client.sentLists - state.executed = 0 := by omega
  exact holds.fresh.shows_of_quiet ⟨unasked, answers, owed, channel⟩

/-- Bob is removed between the execution of his list and its delivery, so his
client stores the group and asks again. -/
def bobIsRemoved : List GroupSyncEvent :=
  [.executeList "r1",
    .operation (.removeMember { now := "2026-01-03T00:00:00.000Z" }
      ⟨"m3", "grp_1", "bob", "alice", .remove⟩) true,
    .sendAnswer,
    .sendNotice 0 { cmd := .groupMemberChanged, payload := [("groupId", .string "grp_1")] },
    .deliver, .deliver, .executeList "r2", .sendAnswer, .deliver]

def bobsGroups : GroupSyncState :=
  bobIsRemoved.foldl (groupSyncSystem "bob" aliceBobGroup {}).next
    (groupSyncSystem "bob" aliceBobGroup {}).initial

theorem groups_in_step_bob :
    aliceBobGroup.IsMember "grp_1" "bob" ∧
    (bobsGroups.client.db.HasGroup "grp_1" ↔ bobsGroups.store.IsMember "grp_1" "bob") := by
  have clean : ∀ text ∈ ["alice", "bob", "grp_1"], CleanText text := by
    intro text member
    constructor
    · rintro rfl
      revert member
      decide
    · revert text
      decide
  refine ⟨⟨⟨"grp_1", "bob", .member, "2026-01-01T00:00:00.000Z"⟩, by decide, rfl, rfl⟩, ?_⟩
  refine (groups_in_step "bob" aliceBobGroup {} ?_ ⟨rfl, ?_⟩ bobsGroups ?_ ?_).1 "grp_1"
  · exact System.Reachable.run aliceInvitesBob _ System.Reachable.initial
      ⟨⟨trivial, clean _ (by decide)⟩, ⟨trivial, clean _ (by decide)⟩,
        ⟨trivial, clean _ (by decide), clean _ (by decide)⟩, ⟨trivial, trivial⟩, trivial⟩
  · rintro ⟨row, stored, _⟩
    cases stored
  · exact System.Reachable.run bobIsRemoved _ System.Reachable.initial
      ⟨Nat.lt_succ_self 0, ⟨trivial, fun _ => rfl⟩, trivial, ⟨rfl, rfl⟩, trivial, trivial,
        Nat.lt_succ_self 1, trivial, trivial, trivial⟩
  · exact ⟨by decide, rfl, rfl, rfl⟩

end ShirohaChat
