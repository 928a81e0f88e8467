import ShirohaChat.Client.LocalStore
import ShirohaChat.Lib.FiniteMap
import ShirohaChat.Shared.Packet

/-!
# Keeping the local groups in step with the server

The group cases of `NetworkService::handleIncomingPacket` with the handlers of
`GroupManagementUseCase` and `SessionSyncUseCase`, in the order in which they
are connected.  Of the local database only constraints can fail here.
-/

set_option autoImplicit false

namespace ShirohaChat

structure GroupListEntryDto where
  groupId : String
  groupName : Option String
  creatorUserId : Option String
  memberUserIds : List String

structure PendingGroupCreate where
  groupName : String
  memberUserIds : List String

structure PendingMemberOp where
  groupId : String
  userId : String
  operation : String

structure GroupSyncClient where
  db : LocalDatabase := {}
  connected : Bool := true
  userId : String := ""
  pendingGroupCreates : FiniteMap String PendingGroupCreate := ∅
  pendingMemberOps : FiniteMap String PendingMemberOp := ∅
  groupSyncInProgress : Bool := false
  pendingRecoveryAfterGroupSync : Bool := false
  /-- The `group_list` packets written to the socket. -/
  sentLists : Nat := 0

/-! ## Sessions of groups -/

def resolveGroupDisplayName (db : LocalDatabase) (groupId fallback : String) : String :=
  if groupId = "" then trimmed fallback
  else
    let trimmedFallback := trimmed fallback
    if trimmedFallback ≠ "" ∧ trimmedFallback ≠ groupId then trimmedFallback
    else
      let storedName :=
        ((db.loadGroup true true groupId).map fun group =>
          trimmed (group.groupName.getD "")).getD ""
      if storedName ≠ "" ∧ storedName ≠ groupId then storedName
      else if trimmedFallback ≠ "" then trimmedFallback
      else groupId

/-- The session of a group is renamed, or created without an owner. -/
def saveGroupSession (db : LocalDatabase) (groupId displayName : String) : LocalDatabase :=
  match db.loadSession true true groupId with
  | some session => (db.saveSession 0 {} (session.updateMetadata displayName "")).1
  | none => (db.saveSession 0 {} ⟨groupId, .groupChat, "", displayName, "", 0⟩).1

def ensureGroupSession (db : LocalDatabase) (row : LocalGroupRow) : LocalDatabase :=
  if row.name = "" then db
  else
    match db.loadSession true true row.groupId with
    | some session =>
        if session.sessionName ≠ row.name then
          (db.saveSession 0 {} (session.updateMetadata row.name "")).1
        else db
    | none => (db.saveSession 0 {} ⟨row.groupId, .groupChat, "", row.name, "", 0⟩).1

def refreshSession (db : LocalDatabase) (row : SessionRow) : LocalDatabase :=
  match db.loadGroup true true row.sessionId with
  | none => db
  | some group =>
      let groupName := trimmed (group.groupName.getD "")
      if groupName ≠ "" ∧ (row.sessionType ≠ .groupChat ∨ groupName ≠ row.sessionName) then
        match db.loadSession true true row.sessionId with
        | some session => (db.saveSession 0 {} (session.updateMetadata groupName "")).1
        | none => db
      else db

/-- What `loadSessions` does to the tables; the list it shows is left out. -/
def loadSessions (db : LocalDatabase) : LocalDatabase :=
  let ensured := (db.listGroups true).foldl ensureGroupSession db
  ensured.view.sessions.rows.foldl refreshSession ensured

/-! ## The group list -/

def parseGroupList (packet : Packet) : List GroupListEntryDto :=
  (jsonArray (packet.payload.value "groups")).filterMap fun value =>
    let entry := jsonObject (some value)
    let groupId := trimmed (jsonText (entry.value "groupId"))
    if groupId = "" then none
    else some {
      groupId := groupId
      groupName := (jsonString (entry.value "groupName")).map trimmed
      creatorUserId := (jsonString (entry.value "creatorUserId")).map trimmed
      memberUserIds := (jsonArray (entry.value "memberUserIds")).map fun item =>
        trimmed (jsonText (some item)) }

namespace GroupListEntryDto

def creator (entry : GroupListEntryDto) : String := entry.creatorUserId.getD ""

def listedIds (entry : GroupListEntryDto) : List String :=
  if entry.memberUserIds = [] ∧ entry.creator ≠ "" then [entry.creator]
  else entry.memberUserIds

def members (entry : GroupListEntryDto) : List GroupMember :=
  entry.listedIds.filterMap fun userId =>
    if trimmed userId = "" then none
    else some ⟨trimmed userId, if trimmed userId = entry.creator then .creator else .member⟩

end GroupListEntryDto

def applyEntry (db : LocalDatabase) (entry : GroupListEntryDto) : LocalDatabase :=
  if entry.groupId = "" then db
  else
    let saved := (db.saveGroup 0 {}
      ⟨entry.groupId, entry.groupName, entry.creatorUserId, entry.members, false⟩).1
    saveGroupSession saved entry.groupId
      (resolveGroupDisplayName saved entry.groupId (entry.groupName.getD ""))

def clearStale (db : LocalDatabase) (groupId : String) : LocalDatabase :=
  ((db.removeGroup 0 {} groupId).1.removeSession 0 {} groupId).1

def applyGroupList (db : LocalDatabase) (groups : List GroupListEntryDto) : LocalDatabase :=
  let saved := groups.foldl applyEntry db
  let activeGroupIds := (groups.map GroupListEntryDto.groupId).filter fun groupId => groupId ≠ ""
  (saved.listGroups true).foldl
    (fun db stored => if stored.groupId ∈ activeGroupIds then db else clearStale db stored.groupId)
    saved

namespace GroupSyncClient

/-! ## Requests -/

def sendCreateGroup (client : GroupSyncClient) (msgId groupName : String)
    (memberUserIds : List String) : GroupSyncClient :=
  if ¬ client.connected ∨ trimmed groupName = "" then client
  else { client with pendingGroupCreates :=
    client.pendingGroupCreates.insert msgId ⟨trimmed groupName, memberUserIds⟩ }

/-- `sendAddMember`, `sendRemoveMember` and `sendLeaveGroup`; who leaves is the
user himself. -/
def sendMemberOp (client : GroupSyncClient) (msgId operation groupId userId : String) :
    GroupSyncClient :=
  let target := if operation = "leave" then client.userId else trimmed userId
  if ¬ client.connected ∨ trimmed groupId = "" ∨ (operation ≠ "leave" ∧ trimmed userId = "") then
    client
  else { client with pendingMemberOps :=
    client.pendingMemberOps.insert msgId ⟨trimmed groupId, target, operation⟩ }

def completeInitialSessionLoad (client : GroupSyncClient) : GroupSyncClient :=
  { client with db := loadSessions client.db, pendingRecoveryAfterGroupSync := false }

/-- A request that is made while one is in progress is dropped. -/
def syncGroupSessions (client : GroupSyncClient) : GroupSyncClient :=
  if client.groupSyncInProgress then client
  else if client.connected then
    { client with groupSyncInProgress := true, sentLists := client.sentLists + 1 }
  else client.completeInitialSessionLoad

def resetRuntimeState (client : GroupSyncClient) : GroupSyncClient :=
  { client with groupSyncInProgress := false, pendingRecoveryAfterGroupSync := false }

def initializeAfterAuthentication (client : GroupSyncClient) : GroupSyncClient :=
  let reset := client.resetRuntimeState
  syncGroupSessions { reset with
    db := loadSessions reset.db, pendingRecoveryAfterGroupSync := true }

/-! ## Handlers of the incoming signals -/

def onGroupListLoaded (client : GroupSyncClient) (groups : List GroupListEntryDto) :
    GroupSyncClient :=
  completeInitialSessionLoad { client with
    groupSyncInProgress := false, db := applyGroupList client.db groups }

def onGroupListLoadFailed (client : GroupSyncClient) : GroupSyncClient :=
  completeInitialSessionLoad { client with groupSyncInProgress := false }

/-- The handler of `GroupManagementUseCase`: the members are replaced. -/
def storeCreatedGroup (db : LocalDatabase) (success : Bool) (groupId : String)
    (groupName : Option String) (memberUserIds : List String) : LocalDatabase :=
  if ¬ success ∨ groupId = "" then db
  else
    let group := (db.loadGroup true true groupId).getD
      ⟨groupId, groupName, memberUserIds.head?, [], false⟩
    let members := memberUserIds.map fun userId =>
      (⟨userId, if group.creator ≠ "" ∧ userId = group.creator then .creator else .member⟩ :
        GroupMember)
    (db.saveGroup 0 {} { group with members := members }).1

def onCreateGroupResult (client : GroupSyncClient) (success : Bool) (groupId : String)
    (groupName : Option String) (memberUserIds : List String) : GroupSyncClient :=
  let stored := storeCreatedGroup client.db success groupId groupName memberUserIds
  if ¬ success then { client with db := stored }
  else
    let displayName := resolveGroupDisplayName stored groupId (groupName.getD "")
    let synced := syncGroupSessions
      { client with db := saveGroupSession stored groupId displayName }
    { synced with db := loadSessions synced.db }

/-- The handler of `GroupManagementUseCase`: the local member list is edited. -/
def applyMemberOp (db : LocalDatabase) (groupId operation : String) (success : Bool)
    (userId : String) : LocalDatabase :=
  if ¬ success ∨ groupId = "" then db
  else
    match db.loadGroup true true groupId with
    | none => db
    | some group =>
        let edited :=
          if operation = "add" ∧ userId ≠ "" then (group.addMember userId).1
          else if (operation = "remove" ∨ operation = "leave") ∧ userId ≠ "" then
            (group.removeMember group.creator userId).1
          else group
        if edited.isDissolved then (db.removeGroup 0 {} groupId).1
        else (db.saveGroup 0 {} edited).1

def onMemberOpResult (client : GroupSyncClient) (groupId operation : String) (success : Bool)
    (userId : String) : GroupSyncClient :=
  let applied :=
    { client with db := applyMemberOp client.db groupId operation success userId }
  if ¬ success ∨ groupId = "" then applied else applied.syncGroupSessions

def onGroupMemberChanged (client : GroupSyncClient) (groupId groupName : String) :
    GroupSyncClient :=
  if groupId = "" then client
  else
    let db :=
      if trimmed groupName = "" then client.db
      else
        match client.db.loadGroup true true groupId with
        | some group => (client.db.saveGroup 0 {} group).1
        | none => client.db
    syncGroupSessions { client with db := db }

/-! ## Packets -/

def handleCreateGroupAck (client : GroupSyncClient) (packet : Packet) : GroupSyncClient :=
  let groupId := jsonText (packet.payload.value "groupId")
  let groupName := (jsonString (packet.payload.value "groupName")).map trimmed
  let memberUserIds := (jsonArray (packet.payload.value "memberUserIds")).map fun value =>
    jsonText (some value)
  match client.pendingGroupCreates.lookup packet.msgId with
  | none => client.onCreateGroupResult (packet.code = 200) groupId groupName memberUserIds
  | some pending =>
      let named :=
        if groupName.getD "" = "" ∨ groupName.getD "" = groupId then some pending.groupName
        else groupName
      let members := if memberUserIds = [] then pending.memberUserIds else memberUserIds
      onCreateGroupResult { client with
        pendingGroupCreates := client.pendingGroupCreates.erase packet.msgId }
        (packet.code = 200) groupId named members

def handleMemberOpAck (client : GroupSyncClient) (operation : String) (packet : Packet) :
    GroupSyncClient :=
  let groupId := jsonText (packet.payload.value "groupId")
  match client.pendingMemberOps.lookup packet.msgId with
  | none => client.onMemberOpResult groupId operation (packet.code = 200) ""
  | some pending =>
      onMemberOpResult { client with
        pendingMemberOps := client.pendingMemberOps.erase packet.msgId }
        groupId operation (packet.code = 200) pending.userId

def handleIncomingPacket (client : GroupSyncClient) (packet : Packet) : GroupSyncClient :=
  match packet.cmd with
  | .createGroupAck => client.handleCreateGroupAck packet
  | .addMemberAck => client.handleMemberOpAck "add" packet
  | .removeMemberAck => client.handleMemberOpAck "remove" packet
  | .leaveGroupAck => client.handleMemberOpAck "leave" packet
  | .groupMemberChanged =>
      client.onGroupMemberChanged (jsonText (packet.payload.value "groupId"))
        (jsonText (packet.payload.value "groupName"))
  | .groupListAck =>
      if packet.code ≠ 200 then client.onGroupListLoadFailed
      else client.onGroupListLoaded (parseGroupList packet)
  | _ => client

end GroupSyncClient
end ShirohaChat
