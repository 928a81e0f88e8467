import ShirohaChat.Client.GroupSync
import ShirohaChat.Client.LocalSessions
import ShirohaChat.Client.ReceiveMessage
import ShirohaChat.Shared.SessionId

/-!
# The list of sessions

`SessionListModel` and what changes it or the stored sessions: the handlers of
`SessionListController`, `SwitchSessionUseCase` and `SessionSyncUseCase`, and
those parts of `FriendRequestUseCase` and `AuthenticateUseCase` that touch
sessions.  A transaction commits or is undone; which of the two is part of a
step's run, and no handler but that of a received message asks.
-/

set_option autoImplicit false

namespace ShirohaChat

/-! ## The model of the list -/

structure SessionItem where
  sessionId : String
  displayName : String
  unreadCount : Int := 0
  sessionType : SessionType
  deriving DecidableEq

def SessionItem.withName (session : SessionItem) : SessionItem :=
  if session.displayName = "" then { session with displayName := session.sessionId } else session

namespace SessionListModel

def refresh (sessions : List SessionItem) : List SessionItem :=
  sessions.map SessionItem.withName

/-- A listed session keeps its count and moves to the front. -/
def upsertSession (sessions : List SessionItem) (session : SessionItem)
    (incrementUnread : Bool) : List SessionItem :=
  if session.sessionId = "" then sessions
  else
    match sessions.find? fun item => item.sessionId = session.sessionId with
    | none =>
        { session.withName with
          unreadCount := if incrementUnread then 1 else session.unreadCount } :: sessions
    | some existing =>
        { session.withName with
          unreadCount := existing.unreadCount + if incrementUnread then 1 else 0 } ::
            sessions.eraseP fun item => item.sessionId = session.sessionId

def clearUnread (sessionId : String) : List SessionItem → List SessionItem
  | [] => []
  | item :: rest =>
      if sessionId = "" then item :: rest
      else if item.sessionId ≠ sessionId then item :: clearUnread sessionId rest
      else if item.unreadCount ≤ 0 then item :: rest
      else { item with unreadCount := 0 } :: rest

def displayNameForSession (sessions : List SessionItem) (sessionId : String) : String :=
  if sessionId = "" then ""
  else
    ((sessions.find? fun item => item.sessionId = sessionId).map
      SessionItem.displayName).getD ""

end SessionListModel

/-! ## The client -/

/-- Which transactions of one `loadSessions` commit: those of the groups whose
session is ensured, and those of the sessions that are brought up to date. -/
structure LoadSessionsRun where
  ensured : String → Bool := fun _ => true
  refreshed : String → Bool := fun _ => true

/-- Which transactions of one `applyGroupList` commit, by the position of the
entry and by the id of a stale group. -/
structure ApplyGroupListRun where
  groupSaved : Nat → Bool := fun _ => true
  sessionSaved : Nat → Bool := fun _ => true
  groupRemoved : String → Bool := fun _ => true
  sessionRemoved : String → Bool := fun _ => true

structure SwitchRun where
  synced : LoadSessionsRun := {}
  saved : Bool := true

structure SessionClient where
  db : LocalDatabase := {}
  /-- `m_selfUserId` of the receiving use case. -/
  selfUserId : String := ""
  isAuthenticated : Bool := false
  connected : Bool := false
  groupSyncInProgress : Bool := false
  pendingRecoveryAfterGroupSync : Bool := false
  /-- `m_sessions` of the list. -/
  sessions : List SessionItem := []
  currentSessionId : String := ""
  currentSessionType : SessionType := .privateChat
  currentSessionName : String := ""
  /-- `m_activeSessionId` of the receiving use case. -/
  activeSessionId : String := ""

namespace SessionClient

/-- `m_sessionRepo.save`, whose result nobody looks at. -/
def saveSession (db : LocalDatabase) (commits : Bool) (session : Session) : LocalDatabase :=
  (db.saveSession 0 { transaction := .ending commits } session).1

def renameSession (db : LocalDatabase) (commits : Bool) (new : Session) : LocalDatabase :=
  match db.loadSession true true new.sessionId with
  | some session =>
      saveSession db commits (session.updateMetadata new.sessionName new.peerUserId)
  | none => saveSession db commits new

/-! ## Loading the sessions -/

def ensureGroupSession (commits : Bool) (db : LocalDatabase) (row : LocalGroupRow) :
    LocalDatabase :=
  if row.name = "" then db
  else
    match db.loadSession true true row.groupId with
    | some session =>
        if session.sessionName ≠ row.name then
          saveSession db commits (session.updateMetadata row.name "")
        else db
    | none => saveSession db commits ⟨row.groupId, .groupChat, "", row.name, "", 0⟩

def refreshSession (commits : Bool) (db : LocalDatabase) (row : SessionRow) : LocalDatabase :=
  match db.loadGroup true true row.sessionId with
  | none => db
  | some group =>
      let groupName := trimmed (group.groupName.getD "")
      if groupName ≠ "" ∧ (row.sessionType ≠ .groupChat ∨ groupName ≠ row.sessionName) then
        match db.loadSession true true row.sessionId with
        | some session => saveSession db commits (session.updateMetadata groupName "")
        | none => db
      else db

/-- What `loadSessions` reports of a stored session, as the controller lists it. -/
def sessionItem (db : LocalDatabase) (row : SessionRow) : SessionItem :=
  let group := db.loadGroup true true row.sessionId
  let isGroup := row.sessionType = .groupChat ∨ group.isSome
  let groupName := (group.map fun group => trimmed (group.groupName.getD "")).getD ""
  let name := if isGroup ∧ groupName ≠ "" then groupName else row.sessionName
  let displayName :=
    if isGroup then resolveGroupDisplayName db row.sessionId name
    else if name = "" then row.sessionId else name
  { sessionId := row.sessionId
    displayName :=
      if isGroup ∧ (displayName = "" ∨ displayName = row.sessionId) then "群聊" else displayName
    unreadCount := row.unreadCount
    sessionType := if isGroup then .groupChat else row.sessionType }

/-- The summaries come in the order of the table here, not by time. -/
def loadSessions (run : LoadSessionsRun) (client : SessionClient) : SessionClient :=
  let ensured := (client.db.listGroups true).foldl
    (fun db row => ensureGroupSession (run.ensured row.groupId) db row) client.db
  let summaries := ensured.view.sessions.rows.filter fun row => row.sessionId ≠ ""
  { client with
    db := summaries.foldl
      (fun db row => refreshSession (run.refreshed row.sessionId) db row) ensured
    sessions := SessionListModel.refresh (summaries.map (sessionItem ensured)) }

def completeInitialSessionLoad (run : LoadSessionsRun) (client : SessionClient) :
    SessionClient :=
  { client.loadSessions run with pendingRecoveryAfterGroupSync := false }

/-- Without a connection the list cannot be asked for, and the sessions are loaded
as they are. -/
def syncGroupSessions (run : LoadSessionsRun) (client : SessionClient) : SessionClient :=
  if client.groupSyncInProgress then client
  else if client.connected then { client with groupSyncInProgress := true }
  else client.completeInitialSessionLoad run

def resetRuntimeState (client : SessionClient) : SessionClient :=
  { client with groupSyncInProgress := false, pendingRecoveryAfterGroupSync := false }

def initializeAfterAuthentication (loaded synced : LoadSessionsRun) (client : SessionClient) :
    SessionClient :=
  syncGroupSessions synced
    { client.resetRuntimeState.loadSessions loaded with pendingRecoveryAfterGroupSync := true }

/-! ## The current session -/

/-- `currentSessionIdChanged` reaches the receiving use case at once. -/
def setCurrentSessionId (client : SessionClient) (sessionId : String) : SessionClient :=
  { client with currentSessionId := sessionId, activeSessionId := sessionId }

def clearCurrentSession (client : SessionClient) : SessionClient :=
  { client.setCurrentSessionId "" with
    currentSessionType := .privateChat
    currentSessionName := "" }

def updateCurrentSessionInfo (client : SessionClient) (sessionId : String)
    (sessionType : SessionType) (displayName : String) : SessionClient :=
  if sessionId ≠ client.currentSessionId then client
  else
    { client with
      currentSessionType := sessionType
      currentSessionName :=
        if sessionType = .groupChat then
          let known := ((client.db.loadGroup true true sessionId).map fun group =>
            trimmed (group.groupName.getD "")).getD ""
          let named := if known = "" ∨ known = sessionId then trimmed displayName else known
          if named = "" ∨ named = sessionId then sessionId else named
        else displayName }

/-- The counts are cleared in the table and in the list; whether the first
succeeded is not looked at. -/
def switchToSession (run : SwitchRun) (client : SessionClient)
    (sessionId displayNameHint : String) : SessionClient :=
  if client.currentSessionId = sessionId then client
  else
    let current := client.setCurrentSessionId sessionId
    let session := current.db.loadSession true true sessionId
    let group := current.db.loadGroup true true sessionId
    let isGroup := (session.map Session.sessionType = some .groupChat) ∨ group.isSome
    let groupName := (group.map fun group => trimmed (group.groupName.getD "")).getD ""
    let synced :=
      if group.isSome ∧ groupName = "" then current.syncGroupSessions run.synced else current
    let hinted :=
      if groupName = "" ∨ groupName = sessionId then trimmed displayNameHint else groupName
    let named := { synced with
      currentSessionType := if isGroup then .groupChat else .privateChat
      currentSessionName :=
        if isGroup then (if hinted = "" ∨ hinted = sessionId then sessionId else hinted)
        else if displayNameHint = "" then sessionId else displayNameHint }
    let marked :=
      match session with
      | some session => { named with db := saveSession named.db run.saved session.markRead }
      | none => named
    { marked with sessions := SessionListModel.clearUnread sessionId marked.sessions }

def switchToSessionIfNone (run : SwitchRun) (client : SessionClient) (sessionId : String) :
    SessionClient :=
  if client.currentSessionId ≠ "" ∨ sessionId = "" then client
  else
    client.switchToSession run sessionId
      (SessionListModel.displayNameForSession client.sessions sessionId)

def startPrivateChat (sha256 : List Nat → String) (saved : Bool) (switched : SwitchRun)
    (loaded : LoadSessionsRun) (client : SessionClient) (userId nickname selfUserId : String) :
    SessionClient :=
  let sessionId := computePrivateSessionId sha256 selfUserId userId
  let displayName := if trimmed nickname = "" then userId else trimmed nickname
  let stored := { client with
    db := renameSession client.db saved
      ⟨sessionId, .privateChat, selfUserId, displayName, userId, 0⟩ }
  (stored.switchToSession switched sessionId displayName).loadSessions loaded

def deleteSession (removed : Bool) (loaded : LoadSessionsRun) (client : SessionClient)
    (sessionId : String) : SessionClient :=
  if sessionId = "" then client
  else
    let stored := { client with
      db := (client.db.removeSession 0 { transaction := .ending removed } sessionId).1 }
    let cleared :=
      if stored.currentSessionId = sessionId then stored.clearCurrentSession else stored
    cleared.loadSessions loaded

/-! ## Messages -/

def updateSessionPreview (client : SessionClient) (item : SessionItem)
    (incrementUnread : Bool) : SessionClient :=
  { client with
    sessions := SessionListModel.upsertSession client.sessions item incrementUnread }

def handleReceivedMessage (client : SessionClient) (signal : ReceivedSignal) : SessionClient :=
  (client.updateSessionPreview
    { sessionId := signal.sessionId
      displayName := signal.displayName
      sessionType := signal.sessionType } signal.incrementUnread).updateCurrentSessionInfo
    signal.sessionId signal.sessionType signal.displayName

def receiver (client : SessionClient) : ReceiveMessageUseCase :=
  { db := client.db
    selfUserId := client.selfUserId
    activeSessionId := client.activeSessionId
    connected := client.connected }

def onIncomingMessage (run : IncomingRun) (client : SessionClient)
    (incoming : IncomingMessage) : SessionClient :=
  let handled := client.receiver.onIncomingMessage run incoming
  handled.received.foldl handleReceivedMessage { client with db := handled.db }

/-! ## Friends and groups -/

/-- `friendChanged` with an accepted request: the session of the new friend. -/
def onFriendChanged (sha256 : List Nat → String) (saved : Bool) (loaded : LoadSessionsRun)
    (switched : SwitchRun) (client : SessionClient) (userId friendUserId changeType : String) :
    SessionClient :=
  let selfUserId := client.db.loadAuthUserId true
  if selfUserId ≠ "" ∧ userId ≠ selfUserId then client
  else if changeType ≠ "accepted" ∨ friendUserId = "" then client
  else
    let sessionId := computePrivateSessionId sha256 selfUserId friendUserId
    let stored := { client with
      db := renameSession client.db saved
        ⟨sessionId, .privateChat, selfUserId, friendUserId, friendUserId, 0⟩ }
    (stored.loadSessions loaded).switchToSessionIfNone switched sessionId

def applyEntry (groupSaved sessionSaved : Bool) (db : LocalDatabase)
    (entry : GroupListEntryDto) : LocalDatabase :=
  if entry.groupId = "" then db
  else
    let saved := (db.saveGroup 0 { transaction := .ending groupSaved }
      ⟨entry.groupId, entry.groupName, entry.creatorUserId, entry.members, false⟩).1
    renameSession saved sessionSaved ⟨entry.groupId, .groupChat, "",
      resolveGroupDisplayName saved entry.groupId (entry.groupName.getD ""), "", 0⟩

/-- The current session is left when it is the cleared group. -/
def clearStale (groupRemoved sessionRemoved : Bool) (client : SessionClient)
    (groupId : String) : SessionClient :=
  let cleared := { client with
    db := ((client.db.removeGroup 0 { transaction := .ending groupRemoved } groupId).1.removeSession
      0 { transaction := .ending sessionRemoved } groupId).1 }
  if cleared.currentSessionType = .groupChat ∧ groupId = cleared.currentSessionId then
    cleared.clearCurrentSession
  else cleared

def applyGroupList (run : ApplyGroupListRun) (client : SessionClient)
    (groups : List GroupListEntryDto) : SessionClient :=
  let saved := groups.zipIdx.foldl
    (fun db entry => applyEntry (run.groupSaved entry.2) (run.sessionSaved entry.2) db entry.1)
    client.db
  let activeGroupIds := (groups.map GroupListEntryDto.groupId).filter fun groupId => groupId ≠ ""
  let synced := (saved.listGroups true).foldl
    (fun client stored =>
      if stored.groupId ∈ activeGroupIds then client
      else clearStale (run.groupRemoved stored.groupId) (run.sessionRemoved stored.groupId)
        client stored.groupId)
    { client with db := saved }
  if synced.currentSessionType = .groupChat ∧ synced.currentSessionId ≠ "" then
    synced.updateCurrentSessionInfo synced.currentSessionId .groupChat synced.currentSessionName
  else synced

def onGroupListLoaded (run : ApplyGroupListRun) (loaded : LoadSessionsRun) (client : SessionClient)
    (groups : List GroupListEntryDto) : SessionClient :=
  (applyGroupList run { client with groupSyncInProgress := false }
    groups).completeInitialSessionLoad loaded

def onGroupListLoadFailed (loaded : LoadSessionsRun) (client : SessionClient) : SessionClient :=
  completeInitialSessionLoad loaded { client with groupSyncInProgress := false }

/-- The session of a group that was created; the group is stored before. -/
def onCreateGroupResult (saved : Bool) (synced loaded : LoadSessionsRun)
    (client : SessionClient) (success : Bool) (groupId : String) (groupName : Option String) :
    SessionClient :=
  if ¬ success then client
  else
    let displayName := resolveGroupDisplayName client.db groupId (groupName.getD "")
    let stored := { client with
      db := renameSession client.db saved ⟨groupId, .groupChat, "", displayName, "", 0⟩ }
    (stored.syncGroupSessions synced).loadSessions loaded

/-! ## Connection and authentication -/

def onConnectionStateChanged (client : SessionClient) (isReady : Bool) : SessionClient :=
  let changed := { client with connected := isReady }
  if isReady then changed else changed.resetRuntimeState

/-- `onAuthSuccess` with its listeners.  Whether `saveAuthState` succeeded is not
looked at; `newest` is the user of the newest row of `auth_state` afterwards. -/
def onAuthSuccess (newest : String) (loaded synced : LoadSessionsRun) (client : SessionClient)
    (userId : String) : SessionClient :=
  initializeAfterAuthentication loaded synced
    { client with
      db := client.db.write { client.db.view with authUserId := newest }
      isAuthenticated := true
      selfUserId := userId }

/-- `authenticationCleared` after a logout or a refusal, with the newest row that
`clearAuthState` leaves. -/
def onAuthCleared (newest : String) (client : SessionClient) : SessionClient :=
  { client.resetRuntimeState.clearCurrentSession with
    db := client.db.write { client.db.view with authUserId := newest }
    isAuthenticated := false
    sessions := [] }

end SessionClient
end ShirohaChat
