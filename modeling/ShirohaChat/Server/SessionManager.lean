import ShirohaChat.Lib.FiniteMap
import ShirohaChat.Shared.Packet

/-!
# Client sessions, the session manager and the router

A `ClientSession` is kept by value in the connection map; the source's pointers
to one session all go through that map.  The map from users to connections and
the user id inside the session are separate copies, updated as in the source.
-/

set_option autoImplicit false

namespace ShirohaChat

/-- The web socket of an attached session.  `closing` lasts from `close()`, or
a loss of the transport, until `disconnected` is reported. -/
inductive SocketState where
  | connected
  | closing
  deriving DecidableEq, Repr

structure ClientSession where
  connectionId : String
  lastHeartbeatAt : Int
  userId : String := ""
  nickname : String := ""
  isAuthenticated : Bool := false
  socket : SocketState := .connected
  deriving DecidableEq, Repr

namespace ClientSession

def markAuthenticated (session : ClientSession) (userId nickname : String) : ClientSession :=
  { session with userId := userId, nickname := nickname, isAuthenticated := true }

def updateHeartbeat (session : ClientSession) (now : Int) : ClientSession :=
  { session with lastHeartbeatAt := now }

/-- `QWebSocket::isValid`. -/
def socketValid (session : ClientSession) : Bool := session.socket = .connected

def closeSocket (session : ClientSession) : ClientSession :=
  { session with socket := .closing }

end ClientSession

structure SocketWrite (Text : Type) where
  connectionId : String
  text : Text

def ClientSession.sendPacket {Text : Type} [JsonDocument Text] (session : ClientSession)
    (packet : Packet) : List (SocketWrite Text) :=
  if session.socketValid then [⟨session.connectionId, packet.encode⟩] else []

/-- An error goes out as an acknowledgement of the command `Unknown`. -/
def ClientSession.sendError {Text : Type} [JsonDocument Text] (session : ClientSession)
    (reqMsgId : String) (code : Int32) (errorMsg : String) : List (SocketWrite Text) :=
  session.sendPacket (Packet.makeAck .unknown reqMsgId code errorMsg [])

structure SessionManager where
  connections : FiniteMap String ClientSession
  userMap : FiniteMap String String

namespace SessionManager

def empty : SessionManager := ⟨∅, ∅⟩

def attach (manager : SessionManager) (session : ClientSession) : SessionManager :=
  { manager with connections := manager.connections.insert session.connectionId session }

/-- The second component is the user id `userDisconnected` carries. -/
def detach (manager : SessionManager) (connectionId : String) : SessionManager × String :=
  match manager.connections.lookup connectionId with
  | none => (manager, "")
  | some session =>
      let userMap :=
        if session.userId ≠ "" then manager.userMap.erase session.userId else manager.userMap
      (⟨manager.connections.erase connectionId, userMap⟩, session.userId)

def authenticate (manager : SessionManager) (connectionId userId nickname : String) :
    SessionManager × Bool :=
  match manager.connections.lookup connectionId with
  | none => (manager, false)
  | some session =>
      (⟨manager.connections.insert connectionId (session.markAuthenticated userId nickname),
        manager.userMap.insert userId connectionId⟩, true)

def findByConnectionId (manager : SessionManager) (connectionId : String) :
    Option ClientSession :=
  manager.connections.lookup connectionId

/-- `isEmpty` on the mapped id stands for "no entry" in the source. -/
def findByUserId (manager : SessionManager) (userId : String) : Option ClientSession :=
  let connectionId := (manager.userMap.lookup userId).getD ""
  if connectionId = "" then none else manager.connections.lookup connectionId

def updateSession (manager : SessionManager) (connectionId : String)
    (change : ClientSession → ClientSession) : SessionManager :=
  match manager.connections.lookup connectionId with
  | none => manager
  | some session =>
      { manager with connections := manager.connections.insert connectionId (change session) }

def touchHeartbeat (manager : SessionManager) (connectionId : String) (now : Int) :
    SessionManager :=
  manager.updateSession connectionId fun session => session.updateHeartbeat now

def staleConnections (manager : SessionManager) (now timeoutMs : Int) : List String :=
  (manager.connections.entries.filter fun entry =>
    now - entry.2.lastHeartbeatAt > timeoutMs).map Sigma.fst

/-- `Config::Server::HEARTBEAT_TIMEOUT_MS`. -/
def heartbeatTimeoutMs : Int := 90000

/-- `HeartbeatHandler::sweepTimeouts`: the sockets are asked to close, nothing
is detached yet. -/
def sweepTimeouts (manager : SessionManager) (now : Int) : SessionManager :=
  (manager.staleConnections now heartbeatTimeoutMs).foldl
    (fun manager connectionId => manager.updateSession connectionId ClientSession.closeSocket)
    manager

/-- The end of `AuthHandler::handleConnect`, once a user id has been established
for the packet of an attached connection. -/
def connectAccepted (manager : SessionManager) (connectionId userId nickname : String) :
    SessionManager :=
  let marked := manager.updateSession connectionId fun session =>
    session.markAuthenticated userId nickname
  (marked.authenticate connectionId userId nickname).1

/-! ## What each operation does to the two maps -/

theorem findByConnectionId_attach (manager : SessionManager) (session : ClientSession)
    (connectionId : String) :
    (manager.attach session).findByConnectionId connectionId =
      if connectionId = session.connectionId then some session
      else manager.findByConnectionId connectionId :=
  FiniteMap.lookup_insert _ _ _ _

theorem findByConnectionId_detach (manager : SessionManager) (connectionId other : String) :
    (manager.detach connectionId).1.findByConnectionId other =
      if other = connectionId then none else manager.findByConnectionId other := by
  unfold detach findByConnectionId
  split
  · rename_i missing
    by_cases same : other = connectionId
    · rw [if_pos same, same, missing]
    · rw [if_neg same]
  · exact FiniteMap.lookup_erase _ _ _

theorem userId_detach (manager : SessionManager) (connectionId : String) :
    (manager.detach connectionId).2 =
      match manager.findByConnectionId connectionId with
      | none => ""
      | some session => session.userId := by
  unfold detach findByConnectionId
  cases manager.connections.lookup connectionId <;> rfl

theorem userMap_detach (manager : SessionManager) (connectionId userId : String) :
    (manager.detach connectionId).1.userMap.lookup userId =
      if ∃ session, manager.findByConnectionId connectionId = some session ∧
          session.userId ≠ "" ∧ userId = session.userId then none
      else manager.userMap.lookup userId := by
  unfold detach findByConnectionId
  cases found : manager.connections.lookup connectionId with
  | none => simp
  | some session =>
      by_cases noUser : session.userId = ""
      · simp [noUser]
      · simp [noUser, FiniteMap.lookup_erase]

theorem findByConnectionId_updateSession (manager : SessionManager) (connectionId : String)
    (change : ClientSession → ClientSession) (other : String) :
    (manager.updateSession connectionId change).findByConnectionId other =
      if other = connectionId then (manager.findByConnectionId connectionId).map change
      else manager.findByConnectionId other := by
  unfold updateSession findByConnectionId
  split
  · rename_i missing
    by_cases same : other = connectionId
    · rw [if_pos same, same, missing]
      rfl
    · rw [if_neg same]
  · rename_i session found
    rw [FiniteMap.lookup_insert, found]
    rfl

@[simp] theorem userMap_updateSession (manager : SessionManager) (connectionId : String)
    (change : ClientSession → ClientSession) :
    (manager.updateSession connectionId change).userMap = manager.userMap := by
  unfold updateSession
  split <;> rfl

theorem findByConnectionId_authenticate (manager : SessionManager)
    (connectionId userId nickname other : String) :
    (manager.authenticate connectionId userId nickname).1.findByConnectionId other =
      if other = connectionId then
        (manager.findByConnectionId connectionId).map fun session =>
          session.markAuthenticated userId nickname
      else manager.findByConnectionId other := by
  unfold authenticate findByConnectionId
  cases found : manager.connections.lookup connectionId with
  | none =>
      by_cases same : other = connectionId
      · rw [if_pos same, same, found]
        rfl
      · rw [if_neg same]
  | some session => exact FiniteMap.lookup_insert _ _ _ _

theorem userMap_authenticate (manager : SessionManager)
    (connectionId userId nickname other : String) :
    (manager.authenticate connectionId userId nickname).1.userMap.lookup other =
      if manager.findByConnectionId connectionId ≠ none ∧ other = userId then
        some connectionId
      else manager.userMap.lookup other := by
  unfold authenticate findByConnectionId
  cases found : manager.connections.lookup connectionId with
  | none => simp
  | some session => simp [FiniteMap.lookup_insert]

theorem findByConnectionId_connectAccepted (manager : SessionManager)
    (connectionId userId nickname other : String) :
    (manager.connectAccepted connectionId userId nickname).findByConnectionId other =
      if other = connectionId then
        (manager.findByConnectionId connectionId).map fun session =>
          session.markAuthenticated userId nickname
      else manager.findByConnectionId other := by
  rw [connectAccepted, findByConnectionId_authenticate]
  by_cases same : other = connectionId
  · rw [if_pos same, if_pos same, findByConnectionId_updateSession, if_pos rfl,
      Option.map_map]
    rfl
  · rw [if_neg same, if_neg same, findByConnectionId_updateSession, if_neg same]

theorem userMap_connectAccepted (manager : SessionManager)
    (connectionId userId nickname other : String) :
    (manager.connectAccepted connectionId userId nickname).userMap.lookup other =
      if manager.findByConnectionId connectionId ≠ none ∧ other = userId then
        some connectionId
      else manager.userMap.lookup other := by
  rw [connectAccepted, userMap_authenticate, findByConnectionId_updateSession, if_pos rfl,
    userMap_updateSession]
  simp only [ne_eq, Option.map_eq_none_iff]

theorem findByConnectionId_closeAll (connectionIds : List String) :
    ∀ (manager : SessionManager) (connectionId : String),
      ∃ change : ClientSession → ClientSession,
        (change = id ∨ change = ClientSession.closeSocket) ∧
        (connectionIds.foldl (fun manager connectionId =>
          manager.updateSession connectionId ClientSession.closeSocket)
          manager).findByConnectionId connectionId =
            (manager.findByConnectionId connectionId).map change := by
  induction connectionIds with
  | nil =>
      intro manager connectionId
      exact ⟨id, Or.inl rfl, by simp⟩
  | cons closed rest ih =>
      intro manager connectionId
      obtain ⟨change, shape, after⟩ :=
        ih (manager.updateSession closed ClientSession.closeSocket) connectionId
      rw [findByConnectionId_updateSession] at after
      by_cases here : connectionId = closed
      · refine ⟨ClientSession.closeSocket, Or.inr rfl, ?_⟩
        rw [List.foldl_cons, after, if_pos here, here, Option.map_map]
        rcases shape with rfl | rfl <;> rfl
      · refine ⟨change, shape, ?_⟩
        rw [List.foldl_cons, after, if_neg here]

theorem userMap_closeAll (connectionIds : List String) :
    ∀ manager : SessionManager,
      (connectionIds.foldl (fun manager connectionId =>
        manager.updateSession connectionId ClientSession.closeSocket) manager).userMap =
        manager.userMap := by
  induction connectionIds with
  | nil => intro manager; rfl
  | cons closed rest ih =>
      intro manager
      rw [List.foldl_cons, ih, userMap_updateSession]

theorem findByUserId_eq_some (manager : SessionManager) (userId : String)
    (session : ClientSession) :
    manager.findByUserId userId = some session ↔
      ∃ connectionId, manager.userMap.lookup userId = some connectionId ∧
        connectionId ≠ "" ∧ manager.findByConnectionId connectionId = some session := by
  unfold findByUserId findByConnectionId
  cases mapped : manager.userMap.lookup userId with
  | none => simp
  | some connectionId =>
      by_cases blank : connectionId = "" <;> simp [blank]

end SessionManager

/-! ## The router -/

/-- `MessageRouter::routeToUser`: whether the user was found, and what went to
the wire.  The result does not depend on the state of the socket. -/
def routeToUser (Text : Type) [JsonDocument Text] (manager : SessionManager)
    (userId : String) (packet : Packet) : Bool × List (SocketWrite Text) :=
  match manager.findByUserId userId with
  | none => (false, [])
  | some session => (true, session.sendPacket packet)

end ShirohaChat
