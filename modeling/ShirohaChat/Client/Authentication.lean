import Mathlib.Logic.Function.Iterate
import ShirohaChat.Lib.FiniteMap
import ShirohaChat.Lib.RowTable
import ShirohaChat.Lib.Transition
import ShirohaChat.Shared.Packet
import ShirohaChat.Shared.QtText

/-!
# Connecting and authenticating

`NetworkService` and `AuthenticateUseCase` with the table `auth_state`.  A
signal runs its slots before the emitting function goes on, so the handlers are
functions that call each other.  `commands` is what the web socket was told, in
order.  A URL that `QUrl::fromUserInput` finds invalid is `none`.
-/

set_option autoImplicit false

namespace ShirohaChat

structure QUrl where
  scheme : String
  rest : String
  deriving DecidableEq, Repr

/-- `INetworkGateway::ConnectionState`. -/
inductive GatewayState where
  | disconnected
  | socketConnected
  | authenticating
  | ready
  | authFailed
  deriving DecidableEq, Repr

/-- `AuthenticateUseCase::ConnectionState`. -/
inductive ConnectionState where
  | disconnected
  | connecting
  | ready
  | authFailed
  deriving DecidableEq, Repr

def GatewayState.mapped : GatewayState → ConnectionState
  | .disconnected => .disconnected
  | .socketConnected => .connecting
  | .authenticating => .connecting
  | .ready => .ready
  | .authFailed => .authFailed

inductive AuthenticateError where
  | invalidCredentials
  | networkError
  | serverUnavailable
  deriving DecidableEq, Repr

inductive SocketCommand where
  | openUrl (url : QUrl)
  | close
  | sendTextMessage (packet : Packet)

inductive AuthSignal where
  | authenticated
  | authenticatedUserIdResolved (userId : String)
  | authenticationCleared
  | authError (error : AuthenticateError)
  | isAuthenticatedChanged
  | selfUserIdChanged
  | selfNicknameChanged
  | connectionStateChanged
  | connectionLost
  deriving DecidableEq, Repr

/-- `reconnectTimer` is the interval of the timer while it runs, in milliseconds. -/
structure NetworkService where
  serverUrl : QUrl := ⟨"", ""⟩
  connected : Bool := false
  connectionState : GatewayState := .disconnected
  userId : String := ""
  nickname : String := ""
  sessionToken : String := ""
  heartbeatRunning : Bool := false
  reconnectTimer : Option Nat := none
  reconnectEnabled : Bool := true
  shuttingDown : Bool := false
  reconnectAttempts : Nat := 0

structure AuthenticateUseCase where
  selfUserId : String := ""
  selfNickname : String := ""
  isAuthenticated : Bool := false
  usedCachedToken : Bool := false
  hasRetried : Bool := false
  lastServerUrl : QUrl := ⟨"", ""⟩
  lastNickname : String := ""
  connectionState : ConnectionState := .disconnected

structure AuthStateRow where
  userId : String
  sessionToken : String
  updatedAt : String
  deriving DecidableEq

abbrev AuthStateTable := RowTable AuthStateRow String AuthStateRow.userId

/-- `databases` are the files by path, `openPath` the one that is open, and
`retryHandlers` counts the handlers that `onAuthFailure` has connected to
`connectionStateChanged` and that are connected still. -/
structure AuthClient where
  network : NetworkService := {}
  auth : AuthenticateUseCase := {}
  databases : FiniteMap String AuthStateTable := ∅
  openPath : Option String := none
  retryHandlers : Nat := 0
  signals : List AuthSignal := []
  commands : List SocketCommand := []

/-- What the parts outside do while a handler runs: which statements succeed,
what the listeners of `authenticated` send, and whether `disconnected` is
reported before `open` or `close` returns. -/
structure AuthRun where
  stateSaved : Bool := true
  stateLoaded : Bool := true
  stateCleared : Bool := true
  now : String := ""
  refreshes : List Packet := []
  lostAtOnce : Bool := false
  closedAtOnce : Bool := false
  closedAtEnd : Bool := false
  /-- `localDatabasePathForUser` for the user, empty where it fails. -/
  databasePath : String := ""
  databaseOpened : Bool := true
  schemaEnsured : Bool := true
  msgId : String := ""

namespace AuthClient

def signal (client : AuthClient) (emitted : AuthSignal) : AuthClient :=
  { client with signals := client.signals ++ [emitted] }

def withNetwork (client : AuthClient) (network : NetworkService) : AuthClient :=
  { client with network := network }

def withAuth (client : AuthClient) (auth : AuthenticateUseCase) : AuthClient :=
  { client with auth := auth }

section Fields
variable (client : AuthClient) (network : NetworkService) (auth : AuthenticateUseCase)

@[simp] theorem network_withNetwork : (client.withNetwork network).network = network := rfl

@[simp] theorem retryHandlers_withNetwork :
    (client.withNetwork network).retryHandlers = client.retryHandlers := rfl

@[simp] theorem commands_withNetwork :
    (client.withNetwork network).commands = client.commands := rfl

@[simp] theorem auth_withAuth : (client.withAuth auth).auth = auth := rfl

end Fields

def command (client : AuthClient) (given : SocketCommand) : AuthClient :=
  { client with commands := client.commands ++ [given] }

def sendPackets (client : AuthClient) (packets : List Packet) : AuthClient :=
  if client.network.connected then
    { client with commands := client.commands ++ packets.map SocketCommand.sendTextMessage }
  else client

/-! ## The stored token -/

def authState (client : AuthClient) : AuthStateTable :=
  (client.openPath.bind fun path => client.databases.lookup path).getD RowTable.empty

def writeAuthState (client : AuthClient) (table : AuthStateTable) : AuthClient :=
  match client.openPath with
  | none => client
  | some path => { client with databases := client.databases.insert path table }

def saveAuthState (client : AuthClient) (run : AuthRun) (userId token : String) : AuthClient :=
  if run.stateSaved then
    let row : AuthStateRow := ⟨userId, token, run.now⟩
    client.writeAuthState (client.authState.upsert row
      (fun old => { row with userId := old.userId }) fun _ => rfl)
  else client

/-- The newest row, two empty texts when there is none. -/
def loadAuthState (client : AuthClient) (run : AuthRun) : String × String :=
  if run.stateLoaded then
    (((newestFirst AuthStateRow.updatedAt client.authState.rows).head?).map
      fun row => (row.userId, row.sessionToken)).getD ("", "")
  else ("", "")

def clearAuthState (client : AuthClient) (run : AuthRun) (userId : String) : AuthClient :=
  if run.stateCleared then
    client.writeAuthState (client.authState.deleteWhere fun row => row.userId = userId)
  else client

/-- `databaseRequired` with `DatabaseManager::open`.  A file stays open where no
other one is tried, and where its schema cannot be made. -/
def openDatabase (client : AuthClient) (run : AuthRun) : AuthClient × Bool :=
  if run.databasePath = "" then (client, false)
  else if client.openPath = some run.databasePath then (client, true)
  else if run.databaseOpened then
    ({ client with openPath := some run.databasePath }, run.schemaEnsured)
  else ({ client with openPath := none }, false)

/-! ## Signals and their slots -/

def onGatewayConnectionStateChanged (client : AuthClient) : AuthClient :=
  if client.auth.connectionState ≠ client.network.connectionState.mapped then
    (client.withAuth { client.auth with
      connectionState := client.network.connectionState.mapped }).signal .connectionStateChanged
  else client

def onAuthSuccess (client : AuthClient) (run : AuthRun) (userId token : String) : AuthClient :=
  let named := if trimmed userId ≠ "" then
    client.withAuth { client.auth with selfUserId := trimmed userId } else client
  let saved := (named.signal .selfUserIdChanged).saveAuthState run named.auth.selfUserId token
  let authenticated := saved.withAuth { saved.auth with isAuthenticated := true }
  ((((authenticated.signal .isAuthenticatedChanged).signal
    (.authenticatedUserIdResolved authenticated.auth.selfUserId)).signal
      .authenticated).sendPackets run.refreshes)

/-- In milliseconds. -/
def reconnectDelay (attempts : Nat) : Nat := 1000 * (1 <<< attempts)

def scheduleReconnect (client : AuthClient) : AuthClient :=
  if client.network.shuttingDown ∨ client.network.reconnectAttempts ≥ 5 then client
  else client.withNetwork { client.network with
    reconnectTimer := some (reconnectDelay client.network.reconnectAttempts) }

/-- The slot of `QWebSocket::disconnected`, with its way of setting the state. -/
def loseSocket (setState : GatewayState → AuthClient → AuthClient) (client : AuthClient) :
    AuthClient :=
  let shouldReconnect : Bool := ¬ client.network.shuttingDown ∧
    client.network.reconnectEnabled ∧ client.network.connectionState ≠ .authFailed
  let lost := setState .disconnected
    (client.withNetwork { client.network with connected := false })
  let told := (lost.withNetwork { lost.network with heartbeatRunning := false }).signal
    .connectionLost
  if shouldReconnect then told.scheduleReconnect else told

/-- `QWebSocket::open`. -/
def openSocket (setState : GatewayState → AuthClient → AuthClient) (run : AuthRun) (url : QUrl)
    (client : AuthClient) : AuthClient :=
  if run.lostAtOnce then loseSocket setState (client.command (.openUrl url))
  else client.command (.openUrl url)

/-- `NetworkService::connectToServer` with its way of setting the state. -/
def openConnection (setState : GatewayState → AuthClient → AuthClient) (run : AuthRun)
    (serverUrl : QUrl) (userId nickname sessionToken : String) (client : AuthClient) :
    AuthClient :=
  let named := client.withNetwork { client.network with
    serverUrl := serverUrl
    reconnectEnabled := true
    userId := userId
    nickname := nickname
    sessionToken := sessionToken }
  if serverUrl.scheme = "mock" then
    (setState .ready (named.withNetwork { named.network with connected := true })).onAuthSuccess
      run userId sessionToken
  else openSocket setState run serverUrl (setState .disconnected named)

/-- A change of state that no retry handler acts on. -/
def setQuietly (state : GatewayState) (client : AuthClient) : AuthClient :=
  if client.network.connectionState = state then client
  else (client.withNetwork { client.network with
    connectionState := state }).onGatewayConnectionStateChanged

def dropHandler (client : AuthClient) : AuthClient :=
  { client with retryHandlers := client.retryHandlers - 1 }

/-- The handler that `onAuthFailure` connects.  It acts once the service is
disconnected and is not connected itself any more then; from there the state can
only change to `ready`, which the other handlers ignore. -/
def retryHandler (run : AuthRun) (client : AuthClient) : AuthClient :=
  if client.network.connectionState = .disconnected then
    openConnection setQuietly run client.auth.lastServerUrl client.auth.selfUserId
      client.auth.lastNickname "" client.dropHandler
  else client

/-- The slots of `connectionStateChanged`, in the order of their connection. -/
def connectionStateChanged (run : AuthRun) (client : AuthClient) : AuthClient :=
  (retryHandler run)^[client.retryHandlers] client.onGatewayConnectionStateChanged

def setConnectionState (run : AuthRun) (state : GatewayState) (client : AuthClient) :
    AuthClient :=
  if client.network.connectionState = state then client
  else connectionStateChanged run
    (client.withNetwork { client.network with connectionState := state })

/-! ## `NetworkService` -/

/-- `NetworkService::connectToServer`. -/
def gatewayConnect (run : AuthRun) (serverUrl : QUrl) (userId nickname sessionToken : String)
    (client : AuthClient) : AuthClient :=
  openConnection (setConnectionState run) run serverUrl userId nickname sessionToken client

/-- The slot of `QWebSocket::disconnected`. -/
def onSocketDisconnected (run : AuthRun) (client : AuthClient) : AuthClient :=
  loseSocket (setConnectionState run) client

def closeSocket (run : AuthRun) (reported : Bool) (client : AuthClient) : AuthClient :=
  if reported then onSocketDisconnected run (client.command .close) else client.command .close

/-- `NetworkService::disconnectFromServer`. -/
def gatewayDisconnect (run : AuthRun) (client : AuthClient) : AuthClient :=
  closeSocket run run.closedAtOnce (setConnectionState run .disconnected
    (client.withNetwork { client.network with
      reconnectEnabled := false
      reconnectTimer := none
      reconnectAttempts := 0
      connected := false
      heartbeatRunning := false }))

def connectPacket (client : AuthClient) (run : AuthRun) : Packet :=
  { cmd := .connect
    msgId := run.msgId
    timestampUtc := run.now
    payload := [("userId", .string client.network.userId),
      ("nickname", .string client.network.nickname),
      ("token", .string client.network.sessionToken)] }

/-- The slot of `QWebSocket::connected`. -/
def onSocketConnected (run : AuthRun) (client : AuthClient) : AuthClient :=
  let counted := client.withNetwork { client.network with
    reconnectAttempts := 0
    reconnectTimer := none }
  let connected := setConnectionState run .socketConnected counted
  setConnectionState run .authenticating
    (connected.command (.sendTextMessage (connected.connectPacket run)))

def onAuthFailure (run : AuthRun) (code : Int32) (client : AuthClient) : AuthClient :=
  if code = 401 ∧ client.auth.usedCachedToken ∧ ¬ client.auth.hasRetried then
    let cleared := client.clearAuthState run client.auth.selfUserId
    let retrying := cleared.withAuth { cleared.auth with
      hasRetried := true
      usedCachedToken := false }
    gatewayDisconnect run { retrying with retryHandlers := retrying.retryHandlers + 1 }
  else
    let cleared := if code = 401 then client.clearAuthState run client.auth.selfUserId else client
    let failed := cleared.withAuth { cleared.auth with isAuthenticated := false }
    ((failed.signal .isAuthenticatedChanged).signal .authenticationCleared).signal
      (.authError (if code = 401 then .invalidCredentials else .networkError))

/-- The `ConnectAck` case of `handleIncomingPacket`. -/
def handleConnectAck (run : AuthRun) (packet : Packet) (client : AuthClient) : AuthClient :=
  if packet.code = 200 then
    let ready := setConnectionState run .ready
      (client.withNetwork { client.network with connected := true })
    let serverToken := jsonText (packet.payload.value "token")
    let serverUserId := jsonText (packet.payload.value "userId")
    let told := ready.withNetwork { ready.network with
      sessionToken := if serverToken ≠ "" then serverToken else ready.network.sessionToken
      userId := if serverUserId ≠ "" then serverUserId else ready.network.userId }
    let authenticated := told.onAuthSuccess run told.network.userId told.network.sessionToken
    authenticated.withNetwork { authenticated.network with heartbeatRunning := true }
  else
    closeSocket run run.closedAtEnd
      (onAuthFailure run packet.code (setConnectionState run .authFailed client))

/-- What `handleIncomingPacket` does to the connection.  The packets besides
`ConnectAck` reach other use cases. -/
def handleIncomingPacket {Text : Type} [JsonDocument Text] (run : AuthRun) (rawData : Text)
    (client : AuthClient) : AuthClient :=
  match decode rawData with
  | .error _ => client
  | .ok packet =>
      if packet.cmd = .connectAck then handleConnectAck run packet client
      else if packet.cmd = .receiveMessage ∧ packet.msgId ≠ "" then
        let ack : Packet := { cmd := .messageReceivedAck
                              msgId := packet.msgId
                              timestampUtc := run.now
                              code := 200 }
        client.sendPackets [ack]
      else client

/-! ## `AuthenticateUseCase` -/

def connectToServer (run : AuthRun) (url : Option QUrl) (userId nickname token : String)
    (client : AuthClient) : AuthClient :=
  match url with
  | none => client
  | some serverUrl =>
      let trimmedUserId := trimmed userId
      if trimmedUserId = "" then client
      else
        let named := client.withAuth { client.auth with selfUserId := trimmedUserId }
        match named.openDatabase run with
        | (opened, false) => opened.signal (.authError .serverUnavailable)
        | (opened, true) =>
            let (cachedUserId, cachedToken) := opened.loadAuthState run
            let effectiveToken :=
              if token = "" ∧ cachedUserId = trimmedUserId then cachedToken else token
            let effectiveNickname := if nickname = "" then trimmedUserId else nickname
            let chosen := opened.withAuth { opened.auth with
              lastServerUrl := serverUrl
              lastNickname := effectiveNickname
              selfNickname := effectiveNickname }
            let announced := if opened.auth.selfNickname ≠ effectiveNickname then
              chosen.signal .selfNicknameChanged else chosen
            let told := announced.signal .selfUserIdChanged
            gatewayConnect run serverUrl trimmedUserId effectiveNickname effectiveToken
              (told.withAuth { told.auth with
                usedCachedToken := effectiveToken ≠ "" ∧ token = ""
                hasRetried := false })

def logout (run : AuthRun) (client : AuthClient) : AuthClient :=
  let left := gatewayDisconnect run client
  let cleared := left.clearAuthState run left.auth.selfUserId
  let signedOut := (cleared.withAuth { cleared.auth with
    isAuthenticated := false }).signal .isAuthenticatedChanged
  let unnamed := if signedOut.auth.selfUserId ≠ "" then
    (signedOut.withAuth { signedOut.auth with selfUserId := "" }).signal .selfUserIdChanged
    else signedOut
  let anonymous := if unnamed.auth.selfNickname ≠ "" then
    (unnamed.withAuth { unnamed.auth with selfNickname := "" }).signal .selfNicknameChanged
    else unnamed
  anonymous.signal .authenticationCleared

def prepareForShutdown (client : AuthClient) : AuthClient :=
  if client.network.shuttingDown then client
  else client.withNetwork { client.network with
    shuttingDown := true
    reconnectEnabled := false
    connected := false
    connectionState := .disconnected
    reconnectAttempts := 0
    heartbeatRunning := false
    reconnectTimer := none }

end AuthClient

/-! ## Runs -/

inductive ConnectionEvent (Text : Type) where
  | connectToServer (run : AuthRun) (url : Option QUrl) (userId nickname token : String)
  | disconnectFromServer (run : AuthRun)
  | logout (run : AuthRun)
  | socketConnected (run : AuthRun)
  | socketDisconnected (run : AuthRun)
  | textMessageReceived (run : AuthRun) (rawData : Text)
  | heartbeatTimeout (run : AuthRun)
  | reconnectTimeout (run : AuthRun)
  /-- Another use case sends something. -/
  | send (packets : List Packet)
  | prepareForShutdown

namespace ConnectionEvent

variable {Text : Type} [JsonDocument Text]

def next (client : AuthClient) : ConnectionEvent Text → AuthClient
  | .connectToServer run url userId nickname token =>
      client.connectToServer run url userId nickname token
  | .disconnectFromServer run => client.gatewayDisconnect run
  | .logout run => client.logout run
  | .socketConnected run => client.onSocketConnected run
  | .socketDisconnected run => client.onSocketDisconnected run
  | .textMessageReceived run rawData => client.handleIncomingPacket run rawData
  | .heartbeatTimeout run =>
      client.sendPackets [{ cmd := .heartbeat, msgId := run.msgId, timestampUtc := run.now }]
  | .reconnectTimeout run =>
      let fired := client.withNetwork { client.network with reconnectTimer := none }
      if ¬ client.network.connected ∧ client.network.reconnectAttempts < 5 then
        -- The attempt is counted after a loss that `open` reports has been handled.
        let opened := AuthClient.openSocket (AuthClient.setConnectionState run) run
          client.network.serverUrl fired
        opened.withNetwork { opened.network with
          reconnectAttempts := opened.network.reconnectAttempts + 1 }
      else fired
  | .send packets => client.sendPackets packets
  | .prepareForShutdown => client.prepareForShutdown

/-- Nothing happens after the shutdown, and a timer fires only while it runs. -/
def enabled (client : AuthClient) (event : ConnectionEvent Text) : Prop :=
  client.network.shuttingDown = false ∧
    match event with
    | .heartbeatTimeout _ => client.network.heartbeatRunning = true
    | .reconnectTimeout _ => client.network.reconnectTimer.isSome = true
    | _ => True

end ConnectionEvent

def connectionSystem (Text : Type) [JsonDocument Text]
    (databases : FiniteMap String AuthStateTable) :
    Transition.System AuthClient (ConnectionEvent Text) where
  initial := { databases := databases }
  enabled := ConnectionEvent.enabled
  next := ConnectionEvent.next

end ShirohaChat
