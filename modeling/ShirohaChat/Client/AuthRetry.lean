import ShirohaChat.Client.Authentication

/-!
# The retry without a token

A refusal of a cached token clears it, and a handler opens the connection anew
while `disconnectFromServer` is still running.  What this function and the
handling of the packet do afterwards closes the socket again.
-/

set_option autoImplicit false

namespace ShirohaChat

open Transition

namespace AuthClient

/-! ## Steps that tell the socket nothing -/

structure Quiet (before after : AuthClient) : Prop where
  commands : after.commands = before.commands
  handlers : after.retryHandlers = before.retryHandlers
  token : after.network.sessionToken = before.network.sessionToken
  databases : after.databases = before.databases
  openPath : after.openPath = before.openPath

namespace Quiet

variable {first second third : AuthClient}

theorem refl (client : AuthClient) : Quiet client client := ⟨rfl, rfl, rfl, rfl, rfl⟩

theorem trans (one : Quiet first second) (two : Quiet second third) : Quiet first third :=
  ⟨two.commands.trans one.commands, two.handlers.trans one.handlers, two.token.trans one.token,
    two.databases.trans one.databases, two.openPath.trans one.openPath⟩

theorem signal (client : AuthClient) (emitted : AuthSignal) :
    Quiet client (client.signal emitted) := ⟨rfl, rfl, rfl, rfl, rfl⟩

theorem withNetwork (client : AuthClient) {network : NetworkService}
    (token : network.sessionToken = client.network.sessionToken) :
    Quiet client (client.withNetwork network) := ⟨rfl, rfl, token, rfl, rfl⟩

theorem authState (quiet : Quiet first second) : second.authState = first.authState := by
  unfold AuthClient.authState
  rw [quiet.openPath, quiet.databases]

end Quiet

section Steps
variable (client : AuthClient) (run : AuthRun)

theorem quiet_onGatewayConnectionStateChanged :
    Quiet client client.onGatewayConnectionStateChanged := by
  unfold onGatewayConnectionStateChanged
  split
  · exact ⟨rfl, rfl, rfl, rfl, rfl⟩
  · exact Quiet.refl client

theorem network_onGatewayConnectionStateChanged :
    client.onGatewayConnectionStateChanged.network = client.network := by
  unfold onGatewayConnectionStateChanged
  split <;> rfl

theorem auth_onGatewayConnectionStateChanged :
    ∃ state, client.onGatewayConnectionStateChanged.auth =
      { client.auth with connectionState := state } := by
  unfold onGatewayConnectionStateChanged
  split
  · exact ⟨_, rfl⟩
  · exact ⟨client.auth.connectionState, rfl⟩

theorem quiet_setQuietly (state : GatewayState) : Quiet client (setQuietly state client) := by
  unfold setQuietly
  split
  · exact Quiet.refl client
  · refine Quiet.trans ?_ (quiet_onGatewayConnectionStateChanged _)
    exact Quiet.withNetwork client rfl

theorem network_setQuietly (state : GatewayState) :
    (setQuietly state client).network = { client.network with connectionState := state } := by
  unfold setQuietly
  split
  · rename_i same
    rw [← same]
  · exact network_onGatewayConnectionStateChanged _

theorem auth_setQuietly (state : GatewayState) :
    ∃ shown, (setQuietly state client).auth = { client.auth with connectionState := shown } := by
  unfold setQuietly
  split
  · exact ⟨client.auth.connectionState, rfl⟩
  · exact auth_onGatewayConnectionStateChanged _

/-! ## The slots of `connectionStateChanged` -/

theorem retryHandler_connected (connected : client.network.connectionState ≠ .disconnected) :
    retryHandler run client = client :=
  if_neg connected

/-- Where no handler is left or the service is not disconnected, no handler acts. -/
theorem setConnectionState_eq_setQuietly (state : GatewayState)
    (idle : client.retryHandlers = 0 ∨ state ≠ .disconnected) :
    setConnectionState run state client = setQuietly state client := by
  unfold setConnectionState setQuietly
  split
  · rfl
  · unfold connectionStateChanged
    rcases idle with none | connected
    · rw [retryHandlers_withNetwork, none]
      rfl
    · apply Function.iterate_fixed
      apply retryHandler_connected
      rw [network_onGatewayConnectionStateChanged]
      exact connected

/-- Losing a socket is the same for all handlers where none is left or the
service is disconnected already. -/
theorem loseSocket_eq_quietly
    (idle : client.retryHandlers = 0 ∨ client.network.connectionState = .disconnected) :
    loseSocket (setConnectionState run) client = loseSocket setQuietly client := by
  have sameState : setConnectionState run .disconnected
      (client.withNetwork { client.network with connected := false }) =
      setQuietly .disconnected
        (client.withNetwork { client.network with connected := false }) := by
    rcases idle with none | disconnected
    · exact setConnectionState_eq_setQuietly _ run _ (Or.inl none)
    · unfold setConnectionState setQuietly
      rw [if_pos (by exact disconnected), if_pos (by exact disconnected)]
  unfold loseSocket
  simp only [sameState]

theorem openSocket_eq_quietly (url : QUrl)
    (idle : client.retryHandlers = 0 ∨ client.network.connectionState = .disconnected) :
    openSocket (setConnectionState run) run url client =
      openSocket setQuietly run url client := by
  unfold openSocket
  rw [loseSocket_eq_quietly (client.command (.openUrl url)) run idle]

/-- The handler connects as everybody does, though it changes the state quietly. -/
theorem retryHandler_eq :
    retryHandler run client =
      if client.network.connectionState = .disconnected then
        gatewayConnect run client.auth.lastServerUrl client.auth.selfUserId
          client.auth.lastNickname "" client.dropHandler
      else client := by
  unfold retryHandler gatewayConnect openConnection
  split
  · rename_i disconnected
    simp only
    split
    · rw [setConnectionState_eq_setQuietly _ _ _ (Or.inr (by decide))]
    · unfold setConnectionState setQuietly
      simp only [withNetwork, dropHandler, disconnected, if_true]
      exact (openSocket_eq_quietly _ run _ (Or.inr rfl)).symm
  · rfl

/-! ## What the calls command -/

theorem writeAuthState_eq (table : AuthStateTable) :
    ∃ databases, client.writeAuthState table = { client with databases := databases } := by
  unfold writeAuthState
  split
  · exact ⟨client.databases, rfl⟩
  · exact ⟨_, rfl⟩

theorem clearAuthState_eq (userId : String) :
    ∃ databases, client.clearAuthState run userId = { client with databases := databases } := by
  unfold clearAuthState
  split
  · exact client.writeAuthState_eq _
  · exact ⟨client.databases, rfl⟩

theorem saveAuthState_eq (userId token : String) :
    ∃ databases, client.saveAuthState run userId token =
      { client with databases := databases } := by
  unfold saveAuthState
  split
  · exact client.writeAuthState_eq _
  · exact ⟨client.databases, rfl⟩

theorem authState_writeAuthState (table : AuthStateTable) {path : String}
    (isOpen : client.openPath = some path) : (client.writeAuthState table).authState = table := by
  unfold writeAuthState authState
  rw [isOpen]
  simp [FiniteMap.lookup_insert]

theorem onAuthSuccess_eq (userId token : String) :
    ∃ auth databases signals, client.onAuthSuccess run userId token =
      sendPackets { client with auth := auth, databases := databases, signals := signals }
        run.refreshes := by
  unfold onAuthSuccess
  have named : ∃ auth, (if trimmed userId ≠ "" then
      client.withAuth { client.auth with selfUserId := trimmed userId } else client) =
      client.withAuth auth := by
    split
    · exact ⟨_, rfl⟩
    · exact ⟨client.auth, rfl⟩
  obtain ⟨auth, isNamed⟩ := named
  simp only [isNamed]
  obtain ⟨databases, saved⟩ := saveAuthState_eq
    ((client.withAuth auth).signal .selfUserIdChanged) run auth.selfUserId token
  simp only [auth_withAuth, saved]
  exact ⟨_, _, _, rfl⟩

theorem sendPackets_frame (packets : List Packet) :
    (client.sendPackets packets).retryHandlers = client.retryHandlers ∧
      (client.sendPackets packets).network = client.network := by
  unfold sendPackets
  split
  · exact ⟨rfl, rfl⟩
  · exact ⟨rfl, rfl⟩

theorem onAuthSuccess_frame (userId token : String) :
    (client.onAuthSuccess run userId token).retryHandlers = client.retryHandlers ∧
      (client.onAuthSuccess run userId token).network = client.network := by
  obtain ⟨auth, databases, signals, isAfter⟩ := client.onAuthSuccess_eq run userId token
  rw [isAfter]
  exact sendPackets_frame _ _

/-- What a successful authentication writes while the service is connected. -/
theorem commands_onAuthSuccess (userId token : String)
    (connected : client.network.connected = true) :
    (client.onAuthSuccess run userId token).commands =
      client.commands ++ run.refreshes.map SocketCommand.sendTextMessage := by
  obtain ⟨auth, databases, signals, isAfter⟩ := client.onAuthSuccess_eq run userId token
  rw [isAfter, sendPackets, if_pos]
  exact connected

theorem quiet_scheduleReconnect : Quiet client client.scheduleReconnect := by
  unfold scheduleReconnect
  split
  · exact Quiet.refl _
  · exact Quiet.withNetwork _ rfl

theorem quiet_loseSocket : Quiet client (loseSocket setQuietly client) := by
  unfold loseSocket
  simp only
  have lost : Quiet client (setQuietly .disconnected
      (client.withNetwork { client.network with connected := false })) := by
    refine Quiet.trans ?_ (quiet_setQuietly _ .disconnected)
    exact Quiet.withNetwork client rfl
  generalize setQuietly .disconnected
    (client.withNetwork { client.network with connected := false }) = after at lost
  have told : Quiet client ((after.withNetwork { after.network with
      heartbeatRunning := false }).signal .connectionLost) := by
    refine (lost.trans ?_).trans (Quiet.signal _ _)
    exact Quiet.withNetwork after rfl
  split
  · exact told.trans (quiet_scheduleReconnect _)
  · exact told

theorem quiet_openSocket (url : QUrl) :
    Quiet (client.command (.openUrl url)) (openSocket setQuietly run url client) := by
  unfold openSocket
  split
  · exact quiet_loseSocket _
  · exact Quiet.refl _

def openCommands (run : AuthRun) (serverUrl : QUrl) : List SocketCommand :=
  if serverUrl.scheme = "mock" then run.refreshes.map SocketCommand.sendTextMessage
  else [.openUrl serverUrl]

structure Opened (run : AuthRun) (serverUrl : QUrl) (token : String)
    (before after : AuthClient) : Prop where
  commands : after.commands = before.commands ++ openCommands run serverUrl
  handlers : after.retryHandlers = before.retryHandlers
  token : after.network.sessionToken = token
  stored : serverUrl.scheme ≠ "mock" → after.authState = before.authState

theorem opened_openConnection (serverUrl : QUrl) (userId nickname sessionToken : String) :
    Opened run serverUrl sessionToken client
      (openConnection setQuietly run serverUrl userId nickname sessionToken client) := by
  unfold openConnection
  simp only
  generalize namedDef : client.withNetwork { client.network with
    serverUrl := serverUrl
    reconnectEnabled := true
    userId := userId
    nickname := nickname
    sessionToken := sessionToken } = named
  have sameToken : named.network.sessionToken = sessionToken := by
    rw [← namedDef]
    rfl
  have same : named.commands = client.commands ∧ named.retryHandlers = client.retryHandlers ∧
      named.authState = client.authState := by
    rw [← namedDef]
    exact ⟨rfl, rfl, rfl⟩
  split
  · rename_i mock
    have quiet := quiet_setQuietly (named.withNetwork { named.network with connected := true })
      .ready
    have network := network_setQuietly (named.withNetwork { named.network with
      connected := true }) .ready
    generalize setQuietly .ready
      (named.withNetwork { named.network with connected := true }) = ready at quiet network
    have connected : ready.network.connected = true := by rw [network, network_withNetwork]
    obtain ⟨handlers, after⟩ := ready.onAuthSuccess_frame run userId sessionToken
    refine ⟨?_, ?_, ?_, fun notMock => absurd mock notMock⟩
    · rw [ready.commands_onAuthSuccess run _ _ connected, quiet.commands, commands_withNetwork,
        same.1, openCommands, if_pos mock]
    · rw [handlers, quiet.handlers, retryHandlers_withNetwork, same.2.1]
    · rw [after, network]
      exact sameToken
  · rename_i notMock
    have quiet := quiet_setQuietly named .disconnected
    have opened := quiet_openSocket (setQuietly .disconnected named) run serverUrl
    refine ⟨?_, ?_, ?_, fun _ => ?_⟩
    · rw [opened.commands, openCommands, if_neg notMock, ← same.1, ← quiet.commands]
      rfl
    · exact opened.handlers.trans (quiet.handlers.trans same.2.1)
    · exact opened.token.trans (quiet.token.trans sameToken)
    · exact opened.authState.trans (quiet.authState.trans same.2.2)

end Steps

section Idle
variable {client : AuthClient} (run : AuthRun)

/-- Without a retry handler a report of `disconnected` is quiet. -/
theorem quiet_onSocketDisconnected (idle : client.retryHandlers = 0) :
    Quiet client (onSocketDisconnected run client) := by
  unfold onSocketDisconnected
  rw [loseSocket_eq_quietly client run (Or.inl idle)]
  exact quiet_loseSocket client

theorem quiet_closeSocket (idle : client.retryHandlers = 0) (reported : Bool) :
    Quiet (client.command .close) (closeSocket run reported client) := by
  unfold closeSocket
  split
  · exact quiet_onSocketDisconnected run idle
  · exact Quiet.refl _

/-- With the retry handler connected, `disconnectFromServer` opens the
connection and closes it. -/
theorem gatewayDisconnect_retry (one : client.retryHandlers = 1)
    (connected : client.network.connectionState ≠ .disconnected) :
    (gatewayDisconnect run client).commands =
        client.commands ++ openCommands run client.auth.lastServerUrl ++ [.close] ∧
      (gatewayDisconnect run client).retryHandlers = 0 ∧
      (gatewayDisconnect run client).network.sessionToken = "" ∧
      (client.auth.lastServerUrl.scheme ≠ "mock" →
        (gatewayDisconnect run client).authState = client.authState) := by
  unfold gatewayDisconnect setConnectionState
  rw [if_neg (by exact connected)]
  unfold connectionStateChanged
  generalize startDef : (client.withNetwork _).withNetwork _ = start
  have started : Quiet client start := by
    rw [← startDef]
    exact (Quiet.withNetwork client rfl).trans (Quiet.withNetwork _ rfl)
  have disconnected : start.network.connectionState = .disconnected := by
    rw [← startDef]
    rfl
  have sameAuth : start.auth = client.auth := by
    rw [← startDef]
    rfl
  have shown := started.trans (quiet_onGatewayConnectionStateChanged start)
  obtain ⟨state, auth⟩ := start.auth_onGatewayConnectionStateChanged
  rw [started.handlers, one, Function.iterate_one, retryHandler,
    if_pos (by rw [network_onGatewayConnectionStateChanged, disconnected])]
  generalize start.onGatewayConnectionStateChanged = told at shown auth
  have url : told.auth.lastServerUrl = client.auth.lastServerUrl := by rw [auth, sameAuth]
  rw [url]
  have opened := opened_openConnection told.dropHandler run client.auth.lastServerUrl
    told.auth.selfUserId told.auth.lastNickname ""
  generalize openConnection setQuietly run client.auth.lastServerUrl told.auth.selfUserId
    told.auth.lastNickname "" told.dropHandler = after at opened
  have noHandler : after.retryHandlers = 0 := by
    rw [opened.handlers]
    show told.retryHandlers - 1 = 0
    rw [shown.handlers, one]
  have closed := quiet_closeSocket run noHandler run.closedAtOnce
  refine ⟨?_, closed.handlers.trans noHandler, closed.token.trans opened.token, ?_⟩
  · rw [closed.commands]
    show after.commands ++ _ = _
    rw [opened.commands]
    show told.commands ++ _ ++ _ = _
    rw [shown.commands]
  · intro notMock
    rw [closed.authState]
    exact (opened.stored notMock).trans shown.authState

/-! ## No handler is left between the events -/

theorem gatewayConnect_eq (idle : client.retryHandlers = 0) (serverUrl : QUrl)
    (userId nickname sessionToken : String) :
    gatewayConnect run serverUrl userId nickname sessionToken client =
      openConnection setQuietly run serverUrl userId nickname sessionToken client := by
  unfold gatewayConnect openConnection
  simp only
  generalize namedDef : client.withNetwork _ = named
  have namedIdle : named.retryHandlers = 0 := by
    rw [← namedDef]
    exact idle
  split
  · rw [setConnectionState_eq_setQuietly _ run _ (Or.inl (by exact namedIdle))]
  · rw [setConnectionState_eq_setQuietly named run _ (Or.inl namedIdle)]
    have handlers := (quiet_setQuietly named .disconnected).handlers
    exact openSocket_eq_quietly _ run serverUrl (Or.inl (handlers.trans namedIdle))

theorem gatewayConnect_idle (idle : client.retryHandlers = 0) (serverUrl : QUrl)
    (userId nickname sessionToken : String) :
    (gatewayConnect run serverUrl userId nickname sessionToken client).retryHandlers = 0 := by
  rw [gatewayConnect_eq run idle, (opened_openConnection client run serverUrl userId nickname
    sessionToken).handlers]
  exact idle

theorem setConnectionState_idle (idle : client.retryHandlers = 0) (state : GatewayState) :
    (setConnectionState run state client).retryHandlers = 0 := by
  rw [setConnectionState_eq_setQuietly client run state (Or.inl idle)]
  exact (quiet_setQuietly client state).handlers.trans idle

theorem closeSocket_idle (idle : client.retryHandlers = 0) (reported : Bool) :
    (closeSocket run reported client).retryHandlers = 0 :=
  (quiet_closeSocket run idle reported).handlers.trans idle

theorem gatewayDisconnect_idle (idle : client.retryHandlers = 0) :
    (gatewayDisconnect run client).retryHandlers = 0 := by
  apply closeSocket_idle
  apply setConnectionState_idle
  exact idle

theorem onSocketConnected_idle (idle : client.retryHandlers = 0) :
    (onSocketConnected run client).retryHandlers = 0 := by
  apply setConnectionState_idle
  refine setConnectionState_idle run ?_ .socketConnected
  exact idle

theorem retryHandlers_clearAuthState (userId : String) :
    (client.clearAuthState run userId).retryHandlers = client.retryHandlers := by
  obtain ⟨databases, cleared⟩ := client.clearAuthState_eq run userId
  rw [cleared]

theorem onAuthFailure_idle (idle : client.retryHandlers = 0)
    (connected : client.network.connectionState ≠ .disconnected) (code : Int32) :
    (onAuthFailure run code client).retryHandlers = 0 := by
  obtain ⟨databases, cleared⟩ := client.clearAuthState_eq run client.auth.selfUserId
  unfold onAuthFailure
  split
  · rw [cleared]
    refine (gatewayDisconnect_retry run ?_ ?_).2.1
    · show client.retryHandlers + 1 = 1
      rw [idle]
    · exact connected
  · split
    · rw [cleared]
      exact idle
    · exact idle

theorem handleConnectAck_idle (idle : client.retryHandlers = 0) (packet : Packet) :
    (handleConnectAck run packet client).retryHandlers = 0 := by
  unfold handleConnectAck
  split
  · simp only [retryHandlers_withNetwork]
    rw [(onAuthSuccess_frame _ run _ _).1]
    apply setConnectionState_idle
    exact idle
  · apply closeSocket_idle
    apply onAuthFailure_idle
    · exact setConnectionState_idle run idle .authFailed
    · rw [setConnectionState_eq_setQuietly client run _ (Or.inl idle), network_setQuietly]
      exact GatewayState.noConfusion

theorem handleIncomingPacket_idle {Text : Type} [JsonDocument Text]
    (idle : client.retryHandlers = 0) (rawData : Text) :
    (handleIncomingPacket run rawData client).retryHandlers = 0 := by
  unfold handleIncomingPacket
  split
  · exact idle
  · split
    · exact handleConnectAck_idle run idle _
    · split
      · exact (sendPackets_frame client _).1.trans idle
      · exact idle

theorem openDatabase_frame : (client.openDatabase run).1.retryHandlers = client.retryHandlers := by
  unfold openDatabase
  split
  · rfl
  · split
    · rfl
    · split <;> rfl

theorem retryHandlers_ite {test : Prop} [Decidable test] {left right : AuthClient}
    (leftIdle : left.retryHandlers = 0) (rightIdle : right.retryHandlers = 0) :
    (if test then left else right).retryHandlers = 0 := by
  split
  · exact leftIdle
  · exact rightIdle

theorem connectToServer_idle (idle : client.retryHandlers = 0) (url : Option QUrl)
    (userId nickname token : String) :
    (connectToServer run url userId nickname token client).retryHandlers = 0 := by
  unfold connectToServer
  cases url with
  | none => exact idle
  | some serverUrl =>
      simp only
      split
      · exact idle
      · have named : ((client.withAuth
            { client.auth with selfUserId := trimmed userId }).openDatabase run).1.retryHandlers =
            client.retryHandlers := openDatabase_frame run
        split
        · rename_i opened result
          rw [result] at named
          exact named.trans idle
        · rename_i opened result
          rw [result] at named
          apply gatewayConnect_idle
          exact retryHandlers_ite (named.trans idle) (named.trans idle)

theorem logout_idle (idle : client.retryHandlers = 0) :
    (logout run client).retryHandlers = 0 := by
  have left := gatewayDisconnect_idle run idle
  have cleared : ((gatewayDisconnect run client).clearAuthState run
      (gatewayDisconnect run client).auth.selfUserId).retryHandlers = 0 :=
    (retryHandlers_clearAuthState run _).trans left
  unfold logout
  simp only
  generalize (gatewayDisconnect run client).clearAuthState run
    (gatewayDisconnect run client).auth.selfUserId = after at cleared
  exact retryHandlers_ite (retryHandlers_ite cleared cleared) (retryHandlers_ite cleared cleared)

theorem next_idle {Text : Type} [JsonDocument Text] (idle : client.retryHandlers = 0)
    (event : ConnectionEvent Text) : (event.next client).retryHandlers = 0 := by
  cases event with
  | connectToServer run url userId nickname token =>
      exact connectToServer_idle run idle url userId nickname token
  | disconnectFromServer run => exact gatewayDisconnect_idle run idle
  | logout run => exact logout_idle run idle
  | socketConnected run => exact onSocketConnected_idle run idle
  | socketDisconnected run => exact (quiet_onSocketDisconnected run idle).handlers.trans idle
  | textMessageReceived run rawData => exact handleIncomingPacket_idle run idle rawData
  | heartbeatTimeout run => exact (sendPackets_frame client _).1.trans idle
  | reconnectTimeout run =>
      rw [ConnectionEvent.next]
      simp only
      split
      · simp only [retryHandlers_withNetwork]
        rw [openSocket_eq_quietly _ run _ (Or.inl (by exact idle))]
        exact (quiet_openSocket _ run _).handlers.trans idle
      · exact idle
  | send packets => exact (sendPackets_frame client packets).1.trans idle
  | prepareForShutdown =>
      rw [ConnectionEvent.next, prepareForShutdown]
      split
      · exact idle
      · exact idle

theorem retryHandlers_of_reachable {Text : Type} [JsonDocument Text]
    (databases : FiniteMap String AuthStateTable) : ∀ client,
    (connectionSystem Text databases).Reachable client → client.retryHandlers = 0 :=
  System.Reachable.invariant rfl fun _ event _ idle _ => next_idle idle event

end Idle

/-! ## The refusal of a cached token -/

theorem authState_clearAuthState (client : AuthClient) {run : AuthRun}
    (cleared : run.stateCleared = true) (userId : String) :
    ∀ row ∈ (client.clearAuthState run userId).authState.rows, row.userId ≠ userId := by
  intro row member
  unfold clearAuthState at member
  rw [if_pos cleared] at member
  cases isOpen : client.openPath with
  | none =>
      unfold writeAuthState authState at member
      rw [isOpen] at member
      simp only [isOpen] at member
      cases member
  | some path =>
      rw [client.authState_writeAuthState _ isOpen] at member
      exact of_decide_eq_false ((RowTable.mem_deleteWhere _ _ row).mp member).2

structure RetryCancelled (run : AuthRun) (before after : AuthClient) : Prop where
  commands : after.commands =
    before.commands ++ openCommands run before.auth.lastServerUrl ++ [.close, .close]
  tokenless : after.network.sessionToken = ""
  cleared : run.stateCleared = true → before.auth.lastServerUrl.scheme ≠ "mock" →
    ∀ row ∈ after.authState.rows, row.userId ≠ before.auth.selfUserId

theorem onAuthFailure_retry {client : AuthClient} (run : AuthRun)
    (idle : client.retryHandlers = 0) (connected : client.network.connectionState ≠ .disconnected)
    (cached : client.auth.usedCachedToken = true) (notRetried : client.auth.hasRetried = false) :
    (onAuthFailure run 401 client).commands =
        client.commands ++ openCommands run client.auth.lastServerUrl ++ [.close] ∧
      (onAuthFailure run 401 client).retryHandlers = 0 ∧
      (onAuthFailure run 401 client).network.sessionToken = "" ∧
      (client.auth.lastServerUrl.scheme ≠ "mock" →
        (onAuthFailure run 401 client).authState =
          (client.clearAuthState run client.auth.selfUserId).authState) := by
  obtain ⟨databases, cleared⟩ := client.clearAuthState_eq run client.auth.selfUserId
  unfold onAuthFailure
  rw [if_pos ⟨rfl, cached, by simp [notRetried]⟩, cleared]
  apply gatewayDisconnect_retry
  · show client.retryHandlers + 1 = 1
    rw [idle]
  · exact connected

theorem handleConnectAck_retry {client : AuthClient} (run : AuthRun)
    (idle : client.retryHandlers = 0) {packet : Packet} (refused : packet.code = 401)
    (cached : client.auth.usedCachedToken = true) (notRetried : client.auth.hasRetried = false) :
    RetryCancelled run client (handleConnectAck run packet client) := by
  unfold handleConnectAck
  rw [if_neg (by rw [refused]; decide), refused,
    setConnectionState_eq_setQuietly client run _ (Or.inl idle)]
  have failed := quiet_setQuietly client .authFailed
  have network := network_setQuietly client .authFailed
  obtain ⟨shown, auth⟩ := auth_setQuietly client .authFailed
  generalize setQuietly .authFailed client = after at failed network auth
  obtain ⟨commands, handlers, token, stored⟩ := onAuthFailure_retry run
    (failed.handlers.trans idle) (by rw [network]; exact GatewayState.noConfusion)
    (by rw [auth]; exact cached) (by rw [auth]; exact notRetried)
  have closed := quiet_closeSocket run handlers run.closedAtEnd
  have url : after.auth.lastServerUrl = client.auth.lastServerUrl := by rw [auth]
  have user : after.auth.selfUserId = client.auth.selfUserId := by rw [auth]
  refine ⟨?_, closed.token.trans token, ?_⟩
  · rw [closed.commands]
    show (onAuthFailure run 401 after).commands ++ _ = _
    rw [commands, failed.commands, url, List.append_assoc]
    rfl
  · intro isCleared notMock row member
    rw [closed.authState] at member
    change row ∈ (onAuthFailure run 401 after).authState.rows at member
    rw [stored (url ▸ notMock), user] at member
    exact authState_clearAuthState after isCleared client.auth.selfUserId row member

end AuthClient

structure RetriedWithoutToken (before after : AuthClient) : Prop where
  cleared : ∀ row ∈ after.authState.rows, row.userId ≠ before.auth.selfUserId
  reopened : after.commands.getLast? = some (.openUrl before.auth.lastServerUrl)
  tokenless : after.network.sessionToken = ""

/-- A refused cached token is retried without one, and the new connection is
closed before the packet is handled to its end. -/
theorem refusedToken_not_retried {Text : Type} [JsonDocument Text]
    (databases : FiniteMap String AuthStateTable) (client : AuthClient)
    (reached : (connectionSystem Text databases).Reachable client) (run : AuthRun) (rawData : Text)
    (packet : Packet) (decoded : decode rawData = .ok packet) (isAck : packet.cmd = .connectAck)
    (refused : packet.code = 401) (cached : client.auth.usedCachedToken = true)
    (notRetried : client.auth.hasRetried = false) :
    AuthClient.RetryCancelled run client (client.handleIncomingPacket run rawData) ∧
      ¬ RetriedWithoutToken client (client.handleIncomingPacket run rawData) := by
  have cancelled : AuthClient.RetryCancelled run client
      (client.handleIncomingPacket run rawData) := by
    unfold AuthClient.handleIncomingPacket
    rw [decoded]
    simp only [if_pos isAck]
    exact AuthClient.handleConnectAck_retry run
      (AuthClient.retryHandlers_of_reachable databases client reached) refused cached notRetried
  refine ⟨cancelled, ?_⟩
  intro retried
  have last := retried.reopened
  rw [cancelled.commands] at last
  simp at last

def aliceFiles : FiniteMap String AuthStateTable :=
  AList.insert "alice.db" ⟨[⟨"alice", "old-token", "2024-05-01T10:00:00Z"⟩], by decide⟩ ∅

def aliceRun : AuthRun := { databasePath := "alice.db" }

def aliceConnects : List (ConnectionEvent ParsedText) :=
  [.connectToServer aliceRun (some ⟨"ws", "//chat"⟩) "alice" "Alice" "",
    .socketConnected aliceRun]

def aliceConnecting : AuthClient :=
  aliceConnects.foldl ConnectionEvent.next { databases := aliceFiles }

def tokenRefused : Packet :=
  { cmd := .connectAck, msgId := "c1", code := 401, message := "Invalid token" }

theorem aliceConnecting_reachable :
    (connectionSystem ParsedText aliceFiles).Reachable aliceConnecting :=
  System.Reachable.run aliceConnects _ System.Reachable.initial
    ⟨⟨rfl, trivial⟩, ⟨by decide, trivial⟩, trivial⟩

theorem refusedToken_not_retried_alice :
    AuthClient.RetryCancelled aliceRun aliceConnecting
        (aliceConnecting.handleIncomingPacket aliceRun (tokenRefused.encode : ParsedText)) ∧
      ¬ RetriedWithoutToken aliceConnecting
        (aliceConnecting.handleIncomingPacket aliceRun (tokenRefused.encode : ParsedText)) :=
  refusedToken_not_retried aliceFiles aliceConnecting aliceConnecting_reachable aliceRun
    tokenRefused.encode tokenRefused (decode_encode tokenRefused) rfl rfl (by decide) (by decide)

/-- The retry after Alice's old token was refused ends with a close. -/
theorem refusedToken_closed :
    ¬ ∀ (databases : FiniteMap String AuthStateTable) (client : AuthClient),
      (connectionSystem ParsedText databases).Reachable client →
      ∀ (run : AuthRun) (rawData : ParsedText) (packet : Packet), decode rawData = .ok packet →
        packet.cmd = .connectAck → packet.code = 401 → client.auth.usedCachedToken = true →
        client.auth.hasRetried = false →
        RetriedWithoutToken client (client.handleIncomingPacket run rawData) := by
  intro always
  have retried := always aliceFiles aliceConnecting aliceConnecting_reachable aliceRun
    tokenRefused.encode tokenRefused (decode_encode tokenRefused) rfl rfl (by decide) (by decide)
  have ended : (aliceConnecting.handleIncomingPacket aliceRun
      (tokenRefused.encode : ParsedText)).commands.getLast? = some .close := rfl
  have reopened := retried.reopened
  rw [ended] at reopened
  cases reopened

end ShirohaChat
