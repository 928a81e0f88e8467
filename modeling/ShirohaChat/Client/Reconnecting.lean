import ShirohaChat.Client.AuthRetry

/-!
# Reconnecting

How often the service opens a lost connection again by itself, and after which
delays; and that it does not once the user has left.  A loss that is reported
before `open` returns is scheduled for with the count before that attempt.
-/

set_option autoImplicit false

namespace ShirohaChat

open Transition

namespace AuthClient

structure Pace where
  attempts : Nat
  timer : Option Nat
  enabled : Bool
  shuttingDown : Bool

def pace (client : AuthClient) : Pace where
  attempts := client.network.reconnectAttempts
  timer := client.network.reconnectTimer
  enabled := client.network.reconnectEnabled
  shuttingDown := client.network.shuttingDown

def Pace.Arms (before after : Pace) : Prop :=
  after = before ∨ (before.enabled = true ∧ before.attempts < 5 ∧
    before.shuttingDown = false ∧
    after = { before with timer := some (reconnectDelay before.attempts) })

theorem Pace.Arms.disabled {before after : Pace} (arms : before.Arms after)
    (disabled : before.enabled = false) : after = before := by
  rcases arms with same | ⟨enabled, -⟩
  · exact same
  · exact absurd (enabled.symm.trans disabled) Bool.noConfusion

theorem Pace.Arms.trans {first second third : Pace} (one : first.Arms second)
    (two : second.Arms third) : first.Arms third := by
  rcases two with rfl | ⟨enabled, left, alive, rfl⟩
  · exact one
  · rcases one with rfl | ⟨enabled', left', alive', rfl⟩
    · exact Or.inr ⟨enabled, left, alive, rfl⟩
    · exact Or.inr ⟨enabled', left', alive', rfl⟩

def OpensNothing (before after : AuthClient) : Prop :=
  ∃ told, after.commands = before.commands ++ told ∧
    ∀ url, SocketCommand.openUrl url ∉ told

namespace OpensNothing

variable {first second third : AuthClient}

theorem of_quiet (quiet : Quiet first second) : OpensNothing first second :=
  ⟨[], by rw [quiet.commands, List.append_nil], fun _ => List.not_mem_nil⟩

theorem of_commands (same : second.commands = first.commands) : OpensNothing first second :=
  ⟨[], by rw [same, List.append_nil], fun _ => List.not_mem_nil⟩

theorem trans (one : OpensNothing first second) (two : OpensNothing second third) :
    OpensNothing first third := by
  obtain ⟨told, firstTold, firstNone⟩ := one
  obtain ⟨also, secondTold, secondNone⟩ := two
  refine ⟨told ++ also, by rw [secondTold, firstTold, List.append_assoc], ?_⟩
  intro url member
  rcases List.mem_append.mp member with member | member
  · exact firstNone url member
  · exact secondNone url member

theorem command (client : AuthClient) {given : SocketCommand}
    (other : ∀ url, given ≠ .openUrl url) : OpensNothing client (client.command given) := by
  refine ⟨[given], rfl, ?_⟩
  intro url member
  exact other url (List.mem_singleton.mp member).symm

theorem sendPackets (client : AuthClient) (packets : List Packet) :
    OpensNothing client (client.sendPackets packets) := by
  unfold AuthClient.sendPackets
  split
  · refine ⟨_, rfl, ?_⟩
    intro url member
    obtain ⟨packet, -, same⟩ := List.mem_map.mp member
    cases same
  · exact of_commands rfl

end OpensNothing

section Steps
variable (client : AuthClient) (run : AuthRun)

theorem pace_setQuietly (state : GatewayState) :
    (setQuietly state client).pace = client.pace := by
  unfold pace
  rw [network_setQuietly]

theorem pace_onAuthSuccess (userId token : String) :
    (client.onAuthSuccess run userId token).pace = client.pace := by
  unfold pace
  rw [(onAuthSuccess_frame client run userId token).2]

theorem opensNothing_onAuthSuccess (userId token : String) :
    OpensNothing client (client.onAuthSuccess run userId token) := by
  obtain ⟨auth, databases, signals, isAfter⟩ := client.onAuthSuccess_eq run userId token
  rw [isAfter]
  refine OpensNothing.trans ?_ (OpensNothing.sendPackets _ _)
  exact OpensNothing.of_commands rfl

theorem pace_sendPackets (packets : List Packet) :
    (client.sendPackets packets).pace = client.pace := by
  unfold pace
  rw [(sendPackets_frame client packets).2]

theorem pace_clearAuthState (userId : String) :
    (client.clearAuthState run userId).pace = client.pace := by
  obtain ⟨databases, cleared⟩ := client.clearAuthState_eq run userId
  rw [cleared]
  rfl

theorem pace_scheduleReconnect (enabled : client.network.reconnectEnabled = true) :
    client.pace.Arms client.scheduleReconnect.pace := by
  unfold scheduleReconnect
  split
  · exact Or.inl rfl
  · rename_i allowed
    rw [not_or] at allowed
    exact Or.inr ⟨enabled, not_le.mp allowed.2, Bool.eq_false_iff.mpr allowed.1, rfl⟩

theorem pace_loseSocket : client.pace.Arms (loseSocket setQuietly client).pace := by
  unfold loseSocket
  simp only
  have lost : (setQuietly .disconnected
      (client.withNetwork { client.network with connected := false })).pace = client.pace :=
    pace_setQuietly _ _
  generalize setQuietly .disconnected
    (client.withNetwork { client.network with connected := false }) = after at lost
  split
  · rename_i shouldReconnect
    have enabled : after.network.reconnectEnabled = true := by
      have same : after.network.reconnectEnabled = client.network.reconnectEnabled :=
        congrArg Pace.enabled lost
      rw [same]
      exact (of_decide_eq_true shouldReconnect).2.1
    rw [← lost]
    exact pace_scheduleReconnect ((after.withNetwork { after.network with
      heartbeatRunning := false }).signal .connectionLost) enabled
  · exact Or.inl lost

theorem pace_openSocket (url : QUrl) :
    client.pace.Arms (openSocket setQuietly run url client).pace ∧
      (run.lostAtOnce = false → (openSocket setQuietly run url client).pace = client.pace) := by
  unfold openSocket
  split
  · rename_i lost
    refine ⟨pace_loseSocket (client.command (.openUrl url)), ?_⟩
    exact fun kept => absurd (lost.symm.trans kept) Bool.noConfusion
  · exact ⟨Or.inl rfl, fun _ => rfl⟩

theorem pace_openConnection (serverUrl : QUrl) (userId nickname sessionToken : String) :
    Pace.Arms { client.pace with enabled := true }
      (openConnection setQuietly run serverUrl userId nickname sessionToken client).pace := by
  unfold openConnection
  simp only
  split
  · left
    rw [pace_onAuthSuccess, pace_setQuietly]
    rfl
  · have arms := (pace_openSocket (setQuietly .disconnected (client.withNetwork
      { client.network with
        serverUrl := serverUrl
        reconnectEnabled := true
        userId := userId
        nickname := nickname
        sessionToken := sessionToken })) run serverUrl).1
    rw [pace_setQuietly] at arms
    exact arms

end Steps

section Idle
variable {client : AuthClient} (run : AuthRun)

theorem pace_onSocketDisconnected (idle : client.retryHandlers = 0) :
    client.pace.Arms (onSocketDisconnected run client).pace := by
  unfold onSocketDisconnected
  rw [loseSocket_eq_quietly client run (Or.inl idle)]
  exact pace_loseSocket client

theorem pace_closeSocket (idle : client.retryHandlers = 0) (reported : Bool) :
    client.pace.Arms (closeSocket run reported client).pace := by
  unfold closeSocket
  split
  · have closed : (client.command .close).retryHandlers = 0 := idle
    exact pace_onSocketDisconnected run closed
  · exact Or.inl rfl

theorem opensNothing_closeSocket (idle : client.retryHandlers = 0) (reported : Bool) :
    OpensNothing client (closeSocket run reported client) :=
  (OpensNothing.command client fun _ => SocketCommand.noConfusion).trans
    (OpensNothing.of_quiet (quiet_closeSocket run idle reported))

theorem pace_gatewayDisconnect (idle : client.retryHandlers = 0) :
    (gatewayDisconnect run client).pace = ⟨0, none, false, client.network.shuttingDown⟩ := by
  unfold gatewayDisconnect
  generalize startDef : client.withNetwork _ = start
  have startIdle : start.retryHandlers = 0 := by
    rw [← startDef]
    exact idle
  have startPace : start.pace = ⟨0, none, false, client.network.shuttingDown⟩ := by
    rw [← startDef]
    rfl
  rw [setConnectionState_eq_setQuietly start run _ (Or.inl startIdle)]
  have quietIdle : (setQuietly .disconnected start).retryHandlers = 0 :=
    (quiet_setQuietly start _).handlers.trans startIdle
  have quietPace := (pace_setQuietly start .disconnected).trans startPace
  rw [(pace_closeSocket run quietIdle run.closedAtOnce).disabled
    (by rw [quietPace]), quietPace]

theorem opensNothing_gatewayDisconnect (idle : client.retryHandlers = 0) :
    OpensNothing client (gatewayDisconnect run client) := by
  unfold gatewayDisconnect
  generalize startDef : client.withNetwork _ = start
  have startIdle : start.retryHandlers = 0 := by
    rw [← startDef]
    exact idle
  have started : OpensNothing client start := by
    rw [← startDef]
    exact OpensNothing.of_commands rfl
  rw [setConnectionState_eq_setQuietly start run _ (Or.inl startIdle)]
  have quiet := quiet_setQuietly start .disconnected
  exact (started.trans (OpensNothing.of_quiet quiet)).trans
    (opensNothing_closeSocket run (quiet.handlers.trans startIdle) _)

/-- With the retry handler connected, leaving opens the connection again, with
no attempt counted. -/
theorem pace_gatewayDisconnect_retry (one : client.retryHandlers = 1)
    (connected : client.network.connectionState ≠ .disconnected) :
    Pace.Arms ⟨0, none, true, client.network.shuttingDown⟩
      (gatewayDisconnect run client).pace := by
  unfold gatewayDisconnect setConnectionState
  rw [if_neg (by exact connected)]
  unfold connectionStateChanged
  generalize startDef : (client.withNetwork _).withNetwork _ = start
  have startPace : start.pace = ⟨0, none, false, client.network.shuttingDown⟩ := by
    rw [← startDef]
    rfl
  have disconnected : start.network.connectionState = .disconnected := by
    rw [← startDef]
    rfl
  have handlers : start.retryHandlers = 1 := by
    rw [← startDef]
    exact one
  have shown := quiet_onGatewayConnectionStateChanged start
  have network := network_onGatewayConnectionStateChanged start
  rw [handlers, Function.iterate_one, retryHandler, if_pos (by rw [network, disconnected])]
  generalize start.onGatewayConnectionStateChanged = told at shown network
  have toldPace : told.dropHandler.pace = start.pace := by
    unfold pace
    rw [show told.dropHandler.network = told.network from rfl, network]
  have opened := opened_openConnection told.dropHandler run told.auth.lastServerUrl
    told.auth.selfUserId told.auth.lastNickname ""
  have openedPace := pace_openConnection told.dropHandler run told.auth.lastServerUrl
    told.auth.selfUserId told.auth.lastNickname ""
  generalize openConnection setQuietly run told.auth.lastServerUrl told.auth.selfUserId
    told.auth.lastNickname "" told.dropHandler = after at opened openedPace
  have noHandler : after.retryHandlers = 0 := by
    rw [opened.handlers]
    show told.retryHandlers - 1 = 0
    rw [shown.handlers, handlers]
  rw [toldPace, startPace] at openedPace
  exact openedPace.trans (pace_closeSocket run noHandler run.closedAtOnce)

/-! ## The events -/

def refusesCached (client : AuthClient) (packet : Packet) : Bool :=
  packet.cmd = .connectAck ∧ packet.code = 401 ∧ client.auth.usedCachedToken ∧
    ¬ client.auth.hasRetried

theorem pace_onSocketConnected (idle : client.retryHandlers = 0) :
    (onSocketConnected run client).pace =
      { client.pace with attempts := 0, timer := none } := by
  unfold onSocketConnected
  simp only
  generalize countedDef : client.withNetwork _ = counted
  have countedIdle : counted.retryHandlers = 0 := by
    rw [← countedDef]
    exact idle
  have countedPace : counted.pace = { client.pace with attempts := 0, timer := none } := by
    rw [← countedDef]
    rfl
  rw [setConnectionState_eq_setQuietly counted run _ (Or.inl countedIdle)]
  have shownIdle := (quiet_setQuietly counted .socketConnected).handlers.trans countedIdle
  have shownPace := (pace_setQuietly counted .socketConnected).trans countedPace
  generalize setQuietly .socketConnected counted = shown at shownIdle shownPace
  rw [setConnectionState_eq_setQuietly _ run _ (Or.inl (by exact shownIdle)), pace_setQuietly]
  exact shownPace

theorem opensNothing_onSocketConnected (idle : client.retryHandlers = 0) :
    OpensNothing client (onSocketConnected run client) := by
  unfold onSocketConnected
  simp only
  generalize countedDef : client.withNetwork _ = counted
  have countedIdle : counted.retryHandlers = 0 := by
    rw [← countedDef]
    exact idle
  have started : OpensNothing client counted := by
    rw [← countedDef]
    exact OpensNothing.of_commands rfl
  rw [setConnectionState_eq_setQuietly counted run _ (Or.inl countedIdle)]
  have quiet := quiet_setQuietly counted .socketConnected
  generalize setQuietly .socketConnected counted = shown at quiet
  have sent : OpensNothing shown
      (shown.command (.sendTextMessage (shown.connectPacket run))) :=
    OpensNothing.command shown fun _ => SocketCommand.noConfusion
  rw [setConnectionState_eq_setQuietly _ run _
    (Or.inl (by exact quiet.handlers.trans countedIdle))]
  exact ((started.trans (OpensNothing.of_quiet quiet)).trans sent).trans
    (OpensNothing.of_quiet (quiet_setQuietly _ _))

theorem onAuthFailure_final {code : Int32} (final : ¬ (code = 401 ∧
      client.auth.usedCachedToken = true ∧ ¬ client.auth.hasRetried = true)) :
    (onAuthFailure run code client).pace = client.pace ∧
      (onAuthFailure run code client).retryHandlers = client.retryHandlers ∧
      OpensNothing client (onAuthFailure run code client) := by
  obtain ⟨databases, cleared⟩ := client.clearAuthState_eq run client.auth.selfUserId
  unfold onAuthFailure
  rw [if_neg final]
  simp only
  split
  · rw [cleared]
    exact ⟨rfl, rfl, OpensNothing.of_commands rfl⟩
  · exact ⟨rfl, rfl, OpensNothing.of_commands rfl⟩

/-- An acknowledgement other than the refusal that is retried. -/
theorem handleConnectAck_final (idle : client.retryHandlers = 0) {packet : Packet}
    (final : ¬ (packet.code = 401 ∧ client.auth.usedCachedToken = true ∧
      ¬ client.auth.hasRetried = true)) :
    client.pace.Arms (handleConnectAck run packet client).pace ∧
      OpensNothing client (handleConnectAck run packet client) := by
  unfold handleConnectAck
  split
  · simp only
    generalize connectedDef : client.withNetwork _ = connected
    have connectedIdle : connected.retryHandlers = 0 := by
      rw [← connectedDef]
      exact idle
    have connectedPace : connected.pace = client.pace := by
      rw [← connectedDef]
      rfl
    have started : OpensNothing client connected := by
      rw [← connectedDef]
      exact OpensNothing.of_commands rfl
    rw [setConnectionState_eq_setQuietly connected run _ (Or.inl connectedIdle)]
    have readyPace := (pace_setQuietly connected .ready).trans connectedPace
    have ready := started.trans (OpensNothing.of_quiet (quiet_setQuietly connected .ready))
    generalize setQuietly .ready connected = shown at readyPace ready
    generalize toldDef : shown.withNetwork _ = told
    have toldPace : told.pace = client.pace := by
      rw [← readyPace, ← toldDef]
      rfl
    have toldNothing : OpensNothing client told := by
      refine ready.trans ?_
      rw [← toldDef]
      exact OpensNothing.of_commands rfl
    have pace := pace_onAuthSuccess told run told.network.userId told.network.sessionToken
    have nothing := opensNothing_onAuthSuccess told run told.network.userId
      told.network.sessionToken
    generalize told.onAuthSuccess run told.network.userId told.network.sessionToken =
      authenticated at pace nothing
    refine ⟨Or.inl ?_, (toldNothing.trans nothing).trans (OpensNothing.of_commands rfl)⟩
    rw [← toldPace, ← pace]
    rfl
  · rw [setConnectionState_eq_setQuietly client run _ (Or.inl idle)]
    have quiet := quiet_setQuietly client .authFailed
    have shownPace := pace_setQuietly client .authFailed
    obtain ⟨state, auth⟩ := auth_setQuietly client .authFailed
    generalize setQuietly .authFailed client = shown at quiet shownPace auth
    have shownFinal : ¬ (packet.code = 401 ∧ shown.auth.usedCachedToken = true ∧
        ¬ shown.auth.hasRetried = true) := by
      rw [auth]
      exact final
    obtain ⟨failedPace, failedHandlers, failedNothing⟩ := onAuthFailure_final run shownFinal
    have failedIdle := failedHandlers.trans (quiet.handlers.trans idle)
    refine ⟨?_, ?_⟩
    · have arms := pace_closeSocket run failedIdle run.closedAtEnd
      rwa [failedPace, shownPace] at arms
    · exact ((OpensNothing.of_quiet quiet).trans failedNothing).trans
        (opensNothing_closeSocket run failedIdle run.closedAtEnd)

theorem pace_handleConnectAck_retry (idle : client.retryHandlers = 0) {packet : Packet}
    (refused : packet.code = 401) (cached : client.auth.usedCachedToken = true)
    (notRetried : client.auth.hasRetried = false) :
    Pace.Arms ⟨0, none, true, client.network.shuttingDown⟩
      (handleConnectAck run packet client).pace := by
  unfold handleConnectAck
  rw [if_neg (by rw [refused]; decide), refused,
    setConnectionState_eq_setQuietly client run _ (Or.inl idle)]
  have quiet := quiet_setQuietly client .authFailed
  have network := network_setQuietly client .authFailed
  obtain ⟨state, auth⟩ := auth_setQuietly client .authFailed
  generalize setQuietly .authFailed client = shown at quiet network auth
  have shownIdle := quiet.handlers.trans idle
  have connected : shown.network.connectionState ≠ .disconnected := by
    rw [network]
    exact GatewayState.noConfusion
  have failedIdle := (onAuthFailure_retry run shownIdle connected (by rw [auth]; exact cached)
    (by rw [auth]; exact notRetried)).2.1
  refine Pace.Arms.trans ?_ (pace_closeSocket run failedIdle run.closedAtEnd)
  obtain ⟨databases, cleared⟩ := shown.clearAuthState_eq run shown.auth.selfUserId
  unfold onAuthFailure
  rw [if_pos ⟨rfl, by rw [auth]; exact cached, by simp [auth, notRetried]⟩, cleared]
  have sameEnd : client.network.shuttingDown = shown.network.shuttingDown := by rw [network]
  rw [sameEnd]
  refine pace_gatewayDisconnect_retry run ?_ connected
  show shown.retryHandlers + 1 = 1
  rw [shownIdle]

theorem pace_handleIncomingPacket {Text : Type} [JsonDocument Text]
    (idle : client.retryHandlers = 0) (rawData : Text)
    (final : ∀ packet, decode rawData = .ok packet → client.refusesCached packet = false) :
    client.pace.Arms (handleIncomingPacket run rawData client).pace ∧
      OpensNothing client (handleIncomingPacket run rawData client) := by
  have unchanged : client.pace.Arms client.pace ∧ OpensNothing client client :=
    ⟨Or.inl rfl, OpensNothing.of_commands rfl⟩
  unfold handleIncomingPacket
  split
  · exact unchanged
  · rename_i packet decoded
    split
    · rename_i isAck
      refine handleConnectAck_final run idle ?_
      have kept := of_decide_eq_false (final packet decoded)
      exact fun refused => kept ⟨isAck, refused⟩
    · split
      · exact ⟨Or.inl (pace_sendPackets client _), OpensNothing.sendPackets client _⟩
      · exact unchanged

theorem openDatabase_network : (client.openDatabase run).1.network = client.network := by
  unfold openDatabase
  split
  · rfl
  · split
    · rfl
    · split <;> rfl

theorem pace_ite {test : Prop} [Decidable test] {left right : AuthClient} {pace : Pace}
    (leftPace : left.pace = pace) (rightPace : right.pace = pace) :
    (if test then left else right).pace = pace := by
  split
  · exact leftPace
  · exact rightPace

theorem pace_connectToServer (idle : client.retryHandlers = 0) (url : Option QUrl)
    (userId nickname token : String) :
    (connectToServer run url userId nickname token client).pace = client.pace ∨
      Pace.Arms { client.pace with enabled := true }
        (connectToServer run url userId nickname token client).pace := by
  unfold connectToServer
  cases url with
  | none => exact Or.inl rfl
  | some serverUrl =>
      simp only
      split
      · exact Or.inl rfl
      · have named : ((client.withAuth
            { client.auth with selfUserId := trimmed userId }).openDatabase run).1.network =
            client.network := openDatabase_network run
        have handlers : ((client.withAuth
            { client.auth with selfUserId := trimmed userId }).openDatabase run).1.retryHandlers =
            client.retryHandlers := openDatabase_frame run
        split
        · rename_i opened result
          rw [result] at named
          left
          unfold pace
          rw [← named]
          rfl
        · rename_i opened result
          rw [result] at named handlers
          right
          have openedIdle : opened.retryHandlers = 0 := handlers.trans idle
          have openedPace : opened.pace = client.pace := by
            unfold pace
            rw [show opened.network = client.network from named]
          rw [gatewayConnect_eq run (by exact retryHandlers_ite openedIdle openedIdle)]
          refine Pace.Arms.trans (Or.inl ?_) (pace_openConnection _ run _ _ _ _)
          refine congrArg (fun pace : Pace => { pace with enabled := true }) ?_
          exact pace_ite openedPace openedPace

theorem pace_logout (idle : client.retryHandlers = 0) :
    (logout run client).pace = ⟨0, none, false, client.network.shuttingDown⟩ := by
  rw [← pace_gatewayDisconnect run idle, ← pace_clearAuthState (gatewayDisconnect run client) run
    (gatewayDisconnect run client).auth.selfUserId]
  unfold logout
  simp only
  generalize (gatewayDisconnect run client).clearAuthState run
    (gatewayDisconnect run client).auth.selfUserId = cleared
  split <;> split <;> rfl

theorem opensNothing_logout (idle : client.retryHandlers = 0) :
    OpensNothing client (logout run client) := by
  obtain ⟨databases, cleared⟩ := (gatewayDisconnect run client).clearAuthState_eq run
    (gatewayDisconnect run client).auth.selfUserId
  refine (opensNothing_gatewayDisconnect run idle).trans (OpensNothing.of_commands ?_)
  unfold logout
  simp only [cleared]
  split <;> split <;> rfl

end Idle

end AuthClient

/-- An attempt to open the connection again: what the timer was started with, and
whether `open` reported the loss before it returned. -/
structure ReconnectAttempt where
  waited : Nat
  lostAtOnce : Bool
  deriving DecidableEq

namespace ConnectionEvent

variable {Text : Type} [JsonDocument Text]

def resets (client : AuthClient) : ConnectionEvent Text → Bool
  | .disconnectFromServer _ => true
  | .logout _ => true
  | .socketConnected _ => true
  | .prepareForShutdown => true
  | .textMessageReceived _ rawData =>
      match decode rawData with
      | .ok packet => client.refusesCached packet
      | .error _ => false
  | _ => false

def reopens (client : AuthClient) : ConnectionEvent Text → List ReconnectAttempt
  | .reconnectTimeout run =>
      if ¬ client.network.connected ∧ client.network.reconnectAttempts < 5 then
        client.network.reconnectTimer.toList.map fun interval => ⟨interval, run.lostAtOnce⟩
      else []
  | _ => []

/-- A wish to connect, or a refusal. -/
def Reconnects : ConnectionEvent Text → Prop
  | .connectToServer _ _ _ _ _ => True
  | .textMessageReceived _ rawData =>
      ∃ packet, decode rawData = .ok packet ∧ packet.cmd = .connectAck ∧ packet.code = 401
  | _ => False

end ConnectionEvent

/-! ## Runs -/

namespace AuthClient

/-- What the timer may have been started with after these attempts: the delay
that is due, or the one before it where the last attempt was lost at once. -/
inductive Due : List ReconnectAttempt → Nat → Prop where
  | inTurn {made : List ReconnectAttempt} (left : made.length < 5) :
      Due made (reconnectDelay made.length)
  | early {before : List ReconnectAttempt} {last : ReconnectAttempt}
      (lost : last.lostAtOnce = true) (left : before.length < 5) :
      Due (before ++ [last]) (reconnectDelay before.length)

structure Pace.Paced (pace : Pace) (made : List ReconnectAttempt) : Prop where
  counted : made.length = pace.attempts
  bounded : pace.attempts ≤ 5
  timer : ∀ interval, pace.timer = some interval →
    pace.enabled = true ∧ pace.shuttingDown = false ∧ Due made interval
  waited : ∀ before attempt after, made = before ++ attempt :: after → Due before attempt.waited

theorem Pace.paced_initial (enabled shuttingDown : Bool) :
    Pace.Paced ⟨0, none, enabled, shuttingDown⟩ [] := by
  refine ⟨rfl, Nat.zero_le 5, nofun, ?_⟩
  intro before attempt after split
  exact absurd split.symm (by simp)

namespace Pace.Paced

variable {pace : Pace} {made : List ReconnectAttempt}

theorem arms (paced : pace.Paced made) {after : Pace} (arms : pace.Arms after) :
    after.Paced made := by
  rcases arms with rfl | ⟨enabled, left, alive, rfl⟩
  · exact paced
  · refine ⟨paced.counted, paced.bounded, ?_, paced.waited⟩
    rintro interval ⟨⟩
    refine ⟨enabled, alive, ?_⟩
    have due : Due made (reconnectDelay made.length) := .inTurn (paced.counted.trans_lt left)
    rwa [paced.counted] at due

theorem enable (paced : pace.Paced made) : Pace.Paced { pace with enabled := true } made :=
  ⟨paced.counted, paced.bounded, fun interval running => ⟨rfl, (paced.timer interval running).2⟩,
    paced.waited⟩

theorem stop (paced : pace.Paced made) : Pace.Paced { pace with timer := none } made :=
  ⟨paced.counted, paced.bounded, nofun, paced.waited⟩

theorem attempt (paced : pace.Paced made) {interval : Nat} (running : pace.timer = some interval)
    (left : pace.attempts < 5) {lostAtOnce : Bool} {opened : Pace}
    (arms : Pace.Arms { pace with timer := none } opened)
    (kept : lostAtOnce = false → opened = { pace with timer := none }) :
    Pace.Paced { opened with attempts := opened.attempts + 1 }
      (made ++ [⟨interval, lostAtOnce⟩]) := by
  have isDue := (paced.timer interval running).2.2
  have waited : ∀ before attempt after, made ++ [⟨interval, lostAtOnce⟩] =
      before ++ attempt :: after → Due before attempt.waited := by
    intro before attempt after split
    rcases List.eq_nil_or_concat after with rfl | ⟨front, last, rfl⟩
    · obtain ⟨rfl, same⟩ := List.append_inj' split rfl
      rw [← List.singleton_inj.mp same]
      exact isDue
    · rw [List.concat_eq_append, ← List.cons_append, ← List.append_assoc] at split
      exact paced.waited before attempt front (List.append_inj' split rfl).1
  have counted : (made ++ [⟨interval, lostAtOnce⟩] : List ReconnectAttempt).length =
      pace.attempts + 1 := by
    rw [List.length_append, paced.counted, List.length_singleton]
  rcases arms with rfl | ⟨enabled, _, alive, rfl⟩
  · exact ⟨counted, left, nofun, waited⟩
  · have lost : lostAtOnce = true := by
      rw [← Bool.not_eq_false]
      intro isKept
      exact absurd (congrArg Pace.timer (kept isKept)) (Option.some_ne_none _)
    refine ⟨counted, left, ?_, waited⟩
    rintro early ⟨⟩
    refine ⟨enabled, alive, ?_⟩
    have due : Due (made ++ [⟨interval, lostAtOnce⟩]) (reconnectDelay made.length) :=
      .early lost (paced.counted.trans_lt left)
    rwa [paced.counted] at due

/-- Where no attempt was lost at once, each delay is twice the one before. -/
theorem delays (paced : pace.Paced made)
    (kept : ∀ attempt ∈ made, attempt.lostAtOnce = false) :
    made.map ReconnectAttempt.waited = [1000, 2000, 4000, 8000, 16000].take pace.attempts := by
  have inTurn : made.map ReconnectAttempt.waited = (List.range made.length).map reconnectDelay := by
    apply List.ext_getElem
    · simp
    · intro place inMade inRange
      rw [List.length_map] at inMade
      rw [List.getElem_map, List.getElem_map, List.getElem_range]
      have due := paced.waited (made.take place) made[place] (made.drop (place + 1))
        (by rw [List.getElem_cons_drop, List.take_append_drop])
      generalize made[place].waited = interval at due
      generalize before : made.take place = front at due
      cases due with
      | inTurn left =>
          rw [← before, List.length_take, min_eq_left inMade.le]
      | @early earlier last lost left =>
          have isMade : last ∈ made := by
            apply List.mem_of_mem_take (i := place)
            rw [before]
            exact List.mem_append_right _ (List.mem_singleton_self last)
          exact absurd (lost.symm.trans (kept last isMade)) Bool.noConfusion
  have all : [1000, 2000, 4000, 8000, 16000] = (List.range 5).map reconnectDelay := by decide
  rw [inTurn, paced.counted, all, ← List.map_take, List.take_range, min_eq_left paced.bounded]

end Pace.Paced

section Events
variable {Text : Type} [JsonDocument Text] {client : AuthClient}

theorem paced_next (idle : client.retryHandlers = 0) {made : List ReconnectAttempt}
    (paced : client.pace.Paced made) (event : ConnectionEvent Text)
    (enabled : event.enabled client) :
    (event.next client).pace.Paced
      (if event.resets client = true then [] else made ++ event.reopens client) := by
  have unchanged : ∀ after : Pace, client.pace.Arms after → after.Paced (made ++ []) := by
    intro after arms
    rw [List.append_nil]
    exact paced.arms arms
  cases event with
  | connectToServer run url userId nickname token =>
      rw [ConnectionEvent.next]
      rcases pace_connectToServer run idle url userId nickname token with same | wanted
      · exact unchanged _ (Or.inl same)
      · have armed := paced.enable.arms wanted
        rw [← List.append_nil made] at armed
        exact armed
  | disconnectFromServer run =>
      rw [ConnectionEvent.next, pace_gatewayDisconnect run idle]
      exact Pace.paced_initial _ _
  | logout run =>
      rw [ConnectionEvent.next, pace_logout run idle]
      exact Pace.paced_initial _ _
  | socketConnected run =>
      rw [ConnectionEvent.next, pace_onSocketConnected run idle]
      exact Pace.paced_initial _ _
  | socketDisconnected run => exact unchanged _ (pace_onSocketDisconnected run idle)
  | textMessageReceived run rawData =>
      by_cases retried : ∃ packet, decode rawData = .ok packet ∧
          client.refusesCached packet = true
      · obtain ⟨packet, decoded, refuses⟩ := retried
        obtain ⟨isAck, refused, cached, notRetried⟩ := of_decide_eq_true refuses
        have armed := pace_handleConnectAck_retry run idle refused cached
          (Bool.eq_false_iff.mpr notRetried)
        simp only [ConnectionEvent.next, handleIncomingPacket, decoded, if_pos isAck,
          ConnectionEvent.resets, refuses, if_true]
        exact (Pace.paced_initial true client.network.shuttingDown).arms armed
      · have final : ∀ packet, decode rawData = .ok packet →
            client.refusesCached packet = false := by
          intro packet decoded
          rw [Bool.eq_false_iff]
          exact fun refuses => retried ⟨packet, decoded, refuses⟩
        have noReset : ConnectionEvent.resets client (.textMessageReceived run rawData) =
            false := by
          simp only [ConnectionEvent.resets]
          split
          · rename_i packet decoded
            exact final packet decoded
          · rfl
        rw [noReset]
        exact unchanged _ (pace_handleIncomingPacket run idle rawData final).1
  | heartbeatTimeout run => exact unchanged _ (Or.inl (pace_sendPackets client _))
  | reconnectTimeout run =>
      obtain ⟨interval, running⟩ := Option.isSome_iff_exists.mp enabled.2
      simp only [ConnectionEvent.next, ConnectionEvent.resets, ConnectionEvent.reopens]
      split
      · rename_i due
        rw [openSocket_eq_quietly _ run _ (Or.inl (by exact idle)), running]
        obtain ⟨arms, kept⟩ := pace_openSocket (client.withNetwork { client.network with
          reconnectTimer := none }) run client.network.serverUrl
        exact paced.attempt running due.2 arms kept
      · have stopped := paced.stop
        rw [← List.append_nil made] at stopped
        exact stopped
  | send packets => exact unchanged _ (Or.inl (pace_sendPackets client packets))
  | prepareForShutdown =>
      have alive : ¬ client.network.shuttingDown = true := Bool.eq_false_iff.mp enabled.1
      rw [ConnectionEvent.next, prepareForShutdown, if_neg alive]
      exact Pace.paced_initial _ _

structure Left (client : AuthClient) : Prop where
  idle : client.retryHandlers = 0
  stopped : client.pace.timer = none
  unwanted : client.pace.enabled = false

theorem Left.next (left : Left client) (event : ConnectionEvent Text)
    (enabled : event.enabled client) (stays : ¬ event.Reconnects) :
    Left (event.next client) ∧ OpensNothing client (event.next client) := by
  have after : ∀ pace : Pace, (event.next client).pace = pace → pace.timer = none →
      pace.enabled = false → OpensNothing client (event.next client) →
      Left (event.next client) ∧ OpensNothing client (event.next client) := by
    rintro pace rfl stopped unwanted nothing
    exact ⟨⟨next_idle left.idle event, stopped, unwanted⟩, nothing⟩
  cases event with
  | connectToServer run url userId nickname token => exact absurd trivial stays
  | disconnectFromServer run =>
      exact after _ (pace_gatewayDisconnect run left.idle) rfl rfl
        (opensNothing_gatewayDisconnect run left.idle)
  | logout run =>
      exact after _ (pace_logout run left.idle) rfl rfl (opensNothing_logout run left.idle)
  | socketConnected run =>
      exact after _ (pace_onSocketConnected run left.idle) rfl left.unwanted
        (opensNothing_onSocketConnected run left.idle)
  | socketDisconnected run =>
      exact after _ ((pace_onSocketDisconnected run left.idle).disabled left.unwanted)
        left.stopped left.unwanted
        (OpensNothing.of_quiet (quiet_onSocketDisconnected run left.idle))
  | textMessageReceived run rawData =>
      have final : ∀ packet, decode rawData = .ok packet →
          client.refusesCached packet = false := by
        intro packet decoded
        rw [Bool.eq_false_iff]
        intro refuses
        obtain ⟨isAck, refused, -⟩ := of_decide_eq_true refuses
        exact stays ⟨packet, decoded, isAck, refused⟩
      obtain ⟨arms, nothing⟩ := pace_handleIncomingPacket run left.idle rawData final
      exact after _ (arms.disabled left.unwanted) left.stopped left.unwanted nothing
  | heartbeatTimeout run =>
      exact after _ (pace_sendPackets client _) left.stopped left.unwanted
        (OpensNothing.sendPackets client _)
  | reconnectTimeout run =>
      obtain ⟨interval, running⟩ := Option.isSome_iff_exists.mp enabled.2
      exact absurd (running.symm.trans left.stopped) (Option.some_ne_none interval)
  | send packets =>
      exact after _ (pace_sendPackets client packets) left.stopped left.unwanted
        (OpensNothing.sendPackets client packets)
  | prepareForShutdown =>
      have alive : ¬ client.network.shuttingDown = true := Bool.eq_false_iff.mp enabled.1
      have shut : ConnectionEvent.next client (.prepareForShutdown : ConnectionEvent Text) =
          client.withNetwork { client.network with
            shuttingDown := true
            reconnectEnabled := false
            connected := false
            connectionState := .disconnected
            reconnectAttempts := 0
            heartbeatRunning := false
            reconnectTimer := none } := by
        rw [ConnectionEvent.next, prepareForShutdown, if_neg alive]
      refine after ⟨0, none, false, true⟩ ?_ rfl rfl (OpensNothing.of_commands ?_)
      · rw [shut]
        rfl
      · rw [shut]
        rfl

theorem Left.run (databases : FiniteMap String AuthStateTable)
    (events : List (ConnectionEvent Text)) :
    ∀ client, Left client → (connectionSystem Text databases).Enabled client events →
      (∀ event ∈ events, ¬ event.Reconnects) →
      OpensNothing client (events.foldl ConnectionEvent.next client) := by
  induction events with
  | nil =>
      intro client _ _ _
      exact OpensNothing.of_commands rfl
  | cons event rest ih =>
      intro client left enabled stays
      obtain ⟨leftNext, nothing⟩ := left.next event enabled.1 (stays event List.mem_cons_self)
      exact nothing.trans (ih _ leftNext enabled.2 fun later member =>
        stays later (List.mem_cons_of_mem event member))

end Events

end AuthClient

/-- `made` records the attempts since the count began. -/
structure ReconnectingClient where
  client : AuthClient
  made : List ReconnectAttempt

def reconnectingSystem (Text : Type) [JsonDocument Text]
    (databases : FiniteMap String AuthStateTable) :
    System ReconnectingClient (ConnectionEvent Text) where
  initial := ⟨{ databases := databases }, []⟩
  enabled := fun traced event => event.enabled traced.client
  next := fun traced event =>
    ⟨event.next traced.client, if event.resets traced.client = true then []
      else traced.made ++ event.reopens traced.client⟩

section Traced
variable {Text : Type} [JsonDocument Text] {databases : FiniteMap String AuthStateTable}

theorem paced_of_reachable : ∀ traced, (reconnectingSystem Text databases).Reachable traced →
    traced.client.retryHandlers = 0 ∧ traced.client.pace.Paced traced.made := by
  refine System.Reachable.invariant ⟨rfl, AuthClient.Pace.paced_initial _ _⟩ ?_
  rintro traced event _ ⟨idle, paced⟩ enabled
  exact ⟨AuthClient.next_idle idle event, AuthClient.paced_next idle paced event enabled⟩

/-- A lost connection is opened again five times at most before the count is set
back.  The delay begins with a second and doubles with each attempt that is
counted, which one lost before `open` returns is not when the next is scheduled;
and the connection is not opened on its own after the user has left. -/
theorem reconnecting_bounded (Text : Type) [JsonDocument Text]
    (databases : FiniteMap String AuthStateTable) (traced : ReconnectingClient)
    (reached : (reconnectingSystem Text databases).Reachable traced) :
    (traced.made.length = traced.client.network.reconnectAttempts ∧ traced.made.length ≤ 5) ∧
    (∀ before attempt after, traced.made = before ++ attempt :: after →
      AuthClient.Due before attempt.waited) ∧
    ((∀ attempt ∈ traced.made, attempt.lostAtOnce = false) →
      traced.made.map ReconnectAttempt.waited =
        [1000, 2000, 4000, 8000, 16000].take traced.made.length) ∧
    (∀ interval, traced.client.network.reconnectTimer = some interval →
      traced.client.network.reconnectEnabled = true ∧
      traced.client.network.shuttingDown = false ∧ AuthClient.Due traced.made interval) ∧
    ∀ (leaving : ConnectionEvent Text) (later : List (ConnectionEvent Text)),
      (∃ run, leaving = .disconnectFromServer run ∨ leaving = .logout run) →
      (connectionSystem Text databases).Enabled traced.client (leaving :: later) →
      (∀ event ∈ later, ¬ event.Reconnects) →
      AuthClient.OpensNothing traced.client
        ((leaving :: later).foldl ConnectionEvent.next traced.client) := by
  obtain ⟨idle, paced⟩ := paced_of_reachable traced reached
  refine ⟨⟨paced.counted, paced.counted.trans_le paced.bounded⟩, paced.waited, ?_, paced.timer, ?_⟩
  · intro kept
    rw [paced.delays kept, paced.counted]
  · intro leaving later leaves enabled stays
    have left : AuthClient.Left (leaving.next traced.client) ∧
        AuthClient.OpensNothing traced.client (leaving.next traced.client) := by
      obtain ⟨run, rfl | rfl⟩ := leaves
      · have pace := AuthClient.pace_gatewayDisconnect run idle
        exact ⟨⟨AuthClient.gatewayDisconnect_idle run idle,
          congrArg AuthClient.Pace.timer pace, congrArg AuthClient.Pace.enabled pace⟩,
          AuthClient.opensNothing_gatewayDisconnect run idle⟩
      · have pace := AuthClient.pace_logout run idle
        exact ⟨⟨AuthClient.logout_idle run idle,
          congrArg AuthClient.Pace.timer pace, congrArg AuthClient.Pace.enabled pace⟩,
          AuthClient.opensNothing_logout run idle⟩
    exact left.2.trans (AuthClient.Left.run databases later _ left.1 enabled.2 stays)

end Traced

/-- Alice's connection is lost, the first attempt to open it fails at once, and
the second is on its way. -/
def aliceReopens : List (ConnectionEvent ParsedText) :=
  aliceConnects ++ [.socketDisconnected aliceRun,
    .reconnectTimeout { aliceRun with lostAtOnce := true }, .reconnectTimeout aliceRun]

def aliceReopened : ReconnectingClient :=
  aliceReopens.foldl (reconnectingSystem ParsedText aliceFiles).next
    (reconnectingSystem ParsedText aliceFiles).initial

theorem reconnecting_bounded_alice :
    aliceReopened.made = [⟨1000, true⟩, ⟨1000, false⟩] ∧
      AuthClient.Due [⟨1000, true⟩] 1000 := by
  have reached : (reconnectingSystem ParsedText aliceFiles).Reachable aliceReopened := by
    refine System.Reachable.run aliceReopens _ System.Reachable.initial ?_
    exact ⟨⟨rfl, trivial⟩, ⟨by decide, trivial⟩, ⟨by decide, trivial⟩,
      ⟨by decide, by decide⟩, ⟨by decide, by decide⟩, trivial⟩
  have made : aliceReopened.made = [⟨1000, true⟩, ⟨1000, false⟩] := by rfl
  exact ⟨made, (reconnecting_bounded ParsedText aliceFiles _ reached).2.1 [⟨1000, true⟩]
    ⟨1000, false⟩ [] made⟩

end ShirohaChat
