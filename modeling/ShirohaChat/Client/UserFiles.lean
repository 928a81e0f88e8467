import ShirohaChat.Client.Reconnecting
import ShirohaChat.Lib.PercentEncoding

/-!
# The local file of a user

Each user has a database file of his own, named after his id.  Only the file that
was last tried is open, and only that one is written.
-/

set_option autoImplicit false

namespace ShirohaChat

open CodeUnits Transition

/-! ## The name of the file -/

/-- What `QUrl::toPercentEncoding` leaves as it is. -/
def isUnreserved (byte : Nat) : Bool :=
  (65 ≤ byte && byte ≤ 90) || (97 ≤ byte && byte ≤ 122) || (48 ≤ byte && byte ≤ 57) ||
    byte == 45 || byte == 46 || byte == 95 || byte == 126

def toPercentEncoding (text : String) : String :=
  String.ofList (PercentEncoding.encode isUnreserved (utf8 text.toList))

/-- `QDir::filePath` of a name that is not absolute. -/
def filePath (directory name : String) : String :=
  if directory.toList.getLast? = some '/' then directory ++ name else directory ++ "/" ++ name

def localFileSuffix (userId : String) : String :=
  let safeUserId := toPercentEncoding (trimmed userId)
  if safeUserId = "" then "default" else safeUserId

def localDatabasePathForUser (dataDir : Option String) (userId : String) : String :=
  match dataDir with
  | none => ""
  | some directory => filePath directory ("shirohachat_" ++ localFileSuffix userId ++ ".db")

theorem utf8_lt_256 (chars : List Char) : ∀ byte ∈ utf8 chars, byte < 256 := by
  intro byte member
  obtain ⟨c, -, inChar⟩ := List.mem_flatMap.mp member
  obtain ⟨unit, -, rfl⟩ := List.mem_map.mp inChar
  exact unit.toNat_lt

theorem toPercentEncoding_injective {left right : String}
    (same : toPercentEncoding left = toPercentEncoding right) : left = right := by
  have bytes := PercentEncoding.encode_injective (by decide) (utf8_lt_256 _) (utf8_lt_256 _)
    (String.ofList_injective same)
  exact String.toList_inj.mp (utf8_injective _ _ bytes)

theorem toPercentEncoding_eq_empty {text : String} (blank : toPercentEncoding text = "") :
    text = "" :=
  toPercentEncoding_injective (blank.trans (by rfl : "" = toPercentEncoding ""))

theorem localFileSuffix_blank {userId : String} (blank : trimmed userId = "") :
    localFileSuffix userId = "default" := by
  have isEmpty : toPercentEncoding "" = "" := rfl
  simp only [localFileSuffix, blank, isEmpty, if_true]

theorem localFileSuffix_named {userId : String} (named : trimmed userId ≠ "") :
    localFileSuffix userId = toPercentEncoding (trimmed userId) := by
  have nonempty : toPercentEncoding (trimmed userId) ≠ "" :=
    fun blank => named (toPercentEncoding_eq_empty blank)
  unfold localFileSuffix
  simp only [if_neg nonempty]

/-- Users with ids have the same file only if they are the same; who has none has
the file of the user "default". -/
theorem localFileSuffix_eq_iff (userId other : String) :
    localFileSuffix userId = localFileSuffix other ↔
      trimmed userId = trimmed other ∨ (trimmed userId = "" ∧ trimmed other = "default") ∨
        (trimmed userId = "default" ∧ trimmed other = "") := by
  have isDefault : toPercentEncoding "default" = "default" := by decide
  by_cases blank : trimmed userId = "" <;> by_cases otherBlank : trimmed other = ""
  · simp [localFileSuffix_blank, blank, otherBlank]
  · rw [localFileSuffix_blank blank, localFileSuffix_named otherBlank]
    constructor
    · intro same
      have sameText := toPercentEncoding_injective (same.symm.trans isDefault.symm)
      exact Or.inr (Or.inl ⟨blank, sameText⟩)
    · rintro (same | ⟨-, named⟩ | ⟨-, absent⟩)
      · exact absurd (same.symm.trans blank) otherBlank
      · rw [named, isDefault]
      · exact absurd absent otherBlank
  · rw [localFileSuffix_named blank, localFileSuffix_blank otherBlank]
    constructor
    · intro same
      have sameText := toPercentEncoding_injective (same.trans isDefault.symm)
      exact Or.inr (Or.inr ⟨sameText, otherBlank⟩)
    · rintro (same | ⟨absent, -⟩ | ⟨named, -⟩)
      · exact absurd (same.trans otherBlank) blank
      · exact absurd absent blank
      · rw [named, isDefault]
  · rw [localFileSuffix_named blank, localFileSuffix_named otherBlank]
    constructor
    · exact fun same => Or.inl (toPercentEncoding_injective same)
    · rintro (same | ⟨absent, -⟩ | ⟨-, absent⟩)
      · rw [same]
      · exact absurd absent blank
      · exact absurd absent otherBlank

theorem filePath_injective {directory name name' : String}
    (same : filePath directory name = filePath directory name') : name = name' := by
  unfold filePath at same
  have chars := congrArg String.toList same
  apply String.toList_inj.mp
  split at chars
  · simpa [String.toList_append] using chars
  · simpa [String.toList_append] using chars

theorem localDatabasePathForUser_eq_iff (directory userId other : String) :
    localDatabasePathForUser (some directory) userId =
        localDatabasePathForUser (some directory) other ↔
      trimmed userId = trimmed other ∨ (trimmed userId = "" ∧ trimmed other = "default") ∨
        (trimmed userId = "default" ∧ trimmed other = "") := by
  rw [← localFileSuffix_eq_iff]
  constructor
  · intro same
    have chars := congrArg String.toList (filePath_injective same)
    apply String.toList_inj.mp
    simpa [String.toList_append] using chars
  · intro same
    simp only [localDatabasePathForUser, same]

theorem localFileSuffix_no_slash (userId : String) : '/' ∉ (localFileSuffix userId).toList := by
  unfold localFileSuffix
  simp only
  split
  · decide
  · rw [toPercentEncoding, String.toList_ofList]
    intro member
    rcases PercentEncoding.mem_encode (utf8_lt_256 _) member with isPlain | isPercent |
      ⟨value, below, isDigit⟩
    · exact absurd isPlain (by decide)
    · exact absurd isPercent (by decide)
    · revert isDigit
      revert value
      decide

/-! ## What is written to which file -/

namespace AuthClient

structure Confined (before after : AuthClient) : Prop where
  openPath : after.openPath = before.openPath
  others : ∀ path, before.openPath ≠ some path →
    after.databases.lookup path = before.databases.lookup path

namespace Confined

variable {first second third : AuthClient}

theorem of_same (openPath : second.openPath = first.openPath)
    (databases : second.databases = first.databases) : Confined first second :=
  ⟨openPath, fun _ _ => by rw [databases]⟩

theorem of_quiet (quiet : Quiet first second) : Confined first second :=
  of_same quiet.openPath quiet.databases

theorem trans (one : Confined first second) (two : Confined second third) :
    Confined first third := by
  refine ⟨two.openPath.trans one.openPath, ?_⟩
  intro path closed
  rw [two.others path (by rw [one.openPath]; exact closed), one.others path closed]

end Confined

section Steps
variable (client : AuthClient) (run : AuthRun)

theorem confined_writeAuthState (table : AuthStateTable) :
    Confined client (client.writeAuthState table) := by
  unfold writeAuthState
  split
  · exact Confined.of_same rfl rfl
  · rename_i path isOpen
    refine ⟨rfl, ?_⟩
    intro other closed
    have differs : other ≠ path := by
      rintro rfl
      exact closed isOpen
    exact (FiniteMap.lookup_insert _ _ _ _).trans (if_neg differs)

theorem confined_saveAuthState (userId token : String) :
    Confined client (client.saveAuthState run userId token) := by
  unfold saveAuthState
  split
  · exact client.confined_writeAuthState _
  · exact Confined.of_same rfl rfl

theorem confined_clearAuthState (userId : String) :
    Confined client (client.clearAuthState run userId) := by
  unfold clearAuthState
  split
  · exact client.confined_writeAuthState _
  · exact Confined.of_same rfl rfl

theorem confined_sendPackets (packets : List Packet) :
    Confined client (client.sendPackets packets) := by
  unfold sendPackets
  split
  · exact Confined.of_same rfl rfl
  · exact Confined.of_same rfl rfl

theorem confined_onAuthSuccess (userId token : String) :
    Confined client (client.onAuthSuccess run userId token) := by
  unfold onAuthSuccess
  simp only
  have named : Confined client (if trimmed userId ≠ "" then
      client.withAuth { client.auth with selfUserId := trimmed userId } else client) := by
    split
    · exact Confined.of_same rfl rfl
    · exact Confined.of_same rfl rfl
  generalize (if trimmed userId ≠ "" then
    client.withAuth { client.auth with selfUserId := trimmed userId } else client) = after at named
  have saved := confined_saveAuthState (after.signal .selfUserIdChanged) run
    after.auth.selfUserId token
  refine ((named.trans ?_).trans saved).trans (Confined.trans ?_ (confined_sendPackets _ _))
  · exact Confined.of_same rfl rfl
  · exact Confined.of_same rfl rfl

theorem confined_openConnection (serverUrl : QUrl) (userId nickname sessionToken : String) :
    Confined client
      (openConnection setQuietly run serverUrl userId nickname sessionToken client) := by
  unfold openConnection
  simp only
  generalize namedDef : client.withNetwork _ = named
  have start : Confined client named := by
    rw [← namedDef]
    exact Confined.of_same rfl rfl
  split
  · generalize connectedDef : named.withNetwork _ = connected
    have isConnected : Confined named connected := by
      rw [← connectedDef]
      exact Confined.of_same rfl rfl
    exact ((start.trans isConnected).trans (Confined.of_quiet (quiet_setQuietly _ _))).trans
      (confined_onAuthSuccess _ run userId sessionToken)
  · have quiet := quiet_setQuietly named .disconnected
    have told : Confined (setQuietly .disconnected named)
        ((setQuietly .disconnected named).command (.openUrl serverUrl)) :=
      Confined.of_same rfl rfl
    have opened := quiet_openSocket (setQuietly .disconnected named) run serverUrl
    exact ((start.trans (Confined.of_quiet quiet)).trans told).trans (Confined.of_quiet opened)

end Steps

section Idle
variable {client : AuthClient} (run : AuthRun)

theorem confined_closeSocket (idle : client.retryHandlers = 0) (reported : Bool) :
    Confined client (closeSocket run reported client) := by
  have told : Confined client (client.command .close) := Confined.of_same rfl rfl
  exact told.trans (Confined.of_quiet (quiet_closeSocket run idle reported))

theorem confined_openSocket (idle : client.retryHandlers = 0) (url : QUrl) :
    Confined client (openSocket (setConnectionState run) run url client) := by
  have told : Confined client (client.command (.openUrl url)) := Confined.of_same rfl rfl
  rw [openSocket_eq_quietly client run url (Or.inl idle)]
  exact told.trans (Confined.of_quiet (quiet_openSocket client run url))

theorem confined_gatewayDisconnect (handlers : client.retryHandlers = 0 ∨
      (client.retryHandlers = 1 ∧ client.network.connectionState ≠ .disconnected)) :
    Confined client (gatewayDisconnect run client) := by
  unfold gatewayDisconnect
  generalize startDef : client.withNetwork _ = start
  have started : Confined client start := by
    rw [← startDef]
    exact Confined.of_same rfl rfl
  rcases handlers with idle | ⟨one, connected⟩
  · have startIdle : start.retryHandlers = 0 := by
      rw [← startDef]
      exact idle
    rw [setConnectionState_eq_setQuietly start run _ (Or.inl startIdle)]
    have quiet := quiet_setQuietly start .disconnected
    exact (started.trans (Confined.of_quiet quiet)).trans
      (confined_closeSocket run (quiet.handlers.trans startIdle) run.closedAtOnce)
  · have startOne : start.retryHandlers = 1 := by
      rw [← startDef]
      exact one
    have startConnected : start.network.connectionState ≠ .disconnected := by
      rw [← startDef]
      exact connected
    unfold setConnectionState
    rw [if_neg startConnected]
    unfold connectionStateChanged
    generalize leftDef : start.withNetwork _ = left
    have leaving : Confined start left := by
      rw [← leftDef]
      exact Confined.of_same rfl rfl
    have leftOne : left.retryHandlers = 1 := by
      rw [← leftDef]
      exact startOne
    have disconnected : left.network.connectionState = .disconnected := by
      rw [← leftDef]
      rfl
    have shown := quiet_onGatewayConnectionStateChanged left
    have network := network_onGatewayConnectionStateChanged left
    rw [leftOne, Function.iterate_one, retryHandler, if_pos (by rw [network, disconnected])]
    generalize left.onGatewayConnectionStateChanged = told at shown network
    have dropped : Confined told told.dropHandler := Confined.of_same rfl rfl
    have opened := opened_openConnection told.dropHandler run told.auth.lastServerUrl
      told.auth.selfUserId told.auth.lastNickname ""
    have reopened := confined_openConnection told.dropHandler run told.auth.lastServerUrl
      told.auth.selfUserId told.auth.lastNickname ""
    generalize openConnection setQuietly run told.auth.lastServerUrl told.auth.selfUserId
      told.auth.lastNickname "" told.dropHandler = after at opened reopened
    have noHandler : after.retryHandlers = 0 := by
      rw [opened.handlers]
      show told.retryHandlers - 1 = 0
      rw [shown.handlers, leftOne]
    exact ((((started.trans leaving).trans (Confined.of_quiet shown)).trans dropped).trans
      reopened).trans (confined_closeSocket run noHandler run.closedAtOnce)

theorem confined_onAuthFailure (idle : client.retryHandlers = 0)
    (connected : client.network.connectionState ≠ .disconnected) (code : Int32) :
    Confined client (onAuthFailure run code client) := by
  have cleared := confined_clearAuthState client run client.auth.selfUserId
  obtain ⟨databases, isCleared⟩ := client.clearAuthState_eq run client.auth.selfUserId
  unfold onAuthFailure
  split
  · simp only
    generalize retryingDef : (client.clearAuthState run client.auth.selfUserId).withAuth _ =
      retrying
    have start : Confined client
        { retrying with retryHandlers := retrying.retryHandlers + 1 } := by
      rw [← retryingDef]
      exact cleared.trans (Confined.of_same rfl rfl)
    refine start.trans (confined_gatewayDisconnect run (Or.inr ⟨?_, ?_⟩))
    · rw [← retryingDef, isCleared]
      exact congrArg (· + 1) idle
    · rw [← retryingDef, isCleared]
      exact connected
  · simp only
    split
    · exact cleared.trans (Confined.of_same rfl rfl)
    · exact Confined.of_same rfl rfl

theorem confined_handleConnectAck (idle : client.retryHandlers = 0) (packet : Packet) :
    Confined client (handleConnectAck run packet client) := by
  unfold handleConnectAck
  split
  · simp only
    generalize connectedDef : client.withNetwork _ = connected
    have start : Confined client connected := by
      rw [← connectedDef]
      exact Confined.of_same rfl rfl
    have connectedIdle : connected.retryHandlers = 0 := by
      rw [← connectedDef]
      exact idle
    rw [setConnectionState_eq_setQuietly connected run _ (Or.inl connectedIdle)]
    have ready := start.trans (Confined.of_quiet (quiet_setQuietly connected .ready))
    generalize setQuietly .ready connected = shown at ready
    generalize toldDef : shown.withNetwork _ = told
    have named : Confined shown told := by
      rw [← toldDef]
      exact Confined.of_same rfl rfl
    exact ((ready.trans named).trans (confined_onAuthSuccess told run _ _)).trans
      (Confined.of_same rfl rfl)
  · rw [setConnectionState_eq_setQuietly client run _ (Or.inl idle)]
    have quiet := quiet_setQuietly client .authFailed
    have network := network_setQuietly client .authFailed
    generalize setQuietly .authFailed client = shown at quiet network
    have shownIdle := quiet.handlers.trans idle
    have connected : shown.network.connectionState ≠ .disconnected := by
      rw [network]
      exact GatewayState.noConfusion
    have failed := confined_onAuthFailure run shownIdle connected packet.code
    have failedIdle := onAuthFailure_idle run shownIdle connected packet.code
    exact ((Confined.of_quiet quiet).trans failed).trans
      (confined_closeSocket run failedIdle run.closedAtEnd)

theorem confined_onSocketConnected (idle : client.retryHandlers = 0) :
    Confined client (onSocketConnected run client) := by
  unfold onSocketConnected
  simp only
  generalize countedDef : client.withNetwork _ = counted
  have start : Confined client counted := by
    rw [← countedDef]
    exact Confined.of_same rfl rfl
  have countedIdle : counted.retryHandlers = 0 := by
    rw [← countedDef]
    exact idle
  rw [setConnectionState_eq_setQuietly counted run _ (Or.inl countedIdle)]
  have quiet := quiet_setQuietly counted .socketConnected
  generalize setQuietly .socketConnected counted = shown at quiet
  generalize sentDef : shown.command _ = sent
  have sending : Confined shown sent := by
    rw [← sentDef]
    exact Confined.of_same rfl rfl
  have sentIdle : sent.retryHandlers = 0 := by
    rw [← sentDef]
    exact quiet.handlers.trans countedIdle
  rw [setConnectionState_eq_setQuietly sent run _ (Or.inl sentIdle)]
  exact ((start.trans (Confined.of_quiet quiet)).trans sending).trans
    (Confined.of_quiet (quiet_setQuietly sent _))

theorem confined_logout (idle : client.retryHandlers = 0) :
    Confined client (logout run client) := by
  have left := confined_gatewayDisconnect run (Or.inl idle)
  have cleared := left.trans (confined_clearAuthState (gatewayDisconnect run client) run
    (gatewayDisconnect run client).auth.selfUserId)
  refine cleared.trans ?_
  unfold logout
  simp only
  generalize (gatewayDisconnect run client).clearAuthState run
    (gatewayDisconnect run client).auth.selfUserId = after
  split <;> split <;> exact Confined.of_same rfl rfl

theorem confined_handleIncomingPacket {Text : Type} [JsonDocument Text]
    (idle : client.retryHandlers = 0) (rawData : Text) :
    Confined client (handleIncomingPacket run rawData client) := by
  unfold handleIncomingPacket
  split
  · exact Confined.of_same rfl rfl
  · split
    · exact confined_handleConnectAck run idle _
    · split
      · exact confined_sendPackets client _
      · exact Confined.of_same rfl rfl

theorem files_openDatabase (named : run.databasePath ≠ "") :
    ((client.openDatabase run).1.openPath = none ∨
      (client.openDatabase run).1.openPath = some run.databasePath) ∧
    (client.openDatabase run).1.databases = client.databases := by
  unfold openDatabase
  rw [if_neg named]
  split
  · rename_i already
    exact ⟨Or.inr already, rfl⟩
  · split
    · exact ⟨Or.inr rfl, rfl⟩
    · exact ⟨Or.inl rfl, rfl⟩

theorem confined_gatewayConnect (idle : client.retryHandlers = 0) (serverUrl : QUrl)
    (userId nickname sessionToken : String) :
    Confined client (gatewayConnect run serverUrl userId nickname sessionToken client) := by
  rw [gatewayConnect_eq run idle]
  exact confined_openConnection client run serverUrl userId nickname sessionToken

theorem confined_connectToServer (url : Option QUrl) {userId : String}
    (untried : trimmed userId = "" ∨ run.databasePath = "") (nickname token : String) :
    Confined client (connectToServer run url userId nickname token client) := by
  unfold connectToServer
  cases url with
  | none => exact Confined.of_same rfl rfl
  | some serverUrl =>
      simp only
      split
      · exact Confined.of_same rfl rfl
      · rename_i known
        unfold openDatabase
        rw [if_pos (untried.resolve_left known)]
        exact ⟨rfl, fun _ _ => rfl⟩

/-- What is stored while connecting goes to the file of the user, if any. -/
theorem files_connectToServer (idle : client.retryHandlers = 0) (named : run.databasePath ≠ "")
    (serverUrl : QUrl) {userId : String} (known : trimmed userId ≠ "")
    (nickname token : String) :
    ((connectToServer run (some serverUrl) userId nickname token client).openPath = none ∨
      (connectToServer run (some serverUrl) userId nickname token client).openPath =
        some run.databasePath) ∧
    ∀ path, (connectToServer run (some serverUrl) userId nickname token client).openPath ≠
        some path →
      (connectToServer run (some serverUrl) userId nickname token client).databases.lookup path =
        client.databases.lookup path := by
  unfold connectToServer
  simp only [if_neg known]
  generalize askedDef : client.withAuth _ = asked
  have askedIdle : asked.retryHandlers = 0 := by
    rw [← askedDef]
    exact idle
  have askedFiles : asked.databases = client.databases := by
    rw [← askedDef]
    rfl
  have files := @files_openDatabase asked run named
  have handlers := @openDatabase_frame asked run
  generalize asked.openDatabase run = result at files handlers
  obtain ⟨opened, success⟩ := result
  have openedIdle : opened.retryHandlers = 0 := handlers.trans askedIdle
  cases success with
  | false =>
      refine ⟨files.1, ?_⟩
      intro path _
      show opened.databases.lookup path = _
      rw [files.2, askedFiles]
  | true =>
      simp only
      generalize (if nickname = "" then trimmed userId else nickname) = shown
      generalize announcedDef : (if opened.auth.selfNickname ≠ shown then _ else _) = announced
      have announcedFiles : Confined opened announced ∧ announced.retryHandlers = 0 := by
        rw [← announcedDef]
        split
        · exact ⟨Confined.of_same rfl rfl, openedIdle⟩
        · exact ⟨Confined.of_same rfl rfl, openedIdle⟩
      generalize toldDef : (announced.signal .selfUserIdChanged).withAuth _ = told
      have toldFiles : Confined announced told := by
        rw [← toldDef]
        exact Confined.of_same rfl rfl
      have toldIdle : told.retryHandlers = 0 := by
        rw [← toldDef]
        exact announcedFiles.2
      have connected := (announcedFiles.1.trans toldFiles).trans
        (confined_gatewayConnect run toldIdle serverUrl (trimmed userId) shown
          (if token = "" ∧ (opened.loadAuthState run).1 = trimmed userId then
            (opened.loadAuthState run).2 else token))
      rw [connected.openPath]
      refine ⟨files.1, ?_⟩
      intro path closed
      rw [connected.others path closed]
      show opened.databases.lookup path = _
      rw [files.2, askedFiles]

end Idle

end AuthClient

/-! ## Runs -/

namespace ConnectionEvent

variable {Text : Type}

/-- The user a request to connect is for, where a file is tried for him. -/
def asks : ConnectionEvent Text → Option String
  | .connectToServer run (some _) userId _ _ =>
      if trimmed userId = "" ∨ run.databasePath = "" then none else some (trimmed userId)
  | _ => none

/-- The path is the one of the user, whether or not the directory can be made. -/
def TriesOwnFile (directory : String) : ConnectionEvent Text → Prop
  | .connectToServer run _ userId _ _ => ∃ dataDir : Option String,
      (dataDir = none ∨ dataDir = some directory) ∧
        run.databasePath = localDatabasePathForUser dataDir (trimmed userId)
  | _ => True

end ConnectionEvent

/-- `asked` records the user whose file was last tried. -/
structure AskedClient where
  client : AuthClient
  asked : Option String

def askedSystem (Text : Type) [JsonDocument Text] (databases : FiniteMap String AuthStateTable)
    (directory : String) : System AskedClient (ConnectionEvent Text) where
  initial := ⟨{ databases := databases }, none⟩
  enabled := fun traced event => event.enabled traced.client ∧ event.TriesOwnFile directory
  next := fun traced event => ⟨event.next traced.client, event.asks.or traced.asked⟩

section Asked
variable {Text : Type} [JsonDocument Text] {databases : FiniteMap String AuthStateTable}
  {directory : String}

structure OwnFileOpen (directory : String) (traced : AskedClient) : Prop where
  idle : traced.client.retryHandlers = 0
  clean : ∀ userId, traced.asked = some userId → CleanText userId
  own : traced.client.openPath = none ∨ ∃ userId, traced.asked = some userId ∧
    traced.client.openPath = some (localDatabasePathForUser (some directory) userId)

namespace OwnFileOpen

variable {traced : AskedClient} (own : OwnFileOpen directory traced)

include own in
theorem confined {after : AuthClient} (idle : after.retryHandlers = 0)
    (confined : AuthClient.Confined traced.client after) :
    OwnFileOpen directory ⟨after, traced.asked⟩ ∧
      ∀ path, after.openPath ≠ some path →
        after.databases.lookup path = traced.client.databases.lookup path := by
  refine ⟨⟨idle, own.clean, ?_⟩, fun path closed =>
    confined.others path (confined.openPath ▸ closed)⟩
  simp only [confined.openPath]
  exact own.own

include own in
theorem connectToServer {run : AuthRun} {userId nickname token : String} {serverUrl : QUrl}
    (blank : trimmed userId ≠ "") (named : run.databasePath ≠ "")
    (isPath : run.databasePath = localDatabasePathForUser (some directory) (trimmed userId)) :
    OwnFileOpen directory ⟨AuthClient.connectToServer run (some serverUrl) userId nickname token
      traced.client, some (trimmed userId)⟩ ∧
      ∀ path, (AuthClient.connectToServer run (some serverUrl) userId nickname token
          traced.client).openPath ≠ some path →
        (AuthClient.connectToServer run (some serverUrl) userId nickname token
          traced.client).databases.lookup path = traced.client.databases.lookup path := by
  obtain ⟨opened, others⟩ := AuthClient.files_connectToServer run own.idle named serverUrl blank
    nickname token
  have idle := AuthClient.connectToServer_idle run own.idle (some serverUrl) userId nickname token
  refine ⟨⟨idle, ?_, ?_⟩, others⟩
  · rintro _ ⟨⟩
    exact cleanText_trimmed blank
  · rcases opened with none | isOpen
    · exact Or.inl none
    · exact Or.inr ⟨trimmed userId, rfl, isOpen.trans (congrArg some isPath)⟩

include own in
theorem next (event : ConnectionEvent Text) (enabled : event.enabled traced.client)
    (ownFile : event.TriesOwnFile directory) :
    OwnFileOpen directory ⟨event.next traced.client, event.asks.or traced.asked⟩ ∧
      ∀ path, (event.next traced.client).openPath ≠ some path →
        (event.next traced.client).databases.lookup path =
          traced.client.databases.lookup path := by
  have idle := AuthClient.next_idle own.idle event
  cases event with
  | connectToServer run url userId nickname token =>
      cases url with
      | none => exact own.confined idle (AuthClient.Confined.of_same rfl rfl)
      | some serverUrl =>
          by_cases untried : trimmed userId = "" ∨ run.databasePath = ""
          · rw [show (ConnectionEvent.connectToServer run (some serverUrl) userId nickname token :
              ConnectionEvent Text).asks = none from if_pos untried]
            have closed : AuthClient.Confined traced.client
                (AuthClient.connectToServer run (some serverUrl) userId nickname token
                  traced.client) :=
              AuthClient.confined_connectToServer run _ untried nickname token
            exact own.confined idle closed
          · rw [show (ConnectionEvent.connectToServer run (some serverUrl) userId nickname token :
              ConnectionEvent Text).asks = some (trimmed userId) from if_neg untried]
            obtain ⟨blank, named⟩ := not_or.mp untried
            obtain ⟨dataDir, isDir, isPath⟩ := ownFile
            have found : dataDir = some directory := by
              refine isDir.resolve_left ?_
              rintro rfl
              exact named isPath
            exact own.connectToServer blank named (found ▸ isPath)
  | disconnectFromServer run =>
      exact own.confined idle (AuthClient.confined_gatewayDisconnect run (Or.inl own.idle))
  | logout run => exact own.confined idle (AuthClient.confined_logout run own.idle)
  | socketConnected run =>
      exact own.confined idle (AuthClient.confined_onSocketConnected run own.idle)
  | socketDisconnected run =>
      have quiet := AuthClient.quiet_onSocketDisconnected run own.idle
      exact own.confined idle (AuthClient.Confined.of_quiet quiet)
  | textMessageReceived run rawData =>
      exact own.confined idle (AuthClient.confined_handleIncomingPacket run own.idle rawData)
  | heartbeatTimeout run => exact own.confined idle (AuthClient.confined_sendPackets _ _)
  | reconnectTimeout run =>
      refine own.confined idle ?_
      simp only [ConnectionEvent.next]
      split
      · generalize firedDef : traced.client.withNetwork _ = fired
        have start : AuthClient.Confined traced.client fired := by
          rw [← firedDef]
          exact AuthClient.Confined.of_same rfl rfl
        have firedIdle : fired.retryHandlers = 0 := by
          rw [← firedDef]
          exact own.idle
        have opened := AuthClient.confined_openSocket run firedIdle
          traced.client.network.serverUrl
        exact (start.trans opened).trans (AuthClient.Confined.of_same rfl rfl)
      · exact AuthClient.Confined.of_same rfl rfl
  | send packets => exact own.confined idle (AuthClient.confined_sendPackets _ _)
  | prepareForShutdown =>
      refine own.confined idle ?_
      simp only [ConnectionEvent.next, AuthClient.prepareForShutdown]
      split
      · exact AuthClient.Confined.of_same rfl rfl
      · exact AuthClient.Confined.of_same rfl rfl

end OwnFileOpen

theorem ownFileOpen_of_reachable : ∀ traced,
    (askedSystem Text databases directory).Reachable traced → OwnFileOpen directory traced := by
  refine System.Reachable.invariant ⟨rfl, nofun, Or.inl rfl⟩ ?_
  intro traced event _ own enabled
  exact (own.next event enabled.1 enabled.2).1

/-- Users with different ids have different files, each a single component of a
path.  The open file belongs to the user whose file was last tried, and no step
changes the file of anybody else. -/
theorem users_keep_their_files (Text : Type) [JsonDocument Text]
    (databases : FiniteMap String AuthStateTable) (directory : String) (traced : AskedClient)
    (reached : (askedSystem Text databases directory).Reachable traced) :
    (∀ userId other, localDatabasePathForUser (some directory) userId =
        localDatabasePathForUser (some directory) other ↔
      trimmed userId = trimmed other ∨ (trimmed userId = "" ∧ trimmed other = "default") ∨
        (trimmed userId = "default" ∧ trimmed other = "")) ∧
    (∀ userId, '/' ∉ (localFileSuffix userId).toList) ∧
    (traced.client.openPath = none ∨ ∃ userId, traced.asked = some userId ∧
      traced.client.openPath = some (localDatabasePathForUser (some directory) userId)) ∧
    ∀ event : ConnectionEvent Text, (askedSystem Text databases directory).enabled traced event →
      ∀ userId, trimmed userId ≠ "" → event.asks.or traced.asked ≠ some (trimmed userId) →
        (event.next traced.client).databases.lookup
            (localDatabasePathForUser (some directory) userId) =
          traced.client.databases.lookup
            (localDatabasePathForUser (some directory) userId) := by
  have own := ownFileOpen_of_reachable traced reached
  refine ⟨localDatabasePathForUser_eq_iff directory, localFileSuffix_no_slash, own.own, ?_⟩
  intro event enabled userId known others
  obtain ⟨after, kept⟩ := own.next event enabled.1 enabled.2
  apply kept
  intro isOpen
  rcases after.own with none | ⟨asked, isAsked, isOwn⟩
  · exact absurd (isOpen.symm.trans none) (Option.some_ne_none _)
  · have clean := after.clean asked isAsked
    have samePath := Option.some.inj (isOpen.symm.trans isOwn)
    rcases (localDatabasePathForUser_eq_iff directory userId asked).mp samePath with
      same | ⟨blank, -⟩ | ⟨-, blank⟩
    · rw [clean.trimmed] at same
      exact others (same ▸ isAsked)
    · exact known blank
    · exact clean.nonempty (clean.trimmed ▸ blank)

end Asked

def aliceOwnRun : AuthRun :=
  { databasePath := localDatabasePathForUser (some "/data") "alice" }

/-- Bob is asked for next, and no directory can be made for his file. -/
def aliceOpens : List (ConnectionEvent ParsedText) :=
  [.connectToServer aliceOwnRun (some ⟨"ws", "//chat"⟩) " alice " "Alice" "",
    .socketConnected aliceOwnRun, .connectToServer {} (some ⟨"ws", "//chat"⟩) "bob" "Bob" ""]

def aliceAnswered : ConnectionEvent ParsedText :=
  .textMessageReceived aliceOwnRun (Packet.makeAck .connectAck "c1" 200 "Connected"
    [("token", .string "t1"), ("userId", .string "alice")]).encode

theorem users_keep_their_files_alice :
    (aliceAnswered.next (aliceOpens.foldl (askedSystem ParsedText ∅ "/data").next
      (askedSystem ParsedText ∅ "/data").initial).client).databases.lookup
        (localDatabasePathForUser (some "/data") "bob") =
    (aliceOpens.foldl (askedSystem ParsedText ∅ "/data").next
      (askedSystem ParsedText ∅ "/data").initial).client.databases.lookup
        (localDatabasePathForUser (some "/data") "bob") := by
  have reached : (askedSystem ParsedText ∅ "/data").Reachable
      (aliceOpens.foldl (askedSystem ParsedText ∅ "/data").next
        (askedSystem ParsedText ∅ "/data").initial) := by
    refine System.Reachable.run aliceOpens _ System.Reachable.initial ?_
    exact ⟨⟨⟨rfl, trivial⟩, some "/data", Or.inr rfl, rfl⟩, ⟨⟨by decide, trivial⟩, trivial⟩,
      ⟨⟨by decide, trivial⟩, none, Or.inl rfl, rfl⟩, trivial⟩
  exact (users_keep_their_files ParsedText ∅ "/data" _ reached).2.2.2 aliceAnswered
    ⟨⟨by decide, trivial⟩, trivial⟩ "bob" (by decide) (by decide)

end ShirohaChat
