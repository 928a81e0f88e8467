import ShirohaChat.Server.JwtManager
import ShirohaChat.Server.ManagementHandlers
import ShirohaChat.Server.SessionRuns
import ShirohaChat.Server.Users
import ShirohaChat.Shared.JsonTexts

/-!
# The handshake

A Connect establishes a user id, from its token or else from what it claims, and
is answered with a token for that user.  The runs record the answers, so that a
later Connect can present what an earlier one was given.
-/

set_option autoImplicit false

namespace ShirohaChat

open Transition

/-- `Protocol::kMinSupported`. -/
def protocolMinSupported : String := "1.2"

def Packet.isCompatibleVersion (packet : Packet) : Bool :=
  !qLess packet.protocolVersion protocolMinSupported

/-- `Config::Auth::ANONYMOUS_ENABLED`. -/
def anonymousEnabled : Bool := true

/-- `acks` holds what was passed to `sendPacket`, with the connection. -/
structure AuthServer where
  sessions : SessionManager
  users : UserTable
  acks : List (String × Packet)

def AuthServer.empty : AuthServer := ⟨SessionManager.empty, RowTable.empty, []⟩

namespace AuthHandler

section
variable (hmacSha256 : List UInt8 → List UInt8 → List UInt8) [JsonDocument (List UInt8)]
  (secret : List UInt8)

/-- The user id of the token, or else the one that is claimed or generated. -/
def establishedUserId (now : Int) (connectionId : String) (packet : Packet) :
    Except Refusal String :=
  let payloadUserId := trimmed (packet.text "userId")
  let token := packet.text "token"
  if token ≠ "" then
    let result := JwtManager.verifyToken hmacSha256 secret now token
    if ¬ result.valid then .error ⟨401, "Invalid token: " ++ result.errorMessage⟩
    else .ok (trimmed result.userId)
  else if ¬ anonymousEnabled then .error ⟨401, "Authentication required"⟩
  else if payloadUserId ≠ "" then .ok payloadUserId
  else .ok ("anon_" ++ connectionId)

/-- The part of `handleConnect` before the users table is asked. -/
def authenticatedUserId (now : Int) (connectionId : String) (packet : Packet) :
    Except Refusal String :=
  if ¬ packet.isCompatibleVersion then
    .error ⟨426, "Unsupported protocolVersion: " ++ packet.protocolVersion ++ " (min: " ++
      protocolMinSupported ++ ")"⟩
  else
    match establishedUserId hmacSha256 secret now connectionId packet with
    | .error refusal => .error refusal
    | .ok userId => if userId = "" then .error ⟨401, "Invalid userId"⟩ else .ok userId

def nickname (packet : Packet) : String :=
  let asked := trimmed ((jsonString (packet.payload.value "nickname")).getD "Anonymous")
  if asked = "" then "Anonymous" else asked

/-- `database` is missing when no `ServerDB` is set. -/
def storedNickname (users : UserTable) (database : Option EnsureUserRun)
    (userId nickname : String) : UserTable × String :=
  match database with
  | none => (users, nickname)
  | some run =>
      let ensured := ensureUserAndGetNickname users run userId nickname
      (ensured.1, if ensured.2 = "" then nickname else ensured.2)

def connected (now : Int) (msgId userId : String) : Packet :=
  Packet.makeAck .connectAck msgId 200 "Connected"
    [("token", .string (JwtManager.issueToken hmacSha256 secret now userId jwtTtlSeconds)),
      ("userId", .string userId)]

def handleConnect (server : AuthServer) (now : Int) (database : Option EnsureUserRun)
    (session : ClientSession) (packet : Packet) : AuthServer :=
  match authenticatedUserId hmacSha256 secret now session.connectionId packet with
  | .error refusal =>
      let ack := Packet.makeAck .connectAck packet.msgId refusal.code refusal.message []
      { server with acks := server.acks ++ [(session.connectionId, ack)] }
  | .ok userId =>
      let stored := storedNickname server.users database userId (nickname packet)
      { sessions := server.sessions.connectAccepted session.connectionId userId stored.2
        users := stored.1
        acks := server.acks ++
          [(session.connectionId, connected hmacSha256 secret now packet.msgId userId)] }

end
end AuthHandler

/-! ## Ids without surrounding spaces -/

theorem cleanText_anon {connectionId : String} (clean : CleanText connectionId) :
    CleanText ("anon_" ++ connectionId) := by
  have ownNonempty : connectionId.toList ≠ [] :=
    fun blank => clean.nonempty (String.toList_inj.mp blank)
  have own : (connectionId.toList.dropWhile isSpace).rdropWhile isSpace = connectionId.toList := by
    have kept := congrArg String.toList clean.trimmed
    rw [trimmed, String.toList_ofList] at kept
    exact kept
  have endsBare : connectionId.toList.rdropWhile isSpace = connectionId.toList := by
    rw [← own, List.rdropWhile_idempotent]
  rw [List.rdropWhile_eq_self_iff] at endsBare
  have nonempty : "anon_" ++ connectionId ≠ "" := by
    intro blank
    have noChars := congrArg String.toList blank
    rw [String.toList_append] at noChars
    cases noChars
  refine ⟨nonempty, ?_⟩
  have startsBare : ("anon_" ++ connectionId).toList.dropWhile isSpace =
      ("anon_" ++ connectionId).toList := by
    rw [String.toList_append]
    rfl
  have whole : ("anon_" ++ connectionId).toList.rdropWhile isSpace =
      ("anon_" ++ connectionId).toList := by
    rw [List.rdropWhile_eq_self_iff, String.toList_append]
    intro nonempty
    rw [List.getLast_append_of_ne_nil _ ownNonempty]
    exact endsBare ownNonempty
  unfold trimmed
  rw [startsBare]
  exact (congrArg String.ofList whole).trans String.ofList_toList

structure CleanSessions (manager : SessionManager) : Prop where
  wellFormed : SessionsWellFormed manager
  clean : ∀ connectionId session,
    manager.findByConnectionId connectionId = some session → CleanText connectionId

theorem CleanSessions.next {manager : SessionManager} (sessions : CleanSessions manager)
    (event : SessionEvent) (enabled : event.enabled manager)
    (generated : ∀ connectionId now, event = .newConnection connectionId now →
      CleanText connectionId) : CleanSessions (event.next manager) := by
  refine ⟨sessions.wellFormed.step event enabled, ?_⟩
  intro connectionId session found
  rcases session_cases manager event found with ⟨now, isNew, rfl⟩ |
    ⟨before, userId, nickname, old, -, rfl⟩ | ⟨before, change, old, quiet, rfl⟩
  · exact generated connectionId now isNew
  · exact sessions.clean connectionId before old
  · exact sessions.clean connectionId before old

/-! ## Runs -/

inductive AuthEvent where
  | connect (connectionId : String) (packet : Packet) (now : Int)
      (database : Option EnsureUserRun)
  | session (event : SessionEvent)

section
variable (hmacSha256 : List UInt8 → List UInt8 → List UInt8) [JsonDocument (List UInt8)]
  (secret : List UInt8)

namespace AuthEvent

/-- Connection ids are generated texts.  Sessions are authenticated by packets
only, and their times are within the exact range of a double. -/
def enabled (server : AuthServer) : AuthEvent → Prop
  | .connect _ _ now _ => (now + jwtTtlSeconds.toInt).natAbs < 2 ^ 53
  | .session event => event.enabled server.sessions ∧
      match event with
      | .newConnection connectionId _ => CleanText connectionId
      | .connectAccepted _ _ _ => False
      | _ => True

def next (server : AuthServer) : AuthEvent → AuthServer
  | .connect connectionId packet now database =>
      ((server.sessions.findByConnectionId connectionId).map fun session =>
        AuthHandler.handleConnect hmacSha256 secret server now database session packet).getD server
  | .session event => { server with sessions := event.next server.sessions }

end AuthEvent

def authSystem : System AuthServer AuthEvent where
  initial := AuthServer.empty
  enabled := AuthEvent.enabled
  next := AuthEvent.next hmacSha256 secret

/-! ## What a Connect establishes -/

theorem established_refusal {now : Int} {connectionId : String} {packet : Packet}
    {refusal : Refusal}
    (failed : AuthHandler.establishedUserId hmacSha256 secret now connectionId packet =
      .error refusal) : refusal.code = 401 := by
  simp only [AuthHandler.establishedUserId] at failed
  split at failed
  · split at failed
    · rw [← Except.error.inj failed]
    · cases failed
  split at failed
  · rw [← Except.error.inj failed]
  split at failed <;> cases failed

theorem refused_code_of_compatible {now : Int} {connectionId : String} {packet : Packet}
    {refusal : Refusal} (compatible : packet.isCompatibleVersion = true)
    (refused : AuthHandler.authenticatedUserId hmacSha256 secret now connectionId packet =
      .error refusal) : refusal.code = 401 := by
  rw [AuthHandler.authenticatedUserId, if_neg (not_not_intro compatible)] at refused
  split at refused
  · rename_i failed
    rw [← Except.error.inj refused]
    exact established_refusal hmacSha256 secret failed
  split at refused
  · rw [← Except.error.inj refused]
  · cases refused

theorem refused_code {now : Int} {connectionId : String} {packet : Packet} {refusal : Refusal}
    (refused : AuthHandler.authenticatedUserId hmacSha256 secret now connectionId packet =
      .error refusal) : refusal.code ≠ 200 := by
  by_cases compatible : packet.isCompatibleVersion = true
  · rw [refused_code_of_compatible hmacSha256 secret compatible refused]
    decide
  · rw [AuthHandler.authenticatedUserId, if_pos compatible] at refused
    rw [← Except.error.inj refused]
    exact (by decide : (426 : Int32) ≠ 200)

theorem established_clean {now : Int} {connectionId : String} {packet : Packet}
    {userId : String} (clean : CleanText connectionId)
    (authenticated : AuthHandler.authenticatedUserId hmacSha256 secret now connectionId packet =
      .ok userId) : CleanText userId := by
  have whenEstablished : ∀ userId, userId ≠ "" →
      AuthHandler.establishedUserId hmacSha256 secret now connectionId packet = .ok userId →
        CleanText userId := by
    intro userId nonempty established
    simp only [AuthHandler.establishedUserId] at established
    split at established
    · split at established
      · cases established
      · rw [← Except.ok.inj established] at nonempty ⊢
        exact cleanText_trimmed nonempty
    split at established
    · cases established
    split at established
    · rw [← Except.ok.inj established] at nonempty ⊢
      exact cleanText_trimmed nonempty
    · rw [← Except.ok.inj established]
      exact cleanText_anon clean
  unfold AuthHandler.authenticatedUserId at authenticated
  split at authenticated
  · cases authenticated
  split at authenticated
  · cases authenticated
  rename_i established
  split at authenticated
  · cases authenticated
  rename_i nonempty
  rw [← Except.ok.inj authenticated]
  exact whenEstablished _ nonempty established

theorem authenticatedUserId_of_valid {now : Int} {packet : Packet} {token : String}
    (connectionId : String) (compatible : packet.isCompatibleVersion = true)
    (presented : packet.payload.value "token" = some (.string token)) {userId : String}
    (clean : CleanText userId)
    (valid : JwtManager.verifyToken hmacSha256 secret now token = ⟨true, userId, ""⟩) :
    AuthHandler.authenticatedUserId hmacSha256 secret now connectionId packet = .ok userId := by
  have isToken : packet.text "token" = token := by
    rw [Packet.text, presented]
    rfl
  have nonempty : token ≠ "" := by
    intro blank
    rw [blank] at valid
    cases valid
  have established : AuthHandler.establishedUserId hmacSha256 secret now connectionId packet =
      .ok userId := by
    simp only [AuthHandler.establishedUserId, isToken, valid, clean.trimmed]
    rw [if_pos nonempty]
    rfl
  rw [AuthHandler.authenticatedUserId, if_neg (not_not_intro compatible), established]
  exact if_neg clean.nonempty

/-! ## What holds in every run -/

structure TokensOwn (server : AuthServer) : Prop where
  sessions : CleanSessions server.sessions
  own : ∀ entry ∈ server.acks, entry.2.code = 200 →
    ∃ now msgId userId, entry.2 = AuthHandler.connected hmacSha256 secret now msgId userId ∧
      CleanText userId ∧ (now + jwtTtlSeconds.toInt).natAbs < 2 ^ 53

theorem TokensOwn.handleConnect {server : AuthServer} (own : TokensOwn hmacSha256 secret server)
    {now : Int} (exact : (now + jwtTtlSeconds.toInt).natAbs < 2 ^ 53)
    (database : Option EnsureUserRun) {session : ClientSession}
    (clean : CleanText session.connectionId) (packet : Packet) :
    TokensOwn hmacSha256 secret
      (AuthHandler.handleConnect hmacSha256 secret server now database session packet) := by
  unfold AuthHandler.handleConnect
  cases result : AuthHandler.authenticatedUserId hmacSha256 secret now session.connectionId
      packet with
  | error refusal =>
      refine ⟨own.sessions, ?_⟩
      intro entry member accepted
      rcases List.mem_append.mp member with old | new
      · exact own.own entry old accepted
      · rw [List.mem_singleton.mp new] at accepted
        exact absurd accepted (refused_code hmacSha256 secret result)
  | ok userId =>
      have cleanUser := established_clean hmacSha256 secret clean result
      constructor
      · apply own.sessions.next (.connectAccepted session.connectionId userId _)
        · exact cleanUser.nonempty
        · exact fun _ _ isNew => nomatch isNew
      · intro entry member accepted
        rcases List.mem_append.mp member with old | new
        · exact own.own entry old accepted
        · rw [List.mem_singleton.mp new]
          exact ⟨now, packet.msgId, userId, rfl, cleanUser, exact⟩

theorem TokensOwn.next {server : AuthServer} (own : TokensOwn hmacSha256 secret server)
    (event : AuthEvent) (enabled : event.enabled server) :
    TokensOwn hmacSha256 secret (event.next hmacSha256 secret server) := by
  cases event with
  | session event =>
      refine ⟨own.sessions.next event enabled.1 ?_, own.own⟩
      intro connectionId now isNew
      subst isNew
      exact enabled.2
  | connect connectionId packet now database =>
      rw [AuthEvent.next]
      cases found : server.sessions.findByConnectionId connectionId with
      | none => exact own
      | some session =>
          have ownId := own.sessions.wellFormed.ownId connectionId session found
          have clean := own.sessions.clean connectionId session found
          exact own.handleConnect hmacSha256 secret enabled database (ownId ▸ clean) packet

theorem tokensOwn_of_reachable : ∀ server, (authSystem hmacSha256 secret).Reachable server →
    TokensOwn hmacSha256 secret server := by
  apply System.Reachable.invariant
  · refine ⟨⟨sessionsWellFormed_empty, ?_⟩, ?_⟩
    · intro connectionId session found
      cases found
    · intro entry member
      cases member
  · intro server event _ own enabled
    exact own.next hmacSha256 secret event enabled

end

/-! ## Tokens identify their user -/

/-- An issued token is accepted until its lifetime and the tolerated skew are over, and
gives its user. -/
theorem verifyToken_issueToken_valid (hmacSha256 : List UInt8 → List UInt8 → List UInt8)
    [JsonDocument (List UInt8)] (secret : List UInt8) {userId : String} {ttlSec : Int32}
    {issued : Int} (known : userId ≠ "") (exact : (issued + ttlSec.toInt).natAbs < 2 ^ 53)
    (now : Int) :
    let result := JwtManager.verifyToken hmacSha256 secret now
      (JwtManager.issueToken hmacSha256 secret issued userId ttlSec)
    (result.valid = true ↔ now ≤ issued + ttlSec.toInt + clockSkewToleranceSeconds) ∧
      (result.valid = true → result.userId = userId) := by
  rw [JwtManager.verifyToken_issueToken hmacSha256 secret known exact]
  by_cases expired : now > issued + ttlSec.toInt + clockSkewToleranceSeconds
  · rw [if_pos expired]
    have invalid : ¬ (VerifyResult.invalid "Token has expired").valid = true := nofun
    exact ⟨⟨fun valid => absurd valid invalid, fun inTime => absurd inTime (by omega)⟩,
      fun valid => absurd valid invalid⟩
  · rw [if_neg expired]
    exact ⟨⟨fun _ => by omega, fun _ => rfl⟩, fun _ => rfl⟩

theorem connect_with_issued_token (hmacSha256 : List UInt8 → List UInt8 → List UInt8)
    [JsonDocument (List UInt8)] (secret : List UInt8) {server : AuthServer}
    (wellFormed : SessionsWellFormed server.sessions) {owner : String} (clean : CleanText owner)
    {issued now : Int} (exact : (issued + jwtTtlSeconds.toInt).natAbs < 2 ^ 53)
    {connectionId : String} {session : ClientSession} {packet : Packet}
    {database : Option EnsureUserRun}
    (found : server.sessions.findByConnectionId connectionId = some session)
    (compatible : packet.isCompatibleVersion = true)
    (presented : packet.payload.value "token" = some (.string
      (JwtManager.issueToken hmacSha256 secret issued owner jwtTtlSeconds)))
    (valid : (JwtManager.verifyToken hmacSha256 secret now
      (JwtManager.issueToken hmacSha256 secret issued owner jwtTtlSeconds)).valid = true) :
    ∃ authenticated, ((AuthEvent.connect connectionId packet now database).next
        hmacSha256 secret server).sessions.findByConnectionId connectionId =
          some authenticated ∧
      authenticated.isAuthenticated = true ∧ authenticated.userId = owner := by
  have verified : JwtManager.verifyToken hmacSha256 secret now
      (JwtManager.issueToken hmacSha256 secret issued owner jwtTtlSeconds) = _ :=
    JwtManager.verifyToken_issueToken hmacSha256 secret clean.nonempty exact
  by_cases expired : now > issued + jwtTtlSeconds.toInt + clockSkewToleranceSeconds
  · rw [if_pos expired] at verified
    rw [verified] at valid
    cases valid
  · rw [if_neg expired] at verified
    have established := authenticatedUserId_of_valid hmacSha256 secret session.connectionId
      compatible presented clean verified
    have ownId := wellFormed.ownId connectionId session found
    rw [AuthEvent.next, found, Option.map_some, Option.getD_some, AuthHandler.handleConnect,
      established]
    refine ⟨session.markAuthenticated owner
      (AuthHandler.storedNickname server.users database owner (AuthHandler.nickname packet)).2,
      ?_, rfl, rfl⟩
    refine (SessionManager.findByConnectionId_connectAccepted _ _ _ _ _).trans ?_
    rw [ownId, if_pos rfl, found]
    rfl

/-- A token is accepted until its lifetime and the tolerated skew are over, and
gives its user.  A Connect that presents a valid one given out earlier
authenticates as the user it was given to. -/
theorem issued_token_authenticates (hmacSha256 : List UInt8 → List UInt8 → List UInt8)
    [JsonDocument (List UInt8)] (secret : List UInt8) :
    (∀ (userId : String) (ttlSec : Int32) (issued now : Int), userId ≠ "" →
      (issued + ttlSec.toInt).natAbs < 2 ^ 53 →
        let result := JwtManager.verifyToken hmacSha256 secret now
          (JwtManager.issueToken hmacSha256 secret issued userId ttlSec)
        (result.valid = true ↔ now ≤ issued + ttlSec.toInt + clockSkewToleranceSeconds) ∧
        (result.valid = true → result.userId = userId)) ∧
    ∀ server, (authSystem hmacSha256 secret).Reachable server →
      ∀ entry ∈ server.acks, entry.2.code = 200 →
        ∀ token userId, entry.2.payload.value "token" = some (.string token) →
          entry.2.payload.value "userId" = some (.string userId) →
            ∀ connectionId session packet now database,
              server.sessions.findByConnectionId connectionId = some session →
              packet.isCompatibleVersion = true →
              packet.payload.value "token" = some (.string token) →
              (JwtManager.verifyToken hmacSha256 secret now token).valid = true →
                ∃ authenticated, ((AuthEvent.connect connectionId packet now database).next
                    hmacSha256 secret server).sessions.findByConnectionId connectionId =
                      some authenticated ∧
                  authenticated.isAuthenticated = true ∧ authenticated.userId = userId := by
  constructor
  · intro userId ttlSec issued now known exact
    exact verifyToken_issueToken_valid hmacSha256 secret known exact now
  · intro server reached entry member accepted token userId hasToken hasUser connectionId session
      packet now database found compatible presented valid
    have own := tokensOwn_of_reachable hmacSha256 secret server reached
    obtain ⟨issued, msgId, owner, isConnected, clean, exact⟩ := own.own entry member accepted
    rw [isConnected] at hasToken hasUser
    obtain rfl : owner = userId := by
      cases hasUser
      rfl
    obtain rfl : JwtManager.issueToken hmacSha256 secret issued owner jwtTtlSeconds = token := by
      cases hasToken
      rfl
    exact connect_with_issued_token hmacSha256 secret own.sessions.wellFormed clean exact found
      compatible presented valid

def aliceSecret : List UInt8 := "unit-test-secret".toList.map Base64.ascii

def aliceHmac : List UInt8 → List UInt8 → List UInt8 := fun _ _ =>
  [112, 149, 218, 44, 226, 86, 51, 238, 0, 155, 211, 148, 91, 233, 45, 35, 210, 4, 29, 72, 78, 51,
    201, 24, 189, 58, 217, 243, 245, 80, 23, 135]

def aliceTexts : List (QJsonObject × List UInt8) :=
  [(JwtManager.header, "\x7b\"alg\":\"HS256\",\"typ\":\"JWT\"\x7d".toList.map Base64.ascii),
    (JwtManager.claims 1000 "alice" jwtTtlSeconds,
      "\x7b\"exp\":87400,\"iat\":1000,\"sub\":\"alice\"\x7d".toList.map Base64.ascii)]

noncomputable abbrev aliceDocument : JsonDocument (List UInt8) :=
  JsonDocument.ofInjective (writeChosen aliceTexts) <| by
    apply writeChosen_injective
    · simp only [aliceTexts, List.forall_mem_cons]
      refine ⟨⟨fun _ => trivial, fun same => absurd same (by decide), nofun⟩,
        ⟨fun same => absurd same (by decide), fun _ => trivial, nofun⟩, nofun⟩
    · simp only [aliceTexts, List.forall_mem_cons]
      exact ⟨by decide, by decide, nofun⟩

noncomputable def aliceToken : String :=
  @JwtManager.issueToken aliceHmac aliceDocument aliceSecret 1000 "alice" jwtTtlSeconds

def aliceConnect : Packet :=
  { cmd := .connect, msgId := "m1", payload := [("userId", .string " alice ")] }

/-- Somebody else's id with alice's token. -/
noncomputable def tokenConnect : Packet :=
  { cmd := .connect, msgId := "m2"
    payload := [("userId", .string "mallory"), ("token", .string aliceToken)] }

def aliceHandshake : List AuthEvent :=
  [.session (.newConnection "c1" 0), .connect "c1" aliceConnect 1000 (some {}),
    .session (.newConnection "c2" 1)]

noncomputable def aliceLoggedIn : AuthServer :=
  aliceHandshake.foldl (@AuthEvent.next aliceHmac aliceDocument aliceSecret) AuthServer.empty

theorem aliceLoggedIn_reachable :
    (@authSystem aliceHmac aliceDocument aliceSecret).Reachable aliceLoggedIn := by
  refine System.Reachable.run aliceHandshake _ System.Reachable.initial ?_
  have inRange : (1000 + jwtTtlSeconds.toInt).natAbs < 2 ^ 53 := by decide
  exact ⟨⟨⟨by decide, rfl⟩, ⟨by decide, by decide⟩⟩, inRange,
    ⟨⟨by decide, rfl⟩, ⟨by decide, by decide⟩⟩, trivial⟩

theorem issued_token_authenticates_alice :
    (@JwtManager.verifyToken aliceHmac aliceDocument aliceSecret 87460 aliceToken).valid = true ∧
      ∃ authenticated,
        (@AuthEvent.next aliceHmac aliceDocument aliceSecret aliceLoggedIn
          (.connect "c2" tokenConnect 87460 none)).sessions.findByConnectionId "c2" =
            some authenticated ∧
        authenticated.isAuthenticated = true ∧ authenticated.userId = "alice" := by
  obtain ⟨verified, authenticates⟩ :=
    @issued_token_authenticates aliceHmac aliceDocument aliceSecret
  have valid := (verified "alice" jwtTtlSeconds 1000 87460 (by decide) (by decide)).1.mpr
    (by decide)
  refine ⟨valid, ?_⟩
  refine authenticates aliceLoggedIn aliceLoggedIn_reachable
    ("c1", @AuthHandler.connected aliceHmac aliceDocument aliceSecret 1000 "m1" "alice") ?_ rfl
    aliceToken "alice" rfl rfl "c2" ⟨"c2", 1, "", "", false, .connected⟩ tokenConnect 87460 none
    ?_ (by decide) rfl valid
  · exact List.mem_singleton.mpr rfl
  · rfl

end ShirohaChat
