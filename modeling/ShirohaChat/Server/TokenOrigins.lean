import ShirohaChat.Server.AuthHandler

/-!
# Where authenticated users come from

As long as nobody else can sign, a token is only as good as the Connect it was
given out for: each user that a token establishes was claimed without one before,
and no link of the chain is longer than a token lives.
-/

set_option autoImplicit false

namespace ShirohaChat

open Transition

/-! ## The signed text of a token -/

theorem not_mem_of_mem_splitOn {byte : UInt8} (bytes : List UInt8) :
    ∀ part ∈ bytes.splitOn byte, byte ∉ part := by
  induction bytes with
  | nil =>
      intro part member
      rw [List.mem_singleton.mp member]
      exact List.not_mem_nil
  | cons first rest ih =>
      intro part member
      rw [List.splitOn_cons_eq_if_modifyHead] at member
      split at member
      · rcases List.mem_cons.mp member with rfl | later
        · exact List.not_mem_nil
        · exact ih part later
      · rename_i other
        cases parts : rest.splitOn byte with
        | nil => exact absurd parts (List.splitOn_ne_nil byte rest)
        | cons head tail =>
            rw [parts, List.modifyHead_cons] at member
            rw [parts] at ih
            rcases List.mem_cons.mp member with rfl | later
            · intro inside
              rcases List.mem_cons.mp inside with same | inside
              · exact other (by simp [same])
              · exact ih head List.mem_cons_self inside
            · exact ih part (List.mem_cons_of_mem _ later)

theorem append_cons_inj {byte : UInt8} {front front' back back' : List UInt8}
    (bare : byte ∉ front) (bare' : byte ∉ front')
    (same : front ++ byte :: back = front' ++ byte :: back') : front = front' ∧ back = back' := by
  have parts := congrArg (List.splitOn byte) same
  rw [List.splitOn_append_cons_self_of_not_mem bare,
    List.splitOn_append_cons_self_of_not_mem bare'] at parts
  have sameFront := (List.cons.inj parts).1
  subst sameFront
  exact ⟨rfl, (List.cons.inj (List.append_cancel_left same)).2⟩

section
variable [JsonDocument (List UInt8)]

namespace JwtManager

def signingInput (issued : Int) (userId : String) : List UInt8 :=
  base64UrlEncode (JsonDocument.toJson header) ++ Base64.ascii '.' ::
    base64UrlEncode (JsonDocument.toJson (claims issued userId jwtTtlSeconds))

end JwtManager

structure AcceptedConnect where
  connectionId : String
  packet : Packet
  time : Int
  userId : String

namespace AcceptedConnect

structure Claimed (connect : AcceptedConnect) : Prop where
  tokenless : connect.packet.text "token" = ""
  named : connect.userId = trimmed (connect.packet.text "userId") ∨
    connect.userId = "anon_" ++ connect.connectionId

end AcceptedConnect

variable (hmacSha256 : List UInt8 → List UInt8 → List UInt8) (secret : List UInt8)

/-- The token that is presented is the one an earlier Connect of the user was
answered with, not too long ago. -/
structure AcceptedConnect.Follows (connect earlier : AcceptedConnect) : Prop where
  token : connect.packet.text "token" =
    JwtManager.issueToken hmacSha256 secret earlier.time earlier.userId jwtTtlSeconds
  sameUser : earlier.userId = connect.userId
  inTime : connect.time ≤ earlier.time + jwtTtlSeconds.toInt + clockSkewToleranceSeconds

/-- Every signature among the presented tokens is one the server has made. -/
def Unforged (accepted : List AcceptedConnect) (packet : Packet) : Prop :=
  ∀ headerB64 payloadB64 signatureB64,
    (toLatin1 (packet.text "token")).splitOn (Base64.ascii '.') =
      [headerB64, payloadB64, signatureB64] →
    signatureB64 = JwtManager.signature hmacSha256 secret headerB64 payloadB64 →
    ∃ earlier ∈ accepted, headerB64 ++ Base64.ascii '.' :: payloadB64 =
      JwtManager.signingInput earlier.time earlier.userId

/-- A valid token is one that was issued to the user it gives, not too long ago. -/
theorem verifyToken_origin {accepted : List AcceptedConnect} {packet : Packet} {now : Int}
    (unforged : Unforged hmacSha256 secret accepted packet)
    (clean : ∀ earlier ∈ accepted, CleanText earlier.userId ∧
      (earlier.time + jwtTtlSeconds.toInt).natAbs < 2 ^ 53)
    (valid : (JwtManager.verifyToken hmacSha256 secret now (packet.text "token")).valid = true) :
    ∃ earlier ∈ accepted,
      packet.text "token" =
        JwtManager.issueToken hmacSha256 secret earlier.time earlier.userId jwtTtlSeconds ∧
      (JwtManager.verifyToken hmacSha256 secret now (packet.text "token")).userId =
        earlier.userId ∧
      now ≤ earlier.time + jwtTtlSeconds.toInt + clockSkewToleranceSeconds := by
  unfold JwtManager.verifyToken at valid ⊢
  split at valid
  · rename_i headerB64 payloadB64 signatureB64 parts
    split at valid
    · exact absurd valid Bool.noConfusion
    rename_i signed
    have signed : signatureB64 = JwtManager.signature hmacSha256 secret headerB64 payloadB64 :=
      not_not.mp signed
    obtain ⟨earlier, member, input⟩ := unforged headerB64 payloadB64 signatureB64 parts signed
    have bare : Base64.ascii '.' ∉ headerB64 :=
      not_mem_of_mem_splitOn _ headerB64 (by rw [parts]; exact List.mem_cons_self)
    obtain ⟨sameHeader, samePayload⟩ := append_cons_inj bare (dot_not_mem_base64UrlEncode _) input
    obtain ⟨cleanUser, exact⟩ := clean earlier member
    have verified := @JwtManager.verifyClaims_claims _ now _ _ cleanUser.nonempty exact
    have issued : packet.text "token" =
        JwtManager.issueToken hmacSha256 secret earlier.time earlier.userId jwtTtlSeconds := by
      apply JwtManager.eq_issueToken
      have joined : [Base64.ascii '.'].intercalate
          ((toLatin1 (packet.text "token")).splitOn (Base64.ascii '.')) =
          toLatin1 (packet.text "token") := List.intercalate_splitOn _
      rw [parts, signed, sameHeader, samePayload] at joined
      rw [JwtManager.issueToken, toLatin1_fromLatin1, ← joined]
      simp [List.intercalate]
    refine ⟨earlier, member, issued, ?_⟩
    simp only [samePayload, base64UrlDecode_base64UrlEncode, JsonDocument.fromJson_toJson,
      verified] at valid
    simp only [signed, samePayload, base64UrlDecode_base64UrlEncode,
      JsonDocument.fromJson_toJson, verified, ne_eq, not_true_eq_false, if_false]
    by_cases expired : now > earlier.time + jwtTtlSeconds.toInt + clockSkewToleranceSeconds
    · rw [if_pos expired] at valid
      exact absurd valid Bool.noConfusion
    · rw [if_neg expired]
      exact ⟨rfl, not_lt.mp expired⟩
  · exact absurd valid Bool.noConfusion

/-! ## Runs -/

/-- `accepted` records the Connects that were answered with 200, the oldest first. -/
structure TracedAuth where
  server : AuthServer
  accepted : List AcceptedConnect

namespace AuthEvent

def acceptedBy (server : AuthServer) : AuthEvent → List AcceptedConnect
  | .connect connectionId packet now _ =>
      match server.sessions.findByConnectionId connectionId with
      | none => []
      | some attached =>
          match AuthHandler.authenticatedUserId hmacSha256 secret now attached.connectionId
            packet with
          | .error _ => []
          | .ok userId => [⟨attached.connectionId, packet, now, userId⟩]
  | .session _ => []

def Authentic (traced : TracedAuth) : AuthEvent → Prop
  | .connect _ packet _ _ => Unforged hmacSha256 secret traced.accepted packet
  | .session _ => True

end AuthEvent

def tracedAuthSystem : System TracedAuth AuthEvent where
  initial := ⟨AuthServer.empty, []⟩
  enabled := fun traced event => event.enabled traced.server
  next := fun traced event => ⟨event.next hmacSha256 secret traced.server,
    traced.accepted ++ event.acceptedBy hmacSha256 secret traced.server⟩

/-- Who an accepted Connect is for, if no signature was forged. -/
theorem authenticatedUserId_origin {accepted : List AcceptedConnect} {packet : Packet}
    {now : Int} {connectionId userId : String}
    (unforged : Unforged hmacSha256 secret accepted packet)
    (clean : ∀ earlier ∈ accepted, CleanText earlier.userId ∧
      (earlier.time + jwtTtlSeconds.toInt).natAbs < 2 ^ 53)
    (authenticated : AuthHandler.authenticatedUserId hmacSha256 secret now connectionId packet =
      .ok userId) :
    AcceptedConnect.Claimed ⟨connectionId, packet, now, userId⟩ ∨
      ∃ earlier ∈ accepted,
        AcceptedConnect.Follows hmacSha256 secret ⟨connectionId, packet, now, userId⟩ earlier := by
  have established : AuthHandler.establishedUserId hmacSha256 secret now connectionId packet =
      .ok userId := by
    unfold AuthHandler.authenticatedUserId at authenticated
    split at authenticated
    · cases authenticated
    split at authenticated
    · cases authenticated
    rename_i established
    split at authenticated
    · cases authenticated
    rw [established]
    exact authenticated
  simp only [AuthHandler.establishedUserId] at established
  split at established
  · split at established
    · cases established
    rename_i valid
    obtain ⟨earlier, member, issued, sameUser, inTime⟩ :=
      verifyToken_origin hmacSha256 secret unforged clean (not_not.mp valid)
    rw [sameUser, (clean earlier member).1.trimmed] at established
    exact Or.inr ⟨earlier, member, issued, Except.ok.inj established, inTime⟩
  rename_i noToken
  have tokenless : packet.text "token" = "" := not_not.mp noToken
  left
  split at established
  · cases established
  split at established
  · exact ⟨tokenless, Or.inl (Except.ok.inj established).symm⟩
  · exact ⟨tokenless, Or.inr (Except.ok.inj established).symm⟩

structure Rooted (traced : TracedAuth) : Prop where
  sessions : CleanSessions traced.server.sessions
  clean : ∀ connect ∈ traced.accepted, CleanText connect.userId ∧
    (connect.time + jwtTtlSeconds.toInt).natAbs < 2 ^ 53
  linked : ∀ before connect after, traced.accepted = before ++ connect :: after →
    connect.Claimed ∨ ∃ earlier ∈ before, connect.Follows hmacSha256 secret earlier
  authenticated : ∀ connectionId session,
    traced.server.sessions.findByConnectionId connectionId = some session →
    session.isAuthenticated = true →
    ∃ connect ∈ traced.accepted, connect.connectionId = connectionId ∧
      connect.userId = session.userId
  answers : traced.server.acks.filter (fun entry => entry.2.code = 200) =
    traced.accepted.map fun connect => (connect.connectionId,
      AuthHandler.connected hmacSha256 secret connect.time connect.packet.msgId connect.userId)

theorem Rooted.refused {traced : TracedAuth} (rooted : Rooted hmacSha256 secret traced)
    {answer : String × Packet} (refused : answer.2.code ≠ 200) :
    Rooted hmacSha256 secret
      ⟨{ traced.server with acks := traced.server.acks ++ [answer] }, traced.accepted⟩ := by
  refine ⟨rooted.sessions, rooted.clean, rooted.linked, rooted.authenticated, ?_⟩
  have skipped : [answer].filter (fun entry => entry.2.code = 200) = [] := by simp [refused]
  show (traced.server.acks ++ [answer]).filter (fun entry => entry.2.code = 200) = _
  rw [List.filter_append, skipped, List.append_nil]
  exact rooted.answers

theorem Rooted.session {traced : TracedAuth} (rooted : Rooted hmacSha256 secret traced)
    (event : SessionEvent) (enabled : (AuthEvent.session event).enabled traced.server) :
    Rooted hmacSha256 secret ⟨AuthEvent.next hmacSha256 secret traced.server (.session event),
      traced.accepted⟩ := by
  refine ⟨?_, rooted.clean, rooted.linked, ?_, rooted.answers⟩
  · refine rooted.sessions.next event enabled.1 ?_
    rintro connectionId now rfl
    exact enabled.2
  · intro connectionId session found isAuthenticated
    rcases session_cases traced.server.sessions event found with ⟨now, rfl, rfl⟩ |
      ⟨before, userId, nickname, old, rfl, rfl⟩ | ⟨before, change, old, quiet, rfl⟩
    · cases isAuthenticated
    · exact absurd enabled.2 not_false
    · obtain ⟨-, sameUser, sameAuth⟩ := quiet.keepsIdentity before
      rw [sameUser]
      rw [sameAuth] at isAuthenticated
      exact rooted.authenticated connectionId before old isAuthenticated

theorem Rooted.accepted {traced : TracedAuth} (rooted : Rooted hmacSha256 secret traced)
    {connectionId userId : String} {packet : Packet} {now : Int}
    {database : Option EnsureUserRun} {session : ClientSession}
    (found : traced.server.sessions.findByConnectionId connectionId = some session)
    (exact : (now + jwtTtlSeconds.toInt).natAbs < 2 ^ 53)
    (unforged : Unforged hmacSha256 secret traced.accepted packet)
    (authenticated : AuthHandler.authenticatedUserId hmacSha256 secret now session.connectionId
      packet = .ok userId) :
    Rooted hmacSha256 secret
      ⟨AuthHandler.handleConnect hmacSha256 secret traced.server now database session packet,
        traced.accepted ++ [⟨session.connectionId, packet, now, userId⟩]⟩ := by
  have ownId := rooted.sessions.wellFormed.ownId connectionId session found
  have cleanId := rooted.sessions.clean connectionId session found
  have cleanUser := established_clean hmacSha256 secret (ownId ▸ cleanId) authenticated
  have origin := authenticatedUserId_origin hmacSha256 secret unforged rooted.clean authenticated
  simp only [AuthHandler.handleConnect, authenticated]
  constructor
  · refine rooted.sessions.next (.connectAccepted session.connectionId userId _) ?_ ?_
    · exact cleanUser.nonempty
    · intro _ _ isNew
      cases isNew
  · intro connect member
    rcases List.mem_append.mp member with old | new
    · exact rooted.clean connect old
    · rw [List.mem_singleton.mp new]
      exact ⟨cleanUser, exact⟩
  · intro before connect after split
    rcases List.eq_nil_or_concat after with rfl | ⟨earlier, last, rfl⟩
    · obtain ⟨rfl, same⟩ := List.append_inj' split rfl
      rw [← List.singleton_inj.mp same]
      exact origin
    · rw [List.concat_eq_append, ← List.cons_append, ← List.append_assoc] at split
      obtain ⟨same, -⟩ := List.append_inj' split rfl
      exact rooted.linked before connect earlier same
  · intro other found' session' isAuthenticated
    rw [SessionManager.findByConnectionId_connectAccepted] at session'
    split at session'
    · rename_i here
      obtain ⟨before, -, rfl⟩ := Option.map_eq_some_iff.mp session'
      refine ⟨_, List.mem_append_right _ (List.mem_singleton.mpr rfl), here.symm, rfl⟩
    · obtain ⟨connect, member, same⟩ := rooted.authenticated other found' session'
        isAuthenticated
      exact ⟨connect, List.mem_append_left _ member, same⟩
  · rw [List.filter_append, rooted.answers, List.map_append]
    rfl

theorem rooted_of_reachable : ∀ traced,
    ((tracedAuthSystem hmacSha256 secret).restrict
      (AuthEvent.Authentic hmacSha256 secret)).Reachable traced →
    Rooted hmacSha256 secret traced := by
  refine System.Reachable.invariant ?_ ?_
  · refine ⟨⟨sessionsWellFormed_empty, nofun⟩, nofun, ?_, nofun, rfl⟩
    intro before connect after split
    exact absurd split.symm (by simp [System.restrict, tracedAuthSystem])
  · intro traced event _ rooted enabled
    show Rooted hmacSha256 secret ⟨event.next hmacSha256 secret traced.server,
      traced.accepted ++ event.acceptedBy hmacSha256 secret traced.server⟩
    cases event with
    | session event =>
        simp only [AuthEvent.acceptedBy, List.append_nil]
        exact rooted.session hmacSha256 secret event enabled.1
    | connect connectionId packet now database =>
        simp only [AuthEvent.next, AuthEvent.acceptedBy]
        cases found : traced.server.sessions.findByConnectionId connectionId with
        | none =>
            simp only [Option.map_none, Option.getD_none, List.append_nil]
            exact rooted
        | some session =>
            simp only [Option.map_some, Option.getD_some]
            cases result : AuthHandler.authenticatedUserId hmacSha256 secret now
                session.connectionId packet with
            | error refusal =>
                simp only [List.append_nil, AuthHandler.handleConnect, result]
                exact rooted.refused hmacSha256 secret (refused_code hmacSha256 secret result)
            | ok userId =>
                exact rooted.accepted hmacSha256 secret found enabled.1 enabled.2 result

/-- The chain of tokens ends at a Connect that claimed the user. -/
theorem Rooted.root {traced : TracedAuth} (rooted : Rooted hmacSha256 secret traced) :
    ∀ length before connect after, before.length < length →
      traced.accepted = before ++ connect :: after →
      ∃ root ∈ before ++ [connect], root.Claimed ∧ root.userId = connect.userId := by
  intro length
  induction length with
  | zero =>
      intro before connect after short
      exact absurd short (Nat.not_lt_zero _)
  | succ length ih =>
      intro before connect after short split
      rcases rooted.linked before connect after split with claimed | ⟨earlier, member, follows⟩
      · exact ⟨connect, List.mem_append_right _ (List.mem_singleton.mpr rfl), claimed, rfl⟩
      · obtain ⟨front, between, rfl⟩ := List.append_of_mem member
        have shorter : front.length < length := by
          rw [List.length_append, List.length_cons] at short
          omega
        obtain ⟨root, rootIn, claimed, sameUser⟩ := ih front earlier
          (between ++ connect :: after) shorter (by rw [split]; simp)
        refine ⟨root, ?_, claimed, sameUser.trans follows.sameUser⟩
        rcases List.mem_append.mp rootIn with inFront | isEarlier
        · simp [inFront]
        · simp [List.mem_singleton.mp isEarlier]

end

/-- If no signature is presented that the server has not made, every accepted Connect
claims its user or presents the token of an earlier one of his while it lives, so
each user was claimed without a token first; and every authenticated session is
one of an accepted Connect.  Tokens are handed out for these only. -/
theorem users_traced_to_claims (hmacSha256 : List UInt8 → List UInt8 → List UInt8)
    [JsonDocument (List UInt8)] (secret : List UInt8) (traced : TracedAuth)
    (reached : ((tracedAuthSystem hmacSha256 secret).restrict
      (AuthEvent.Authentic hmacSha256 secret)).Reachable traced) :
    (∀ before connect after, traced.accepted = before ++ connect :: after →
      (connect.Claimed ∨ ∃ earlier ∈ before, connect.Follows hmacSha256 secret earlier) ∧
      ∃ root ∈ before ++ [connect], root.Claimed ∧ root.userId = connect.userId) ∧
    (∀ connectionId session,
      traced.server.sessions.findByConnectionId connectionId = some session →
      session.isAuthenticated = true →
      ∃ connect ∈ traced.accepted, connect.connectionId = connectionId ∧
        connect.userId = session.userId) ∧
    traced.server.acks.filter (fun entry => entry.2.code = 200) =
      traced.accepted.map fun connect => (connect.connectionId,
        AuthHandler.connected hmacSha256 secret connect.time connect.packet.msgId
          connect.userId) := by
  have rooted := rooted_of_reachable hmacSha256 secret traced reached
  refine ⟨?_, rooted.authenticated, rooted.answers⟩
  intro before connect after split
  exact ⟨rooted.linked before connect after split,
    rooted.root hmacSha256 secret _ before connect after (Nat.lt_succ_self _) split⟩

theorem unforged_issued (hmacSha256 : List UInt8 → List UInt8 → List UInt8)
    [JsonDocument (List UInt8)] (secret : List UInt8) {accepted : List AcceptedConnect}
    {earlier : AcceptedConnect} (member : earlier ∈ accepted) {packet : Packet}
    (presented : packet.text "token" = JwtManager.issueToken hmacSha256 secret earlier.time
      earlier.userId jwtTtlSeconds) : Unforged hmacSha256 secret accepted packet := by
  intro headerB64 payloadB64 signatureB64 parts _
  have bare : Base64.ascii '.' ∉ JwtManager.signature hmacSha256 secret
      (base64UrlEncode (JsonDocument.toJson JwtManager.header))
      (base64UrlEncode (JsonDocument.toJson
        (JwtManager.claims earlier.time earlier.userId jwtTtlSeconds))) :=
    dot_not_mem_base64UrlEncode _
  rw [presented, JwtManager.issueToken, toLatin1_fromLatin1,
    List.splitOn_append_cons_self_of_not_mem (dot_not_mem_base64UrlEncode _),
    List.splitOn_append_cons_self_of_not_mem (dot_not_mem_base64UrlEncode _),
    List.splitOn_eq_singleton bare] at parts
  obtain ⟨rfl, rest⟩ := List.cons.inj parts
  obtain ⟨rfl, -⟩ := List.cons.inj rest
  exact ⟨earlier, member, rfl⟩

def aliceClaimed : AcceptedConnect := ⟨"c1", aliceConnect, 1000, "alice"⟩

noncomputable def aliceReturned : AcceptedConnect := ⟨"c2", tokenConnect, 87460, "alice"⟩

theorem aliceReturned_accepted :
    @AuthEvent.acceptedBy aliceDocument aliceHmac aliceSecret aliceLoggedIn
      (.connect "c2" tokenConnect 87460 none) = [aliceReturned] := by
  have found : aliceLoggedIn.sessions.findByConnectionId "c2" =
      some ⟨"c2", 1, "", "", false, .connected⟩ := rfl
  have valid : @JwtManager.verifyToken aliceHmac aliceDocument aliceSecret 87460 aliceToken =
      ⟨true, "alice", ""⟩ :=
    (@JwtManager.verifyToken_issueToken aliceHmac aliceDocument aliceSecret 1000 87460 "alice"
      jwtTtlSeconds (by decide) (by decide)).trans (if_neg (by decide))
  have clean : CleanText "alice" := ⟨by decide, by decide⟩
  have authenticated := @authenticatedUserId_of_valid aliceHmac aliceDocument aliceSecret 87460
    tokenConnect aliceToken "c2" (by decide) rfl "alice" clean valid
  simp only [AuthEvent.acceptedBy, found, authenticated]
  rfl

noncomputable abbrev aliceSystem : System TracedAuth AuthEvent :=
  (@tracedAuthSystem aliceDocument aliceHmac aliceSecret).restrict
    (@AuthEvent.Authentic aliceDocument aliceHmac aliceSecret)

theorem aliceClaimed_enabled : aliceSystem.Enabled aliceSystem.initial aliceHandshake := by
  have inRange : (1000 + jwtTtlSeconds.toInt).natAbs < 2 ^ 53 := by decide
  refine ⟨⟨?_, trivial⟩, ⟨inRange, ?_⟩, ⟨?_, trivial⟩, trivial⟩
  · exact ⟨⟨by decide, rfl⟩, ⟨by decide, by decide⟩⟩
  · intro headerB64 payloadB64 signatureB64 parts
    have noParts : (toLatin1 (aliceConnect.text "token")).splitOn (Base64.ascii '.') = [[]] := by
      decide
    rw [noParts] at parts
    cases parts
  · exact ⟨⟨by decide, rfl⟩, ⟨by decide, by decide⟩⟩

theorem aliceClaimed_reachable : aliceSystem.Reachable ⟨aliceLoggedIn, [aliceClaimed]⟩ := by
  have isState : aliceHandshake.foldl aliceSystem.next aliceSystem.initial =
      ⟨aliceLoggedIn, [aliceClaimed]⟩ := rfl
  rw [← isState]
  exact System.Reachable.run aliceHandshake _ System.Reachable.initial aliceClaimed_enabled

theorem users_traced_to_claims_alice :
    (aliceReturned.Claimed ∨ ∃ earlier ∈ [aliceClaimed],
      @AcceptedConnect.Follows aliceDocument aliceHmac aliceSecret aliceReturned earlier) ∧
      ∃ root ∈ [aliceClaimed] ++ [aliceReturned], root.Claimed ∧
        root.userId = aliceReturned.userId := by
  have inRange : (87460 + jwtTtlSeconds.toInt).natAbs < 2 ^ 53 := by decide
  have unforged := @unforged_issued aliceHmac aliceDocument aliceSecret [aliceClaimed]
    aliceClaimed (List.mem_singleton.mpr rfl) tokenConnect rfl
  have enabled : aliceSystem.enabled ⟨aliceLoggedIn, [aliceClaimed]⟩
      (.connect "c2" tokenConnect 87460 none) := ⟨inRange, unforged⟩
  have returned := System.Reachable.step _ aliceClaimed_reachable enabled
  have traced := (@users_traced_to_claims aliceHmac aliceDocument aliceSecret _ returned).1
    [aliceClaimed] aliceReturned []
  exact traced (congrArg ([aliceClaimed] ++ ·) aliceReturned_accepted)

end ShirohaChat
