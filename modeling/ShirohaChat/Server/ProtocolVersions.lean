import ShirohaChat.Lib.Decimals
import ShirohaChat.Server.AuthHandler

/-!
# Protocol versions

The handshake compares versions as texts.  Where the parts are single digits
this is the order of the numbers; a minor version of more digits that starts
with a 1 is taken for one below the minimum.
-/

set_option autoImplicit false

namespace ShirohaChat

open CodeUnits Decimals

def versionText (major minor : Nat) : String := toString major ++ "." ++ toString minor

def versionMinSupported : Nat × Nat := (1, 2)

def VersionBefore (version least : Nat × Nat) : Prop :=
  version.1 < least.1 ∨ (version.1 = least.1 ∧ version.2 < least.2)

def VersionRefused (server after : AuthServer) (connectionId : String) (packet : Packet) :
    Prop :=
  ∃ message, after = { server with
    acks := server.acks ++
      [(connectionId, Packet.makeAck .connectAck packet.msgId 426 message [])] }

/-! ## The order of the texts -/

theorem versionText_toList (major minor : Nat) :
    (versionText major minor).toList = dotted major minor := by
  rw [versionText, String.toList_append, String.toList_append]
  simp only [dotted, Nat.toString_eq_ofList_toDigits, String.toList_ofList, List.append_assoc]
  rfl

theorem utf16_versionText (major minor : Nat) :
    utf16 (versionText major minor).toList = (dotted major minor).map Char.toNat := by
  rw [versionText_toList]
  refine utf16_of_basic fun character member => ?_
  have ascii := dotted_ascii character member
  omega

theorem protocolMinSupported_eq :
    protocolMinSupported = versionText versionMinSupported.1 versionMinSupported.2 := by
  decide

/-- The minor versions that start with a 1: 10 to 19, 100 to 199 and so on. -/
def StartsWithOne (minor : Nat) : Prop :=
  ∃ power, 0 < power ∧ 10 ^ power ≤ minor ∧ minor < 2 * 10 ^ power

theorem leadingDigit_lt_two_iff (minor : Nat) :
    leadingDigit minor < 2 ↔ minor < 2 ∨ StartsWithOne minor := by
  have zero := leadingDigit_eq_zero_iff minor
  have one := leadingDigit_eq_iff (by decide : 0 < 1) (by decide) minor
  constructor
  · intro small
    by_cases isZero : leadingDigit minor = 0
    · exact .inl (by omega)
    · obtain ⟨power, atLeast, below⟩ := one.mp (by omega)
      cases power with
      | zero => exact .inl (by omega)
      | succ power => exact .inr ⟨power + 1, by omega, by omega, by omega⟩
  · rintro (small | ⟨power, -, atLeast, below⟩)
    · rw [leadingDigit_of_lt (by omega)]
      exact small
    · have isOne := one.mpr ⟨power, by omega, by omega⟩
      omega

theorem incompatible_iff {packet : Packet} {major minor : Nat}
    (version : packet.protocolVersion = versionText major minor) :
    packet.isCompatibleVersion = false ↔
      VersionBefore (major, minor) versionMinSupported ∨ (major = 1 ∧ StartsWithOne minor) := by
  have texts : packet.isCompatibleVersion = false ↔
      leadingDigit major < 1 ∨ (major = 1 ∧ leadingDigit minor < 2) := by
    rw [Packet.isCompatibleVersion, version, protocolMinSupported_eq, Bool.not_eq_false', qLess,
      decide_eq_true_eq, utf16_versionText, utf16_versionText]
    exact dotted_lt_iff (by decide) (by decide) major minor
  have zero := leadingDigit_eq_zero_iff major
  rw [texts, leadingDigit_lt_two_iff, VersionBefore, versionMinSupported]
  constructor
  · rintro (below | ⟨same, small | startsWithOne⟩)
    · exact .inl (.inl (by omega))
    · exact .inl (.inr ⟨same, small⟩)
    · exact .inr ⟨same, startsWithOne⟩
  · rintro ((below | ⟨same, small⟩) | ⟨same, startsWithOne⟩)
    · exact .inl (by omega)
    · exact .inr ⟨same, .inl small⟩
    · exact .inr ⟨same, .inr startsWithOne⟩

/-! ## The handshake -/

section
variable (hmacSha256 : List UInt8 → List UInt8 → List UInt8) [JsonDocument (List UInt8)]
  (secret : List UInt8)

theorem handleConnect_of_incompatible (server : AuthServer) (now : Int)
    (database : Option EnsureUserRun) (session : ClientSession) {packet : Packet}
    (incompatible : packet.isCompatibleVersion = false) :
    VersionRefused server
      (AuthHandler.handleConnect hmacSha256 secret server now database session packet)
      session.connectionId packet := by
  rw [AuthHandler.handleConnect, AuthHandler.authenticatedUserId,
    if_pos (by rw [incompatible]; exact Bool.false_ne_true)]
  exact ⟨_, rfl⟩

theorem handleConnect_of_compatible (server : AuthServer) (now : Int)
    (database : Option EnsureUserRun) (session : ClientSession) {packet : Packet}
    (compatible : packet.isCompatibleVersion = true) :
    ¬ VersionRefused server
      (AuthHandler.handleConnect hmacSha256 secret server now database session packet)
      session.connectionId packet := by
  rintro ⟨message, answered⟩
  have acks := congrArg AuthServer.acks answered
  unfold AuthHandler.handleConnect at acks
  split at acks
  · rename_i refusal refused
    have upgrade : refusal.code = 426 := congrArg (fun entry => entry.2.code)
      (List.singleton_inj.mp (List.append_cancel_left acks))
    rw [refused_code_of_compatible hmacSha256 secret compatible refused] at upgrade
    exact absurd upgrade (by decide)
  · have upgrade : (200 : Int32) = 426 := congrArg (fun entry => entry.2.code)
      (List.singleton_inj.mp (List.append_cancel_left acks))
    exact absurd upgrade (by decide)

theorem handleConnect_versionRefused_iff (server : AuthServer) (now : Int)
    (database : Option EnsureUserRun) (session : ClientSession) (packet : Packet)
    (major minor : Nat) (version : packet.protocolVersion = versionText major minor) :
    VersionRefused server
        (AuthHandler.handleConnect hmacSha256 secret server now database session packet)
        session.connectionId packet ↔
      VersionBefore (major, minor) versionMinSupported ∨ (major = 1 ∧ StartsWithOne minor) := by
  rw [← incompatible_iff version]
  cases compatible : packet.isCompatibleVersion with
  | false =>
      exact iff_of_true
        (handleConnect_of_incompatible hmacSha256 secret server now database session compatible)
        rfl
  | true =>
      exact iff_of_false
        (handleConnect_of_compatible hmacSha256 secret server now database session compatible)
        (fun same => absurd same (by decide))

end

/-! ## A tenth minor version -/

def laterConnect : Packet :=
  { cmd := .connect, msgId := "m1", protocolVersion := "1.10"
    payload := [("userId", .string "alice")] }

theorem handleConnect_versionRefused_iff_later :
    VersionRefused AuthServer.empty
        (@AuthHandler.handleConnect aliceHmac aliceDocument aliceSecret AuthServer.empty 1000 none
          ⟨"c1", 0, "", "", false, .connected⟩ laterConnect) "c1" laterConnect ↔
      VersionBefore (1, 10) versionMinSupported ∨ (1 = 1 ∧ StartsWithOne 10) :=
  @handleConnect_versionRefused_iff aliceHmac aliceDocument aliceSecret AuthServer.empty 1000 none
    ⟨"c1", 0, "", "", false, .connected⟩ laterConnect 1 10 (by decide)

/-- Version 1.10 is refused as if it came before 1.2. -/
theorem later_version_refused :
    laterConnect.protocolVersion = versionText 1 10 ∧
      ¬ VersionBefore (1, 10) versionMinSupported ∧
      VersionRefused AuthServer.empty
        (@AuthHandler.handleConnect aliceHmac aliceDocument aliceSecret AuthServer.empty 1000 none
          ⟨"c1", 0, "", "", false, .connected⟩ laterConnect) "c1" laterConnect := by
  refine ⟨by decide, by unfold VersionBefore; decide, ?_⟩
  exact @handleConnect_of_incompatible aliceHmac aliceDocument aliceSecret AuthServer.empty 1000
    none ⟨"c1", 0, "", "", false, .connected⟩ laterConnect (by decide)

end ShirohaChat
