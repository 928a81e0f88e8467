import ShirohaChat.Lib.Base64
import ShirohaChat.Shared.Json
import Mathlib.Data.List.DropRight

/-!
# Tokens

`JwtManager` with the keyed hash as a parameter.  Times are whole seconds.  A
token is a Latin-1 text of three parts, each of them in the alphabet that is
safe in URLs.
-/

set_option autoImplicit false

namespace ShirohaChat

open Base64 CodeUnits

/-! ## Text of one byte a character -/

/-- `QString::fromLatin1`. -/
def fromLatin1 (bytes : List UInt8) : String :=
  String.ofList (bytes.map fun byte => Char.ofNat byte.toNat)

/-- `QString::toLatin1`: code units outside Latin-1 become question marks. -/
def toLatin1 (text : String) : List UInt8 :=
  (utf16 text.toList).map fun unit => if unit < 256 then UInt8.ofNat unit else ascii '?'

theorem utf16_fromLatin1 (bytes : List UInt8) :
    utf16 (fromLatin1 bytes).toList = bytes.map UInt8.toNat := by
  rw [fromLatin1, String.toList_ofList]
  induction bytes with
  | nil => rfl
  | cons byte rest ih =>
      have below := byte.toNat_lt
      have valid : byte.toNat.isValidChar := Or.inl (by omega)
      have isByte : (Char.ofNat byte.toNat).toNat = byte.toNat := by
        rw [Char.ofNat, dif_pos valid]
        rfl
      have oneUnit : utf16Char (Char.ofNat byte.toNat) = [byte.toNat] := by
        rw [utf16Char, isByte, if_pos (by omega)]
      rw [utf16] at ih ⊢
      rw [List.map_cons, List.flatMap_cons, oneUnit, ih, List.map_cons, List.singleton_append]

theorem toLatin1_fromLatin1 (bytes : List UInt8) : toLatin1 (fromLatin1 bytes) = bytes := by
  rw [toLatin1, utf16_fromLatin1, List.map_map]
  apply List.map_id''
  intro byte
  have below := byte.toNat_lt
  simp only [Function.comp_apply, if_pos below, UInt8.ofNat_toNat]

/-- A text is told by its bytes where none of them is a question mark. -/
theorem eq_fromLatin1 {text : String} {bytes : List UInt8} (same : toLatin1 text = bytes)
    (unmarked : ascii '?' ∉ bytes) : text = fromLatin1 bytes := by
  apply String.toList_inj.mp
  apply utf16_injective
  rw [utf16_fromLatin1, ← same, toLatin1, List.map_map]
  refine (List.map_id _).symm.trans (List.map_congr_left ?_)
  intro unit member
  by_cases below : unit < 256
  · simp only [id, Function.comp_apply, if_pos below]
    exact (UInt8.toNat_ofNat_of_lt' below).symm
  · refine absurd ?_ unmarked
    rw [← same]
    exact List.mem_map.mpr ⟨unit, member, if_neg below⟩

/-! ## Base64 without padding -/

/-- `QByteArray::replace` of one byte by another. -/
def replaceByte (old new : UInt8) (data : List UInt8) : List UInt8 :=
  data.map fun byte => if byte = old then new else byte

def base64UrlEncode (data : List UInt8) : List UInt8 :=
  let encoded := replaceByte (ascii '/') (ascii '_')
    (replaceByte (ascii '+') (ascii '-') (toBase64 data))
  encoded.rdropWhile fun byte => byte = ascii '='

def base64UrlDecode (data : List UInt8) : List UInt8 :=
  let padded := replaceByte (ascii '_') (ascii '/') (replaceByte (ascii '-') (ascii '+') data)
  let rem := padded.length % 4
  if rem = 2 then fromBase64 (padded ++ [ascii '=', ascii '='])
  else if rem = 3 then fromBase64 (padded ++ [ascii '='])
  else fromBase64 padded

def urlSymbol (value : Nat) : UInt8 :=
  if value = 62 then ascii '-' else if value = 63 then ascii '_' else symbol value

theorem replace_symbol : ∀ value < 64,
    replaceByte (ascii '/') (ascii '_') (replaceByte (ascii '+') (ascii '-') [symbol value]) =
      [urlSymbol value] := by decide

theorem replace_urlSymbol : ∀ value < 64,
    replaceByte (ascii '_') (ascii '/') (replaceByte (ascii '-') (ascii '+') [urlSymbol value]) =
      [symbol value] := by decide

theorem urlSymbol_plain : ∀ value < 64, urlSymbol value ≠ ascii '=' ∧
    urlSymbol value ≠ ascii '.' ∧ urlSymbol value ≠ ascii '?' := by decide

theorem replaceByte_append (old new : UInt8) (front back : List UInt8) :
    replaceByte old new (front ++ back) =
      replaceByte old new front ++ replaceByte old new back :=
  List.map_append

theorem replaceByte_symbols {old new old' new' : UInt8} {before after : Nat → UInt8}
    (each : ∀ value < 64, replaceByte old new (replaceByte old' new' [before value]) =
      [after value])
    (values : List Nat) (below : ∀ value ∈ values, value < 64) :
    replaceByte old new (replaceByte old' new' (values.map before)) = values.map after := by
  induction values with
  | nil => rfl
  | cons value rest ih =>
      have first := each value (below value List.mem_cons_self)
      have later := ih fun other member => below other (List.mem_cons_of_mem _ member)
      rw [List.map_cons, ← List.singleton_append, replaceByte_append, replaceByte_append, first,
        later, List.map_cons, List.singleton_append]

theorem rdropWhile_padding {pad : UInt8} (text : List UInt8) (unpadded : pad ∉ text)
    (count : Nat) :
    (text ++ List.replicate count pad).rdropWhile (fun byte => byte = pad) = text := by
  induction count with
  | zero =>
      rw [List.replicate_zero, List.append_nil, List.rdropWhile_eq_self_iff]
      intro nonempty isPad
      exact unpadded (of_decide_eq_true isPad ▸ List.getLast_mem nonempty)
  | succ count ih =>
      rw [List.replicate_succ', ← List.append_assoc, List.rdropWhile_concat_pos _ _ _ (by simp)]
      exact ih

theorem base64UrlEncode_eq (data : List UInt8) :
    base64UrlEncode data = (sextets data).map urlSymbol := by
  have below := sextets_lt data
  have padding : ∀ count, replaceByte (ascii '/') (ascii '_')
      (replaceByte (ascii '+') (ascii '-') (List.replicate count (ascii '='))) =
        List.replicate count (ascii '=') := by
    intro count
    simp only [replaceByte, List.map_replicate]
    rfl
  rw [base64UrlEncode, toBase64, replaceByte_append, replaceByte_append, padding,
    replaceByte_symbols replace_symbol _ below]
  apply rdropWhile_padding
  intro member
  obtain ⟨value, valueIn, isPad⟩ := List.mem_map.mp member
  exact (urlSymbol_plain value (below value valueIn)).1 isPad

theorem not_mem_base64UrlEncode (data : List UInt8) {byte : UInt8}
    (foreign : ∀ value < 64, urlSymbol value ≠ byte) : byte ∉ base64UrlEncode data := by
  rw [base64UrlEncode_eq]
  intro member
  obtain ⟨value, valueIn, isByte⟩ := List.mem_map.mp member
  exact foreign value (sextets_lt data value valueIn) isByte

theorem dot_not_mem_base64UrlEncode (data : List UInt8) :
    ascii '.' ∉ base64UrlEncode data :=
  not_mem_base64UrlEncode data fun value below => (urlSymbol_plain value below).2.1

/-- The padding that was taken off is put back. -/
theorem base64UrlDecode_base64UrlEncode (data : List UInt8) :
    base64UrlDecode (base64UrlEncode data) = data := by
  have size := length_sextets data
  rw [base64UrlDecode, base64UrlEncode_eq,
    replaceByte_symbols replace_urlSymbol _ (sextets_lt data)]
  simp only [List.length_map]
  have padded : ∀ count, (3 - data.length % 3) % 3 = count →
      fromBase64 ((sextets data).map symbol ++ List.replicate count (ascii '=')) = data := by
    intro count isCount
    rw [← isCount]
    exact fromBase64_toBase64 data
  by_cases two : (sextets data).length % 4 = 2
  · rw [if_pos two]
    exact padded 2 (by omega)
  by_cases three : (sextets data).length % 4 = 3
  · rw [if_neg two, if_pos three]
    exact padded 1 (by omega)
  · have whole : data.length % 3 = 0 := by
      have parts := Nat.mod_add_div data.length 3
      have residue : data.length % 3 = 0 ∨ data.length % 3 = 1 ∨ data.length % 3 = 2 := by omega
      rcases residue with nothing | single | double
      · exact nothing
      · rw [single] at parts
        have length : (sextets data).length = 4 * (data.length / 3) + 2 := by omega
        omega
      · rw [double] at parts
        have length : (sextets data).length = 4 * (data.length / 3) + 3 := by omega
        omega
    rw [if_neg two, if_neg three, ← List.append_nil ((sextets data).map symbol)]
    exact padded 0 (by rw [whole])

/-! ## Numbers of a token -/

/-- A finite double, `mantissa * 2 ^ exponent`. -/
structure Double where
  mantissa : Int
  exponent : Int

/-- The nearest double, ties to even. -/
def Double.ofInt (value : Int) : Double :=
  let dropped := value.natAbs.log2 - 52
  let kept := value.natAbs / 2 ^ dropped
  let rest := value.natAbs % 2 ^ dropped
  let roundsUp := 2 ^ dropped < 2 * rest ∨ (2 ^ dropped = 2 * rest ∧ kept % 2 = 1)
  let rounded := if roundsUp then kept + 1 else kept
  ⟨value.sign * rounded, dropped⟩

/-- The conversion to an integer type, towards zero. -/
def Double.truncate (number : Double) : Int :=
  if 0 ≤ number.exponent then number.mantissa * 2 ^ number.exponent.toNat
  else number.mantissa.tdiv (2 ^ (-number.exponent).toNat)

/-- `QJsonValue::toDouble()`. -/
def jsonDouble : Option QJsonValue → Double
  | some (.integer value) => Double.ofInt value
  | some (.double mantissa exponent) => ⟨mantissa, exponent⟩
  | _ => ⟨0, 0⟩

theorem Double.truncate_ofInt {value : Int} (exact : value.natAbs < 2 ^ 53) :
    (Double.ofInt value).truncate = value := by
  have nothingDropped : value.natAbs.log2 - 52 = 0 := by
    by_cases zero : value.natAbs = 0
    · rw [zero, Nat.log2_zero]
    · have := (Nat.log2_lt zero).mpr exact
      omega
  have kept : Double.ofInt value = ⟨value.sign * value.natAbs, 0⟩ := by
    simp only [Double.ofInt, nothingDropped, Nat.pow_zero, Nat.mod_one, Nat.div_one]
    rfl
  rw [kept, Double.truncate, if_pos (Int.le_refl 0), Int.sign_mul_natAbs]
  exact Int.mul_one value

/-! ## Issuing and verifying -/

/-- `Config::Auth::JWT_TTL_SECONDS`. -/
def jwtTtlSeconds : Int32 := 86400

/-- `Config::Auth::CLOCK_SKEW_TOLERANCE_SECONDS`. -/
def clockSkewToleranceSeconds : Int := 60

structure VerifyResult where
  valid : Bool
  userId : String
  errorMessage : String
  deriving DecidableEq

def VerifyResult.invalid (errorMessage : String) : VerifyResult := ⟨false, "", errorMessage⟩

namespace JwtManager

def header : QJsonObject := [("alg", .string "HS256"), ("typ", .string "JWT")]

/-- The object `issueToken` signs. -/
def claims (now : Int) (userId : String) (ttlSec : Int32) : QJsonObject :=
  [("sub", .string userId), ("iat", .integer now), ("exp", .integer (now + ttlSec.toInt))]

def verifyClaims (now : Int) (payload : QJsonObject) : VerifyResult :=
  match payload.value "exp" with
  | none => .invalid "Token missing 'exp' claim"
  | some exp =>
      if now > (jsonDouble (some exp)).truncate + clockSkewToleranceSeconds then
        .invalid "Token has expired"
      else
        match payload.value "sub" with
        | none => .invalid "Token missing 'sub' claim"
        | some sub =>
            let userId := jsonText (some sub)
            if userId = "" then .invalid "Token 'sub' claim is empty"
            else ⟨true, userId, ""⟩

theorem verifyClaims_claims {issued now : Int} {userId : String} {ttlSec : Int32}
    (known : userId ≠ "") (exact : (issued + ttlSec.toInt).natAbs < 2 ^ 53) :
    verifyClaims now (claims issued userId ttlSec) =
      if now > issued + ttlSec.toInt + clockSkewToleranceSeconds then
        .invalid "Token has expired"
      else ⟨true, userId, ""⟩ := by
  have exp : (claims issued userId ttlSec).value "exp" =
      some (.integer (issued + ttlSec.toInt)) := rfl
  have sub : (claims issued userId ttlSec).value "sub" = some (.string userId) := rfl
  simp only [verifyClaims, exp, sub, jsonDouble, Double.truncate_ofInt exact]
  exact congrArg _ (if_neg known)

section
variable (hmacSha256 : List UInt8 → List UInt8 → List UInt8)

def signature (secret headerB64 payloadB64 : List UInt8) : List UInt8 :=
  base64UrlEncode (hmacSha256 secret (headerB64 ++ ascii '.' :: payloadB64))

variable [JsonDocument (List UInt8)]

def issueToken (secret : List UInt8) (now : Int) (userId : String) (ttlSec : Int32) : String :=
  let headerB64 := base64UrlEncode (JsonDocument.toJson header)
  let payloadB64 := base64UrlEncode (JsonDocument.toJson (claims now userId ttlSec))
  let signatureB64 := signature hmacSha256 secret headerB64 payloadB64
  fromLatin1 (headerB64 ++ ascii '.' :: (payloadB64 ++ ascii '.' :: signatureB64))

def verifyToken (secret : List UInt8) (now : Int) (token : String) : VerifyResult :=
  match (toLatin1 token).splitOn (ascii '.') with
  | [headerB64, payloadB64, signatureB64] =>
      if signatureB64 ≠ signature hmacSha256 secret headerB64 payloadB64 then
        .invalid "Invalid token signature"
      else
        match JsonDocument.fromJson (base64UrlDecode payloadB64) with
        | .ok (.object payload) => verifyClaims now payload
        | _ => .invalid "Invalid token payload: not a JSON object"
  | _ => .invalid "Invalid token format: expected 3 parts"

theorem eq_issueToken {secret : List UInt8} {now : Int} {userId token : String} {ttlSec : Int32}
    (same : toLatin1 token = toLatin1 (issueToken hmacSha256 secret now userId ttlSec)) :
    token = issueToken hmacSha256 secret now userId ttlSec := by
  have unmarked : ∀ data, ascii '?' ∉ base64UrlEncode data := fun data =>
    not_mem_base64UrlEncode data fun value below => (urlSymbol_plain value below).2.2
  rw [issueToken, toLatin1_fromLatin1] at same
  refine eq_fromLatin1 same ?_
  intro member
  rcases List.mem_append.mp member with inHeader | member
  · exact unmarked _ inHeader
  rcases List.mem_cons.mp member with isDot | member
  · exact absurd isDot (by decide)
  rcases List.mem_append.mp member with inPayload | member
  · exact unmarked _ inPayload
  rcases List.mem_cons.mp member with isDot | inSignature
  · exact absurd isDot (by decide)
  · exact unmarked _ inSignature

theorem verifyToken_issueToken (secret : List UInt8) {issued now : Int} {userId : String}
    {ttlSec : Int32} (known : userId ≠ "")
    (exact : (issued + ttlSec.toInt).natAbs < 2 ^ 53) :
    verifyToken hmacSha256 secret now (issueToken hmacSha256 secret issued userId ttlSec) =
      if now > issued + ttlSec.toInt + clockSkewToleranceSeconds then
        .invalid "Token has expired"
      else ⟨true, userId, ""⟩ := by
  have bare : ∀ headerB64 payloadB64,
      ascii '.' ∉ signature hmacSha256 secret headerB64 payloadB64 :=
    fun _ _ => dot_not_mem_base64UrlEncode _
  rw [verifyToken, issueToken, toLatin1_fromLatin1,
    List.splitOn_append_cons_self_of_not_mem (dot_not_mem_base64UrlEncode _),
    List.splitOn_append_cons_self_of_not_mem (dot_not_mem_base64UrlEncode _),
    List.splitOn_eq_singleton (bare _ _)]
  simp only [ne_eq, not_true_eq_false, if_false, base64UrlDecode_base64UrlEncode,
    JsonDocument.fromJson_toJson]
  exact verifyClaims_claims known exact

end
end JwtManager

end ShirohaChat
