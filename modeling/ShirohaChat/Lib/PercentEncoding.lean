import Mathlib.Data.List.Basic

/-!
# Percent encoding

Bytes outside a set of plain ones are written as a percent sign and two
hexadecimal digits.  Whatever the set, decoding gives the bytes back, as long as
the percent sign itself is not plain.
-/

set_option autoImplicit false

namespace PercentEncoding

def hexDigit (value : Nat) : Char :=
  if value < 10 then Char.ofNat (48 + value) else Char.ofNat (55 + value)

def hexValue (digit : Char) : Nat :=
  if digit.toNat < 58 then digit.toNat - 48 else digit.toNat - 55

section
variable (plain : Nat → Bool)

def encodeByte (byte : Nat) : List Char :=
  if plain byte then [Char.ofNat byte]
  else ['%', hexDigit (byte / 16), hexDigit (byte % 16)]

def encode (bytes : List Nat) : List Char := bytes.flatMap (encodeByte plain)

end

def decode : List Char → List Nat
  | [] => []
  | '%' :: high :: low :: rest => (hexValue high * 16 + hexValue low) :: decode rest
  | c :: rest => c.toNat :: decode rest

theorem decode_plain {c : Char} (notPercent : c ≠ '%') (rest : List Char) :
    decode (c :: rest) = c.toNat :: decode rest := by
  rw [decode]
  rintro high low later rfl
  exact absurd rfl notPercent

theorem hexValue_hexDigit : ∀ value < 16, hexValue (hexDigit value) = value := by decide

theorem toNat_ofNat_byte {byte : Nat} (below : byte < 256) : (Char.ofNat byte).toNat = byte := by
  have valid : byte.isValidChar := Or.inl (by omega)
  rw [Char.ofNat, dif_pos valid]
  rfl

variable {plain : Nat → Bool}

theorem decode_encodeByte (escapes : plain 37 = false) {byte : Nat} (below : byte < 256)
    (rest : List Char) :
    decode (encodeByte plain byte ++ rest) = byte :: decode rest := by
  unfold encodeByte
  split
  · rename_i isPlain
    have notPercent : Char.ofNat byte ≠ '%' := by
      intro same
      have isPercent : byte = 37 := by
        rw [← toNat_ofNat_byte below, same]
        rfl
      rw [isPercent, escapes] at isPlain
      cases isPlain
    rw [List.singleton_append, decode_plain notPercent, toNat_ofNat_byte below]
  · have high := hexValue_hexDigit (byte / 16) (by omega)
    have low := hexValue_hexDigit (byte % 16) (by omega)
    rw [List.cons_append, List.cons_append, List.cons_append, List.nil_append, decode, high,
      low]
    congr 1
    omega

theorem decode_encode (escapes : plain 37 = false) (bytes : List Nat)
    (below : ∀ byte ∈ bytes, byte < 256) : decode (encode plain bytes) = bytes := by
  induction bytes with
  | nil => rfl
  | cons byte bytes ih =>
      have first := below byte List.mem_cons_self
      have later := ih fun other member => below other (List.mem_cons_of_mem byte member)
      rw [encode, List.flatMap_cons, decode_encodeByte escapes first]
      exact congrArg _ later

theorem encode_injective (escapes : plain 37 = false) {bytes bytes' : List Nat}
    (below : ∀ byte ∈ bytes, byte < 256) (below' : ∀ byte ∈ bytes', byte < 256)
    (same : encode plain bytes = encode plain bytes') : bytes = bytes' := by
  rw [← decode_encode escapes bytes below, ← decode_encode escapes bytes' below', same]

theorem mem_encode {bytes : List Nat} (below : ∀ byte ∈ bytes, byte < 256) {c : Char}
    (member : c ∈ encode plain bytes) :
    plain c.toNat = true ∨ c = '%' ∨ ∃ value < 16, c = hexDigit value := by
  obtain ⟨byte, byteIn, inByte⟩ := List.mem_flatMap.mp member
  unfold encodeByte at inByte
  split at inByte
  · rename_i isPlain
    rw [List.mem_singleton.mp inByte, toNat_ofNat_byte (below byte byteIn)]
    exact Or.inl isPlain
  · have bound := below byte byteIn
    simp only [List.mem_cons, List.not_mem_nil, or_false] at inByte
    rcases inByte with rfl | rfl | rfl
    · exact Or.inr (Or.inl rfl)
    · exact Or.inr (Or.inr ⟨byte / 16, by omega, rfl⟩)
    · exact Or.inr (Or.inr ⟨byte % 16, by omega, rfl⟩)

end PercentEncoding
