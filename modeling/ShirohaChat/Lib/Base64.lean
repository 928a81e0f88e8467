import Mathlib.Data.List.DropRight
import Mathlib.Data.UInt

/-!
# Base64

The standard alphabet with padding.  Three bytes make four sextets; the decoder
skips every symbol outside the alphabet and hands out a byte whenever eight bits
have come together.
-/

set_option autoImplicit false

namespace Base64

/-! ## Sextets -/

/-- The bytes cut into six bits each, the last ones filled up with zeros. -/
def sextets : List UInt8 → List Nat
  | [] => []
  | [first] => [first.toNat / 4, first.toNat % 4 * 16]
  | [first, second] =>
      [first.toNat / 4, first.toNat % 4 * 16 + second.toNat / 16, second.toNat % 16 * 4]
  | first :: second :: third :: rest =>
      (first.toNat / 4) :: (first.toNat % 4 * 16 + second.toNat / 16) ::
        (second.toNat % 16 * 4 + third.toNat / 64) :: (third.toNat % 64) :: sextets rest

/-- `buffer` holds the `bits` that are not yet part of a byte. -/
def bytesFrom (buffer bits : Nat) : List Nat → List UInt8
  | [] => []
  | value :: rest =>
      let filled := buffer * 64 + value
      if 8 ≤ bits + 6 then
        UInt8.ofNat (filled / 2 ^ (bits - 2)) ::
          bytesFrom (filled % 2 ^ (bits - 2)) (bits - 2) rest
      else bytesFrom filled (bits + 6) rest

theorem sextets_lt (bytes : List UInt8) : ∀ value ∈ sextets bytes, value < 64 := by
  fun_induction sextets bytes with
  | case1 => simp
  | case2 first =>
      have below := first.toNat_lt
      simp only [List.mem_cons, List.not_mem_nil, or_false]
      rintro value (rfl | rfl) <;> omega
  | case3 first second =>
      have below := first.toNat_lt
      have belowSecond := second.toNat_lt
      simp only [List.mem_cons, List.not_mem_nil, or_false]
      rintro value (rfl | rfl | rfl) <;> omega
  | case4 first second third rest ih =>
      have below := first.toNat_lt
      have belowSecond := second.toNat_lt
      have belowThird := third.toNat_lt
      simp only [List.mem_cons]
      rintro value (rfl | rfl | rfl | rfl | later)
      · omega
      · omega
      · omega
      · omega
      · exact ih value later

theorem length_sextets (bytes : List UInt8) :
    (sextets bytes).length = (bytes.length * 4 + 2) / 3 := by
  fun_induction sextets bytes with
  | case1 => rfl
  | case2 first => simp
  | case3 first second => simp
  | case4 first second third rest ih =>
      simp only [List.length_cons, ih]
      omega

theorem bytesFrom_zero (value : Nat) (rest : List Nat) :
    bytesFrom 0 0 (value :: rest) = bytesFrom value 6 rest := by
  simp [bytesFrom]

theorem bytesFrom_six {buffer value : Nat} (byte : UInt8)
    (filled : (buffer * 64 + value) / 16 = byte.toNat) (rest : List Nat) :
    bytesFrom buffer 6 (value :: rest) =
      byte :: bytesFrom ((buffer * 64 + value) % 16) 4 rest := by
  simp [bytesFrom, filled]

theorem bytesFrom_four {buffer value : Nat} (byte : UInt8)
    (filled : (buffer * 64 + value) / 4 = byte.toNat) (rest : List Nat) :
    bytesFrom buffer 4 (value :: rest) =
      byte :: bytesFrom ((buffer * 64 + value) % 4) 2 rest := by
  simp [bytesFrom, filled]

theorem bytesFrom_two {buffer value : Nat} (byte : UInt8)
    (filled : buffer * 64 + value = byte.toNat) (rest : List Nat) :
    bytesFrom buffer 2 (value :: rest) = byte :: bytesFrom 0 0 rest := by
  simp [bytesFrom, filled, Nat.mod_one]

theorem bytesFrom_sextets (bytes : List UInt8) : bytesFrom 0 0 (sextets bytes) = bytes := by
  fun_induction sextets bytes with
  | case1 => rfl
  | case2 first =>
      rw [bytesFrom_zero, bytesFrom_six first (by omega)]
      rfl
  | case3 first second =>
      have below := first.toNat_lt
      have belowSecond := second.toNat_lt
      rw [bytesFrom_zero, bytesFrom_six first (by omega),
        bytesFrom_four second (by omega)]
      rfl
  | case4 first second third rest ih =>
      have below := first.toNat_lt
      have belowSecond := second.toNat_lt
      have belowThird := third.toNat_lt
      rw [bytesFrom_zero, bytesFrom_six first (by omega),
        bytesFrom_four second (by omega), bytesFrom_two third (by omega),
        ih]

/-! ## The alphabet -/

def ascii (c : Char) : UInt8 := UInt8.ofNat c.toNat

def symbol (value : Nat) : UInt8 :=
  if value < 26 then UInt8.ofNat (value + 'A'.toNat)
  else if value < 52 then UInt8.ofNat (value - 26 + 'a'.toNat)
  else if value < 62 then UInt8.ofNat (value - 52 + '0'.toNat)
  else if value = 62 then ascii '+'
  else ascii '/'

def value? (byte : UInt8) : Option Nat :=
  if ascii 'A' ≤ byte ∧ byte ≤ ascii 'Z' then some (byte.toNat - 'A'.toNat)
  else if ascii 'a' ≤ byte ∧ byte ≤ ascii 'z' then some (byte.toNat - 'a'.toNat + 26)
  else if ascii '0' ≤ byte ∧ byte ≤ ascii '9' then some (byte.toNat - '0'.toNat + 52)
  else if byte = ascii '+' then some 62
  else if byte = ascii '/' then some 63
  else none

theorem value?_symbol : ∀ value < 64, value? (symbol value) = some value := by decide

/-- Filled up with `=` to a multiple of four symbols. -/
def toBase64 (bytes : List UInt8) : List UInt8 :=
  (sextets bytes).map symbol ++ List.replicate ((3 - bytes.length % 3) % 3) (ascii '=')

/-- Bytes outside the alphabet, the padding among them, are skipped. -/
def fromBase64 (text : List UInt8) : List UInt8 := bytesFrom 0 0 (text.filterMap value?)

theorem filterMap_symbols (values : List Nat) (below : ∀ value ∈ values, value < 64) :
    (values.map symbol).filterMap value? = values := by
  induction values with
  | nil => rfl
  | cons value rest ih =>
      have first := value?_symbol value (below value List.mem_cons_self)
      have later := ih fun other member => below other (List.mem_cons_of_mem _ member)
      rw [List.map_cons, List.filterMap_cons_some first, later]

theorem fromBase64_toBase64 (bytes : List UInt8) : fromBase64 (toBase64 bytes) = bytes := by
  have padding : ∀ count, (List.replicate count (ascii '=')).filterMap value? = [] := by
    intro count
    rw [List.filterMap_replicate_of_none (by decide)]
  rw [fromBase64, toBase64, List.filterMap_append,
    filterMap_symbols _ (sextets_lt bytes), padding, List.append_nil, bytesFrom_sextets]

end Base64
