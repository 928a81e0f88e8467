import ShirohaChat.Shared.Json
import Mathlib.Logic.Encodable.Basic
import Mathlib.Logic.Equiv.List

/-!
# Documents over bytes

JSON objects have a prefix code, so there are documents over bytes that give
chosen texts to chosen objects and still parse back what they write.
-/

set_option autoImplicit false

namespace ShirohaChat

/-! ## A prefix code -/

namespace QJsonValue

def textCode (text : String) : Nat := Encodable.encode (text.toList.map Char.toNat)

mutual

def code : QJsonValue → List Nat
  | .null => [0]
  | .bool value => [1, Encodable.encode value]
  | .integer value => [2, Encodable.encode value]
  | .double mantissa exponent => [3, Encodable.encode mantissa, Encodable.encode exponent]
  | .string value => [4, textCode value]
  | .array items => 5 :: codeItems items
  | .object fields => 6 :: codeFields fields

def codeItems : List QJsonValue → List Nat
  | [] => [0]
  | item :: rest => 1 :: (code item ++ codeItems rest)

def codeFields : List (String × QJsonValue) → List Nat
  | [] => [0]
  | (key, value) :: rest => 1 :: textCode key :: (code value ++ codeFields rest)

end

theorem textCode_injective {left right : String} (same : textCode left = textCode right) :
    left = right := by
  have units := Encodable.encode_injective same
  have chars := List.map_injective_iff.mpr (fun _ _ equal => Char.toNat_inj.mp equal) units
  exact String.toList_inj.mp chars

theorem textCode_inj {left right : String} : textCode left = textCode right ↔ left = right :=
  ⟨textCode_injective, congrArg textCode⟩

mutual

theorem code_append : ∀ (left right : QJsonValue) (afterLeft afterRight : List Nat),
    code left ++ afterLeft = code right ++ afterRight → left = right ∧ afterLeft = afterRight
  | .null, right, afterLeft, afterRight, same => by
      cases right <;> simp [code] at same ⊢
      exact same
  | .bool value, right, afterLeft, afterRight, same => by
      cases right <;> simp [code] at same ⊢
      exact same
  | .integer value, right, afterLeft, afterRight, same => by
      cases right <;> simp [code] at same ⊢
      exact same
  | .double mantissa exponent, right, afterLeft, afterRight, same => by
      cases right <;> simp [code] at same ⊢
      exact ⟨⟨same.1, same.2.1⟩, same.2.2⟩
  | .string value, right, afterLeft, afterRight, same => by
      cases right <;> simp [code, textCode_inj] at same ⊢
      exact same
  | .array items, right, afterLeft, afterRight, same => by
      cases right <;> simp [code] at same ⊢
      exact codeItems_append items _ _ _ same
  | .object fields, right, afterLeft, afterRight, same => by
      cases right <;> simp [code] at same ⊢
      exact codeFields_append fields _ _ _ same

theorem codeItems_append : ∀ (left right : List QJsonValue) (afterLeft afterRight : List Nat),
    codeItems left ++ afterLeft = codeItems right ++ afterRight →
      left = right ∧ afterLeft = afterRight
  | [], right, afterLeft, afterRight, same => by
      cases right <;> simp [codeItems] at same ⊢
      exact same
  | item :: rest, right, afterLeft, afterRight, same => by
      cases right with
      | nil => simp [codeItems] at same
      | cons other others =>
          simp only [codeItems, List.cons_append, List.append_assoc, List.cons.injEq,
            true_and] at same
          obtain ⟨rfl, later⟩ := code_append item other _ _ same
          obtain ⟨rfl, after⟩ := codeItems_append rest others _ _ later
          exact ⟨rfl, after⟩

theorem codeFields_append : ∀ (left right : List (String × QJsonValue))
    (afterLeft afterRight : List Nat),
    codeFields left ++ afterLeft = codeFields right ++ afterRight →
      left = right ∧ afterLeft = afterRight
  | [], right, afterLeft, afterRight, same => by
      cases right <;> simp [codeFields] at same ⊢
      exact same
  | (key, value) :: rest, right, afterLeft, afterRight, same => by
      cases right with
      | nil => simp [codeFields] at same
      | cons field others =>
          simp only [codeFields, List.cons_append, List.append_assoc, List.cons.injEq,
            true_and, textCode_inj] at same
          obtain ⟨sameKey, sameValue⟩ := same
          obtain ⟨rfl, later⟩ := code_append value field.2 _ _ sameValue
          obtain ⟨rfl, after⟩ := codeFields_append rest others _ _ later
          exact ⟨by rw [sameKey], after⟩

end

theorem codeFields_injective : Function.Injective codeFields := by
  intro left right same
  have both : codeFields left ++ [] = codeFields right ++ [] := by rw [same]
  exact (codeFields_append left right [] [] both).1

end QJsonValue

/-! ## Chosen texts -/

/-- The texts of a document that writes every object differently. -/
@[reducible]
noncomputable def JsonDocument.ofInjective (write : QJsonObject → List UInt8)
    (injective : Function.Injective write) : JsonDocument (List UInt8) where
  toJson := write
  fromJson text :=
    open scoped Classical in
    if written : ∃ object, write object = text then .ok (.object written.choose)
    else .error "illegal value"
  fromJson_toJson := by
    intro object
    have written : ∃ other, write other = write object := ⟨object, rfl⟩
    rw [dif_pos written, injective written.choose_spec]

/-- `texts` lists the objects with a chosen text; no chosen text starts with the byte 255. -/
noncomputable def writeChosen (texts : List (QJsonObject × List UInt8)) (object : QJsonObject) :
    List UInt8 :=
  open scoped Classical in
  match texts.find? fun entry => entry.1 = object with
  | some entry => entry.2
  | none => List.replicate (Encodable.encode (QJsonValue.codeFields object) + 1) 255

theorem writeChosen_injective {texts : List (QJsonObject × List UInt8)}
    (different : ∀ entry ∈ texts, ∀ other ∈ texts, entry.2 = other.2 → entry.1 = other.1)
    (marked : ∀ entry ∈ texts, entry.2.head? ≠ some 255) :
    Function.Injective (writeChosen texts) := by
  intro left right same
  unfold writeChosen at same
  split at same
  · rename_i entry found
    have isLeft : entry.1 = left := by simpa using List.find?_some found
    split at same
    · rename_i other foundOther
      have isRight : other.1 = right := by simpa using List.find?_some foundOther
      rw [← isLeft, ← isRight]
      exact different entry (List.mem_of_find?_eq_some found) other
        (List.mem_of_find?_eq_some foundOther) same
    · apply absurd _ (marked entry (List.mem_of_find?_eq_some found))
      rw [same]
      rfl
  · split at same
    · rename_i other foundOther
      apply absurd _ (marked other (List.mem_of_find?_eq_some foundOther))
      rw [← same]
      rfl
    · have lengths := congrArg List.length same
      rw [List.length_replicate, List.length_replicate] at lengths
      exact QJsonValue.codeFields_injective (Encodable.encode_injective (Nat.succ.inj lengths))

end ShirohaChat
