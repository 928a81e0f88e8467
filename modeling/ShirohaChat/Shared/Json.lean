import Mathlib.Algebra.Group.Int.Defs
import ShirohaChat.Shared.QtText

/-!
# JSON values

The object model of `QJsonValue` and `QJsonObject`, and the text layer
`QJsonDocument` as a parameter: of the library the program relies on
`fromJson` giving back the object that `toJson` wrote.
-/

set_option autoImplicit false

namespace ShirohaChat

/-- A finite double is `mantissa * 2 ^ exponent`. -/
inductive QJsonValue where
  | null
  | bool (value : Bool)
  | integer (value : Int)
  | double (mantissa exponent : Int)
  | string (value : String)
  | array (items : List QJsonValue)
  | object (fields : List (String × QJsonValue))
  deriving Repr, BEq

abbrev QJsonObject := List (String × QJsonValue)

/-- `QJsonObject::value`; `none` is the undefined value. -/
def QJsonObject.value (object : QJsonObject) (key : String) : Option QJsonValue :=
  (object.find? fun field => field.1 = key).map Prod.snd

def QJsonObject.insert (object : QJsonObject) (key : String) (item : QJsonValue) :
    QJsonObject :=
  if object.any fun field => field.1 = key then
    object.map fun field => if field.1 = key then (key, item) else field
  else object ++ [(key, item)]

/-- `QJsonValue::toString()`: the null string unless the value is a string. -/
def jsonString : Option QJsonValue → Option String
  | some (.string text) => some text
  | _ => none

/-- `QJsonValue::toString()` where null and empty need not be told apart. -/
def jsonText (item : Option QJsonValue) : String := (jsonString item).getD ""

def jsonObject : Option QJsonValue → QJsonObject
  | some (.object fields) => fields
  | _ => []

def jsonArray : Option QJsonValue → List QJsonValue
  | some (.array items) => items
  | _ => []

def intOfInteger (value : Int) : Option Int32 :=
  if Int32.minValue.toInt ≤ value ∧ value ≤ Int32.maxValue.toInt then
    some (Int32.ofInt value)
  else none

/-- `QJsonValue::toInt(fallback)`: numbers that are not exactly an `int` give
the fallback. -/
def jsonInt (fallback : Int32) : Option QJsonValue → Int32
  | some (.integer value) => (intOfInteger value).getD fallback
  | some (.double mantissa exponent) =>
      if 0 ≤ exponent then (intOfInteger (mantissa * 2 ^ exponent.toNat)).getD fallback
      else if mantissa % 2 ^ (-exponent).toNat = 0 then
        (intOfInteger (mantissa / 2 ^ (-exponent).toNat)).getD fallback
      else fallback
  | _ => fallback

@[simp] theorem intOfInteger_toInt (code : Int32) :
    intOfInteger code.toInt = some code := by
  have bounds : Int32.minValue.toInt ≤ code.toInt ∧ code.toInt ≤ Int32.maxValue.toInt :=
    ⟨code.minValue_le_toInt, code.toInt_le⟩
  rw [intOfInteger, if_pos bounds, Int32.ofInt_toInt]

/-- The text layer of `QJsonDocument`.  `fromJson` gives the parsed value or the
parser's error text. -/
class JsonDocument (Text : Type) where
  toJson : QJsonObject → Text
  fromJson : Text → Except String QJsonValue
  fromJson_toJson : ∀ object, fromJson (toJson object) = .ok (.object object)

/-- Texts read as what the parser makes of them. -/
abbrev ParsedText := Except String QJsonValue

instance : JsonDocument ParsedText where
  toJson object := .ok (.object object)
  fromJson text := text
  fromJson_toJson _ := rfl

end ShirohaChat
