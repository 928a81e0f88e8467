import ShirohaChat.Shared.Commands
import ShirohaChat.Shared.Json

/-!
# Packets and their codec
-/

set_option autoImplicit false

namespace ShirohaChat

def protocolCurrent : String := "1.2"

structure Packet where
  cmd : Command := .unknown
  msgId : String := ""
  protocolVersion : String := protocolCurrent
  timestampUtc : String := ""
  payload : QJsonObject := []
  code : Int32 := 0
  message : String := ""

def Packet.makeAck (ackCmd : Command) (reqMsgId : String) (code : Int32)
    (message : String) (payload : QJsonObject) : Packet :=
  { cmd := ackCmd, msgId := reqMsgId, code := code, message := message, payload := payload }

/-- The object `Packet::encode` fills; `code` and `message` are written only
when they carry something. -/
def Packet.fields (packet : Packet) : QJsonObject :=
  [("cmd", .string packet.cmd.toString), ("msgId", .string packet.msgId),
    ("protocolVersion", .string packet.protocolVersion),
    ("timestamp", .string packet.timestampUtc), ("payload", .object packet.payload)] ++
  (if packet.code ≠ 0 then [("code", .integer packet.code.toInt)] else []) ++
  (if packet.message ≠ "" then [("message", .string packet.message)] else [])

section Codec
variable {Text : Type} [JsonDocument Text]

def Packet.encode (packet : Packet) : Text := JsonDocument.toJson packet.fields

/-- `PacketCodec::decode` on a parsed object. -/
def decodeObject (object : QJsonObject) : Except String Packet :=
  match object.value "cmd" with
  | none => .error "Missing required field: cmd"
  | some cmd =>
      match object.value "msgId" with
      | none => .error "Missing required field: msgId"
      | some msgId =>
          .ok {
            cmd := commandFromString (jsonText (some cmd))
            msgId := jsonText (some msgId)
            protocolVersion := (jsonString (object.value "protocolVersion")).getD "1.0"
            timestampUtc := jsonText (object.value "timestamp")
            payload := jsonObject (object.value "payload")
            code := jsonInt 0 (object.value "code")
            message := jsonText (object.value "message") }

def decode (data : Text) : Except String Packet :=
  match JsonDocument.fromJson data with
  | .error problem => .error ("JSON parse error: " ++ problem)
  | .ok (.object object) => decodeObject object
  | .ok _ => .error "JSON root is not an object"

theorem decodeObject_fields (packet : Packet) : decodeObject packet.fields = .ok packet := by
  obtain ⟨cmd, msgId, protocolVersion, timestampUtc, payload, code, message⟩ := packet
  by_cases codeZero : code = 0 <;> by_cases messageEmpty : message = "" <;>
    simp [decodeObject, Packet.fields, QJsonObject.value, jsonText, jsonString, jsonObject,
      commandFromString_toString, jsonInt, codeZero, messageEmpty]

theorem decode_encode (packet : Packet) :
    decode (packet.encode : Text) = .ok packet := by
  unfold decode Packet.encode
  rw [JsonDocument.fromJson_toJson]
  exact decodeObject_fields packet

theorem encode_injective {left right : Packet}
    (same : (left.encode : Text) = right.encode) : left = right := by
  have decoded := congrArg decode same
  rw [decode_encode, decode_encode] at decoded
  exact Except.ok.inj decoded

end Codec
end ShirohaChat
