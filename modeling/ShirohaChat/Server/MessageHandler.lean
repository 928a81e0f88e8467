import ShirohaChat.Lib.RowTable
import ShirohaChat.Server.SessionManager
import ShirohaChat.Server.MessageDelivery

/-!
# The message handler and the messages table

`MessageHandler` stands in front of the delivery service, `MessageRepository`
behind it.  A store request is an `INSERT OR IGNORE` under the client's message
id: its row is there afterwards exactly when it was before or that id was free
and the content was not null.
-/

set_option autoImplicit false

namespace ShirohaChat

/-! ## The handler -/

def kMaxIdLength : Nat := 128

def kNotifyReqPrefix : String := "grp_notify_"

/-- The refusal goes out as the given packet; otherwise the parameters go to
`processSendMessage`. -/
def handleSendMessage (session : ClientSession) (packet : Packet) :
    Except Packet SendMessageParams :=
  let refuse (message : String) : Except Packet SendMessageParams :=
    .error (Packet.makeAck .sendMessageAck packet.msgId 400 message [])
  let sessionType := jsonText (packet.payload.value "sessionType")
  let sessionId := jsonText (packet.payload.value "sessionId")
  let recipientUserId := jsonText (packet.payload.value "recipientUserId")
  let params (recipientUserId : String) : SendMessageParams :=
    { msgId := packet.msgId
      sessionType := sessionType
      sessionId := sessionId
      content := jsonString (packet.payload.value "content")
      senderUserId := session.userId
      senderNickname := session.nickname
      recipientUserId := recipientUserId
      senderSession := session.connectionId }
  if ¬ session.isAuthenticated then
    .error (Packet.makeAck .unknown packet.msgId 401 "Not authenticated" [])
  else if packet.msgId = "" ∨ qSize packet.msgId > kMaxIdLength ∨
      qStartsWith packet.msgId kNotifyReqPrefix then refuse "Invalid msgId"
  else if sessionType = "" then refuse "Missing sessionType"
  else if sessionId = "" ∨ qSize sessionId > kMaxIdLength then refuse "Invalid sessionId"
  else if sessionType = "private" then
    if recipientUserId = "" then refuse "Missing recipientUserId"
    else if qSize recipientUserId > kMaxIdLength then refuse "Invalid recipientUserId"
    else .ok (params recipientUserId)
  else if sessionType ≠ "group" then refuse "Unknown sessionType"
  else .ok (params "")

theorem handleSendMessage_ok {session : ClientSession} {packet : Packet}
    {params : SendMessageParams} (accepted : handleSendMessage session packet = .ok params) :
    session.isAuthenticated = true ∧ params.senderUserId = session.userId ∧
      params.senderSession = session.connectionId ∧ params.msgId = packet.msgId := by
  unfold handleSendMessage at accepted
  by_cases authenticated : session.isAuthenticated = true
  · refine ⟨authenticated, ?_⟩
    simp only at accepted
    repeat' split at accepted
    all_goals cases accepted
    all_goals exact ⟨rfl, rfl, rfl⟩
  · rw [if_pos authenticated] at accepted
    cases accepted

/-- `MessageHandler::onAckReady`: the packet sent to the session. -/
def onAckReady (msgId : String) (code : Int32) (message serverId : String) : Packet :=
  let ackPayload : QJsonObject :=
    if code = 200 ∧ serverId ≠ "" then [("serverId", .string serverId)] else []
  Packet.makeAck .sendMessageAck msgId code message ackPayload

theorem onAckReady_serverId {msgId message serverId stated : String} {code : Int32}
    (states : (onAckReady msgId code message serverId).payload.value "serverId" =
      some (.string stated)) : code = 200 ∧ serverId = stated := by
  unfold onAckReady Packet.makeAck at states
  by_cases successful : code = 200 ∧ serverId ≠ ""
  · simp only [if_pos successful] at states
    cases states
    exact ⟨successful.1, rfl⟩
  · simp only [if_neg successful] at states
    cases states

/-! ## The repository -/

structure MessageRow where
  msgId : String
  sessionId : String
  senderUserId : String
  content : String
  status : Int
  timestamp : String
  serverId : String
  deriving DecidableEq

abbrev MessageTable := RowTable MessageRow String MessageRow.msgId

/-- `INSERT OR IGNORE`: a row whose `msg_id` is taken is dropped, and so is one
with a null `content`, a `NOT NULL` column; neither is an error.  `ok` is false
where the database is not open or the statement fails. -/
def storeMessage (messages : MessageTable) (ok : Bool) (request : StoreRequest) :
    MessageTable × StoreResult :=
  if ok then
    (match request.content with
      | none => messages
      | some content =>
          messages.insertOrIgnore ⟨request.msgId, request.sessionId, request.senderUserId,
            content, 1, request.timestamp, request.serverId⟩,
      ⟨request.msgId, request.serverId, true⟩)
  else (messages, ⟨request.msgId, "", false⟩)

def Holds (messages : MessageTable) (request : StoreRequest) : Prop :=
  ∃ row ∈ messages.rows, row.serverId = request.serverId ∧
    row.senderUserId = request.senderUserId ∧ row.sessionId = request.sessionId ∧
    some row.content = request.content

/-- The message id is free and the content is not null. -/
def Storable (messages : MessageTable) (request : StoreRequest) : Prop :=
  request.content ≠ none ∧ ∀ row ∈ messages.rows, row.msgId ≠ request.msgId

theorem holds_storeMessage_of_holds {messages : MessageTable} {request : StoreRequest}
    (ok : Bool) (executed : StoreRequest) (holds : Holds messages request) :
    Holds (storeMessage messages ok executed).1 request := by
  obtain ⟨row, member, fields⟩ := holds
  refine ⟨row, ?_, fields⟩
  unfold storeMessage
  split
  · split
    · exact member
    · exact messages.mem_insertOrIgnore_of_mem _ member
  · exact member

/-- Executing a request leaves its row behind exactly when it was there or the
request was storable. -/
theorem holds_storeMessage_iff (messages : MessageTable) (request : StoreRequest) :
    Holds (storeMessage messages true request).1 request ↔
      Holds messages request ∨ Storable messages request := by
  unfold storeMessage Storable
  cases content : request.content with
  | none => simp
  | some text =>
      by_cases taken : request.msgId ∈ messages.rows.map MessageRow.msgId
      · have same := messages.insertOrIgnore_taken ⟨request.msgId, request.sessionId,
          request.senderUserId, text, 1, request.timestamp, request.serverId⟩ taken
        have notFree : ¬ ∀ row ∈ messages.rows, row.msgId ≠ request.msgId := by
          obtain ⟨row, member, sameId⟩ := List.mem_map.mp taken
          exact fun free => free row member sameId
        simp [same, notFree]
      · have added := messages.insertOrIgnore_fresh ⟨request.msgId, request.sessionId,
          request.senderUserId, text, 1, request.timestamp, request.serverId⟩ taken
        refine iff_of_true ?_ (Or.inr ⟨by simp, ?_⟩)
        · refine ⟨⟨request.msgId, request.sessionId, request.senderUserId, text, 1,
            request.timestamp, request.serverId⟩, ?_, rfl, rfl, rfl, content.symm⟩
          simp [added]
        · intro row member sameId
          exact taken (List.mem_map.mpr ⟨row, member, sameId⟩)

end ShirohaChat
