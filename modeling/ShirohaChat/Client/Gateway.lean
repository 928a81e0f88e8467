import ShirohaChat.Client.FriendRequests
import ShirohaChat.Client.GroupSync
import ShirohaChat.Client.ReceiveMessage

/-!
# The network gateway

The requests of `NetworkService` and the cases of `handleIncomingPacket` other
than that of `ConnectAck`, on a connection to a real server.  A request draws a
message id and a time and is written to the socket at once; what the gateway
remembers of it is only what its acknowledgement will not bring back.
-/

set_option autoImplicit false

namespace ShirohaChat

structure NetworkGateway where
  connected : Bool := false
  userId : String := ""
  nickname : String := ""
  pendingGroupCreates : FiniteMap String PendingGroupCreate := ∅
  pendingMemberOps : FiniteMap String PendingMemberOp := ∅

structure PacketStamp where
  msgId : String
  now : String

inductive GatewaySignal where
  | ackReceived (msgId serverId : String)
  | ackFailed (msgId : String) (code : Int32) (message : String)
  | textReceived (incoming : IncomingMessage) (timestamp : String)
  | createGroupResult (success : Bool) (groupId groupName : String)
      (memberUserIds : List String) (errorMessage : String)
  | groupCreated (groupId groupName : String) (memberUserIds : List String)
  | memberOpResult (groupId operation : String) (success : Bool) (errorMessage userId : String)
  | groupMemberChanged (groupId changeType groupName : String)
  | groupListLoaded (groups : List GroupListEntryDto)
  | groupListLoadFailed (errorMessage : String)
  | friendRequestAck (success : Bool) (requestId toUserId errorMessage : String)
  | friendDecisionAck (operation : String) (success : Bool) (requestId errorMessage : String)
  | friendListLoaded (friendUserIds : List String)
  | friendRequestListLoaded (requests : List FriendRequestDto)
  | friendRequestNotified (requestId fromUserId message createdAt : String)
  | friendChanged (userId friendUserId requestId changeType : String)

namespace NetworkGateway

/-! ## Requests

`none` where the source returns false. -/

def payloadText (packet : Packet) (key : String) : String :=
  jsonText (packet.payload.value key)

/-- `pkt.code() == 200`. -/
def succeeded (packet : Packet) : Bool := packet.code = 200

def packetOf (stamp : PacketStamp) (cmd : Command) (payload : QJsonObject) : Packet :=
  { cmd := cmd, msgId := stamp.msgId, timestampUtc := stamp.now, payload := payload }

variable (gateway : NetworkGateway) (stamp : PacketStamp)

def sendText (sender target content sessionType recipientUserId : String) : Option Packet :=
  if ¬ gateway.connected then none
  else if stamp.msgId = "" ∨ sender = "" ∨ target = "" ∨ trimmed content = "" then none
  else
    let senderNickname :=
      if trimmed gateway.nickname = "" then sender else trimmed gateway.nickname
    let payload : QJsonObject :=
      [("sessionType", .string sessionType), ("sessionId", .string target),
        ("content", .string (trimmed content)), ("senderUserId", .string sender),
        ("senderNickname", .string senderNickname)]
    if sessionType = "private" ∧ recipientUserId ≠ "" then
      some (packetOf stamp .sendMessage
        (payload.insert "recipientUserId" (.string recipientUserId)))
    else some (packetOf stamp .sendMessage payload)

def sendCreateGroup (groupName : String) (memberUserIds : List String) :
    Option (NetworkGateway × Packet) :=
  if ¬ gateway.connected then none
  else if trimmed groupName = "" then none
  else some (
    { gateway with pendingGroupCreates :=
        gateway.pendingGroupCreates.insert stamp.msgId ⟨trimmed groupName, memberUserIds⟩ },
    packetOf stamp .createGroup
      [("groupName", .string (trimmed groupName)),
        ("memberUserIds", .array (memberUserIds.map QJsonValue.string))])

def rememberOp (pending : PendingMemberOp) : NetworkGateway :=
  { gateway with pendingMemberOps := gateway.pendingMemberOps.insert stamp.msgId pending }

def sendMemberChange (cmd : Command) (operation groupId userId : String) :
    Option (NetworkGateway × Packet) :=
  if ¬ gateway.connected then none
  else if trimmed groupId = "" ∨ trimmed userId = "" then none
  else some (
    gateway.rememberOp stamp ⟨trimmed groupId, trimmed userId, operation⟩,
    packetOf stamp cmd
      [("groupId", .string (trimmed groupId)), ("userId", .string (trimmed userId))])

def sendAddMember (groupId userId : String) : Option (NetworkGateway × Packet) :=
  gateway.sendMemberChange stamp .addMember "add" groupId userId

def sendRemoveMember (groupId userId : String) : Option (NetworkGateway × Packet) :=
  gateway.sendMemberChange stamp .removeMember "remove" groupId userId

def sendLeaveGroup (groupId : String) : Option (NetworkGateway × Packet) :=
  if ¬ gateway.connected then none
  else if trimmed groupId = "" then none
  else some (
    gateway.rememberOp stamp ⟨trimmed groupId, gateway.userId, "leave"⟩,
    packetOf stamp .leaveGroup [("groupId", .string (trimmed groupId))])

def sendQuery (cmd : Command) : Option (NetworkGateway × Packet) :=
  if ¬ gateway.connected then none else some (gateway, packetOf stamp cmd [])

def sendGroupList : Option (NetworkGateway × Packet) := gateway.sendQuery stamp .groupList

def sendFriendList : Option (NetworkGateway × Packet) := gateway.sendQuery stamp .friendList

def sendFriendRequestList : Option (NetworkGateway × Packet) :=
  gateway.sendQuery stamp .friendRequestList

def sendFriendRequest (toUserId message : String) : Option (NetworkGateway × Packet) :=
  if ¬ gateway.connected then none
  else if trimmed toUserId = "" then none
  else some (gateway, packetOf stamp .friendRequest
    [("toUserId", .string (trimmed toUserId)), ("message", .string (trimmed message))])

def sendFriendDecision (cmd : Command) (requestId : String) :
    Option (NetworkGateway × Packet) :=
  if ¬ gateway.connected then none
  else if trimmed requestId = "" then none
  else some (gateway, packetOf stamp cmd [("requestId", .string (trimmed requestId))])

def sendFriendAccept (requestId : String) : Option (NetworkGateway × Packet) :=
  gateway.sendFriendDecision stamp .friendAccept requestId

def sendFriendReject (requestId : String) : Option (NetworkGateway × Packet) :=
  gateway.sendFriendDecision stamp .friendReject requestId

/-! ## Packets from the server -/

variable (packet : Packet)

def handleSendMessageAck : List GatewaySignal :=
  if packet.msgId = "" then []
  else if packet.code = 200 then [.ackReceived packet.msgId (payloadText packet "serverId")]
  else if packet.code ≠ 0 then [.ackFailed packet.msgId packet.code packet.message]
  else []

def handleReceiveMessage : List GatewaySignal × List Packet :=
  let incoming : IncomingMessage := IncomingMessage.effective {
    sessionId := payloadText packet "sessionId"
    sender := payloadText packet "senderUserId"
    content := payloadText packet "content"
    sessionType := (jsonString (packet.payload.value "sessionType")).getD "private"
    senderNickname := payloadText packet "senderNickname"
    groupName := payloadText packet "groupName"
    serverId := packet.msgId }
  (if incoming.sessionId ≠ "" ∧ incoming.sender ≠ "" ∧ incoming.content ≠ "" then
      [.textReceived incoming packet.timestampUtc] else [],
    if gateway.connected ∧ packet.msgId ≠ "" then
      [{ packetOf ⟨packet.msgId, stamp.now⟩ .messageReceivedAck [] with code := 200 }] else [])

def handleCreateGroupAck : NetworkGateway × List GatewaySignal :=
  let success := succeeded packet
  let groupId := payloadText packet "groupId"
  let ackName := trimmed (payloadText packet "groupName")
  let ackMembers := (jsonArray (packet.payload.value "memberUserIds")).map fun value =>
    jsonText (some value)
  let report (groupName : String) (memberUserIds : List String) :=
    GatewaySignal.createGroupResult success groupId groupName memberUserIds packet.message ::
      if success ∧ groupId ≠ "" then [.groupCreated groupId groupName memberUserIds] else []
  match gateway.pendingGroupCreates.lookup packet.msgId with
  | none => (gateway, report ackName ackMembers)
  | some pending =>
      ({ gateway with
        pendingGroupCreates := gateway.pendingGroupCreates.erase packet.msgId },
        report (if ackName = "" ∨ ackName = groupId then pending.groupName else ackName)
          (if ackMembers = [] then pending.memberUserIds else ackMembers))

def handleMemberOpAck (operation : String) : NetworkGateway × List GatewaySignal :=
  let report (userId : String) := [GatewaySignal.memberOpResult
    (payloadText packet "groupId") operation (succeeded packet) packet.message userId]
  match gateway.pendingMemberOps.lookup packet.msgId with
  | none => (gateway, report "")
  | some pending =>
      ({ gateway with pendingMemberOps := gateway.pendingMemberOps.erase packet.msgId },
        report pending.userId)

/-- The dates of the entries are kept as their texts. -/
def parseFriendRequests : List FriendRequestDto :=
  (jsonArray (packet.payload.value "requests")).map fun value =>
    let entry := jsonObject (some value)
    ⟨jsonText (entry.value "requestId"), jsonText (entry.value "fromUserId"),
      jsonText (entry.value "fromUserName"), jsonText (entry.value "toUserId"),
      jsonText (entry.value "toUserName"), jsonText (entry.value "message"),
      jsonText (entry.value "status"), jsonText (entry.value "createdAt")⟩

/-- The code of the two friend lists is not looked at. -/
def handleIncomingPacket : NetworkGateway × List GatewaySignal × List Packet :=
  match packet.cmd with
  | .sendMessageAck => (gateway, handleSendMessageAck packet, [])
  | .receiveMessage => (gateway, gateway.handleReceiveMessage stamp packet)
  | .createGroupAck =>
      let (after, signals) := gateway.handleCreateGroupAck packet
      (after, signals, [])
  | .addMemberAck =>
      let (after, signals) := gateway.handleMemberOpAck packet "add"
      (after, signals, [])
  | .removeMemberAck =>
      let (after, signals) := gateway.handleMemberOpAck packet "remove"
      (after, signals, [])
  | .leaveGroupAck =>
      let (after, signals) := gateway.handleMemberOpAck packet "leave"
      (after, signals, [])
  | .groupMemberChanged =>
      (gateway, [.groupMemberChanged (payloadText packet "groupId")
        (payloadText packet "changeType") (payloadText packet "groupName")], [])
  | .groupListAck =>
      if packet.code ≠ 200 then (gateway, [.groupListLoadFailed packet.message], [])
      else (gateway, [.groupListLoaded (parseGroupList packet)], [])
  | .friendRequestAck =>
      (gateway, [.friendRequestAck (succeeded packet) (payloadText packet "requestId")
        (payloadText packet "toUserId") packet.message], [])
  | .friendAcceptAck =>
      (gateway, [.friendDecisionAck "accept" (succeeded packet) (payloadText packet "requestId")
        packet.message], [])
  | .friendRejectAck =>
      (gateway, [.friendDecisionAck "reject" (succeeded packet) (payloadText packet "requestId")
        packet.message], [])
  | .friendListAck =>
      (gateway, [.friendListLoaded ((jsonArray (packet.payload.value "friends")).map
        fun value => jsonText (some value))], [])
  | .friendRequestListAck =>
      (gateway, [.friendRequestListLoaded (parseFriendRequests packet)], [])
  | .friendRequestNotify =>
      (gateway, [.friendRequestNotified (payloadText packet "requestId")
        (payloadText packet "fromUserId") (payloadText packet "message")
        (payloadText packet "createdAt")], [])
  | .friendChanged =>
      (gateway, [.friendChanged (payloadText packet "userId") (payloadText packet "friendUserId")
        (payloadText packet "requestId") (payloadText packet "changeType")], [])
  | _ => (gateway, [], [])

def handleText {Text : Type} [JsonDocument Text] (rawData : Text) :
    NetworkGateway × List GatewaySignal × List Packet :=
  match decode rawData with
  | .error _ => (gateway, [], [])
  | .ok packet => gateway.handleIncomingPacket stamp packet

end NetworkGateway

end ShirohaChat
