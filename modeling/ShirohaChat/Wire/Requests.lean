import ShirohaChat.Client.Gateway
import ShirohaChat.Server.RequestOutcomes

/-!
# The requests of the gateway and what the server makes of them

For each request: the call it means, and the signals that report a result of
that call.  The packet written for a request means its call to the server, and
the acknowledgement of a result makes the gateway report that result.
-/

set_option autoImplicit false

namespace ShirohaChat

/-- The calls of `INetworkGateway` that the server answers. -/
inductive GatewayRequest where
  | createGroup (groupName : String) (memberUserIds : List String)
  | addMember (groupId userId : String)
  | removeMember (groupId userId : String)
  | leaveGroup (groupId : String)
  | groupList
  | friendRequest (toUserId message : String)
  | friendAccept (requestId : String)
  | friendReject (requestId : String)
  | friendList
  | friendRequestList

namespace GatewayRequest

def send (gateway : NetworkGateway) (stamp : PacketStamp) :
    GatewayRequest → Option (NetworkGateway × Packet)
  | .createGroup groupName memberUserIds =>
      gateway.sendCreateGroup stamp groupName memberUserIds
  | .addMember groupId userId => gateway.sendAddMember stamp groupId userId
  | .removeMember groupId userId => gateway.sendRemoveMember stamp groupId userId
  | .leaveGroup groupId => gateway.sendLeaveGroup stamp groupId
  | .groupList => gateway.sendGroupList stamp
  | .friendRequest toUserId message => gateway.sendFriendRequest stamp toUserId message
  | .friendAccept requestId => gateway.sendFriendAccept stamp requestId
  | .friendReject requestId => gateway.sendFriendReject stamp requestId
  | .friendList => gateway.sendFriendList stamp
  | .friendRequestList => gateway.sendFriendRequestList stamp

def call (userId msgId : String) : GatewayRequest → StoreCall
  | .createGroup groupName memberUserIds =>
      .createGroup ⟨msgId, trimmed groupName, userId, memberUserIds⟩
  | .addMember groupId target =>
      .addMember ⟨msgId, trimmed groupId, trimmed target, userId, .add⟩
  | .removeMember groupId target =>
      .removeMember ⟨msgId, trimmed groupId, trimmed target, userId, .remove⟩
  | .leaveGroup groupId => .leaveGroup ⟨msgId, trimmed groupId, userId, userId, .leave⟩
  | .groupList => .loadGroupList ⟨msgId, userId⟩
  | .friendRequest toUserId message =>
      .createFriendRequest ⟨msgId, userId, trimmed toUserId, trimmed message⟩
  | .friendAccept requestId =>
      .decideFriendRequest ⟨msgId, trimmed requestId, userId, .accept⟩
  | .friendReject requestId =>
      .decideFriendRequest ⟨msgId, trimmed requestId, userId, .reject⟩
  | .friendList => .loadFriendList ⟨msgId, userId⟩
  | .friendRequestList => .loadFriendRequestList ⟨msgId, userId⟩

end GatewayRequest

/-! ## What a result is reported as -/

def GroupListEntry.listed (entry : GroupListEntry) : Option GroupListEntryDto :=
  if trimmed entry.groupId = "" then none
  else some ⟨trimmed entry.groupId, some (trimmed entry.groupName),
    some (trimmed entry.creatorUserId), entry.memberUserIds.map trimmed⟩

/-- The names of the users are not sent. -/
def FriendRequestRecord.listed (record : FriendRequestRecord) : FriendRequestDto :=
  ⟨record.requestId, record.fromUserId, "", record.toUserId, "", record.message, record.status,
    record.createdAt⟩

def GroupCreateResult.reported (result : GroupCreateResult) (groupName : String)
    (invited : List String) : List GatewaySignal :=
  let memberUserIds := if result.memberUserIds = [] then invited else result.memberUserIds
  .createGroupResult result.success result.groupId groupName memberUserIds
      result.errorMessage ::
    if result.success ∧ result.groupId ≠ "" then
      [.groupCreated result.groupId groupName memberUserIds]
    else []

def GroupMemberOpResult.reported (result : GroupMemberOpResult) (operation userId : String) :
    List GatewaySignal :=
  [.memberOpResult result.groupId operation result.success result.errorMessage userId]

def FriendDecisionResult.reported (result : FriendDecisionResult) (operation : String) :
    List GatewaySignal :=
  [.friendDecisionAck operation result.success result.requestId result.errorMessage]

/-- A group list that could not be loaded is reported as such; the two friend
lists are reported as empty. -/
def GatewayRequest.outcome (userId : String) :
    GatewayRequest → StoreReply → List GatewaySignal
  | .createGroup groupName memberUserIds, .groupCreated result =>
      result.reported (trimmed groupName) memberUserIds
  | .addMember _ target, .memberOpCompleted result => result.reported "add" (trimmed target)
  | .removeMember _ target, .memberOpCompleted result =>
      result.reported "remove" (trimmed target)
  | .leaveGroup _, .memberOpCompleted result => result.reported "leave" userId
  | .groupList, .groupListLoaded result =>
      if result.success then [.groupListLoaded (result.groups.filterMap GroupListEntry.listed)]
      else [.groupListLoadFailed result.errorMessage]
  | .friendRequest _ _, .friendRequestCreated result =>
      [.friendRequestAck result.success result.requestId result.toUserId result.errorMessage]
  | .friendAccept _, .friendDecisionCompleted result => result.reported "accept"
  | .friendReject _, .friendDecisionCompleted result => result.reported "reject"
  | .friendList, .friendListLoaded result =>
      [.friendListLoaded (if result.success then result.friendUserIds else [])]
  | .friendRequestList, .friendRequestListLoaded result =>
      [.friendRequestListLoaded
        (if result.success then result.requests.map FriendRequestRecord.listed else [])]
  | _, _ => []

/-! ## The packet of a request -/

namespace GatewayRequest

def RememberedBy (userId msgId : String) (gateway : NetworkGateway) : GatewayRequest → Prop
  | .createGroup groupName memberUserIds =>
      gateway.pendingGroupCreates.lookup msgId = some ⟨trimmed groupName, memberUserIds⟩
  | .addMember groupId target =>
      gateway.pendingMemberOps.lookup msgId = some ⟨trimmed groupId, trimmed target, "add"⟩
  | .removeMember groupId target =>
      gateway.pendingMemberOps.lookup msgId = some ⟨trimmed groupId, trimmed target, "remove"⟩
  | .leaveGroup groupId =>
      gateway.pendingMemberOps.lookup msgId = some ⟨trimmed groupId, userId, "leave"⟩
  | _ => True

def Complete : GatewayRequest → Prop
  | .createGroup groupName _ => trimmed groupName ≠ ""
  | .addMember groupId target => trimmed groupId ≠ "" ∧ trimmed target ≠ ""
  | .removeMember groupId target => trimmed groupId ≠ "" ∧ trimmed target ≠ ""
  | .leaveGroup groupId => trimmed groupId ≠ ""
  | .friendRequest toUserId _ => trimmed toUserId ≠ ""
  | .friendAccept requestId => trimmed requestId ≠ ""
  | .friendReject requestId => trimmed requestId ≠ ""
  | _ => True

def packet (stamp : PacketStamp) : GatewayRequest → Packet
  | .createGroup groupName memberUserIds => NetworkGateway.packetOf stamp .createGroup
      [("groupName", .string (trimmed groupName)),
        ("memberUserIds", .array (memberUserIds.map QJsonValue.string))]
  | .addMember groupId target => NetworkGateway.packetOf stamp .addMember
      [("groupId", .string (trimmed groupId)), ("userId", .string (trimmed target))]
  | .removeMember groupId target => NetworkGateway.packetOf stamp .removeMember
      [("groupId", .string (trimmed groupId)), ("userId", .string (trimmed target))]
  | .leaveGroup groupId => NetworkGateway.packetOf stamp .leaveGroup
      [("groupId", .string (trimmed groupId))]
  | .groupList => NetworkGateway.packetOf stamp .groupList []
  | .friendRequest toUserId message => NetworkGateway.packetOf stamp .friendRequest
      [("toUserId", .string (trimmed toUserId)), ("message", .string (trimmed message))]
  | .friendAccept requestId => NetworkGateway.packetOf stamp .friendAccept
      [("requestId", .string (trimmed requestId))]
  | .friendReject requestId => NetworkGateway.packetOf stamp .friendReject
      [("requestId", .string (trimmed requestId))]
  | .friendList => NetworkGateway.packetOf stamp .friendList []
  | .friendRequestList => NetworkGateway.packetOf stamp .friendRequestList []

end GatewayRequest

structure KeepsOthers (msgId : String) (before after : NetworkGateway) : Prop where
  connected : after.connected = before.connected
  userId : after.userId = before.userId
  creates : ∀ other, other ≠ msgId →
    after.pendingGroupCreates.lookup other = before.pendingGroupCreates.lookup other
  ops : ∀ other, other ≠ msgId →
    after.pendingMemberOps.lookup other = before.pendingMemberOps.lookup other

theorem KeepsOthers.refl (msgId : String) (gateway : NetworkGateway) :
    KeepsOthers msgId gateway gateway :=
  ⟨rfl, rfl, fun _ _ => rfl, fun _ _ => rfl⟩

theorem KeepsOthers.rememberedBy {msgId other userId : String} {before after : NetworkGateway}
    (keeps : KeepsOthers msgId before after) (apart : other ≠ msgId) {request : GatewayRequest}
    (remembered : request.RememberedBy userId other before) :
    request.RememberedBy userId other after := by
  have creates := keeps.creates other apart
  have ops := keeps.ops other apart
  cases request with
  | createGroup groupName memberUserIds => exact creates.trans remembered
  | addMember groupId target => exact ops.trans remembered
  | removeMember groupId target => exact ops.trans remembered
  | leaveGroup groupId => exact ops.trans remembered
  | _ => trivial

theorem keepsOthers_insertCreate (gateway : NetworkGateway) (msgId : String)
    (pending : PendingGroupCreate) :
    KeepsOthers msgId gateway
      { gateway with pendingGroupCreates := gateway.pendingGroupCreates.insert msgId pending } := by
  refine ⟨rfl, rfl, ?_, fun _ _ => rfl⟩
  intro other apart
  rw [FiniteMap.lookup_insert, if_neg apart]

theorem keepsOthers_rememberOp (gateway : NetworkGateway) (stamp : PacketStamp)
    (pending : PendingMemberOp) :
    KeepsOthers stamp.msgId gateway (gateway.rememberOp stamp pending) := by
  refine ⟨rfl, rfl, fun _ _ => rfl, ?_⟩
  intro other apart
  exact (FiniteMap.lookup_insert _ _ _ _).trans (if_neg apart)

/-! ## The server understands the packet -/

@[simp] theorem jsonText_none : jsonText none = "" := rfl

@[simp] theorem jsonText_string (text : String) : jsonText (some (.string text)) = text := rfl

@[simp] theorem jsonTexts_strings (texts : List String) :
    texts.map ((fun value => jsonText (some value)) ∘ QJsonValue.string) = texts :=
  List.map_id texts

@[simp] theorem jsonTexts_trimmed (texts : List String) :
    texts.map ((fun value => trimmed (jsonText (some value))) ∘ QJsonValue.string) =
      texts.map trimmed := rfl

namespace GatewayRequest

variable {gateway after : NetworkGateway} {stamp : PacketStamp} {request : GatewayRequest}
  {sent : Packet}

theorem sendMemberChange_some {cmd : Command} {operation groupId userId : String}
    (isSent : gateway.sendMemberChange stamp cmd operation groupId userId =
      some (after, sent)) :
    gateway.connected = true ∧ (trimmed groupId ≠ "" ∧ trimmed userId ≠ "") ∧
      sent = NetworkGateway.packetOf stamp cmd
        [("groupId", .string (trimmed groupId)), ("userId", .string (trimmed userId))] ∧
      after.pendingMemberOps.lookup stamp.msgId =
        some ⟨trimmed groupId, trimmed userId, operation⟩ ∧
      KeepsOthers stamp.msgId gateway after := by
  unfold NetworkGateway.sendMemberChange at isSent
  split at isSent
  · cases isSent
  rename_i isConnected
  split at isSent
  · cases isSent
  rename_i named
  cases isSent
  exact ⟨not_not.mp isConnected, not_or.mp named, rfl, AList.lookup_insert _,
    keepsOthers_rememberOp _ _ _⟩

theorem sendQuery_some {cmd : Command}
    (isSent : gateway.sendQuery stamp cmd = some (after, sent)) :
    gateway.connected = true ∧ sent = NetworkGateway.packetOf stamp cmd [] ∧
      KeepsOthers stamp.msgId gateway after := by
  unfold NetworkGateway.sendQuery at isSent
  split at isSent
  · cases isSent
  rename_i isConnected
  cases isSent
  exact ⟨not_not.mp isConnected, rfl, KeepsOthers.refl _ _⟩

theorem sendFriendDecision_some {cmd : Command} {requestId : String}
    (isSent : gateway.sendFriendDecision stamp cmd requestId = some (after, sent)) :
    gateway.connected = true ∧ trimmed requestId ≠ "" ∧
      sent = NetworkGateway.packetOf stamp cmd [("requestId", .string (trimmed requestId))] ∧
      KeepsOthers stamp.msgId gateway after := by
  unfold NetworkGateway.sendFriendDecision at isSent
  split at isSent
  · cases isSent
  rename_i isConnected
  split at isSent
  · cases isSent
  rename_i named
  cases isSent
  exact ⟨not_not.mp isConnected, named, rfl, KeepsOthers.refl _ _⟩

/-- Only complete requests of a connected gateway are written. -/
theorem send_some (isSent : request.send gateway stamp = some (after, sent)) :
    gateway.connected = true ∧ request.Complete ∧ sent = request.packet stamp ∧
      request.RememberedBy gateway.userId stamp.msgId after ∧
      KeepsOthers stamp.msgId gateway after := by
  cases request with
  | createGroup groupName memberUserIds =>
      simp only [send, NetworkGateway.sendCreateGroup] at isSent
      split at isSent
      · cases isSent
      rename_i isConnected
      split at isSent
      · cases isSent
      rename_i named
      cases isSent
      exact ⟨not_not.mp isConnected, named, rfl, AList.lookup_insert _,
        keepsOthers_insertCreate _ _ _⟩
  | addMember groupId target => exact sendMemberChange_some isSent
  | removeMember groupId target => exact sendMemberChange_some isSent
  | leaveGroup groupId =>
      simp only [send, NetworkGateway.sendLeaveGroup] at isSent
      split at isSent
      · cases isSent
      rename_i isConnected
      split at isSent
      · cases isSent
      rename_i named
      cases isSent
      exact ⟨not_not.mp isConnected, named, rfl, AList.lookup_insert _,
        keepsOthers_rememberOp _ _ _⟩
  | groupList =>
      obtain ⟨connected, written, keeps⟩ := sendQuery_some isSent
      exact ⟨connected, trivial, written, trivial, keeps⟩
  | friendRequest toUserId message =>
      simp only [send, NetworkGateway.sendFriendRequest] at isSent
      split at isSent
      · cases isSent
      rename_i isConnected
      split at isSent
      · cases isSent
      rename_i named
      cases isSent
      exact ⟨not_not.mp isConnected, named, rfl, trivial, KeepsOthers.refl _ _⟩
  | friendAccept requestId =>
      obtain ⟨connected, named, written, keeps⟩ := sendFriendDecision_some isSent
      exact ⟨connected, named, written, trivial, keeps⟩
  | friendReject requestId =>
      obtain ⟨connected, named, written, keeps⟩ := sendFriendDecision_some isSent
      exact ⟨connected, named, written, trivial, keeps⟩
  | friendList =>
      obtain ⟨connected, written, keeps⟩ := sendQuery_some isSent
      exact ⟨connected, trivial, written, trivial, keeps⟩
  | friendRequestList =>
      obtain ⟨connected, written, keeps⟩ := sendQuery_some isSent
      exact ⟨connected, trivial, written, trivial, keeps⟩

theorem storeCall_packet (request : GatewayRequest) (stamp : PacketStamp) (userId : String) :
    (request.packet stamp).storeCall userId = some (request.call userId stamp.msgId) := by
  cases request with
  | createGroup groupName memberUserIds =>
      simp [packet, call, Packet.storeCall, NetworkGateway.packetOf, Packet.text,
        QJsonObject.value, jsonArray]
  | _ => simp [packet, call, Packet.storeCall, NetworkGateway.packetOf, Packet.text,
      QJsonObject.value]

theorem accepts_packet (complete : request.Complete) (state : ManagementState)
    {session : ClientSession} (authenticated : session.isAuthenticated = true) :
    Accepts state session (request.packet stamp) := by
  have passes : ∀ {Outcome : Type} (rest : Except Refusal Outcome),
      requireAuthenticated session rest = rest := by
    intro Outcome rest
    rw [requireAuthenticated, if_neg (not_not.mpr authenticated)]
  have named : ∀ {Outcome : Type} (texts : List String) (missing : String)
      (rest : Except Refusal Outcome), "" ∉ texts → requireTexts texts missing rest = rest := by
    intro Outcome texts missing rest allNamed
    rw [requireTexts, if_neg allNamed]
  cases request with
  | createGroup groupName memberUserIds =>
      refine Or.inl ⟨_, congrArg some ((passes _).trans (named _ _ _ ?_))⟩
      simpa [packet, NetworkGateway.packetOf, Packet.text, QJsonObject.value] using Ne.symm complete
  | addMember groupId target =>
      refine Or.inl ⟨_, congrArg some ((passes _).trans (named _ _ _ ?_))⟩
      simpa [packet, NetworkGateway.packetOf, Packet.text, QJsonObject.value] using
        And.imp Ne.symm Ne.symm complete
  | removeMember groupId target =>
      refine Or.inl ⟨_, congrArg some ((passes _).trans (named _ _ _ ?_))⟩
      simpa [packet, NetworkGateway.packetOf, Packet.text, QJsonObject.value] using
        And.imp Ne.symm Ne.symm complete
  | leaveGroup groupId =>
      refine Or.inl ⟨_, congrArg some ((passes _).trans (named _ _ _ ?_))⟩
      simpa [packet, NetworkGateway.packetOf, Packet.text, QJsonObject.value] using Ne.symm complete
  | groupList => exact Or.inl ⟨_, congrArg some (passes _)⟩
  | friendRequest toUserId message =>
      refine Or.inr ⟨_, congrArg some ((passes _).trans (named _ _ _ ?_))⟩
      simpa [packet, NetworkGateway.packetOf, Packet.text, QJsonObject.value] using Ne.symm complete
  | friendAccept requestId =>
      refine Or.inr ⟨_, congrArg some ((passes _).trans (named _ _ _ ?_))⟩
      simpa [packet, NetworkGateway.packetOf, Packet.text, QJsonObject.value] using Ne.symm complete
  | friendReject requestId =>
      refine Or.inr ⟨_, congrArg some ((passes _).trans (named _ _ _ ?_))⟩
      simpa [packet, NetworkGateway.packetOf, Packet.text, QJsonObject.value] using Ne.symm complete
  | friendList => exact Or.inr ⟨_, congrArg some (passes _)⟩
  | friendRequestList => exact Or.inr ⟨_, congrArg some (passes _)⟩

end GatewayRequest

/-! ## The gateway understands the acknowledgement -/

def StoreReply.FailsApart : StoreReply → Prop
  | .groupCreated result => result.success = false → result.errorCode ≠ 200
  | .memberOpCompleted result => result.success = false → result.errorCode ≠ 200
  | .friendRequestCreated result => result.success = false → result.errorCode ≠ 200
  | .friendDecisionCompleted result => result.success = false → result.errorCode ≠ 200
  | _ => True

theorem executeStoreCall_failsApart (database : Database) (run : StoreRun)
    (call : StoreCall) : (executeStoreCall database run call).2.FailsApart := by
  cases call with
  | createGroup request =>
      simp only [executeStoreCall, StoreReply.FailsApart]
      unfold createGroup
      simp only
      repeat' split
      all_goals simp
  | addMember request =>
      simp only [executeStoreCall, StoreReply.FailsApart]
      unfold addMember
      simp only [memberOpFailed, memberOpDone]
      repeat' split
      all_goals simp
  | removeMember request =>
      simp only [executeStoreCall, StoreReply.FailsApart]
      unfold removeMember
      simp only [memberOpFailed, memberOpDone]
      repeat' split
      all_goals simp
  | leaveGroup request =>
      simp only [executeStoreCall, StoreReply.FailsApart]
      unfold leaveGroup
      simp only [memberOpFailed, memberOpDone]
      repeat' split
      all_goals simp
  | createFriendRequest request =>
      simp only [executeStoreCall, StoreReply.FailsApart]
      unfold createFriendRequest
      simp only
      repeat' split
      all_goals simp
  | decideFriendRequest request =>
      simp only [executeStoreCall, StoreReply.FailsApart]
      unfold decideFriendRequest
      simp only
      repeat' split
      all_goals simp
  | _ => trivial

section Acks
variable (ackCmd : Command) (reqMsgId : String) (code : Int32) (message : String)
  (payload : QJsonObject)

@[simp] theorem makeAck_cmd : (Packet.makeAck ackCmd reqMsgId code message payload).cmd = ackCmd :=
  rfl

@[simp] theorem makeAck_msgId :
    (Packet.makeAck ackCmd reqMsgId code message payload).msgId = reqMsgId := rfl

@[simp] theorem makeAck_code :
    (Packet.makeAck ackCmd reqMsgId code message payload).code = code := rfl

@[simp] theorem makeAck_message :
    (Packet.makeAck ackCmd reqMsgId code message payload).message = message := rfl

@[simp] theorem makeAck_payload :
    (Packet.makeAck ackCmd reqMsgId code message payload).payload = payload := rfl

theorem succeeded_makeAck {success : Bool} {errorCode : Int32}
    (apart : success = false → errorCode ≠ 200) :
    NetworkGateway.succeeded
      (Packet.makeAck ackCmd reqMsgId (ackCode success errorCode) message payload) =
        success := by
  cases success with
  | true => rfl
  | false => exact decide_eq_false (apart rfl)

end Acks

theorem keepsOthers_eraseCreate (gateway : NetworkGateway) (msgId : String) :
    KeepsOthers msgId gateway
      { gateway with pendingGroupCreates := gateway.pendingGroupCreates.erase msgId } := by
  refine ⟨rfl, rfl, ?_, fun _ _ => rfl⟩
  intro other apart
  rw [FiniteMap.lookup_erase, if_neg apart]

theorem keepsOthers_eraseOp (gateway : NetworkGateway) (msgId : String) :
    KeepsOthers msgId gateway
      { gateway with pendingMemberOps := gateway.pendingMemberOps.erase msgId } := by
  refine ⟨rfl, rfl, fun _ _ => rfl, ?_⟩
  intro other apart
  rw [FiniteMap.lookup_erase, if_neg apart]

section Answers
variable {gateway : NetworkGateway} {stamp : PacketStamp} {msgId : String}

def Reports (gateway : NetworkGateway) (stamp : PacketStamp) (msgId : String) (packet : Packet)
    (signals : List GatewaySignal) : Prop :=
  ∃ after, gateway.handleIncomingPacket stamp packet = (after, signals, []) ∧
    KeepsOthers msgId gateway after

theorem reports_groupCreated {result : GroupCreateResult} {groupName : String}
    {invited : List String} (sameId : result.reqMsgId = msgId)
    (apart : result.success = false → result.errorCode ≠ 200)
    (trimmedName : trimmed groupName = groupName)
    (remembered : gateway.pendingGroupCreates.lookup msgId = some ⟨groupName, invited⟩) :
    Reports gateway stamp msgId (GroupHandler.onGroupCreated groupName result)
      (result.reported groupName invited) := by
  subst sameId
  refine ⟨_, ?_, keepsOthers_eraseCreate gateway result.reqMsgId⟩
  have named : (if trimmed (if result.success then groupName else "") = "" ∨
      trimmed (if result.success then groupName else "") = result.groupId then groupName
      else trimmed (if result.success then groupName else "")) = groupName := by
    cases result.success with
    | true => simp [trimmedName]
    | false => exact if_pos (Or.inl rfl)
  simp [NetworkGateway.handleIncomingPacket, NetworkGateway.handleCreateGroupAck,
    GroupHandler.onGroupCreated, remembered, NetworkGateway.payloadText, QJsonObject.value,
    toJsonArray, jsonArray, named, succeeded_makeAck _ _ _ _ apart, GroupCreateResult.reported]

theorem reports_memberOpCompleted {result : GroupMemberOpResult} {operation : GroupMemberOp}
    {pending : PendingMemberOp} (sameId : result.reqMsgId = msgId)
    (apart : result.success = false → result.errorCode ≠ 200)
    (remembered : gateway.pendingMemberOps.lookup msgId = some pending) :
    Reports gateway stamp msgId (GroupHandler.onMemberOpCompleted operation result)
      (result.reported (match operation with
        | .add => "add"
        | .remove => "remove"
        | .leave => "leave") pending.userId) := by
  subst sameId
  refine ⟨_, ?_, keepsOthers_eraseOp gateway result.reqMsgId⟩
  cases operation <;>
    simp [NetworkGateway.handleIncomingPacket, NetworkGateway.handleMemberOpAck,
      GroupHandler.onMemberOpCompleted, GroupHandler.memberOpAck, remembered,
      NetworkGateway.payloadText, QJsonObject.value, succeeded_makeAck _ _ _ _ apart,
      GroupMemberOpResult.reported]

theorem parseGroupList_makeAck (reqMsgId message : String) (code : Int32)
    (groups : List GroupListEntry) :
    parseGroupList (Packet.makeAck .groupListAck reqMsgId code message
      [("groups", .array (groups.map fun item => QJsonValue.object
        [("groupId", .string item.groupId), ("groupName", .string item.groupName),
          ("creatorUserId", .string item.creatorUserId), ("createdAt", .string item.createdAt),
          ("updatedAt", .string item.updatedAt),
          ("memberUserIds", toJsonArray item.memberUserIds)]))]) =
      groups.filterMap GroupListEntry.listed := by
  simp only [parseGroupList, makeAck_payload, QJsonObject.value, jsonArray]
  simp [List.filterMap_map]
  congr 1
  funext entry
  simp [jsonObject, jsonString, toJsonArray, GroupListEntry.listed]

theorem reports_groupListLoaded (result : GroupListResult) :
    Reports gateway stamp msgId (GroupHandler.onGroupListLoaded result)
      (if result.success then [.groupListLoaded (result.groups.filterMap GroupListEntry.listed)]
        else [.groupListLoadFailed result.errorMessage]) := by
  refine ⟨gateway, ?_, KeepsOthers.refl _ _⟩
  by_cases success : result.success = true
  · simp [NetworkGateway.handleIncomingPacket, GroupHandler.onGroupListLoaded, success,
      parseGroupList_makeAck]
  · simp [NetworkGateway.handleIncomingPacket, GroupHandler.onGroupListLoaded, success]

theorem reports_createCompleted {result : FriendRequestCreateResult}
    (apart : result.success = false → result.errorCode ≠ 200) :
    Reports gateway stamp msgId (FriendHandler.onCreateCompleted result)
      [.friendRequestAck result.success result.requestId result.toUserId
        result.errorMessage] := by
  refine ⟨gateway, ?_, KeepsOthers.refl _ _⟩
  simp [NetworkGateway.handleIncomingPacket, FriendHandler.onCreateCompleted,
    NetworkGateway.payloadText, QJsonObject.value, succeeded_makeAck _ _ _ _ apart]

theorem reports_decisionCompleted {result : FriendDecisionResult}
    {operation : FriendDecisionOp} (apart : result.success = false → result.errorCode ≠ 200) :
    Reports gateway stamp msgId (FriendHandler.onDecisionCompleted operation result)
      (result.reported (match operation with
        | .accept => "accept"
        | .reject => "reject")) := by
  refine ⟨gateway, ?_, KeepsOthers.refl _ _⟩
  cases operation <;>
    simp [NetworkGateway.handleIncomingPacket, FriendHandler.onDecisionCompleted,
      FriendHandler.decisionAck, NetworkGateway.payloadText, QJsonObject.value,
      succeeded_makeAck _ _ _ _ apart, FriendDecisionResult.reported]

theorem reports_friendListLoaded (result : FriendListResult) :
    Reports gateway stamp msgId (FriendHandler.onFriendListCompleted result)
      [.friendListLoaded (if result.success then result.friendUserIds else [])] := by
  refine ⟨gateway, ?_, KeepsOthers.refl _ _⟩
  by_cases success : result.success = true
  · simp [NetworkGateway.handleIncomingPacket, FriendHandler.onFriendListCompleted, success,
      QJsonObject.value, toJsonArray, jsonArray]
  · simp [NetworkGateway.handleIncomingPacket, FriendHandler.onFriendListCompleted, success,
      QJsonObject.value, jsonArray]

theorem reports_friendRequestListLoaded (result : FriendRequestListResult) :
    Reports gateway stamp msgId (FriendHandler.onFriendRequestListCompleted result)
      [.friendRequestListLoaded
        (if result.success then result.requests.map FriendRequestRecord.listed else [])] := by
  refine ⟨gateway, ?_, KeepsOthers.refl _ _⟩
  by_cases success : result.success = true
  · simp [NetworkGateway.handleIncomingPacket, FriendHandler.onFriendRequestListCompleted,
      success, NetworkGateway.parseFriendRequests, QJsonObject.value, jsonArray, jsonObject,
      FriendRequestRecord.listed]
  · simp [NetworkGateway.handleIncomingPacket, FriendHandler.onFriendRequestListCompleted,
      success, NetworkGateway.parseFriendRequests, QJsonObject.value, jsonArray]

/-- The acknowledgement of a request makes the gateway report the result of the
call of that request. -/
theorem answer_reported (stamp : PacketStamp) {request : GatewayRequest} {userId : String}
    (database : Database) (run : StoreRun)
    (remembered : request.RememberedBy userId msgId gateway) :
    ∃ ack, (request.call userId msgId).answer
        (executeStoreCall database run (request.call userId msgId)).2 = some ack ∧
      Reports gateway stamp msgId ack
        (request.outcome userId (executeStoreCall database run (request.call userId msgId)).2) := by
  have apart := executeStoreCall_failsApart database run (request.call userId msgId)
  cases request with
  | createGroup groupName memberUserIds =>
      exact ⟨_, rfl, reports_groupCreated (createGroup_reqMsgId _ _ _) apart
        (trimmed_trimmed groupName) remembered⟩
  | addMember groupId target =>
      exact ⟨_, rfl, reports_memberOpCompleted (addMember_reqMsgId _ _ _) apart remembered⟩
  | removeMember groupId target =>
      exact ⟨_, rfl, reports_memberOpCompleted (removeMember_reqMsgId _ _ _) apart remembered⟩
  | leaveGroup groupId =>
      exact ⟨_, rfl, reports_memberOpCompleted (leaveGroup_reqMsgId _ _ _) apart remembered⟩
  | groupList => exact ⟨_, rfl, reports_groupListLoaded _⟩
  | friendRequest toUserId message => exact ⟨_, rfl, reports_createCompleted apart⟩
  | friendAccept requestId => exact ⟨_, rfl, reports_decisionCompleted apart⟩
  | friendReject requestId => exact ⟨_, rfl, reports_decisionCompleted apart⟩
  | friendList => exact ⟨_, rfl, reports_friendListLoaded _⟩
  | friendRequestList => exact ⟨_, rfl, reports_friendRequestListLoaded _⟩

end Answers

end ShirohaChat
