import Mathlib.Tactic.Cases

/-!
# Protocol commands
-/

set_option autoImplicit false

namespace ShirohaChat

inductive Command where
  | connect
  | connectAck
  | sendMessage
  | sendMessageAck
  | receiveMessage
  | messageReceivedAck
  | heartbeat
  | heartbeatAck
  | createGroup
  | createGroupAck
  | addMember
  | addMemberAck
  | removeMember
  | removeMemberAck
  | leaveGroup
  | leaveGroupAck
  | groupMemberChanged
  | groupList
  | groupListAck
  | friendRequest
  | friendRequestAck
  | friendAccept
  | friendAcceptAck
  | friendReject
  | friendRejectAck
  | friendList
  | friendListAck
  | friendRequestList
  | friendRequestListAck
  | friendRequestNotify
  | friendChanged
  | unknown
  deriving DecidableEq, Repr

def Command.toString : Command → String
  | .connect => "connect"
  | .connectAck => "connect_ack"
  | .sendMessage => "send_message"
  | .sendMessageAck => "send_message_ack"
  | .receiveMessage => "receive_message"
  | .messageReceivedAck => "message_received_ack"
  | .heartbeat => "heartbeat"
  | .heartbeatAck => "heartbeat_ack"
  | .createGroup => "create_group"
  | .createGroupAck => "create_group_ack"
  | .addMember => "add_member"
  | .addMemberAck => "add_member_ack"
  | .removeMember => "remove_member"
  | .removeMemberAck => "remove_member_ack"
  | .leaveGroup => "leave_group"
  | .leaveGroupAck => "leave_group_ack"
  | .groupMemberChanged => "group_member_changed"
  | .groupList => "group_list"
  | .groupListAck => "group_list_ack"
  | .friendRequest => "friend_request"
  | .friendRequestAck => "friend_request_ack"
  | .friendAccept => "friend_accept"
  | .friendAcceptAck => "friend_accept_ack"
  | .friendReject => "friend_reject"
  | .friendRejectAck => "friend_reject_ack"
  | .friendList => "friend_list"
  | .friendListAck => "friend_list_ack"
  | .friendRequestList => "friend_request_list"
  | .friendRequestListAck => "friend_request_list_ack"
  | .friendRequestNotify => "friend_request_notify"
  | .friendChanged => "friend_changed"
  | .unknown => "unknown"

/-- The table has no entry for `"unknown"`; that text falls through as any
other unlisted one does. -/
def commandFromString (text : String) : Command :=
  if text = "connect" then .connect
  else if text = "connect_ack" then .connectAck
  else if text = "send_message" then .sendMessage
  else if text = "send_message_ack" then .sendMessageAck
  else if text = "receive_message" then .receiveMessage
  else if text = "message_received_ack" then .messageReceivedAck
  else if text = "heartbeat" then .heartbeat
  else if text = "heartbeat_ack" then .heartbeatAck
  else if text = "create_group" then .createGroup
  else if text = "create_group_ack" then .createGroupAck
  else if text = "add_member" then .addMember
  else if text = "add_member_ack" then .addMemberAck
  else if text = "remove_member" then .removeMember
  else if text = "remove_member_ack" then .removeMemberAck
  else if text = "leave_group" then .leaveGroup
  else if text = "leave_group_ack" then .leaveGroupAck
  else if text = "group_member_changed" then .groupMemberChanged
  else if text = "group_list" then .groupList
  else if text = "group_list_ack" then .groupListAck
  else if text = "friend_request" then .friendRequest
  else if text = "friend_request_ack" then .friendRequestAck
  else if text = "friend_accept" then .friendAccept
  else if text = "friend_accept_ack" then .friendAcceptAck
  else if text = "friend_reject" then .friendReject
  else if text = "friend_reject_ack" then .friendRejectAck
  else if text = "friend_list" then .friendList
  else if text = "friend_list_ack" then .friendListAck
  else if text = "friend_request_list" then .friendRequestList
  else if text = "friend_request_list_ack" then .friendRequestListAck
  else if text = "friend_request_notify" then .friendRequestNotify
  else if text = "friend_changed" then .friendChanged
  else .unknown

/-- The two tables, written separately in the source, invert each other. -/
theorem commandFromString_toString (cmd : Command) :
    commandFromString cmd.toString = cmd := by
  cases cmd <;> decide

end ShirohaChat
