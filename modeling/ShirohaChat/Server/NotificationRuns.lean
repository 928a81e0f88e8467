import ShirohaChat.Server.GroupNotifications

/-!
# Group changes and their notifications in a run

A committed change passes through four stages: its result is on the way to the
main thread, its notification waits for a member list, the list is on the way
back, and the notification has been handed out.  Steps for other requests leave
the stage alone.
-/

set_option autoImplicit false

namespace ShirohaChat

open Transition Correlation

/-! ## What handling a result asks for and hands out -/

structure Reacts (request : IssuedRequest) (queries : List GroupMembersQuery)
    (told : List (String × Packet)) (before after : ManagementState) : Prop where
  calls : after.calls =
    before.calls ++ queries.map fun query => (request, StoreCall.loadGroupMembers query)
  notified : after.notified = before.notified ++ told
  replies : after.replies = before.replies
  issued : after.issued = before.issued

def FriendSignal.told : FriendSignal → Option (String × Packet)
  | .enqueueIfOffline userId packet => some (userId, packet)
  | _ => none

namespace Reacts

variable (request : IssuedRequest)

theorem emitGroup (signals : List GroupSignal) :
    ∀ state : ManagementState, Reacts request (signals.filterMap GroupSignal.membersQuery)
      (signals.filterMap GroupSignal.told) state
      (signals.foldl (ManagementState.emitGroup request) state) := by
  induction signals with
  | nil =>
      intro state
      exact ⟨by simp, by simp, rfl, rfl⟩
  | cons signal rest ih =>
      intro state
      have later := ih (ManagementState.emitGroup request state signal)
      refine ⟨?_, ?_, ?_, ?_⟩
      · rw [List.foldl_cons, later.calls]
        cases signal <;>
          simp [ManagementState.emitGroup, ManagementState.acknowledge, GroupSignal.membersQuery,
            List.filterMap_cons]
      · rw [List.foldl_cons, later.notified]
        cases signal <;>
          simp [ManagementState.emitGroup, ManagementState.acknowledge, GroupSignal.told,
            List.filterMap_cons]
      · rw [List.foldl_cons, later.replies]
        cases signal <;> rfl
      · rw [List.foldl_cons, later.issued]
        cases signal <;> rfl

theorem emitFriend (signals : List FriendSignal) :
    ∀ state : ManagementState, Reacts request [] (signals.filterMap FriendSignal.told) state
      (signals.foldl (ManagementState.emitFriend request) state) := by
  induction signals with
  | nil =>
      intro state
      exact ⟨by simp, by simp, rfl, rfl⟩
  | cons signal rest ih =>
      intro state
      have later := ih (ManagementState.emitFriend request state signal)
      refine ⟨?_, ?_, ?_, ?_⟩
      · rw [List.foldl_cons, later.calls]
        cases signal <;> rfl
      · rw [List.foldl_cons, later.notified]
        cases signal <;>
          simp [ManagementState.emitFriend, ManagementState.acknowledge, FriendSignal.told,
            List.filterMap_cons]
      · rw [List.foldl_cons, later.replies]
        cases signal <;> rfl
      · rw [List.foldl_cons, later.issued]
        cases signal <;> rfl

theorem runGroup (state : ManagementState) (outcome : GroupManagementService × List GroupSignal) :
    Reacts request (outcome.2.filterMap GroupSignal.membersQuery)
      (outcome.2.filterMap GroupSignal.told) state (state.runGroup request outcome) :=
  have emitted := emitGroup request outcome.2 { state with group := outcome.1 }
  ⟨emitted.calls, emitted.notified, emitted.replies, emitted.issued⟩

theorem runFriend (state : ManagementState)
    (outcome : FriendManagementService × List FriendSignal) :
    Reacts request [] (outcome.2.filterMap FriendSignal.told) state
      (state.runFriend request outcome) :=
  have emitted := emitFriend request outcome.2 { state with friend := outcome.1 }
  ⟨emitted.calls, emitted.notified, emitted.replies, emitted.issued⟩

theorem onStoreReply (state : ManagementState) (stamp : NotifyStamp) (reply : StoreReply) :
    ∃ queries told, queries.length ≤ 1 ∧ Reacts request queries told state
      (state.onStoreReply stamp request reply) := by
  have asksOnce : ∀ {uuid : String} {outcome : GroupManagementService × List GroupSignal},
      state.group.AsksOnce uuid outcome →
        (outcome.2.filterMap GroupSignal.membersQuery).length ≤ 1 := by
    intro uuid outcome asks
    rcases asks with ⟨_, none⟩ | ⟨_, _, _, one⟩
    · simp [none]
    · simp [one]
  cases reply with
  | groupMembersLoaded result =>
      rw [ManagementState.onStoreReply]
      split
      · rename_i isNotify
        refine ⟨_, _, ?_, runGroup request _ _⟩
        rw [(state.group.onGroupMembersForNotify_cases (ne_empty_of_notify isNotify)).2]
        exact Nat.zero_le 1
      · exact ⟨[], [], Nat.zero_le 1, ⟨by simp, by simp, rfl, rfl⟩⟩
  | groupCreated result =>
      exact ⟨_, _, asksOnce (state.group.asksOnce_onGroupCreated stamp result),
        runGroup request _ _⟩
  | memberOpCompleted result =>
      exact ⟨_, _, asksOnce (state.group.asksOnce_onMemberOpCompleted stamp _ result),
        runGroup request _ _⟩
  | groupListLoaded result =>
      exact ⟨_, _, asksOnce (state.group.asksOnce_onGroupListLoaded "" result),
        runGroup request _ _⟩
  | friendRequestCreated result => exact ⟨[], _, Nat.zero_le 1, runFriend request _ _⟩
  | friendDecisionCompleted result => exact ⟨[], _, Nat.zero_le 1, runFriend request _ _⟩
  | friendListLoaded result => exact ⟨[], _, Nat.zero_le 1, runFriend request _ _⟩
  | friendRequestListLoaded result => exact ⟨[], _, Nat.zero_le 1, runFriend request _ _⟩

end Reacts

structure AsksFor (uuid groupId targetUserId : String) (service : GroupManagementService)
    (outcome : GroupManagementService × List GroupSignal) : Prop where
  query : outcome.2.filterMap GroupSignal.membersQuery = [⟨groupId, "grp_notify_" ++ uuid⟩]
  silent : outcome.2.filterMap GroupSignal.told = []
  waits : ∃ pending : PendingNotification, outcome.1.pendingNotifications =
      service.pendingNotifications.insert ("grp_notify_" ++ uuid) pending ∧
    pending.packet.cmd = .groupMemberChanged ∧ pending.targetUserId = targetUserId

namespace GroupManagementService

variable (service : GroupManagementService) (stamp : NotifyStamp)

theorem asksFor_onGroupCreated {result : GroupCreateResult} {pending : GroupPendingRequest}
    (found : service.pendingRequests.lookup result.reqMsgId = some pending)
    (success : result.success = true) :
    AsksFor stamp.firstUuid result.groupId "" service (service.onGroupCreated stamp result) := by
  unfold onGroupCreated
  rw [found]
  simp only [success, not_true, if_false]
  exact ⟨rfl, rfl, _, rfl, rfl, rfl⟩

theorem asksFor_onMemberOpCompleted {result : GroupMemberOpResult}
    {pending : GroupPendingRequest} (sessionUserId : String → Option String)
    (found : service.pendingRequests.lookup result.reqMsgId = some pending)
    (success : result.success = true) :
    AsksFor stamp.firstUuid result.groupId
      (if pending.operation = .remove ∨ pending.operation = .leave then result.targetUserId
        else "") service (service.onMemberOpCompleted sessionUserId stamp result) := by
  unfold onMemberOpCompleted
  rw [found]
  simp only [success, not_true, if_false]
  exact ⟨rfl, rfl, _, rfl, rfl, rfl⟩

theorem told_members (members : List String) (packet : Packet) :
    (members.map fun userId => GroupSignal.enqueueIfOffline userId packet).filterMap
      GroupSignal.told = members.map fun userId => (userId, packet) := by
  simp [List.filterMap_map, Function.comp_def, GroupSignal.told]

/-- The waiting notification is handed out, unless the group has gone. -/
theorem told_onGroupMembersForNotify (store : GroupStore) {query : GroupMembersQuery}
    {pending : PendingNotification} (named : query.reqMsgId ≠ "")
    (found : service.pendingNotifications.lookup query.reqMsgId = some pending) :
    ∃ packet : Packet, packet.cmd = pending.packet.cmd ∧
      (service.onGroupMembersForNotify (loadGroupMembers store {} query)).2.filterMap
          GroupSignal.told =
        if (store.groups.find? query.groupId).isSome then
          notices store query.groupId pending.targetUserId packet
        else [] := by
  cases stored : store.groups.find? query.groupId with
  | none =>
      have loaded : loadGroupMembers store {} query =
          ⟨query.groupId, "", [], query.reqMsgId, false, 404, "Group not found"⟩ := by
        simp [loadGroupMembers, stored]
      refine ⟨pending.packet, rfl, ?_⟩
      rw [loaded]
      simp [onGroupMembersForNotify, named, found]
  | some group =>
      have loaded : loadGroupMembers store {} query =
          ⟨query.groupId, group.name, (oldestFirst MemberRow.joinedAt
            (store.members.select fun row => row.groupId = query.groupId)).map MemberRow.userId,
            query.reqMsgId, true, 0, ""⟩ := by
        simp [loadGroupMembers, stored]
      unfold onGroupMembersForNotify
      rw [loaded]
      simp only [named, found, not_true, if_false, Option.isSome_some, if_true, notices]
      generalize (if trimmed pending.groupName = "" then trimmed group.name
        else trimmed pending.groupName) = groupName
      refine ⟨if groupName = "" then pending.packet
        else { pending.packet with
          payload := pending.packet.payload.insert "groupName" (.string groupName) }, ?_, ?_⟩
      · split <;> rfl
      · split
        · rw [List.filterMap_append, told_members]
          rfl
        · exact told_members _ _

end GroupManagementService

/-! ## The entries of a request -/

section Entries
variable {Item : Type} (request : IssuedRequest)

theorem entriesOf_append (left right : List (IssuedRequest × Item)) :
    entriesOf request (left ++ right) = entriesOf request left ++ entriesOf request right := by
  simp [entriesOf]

theorem entriesOf_cons (other : IssuedRequest) (item : Item)
    (rest : List (IssuedRequest × Item)) :
    entriesOf request ((other, item) :: rest) =
      if other = request then item :: entriesOf request rest else entriesOf request rest := by
  unfold entriesOf
  rw [List.filter_cons]
  split <;> simp_all

theorem entriesOf_map (other : IssuedRequest) (items : List Item) :
    entriesOf request (items.map fun item => (other, item)) =
      if other = request then items else [] := by
  induction items with
  | nil => simp [entriesOf]
  | cons item rest ih =>
      rw [List.map_cons, entriesOf_cons, ih]
      split <;> rfl

theorem entriesOf_eq_nil {entries : List (IssuedRequest × Item)}
    (absent : request ∉ entries.map Prod.fst) : entriesOf request entries = [] := by
  unfold entriesOf
  rw [List.map_eq_nil_iff, List.filter_eq_nil_iff]
  intro entry member same
  exact absent (List.mem_map.mpr ⟨entry, member, of_decide_eq_true same⟩)

theorem mem_of_mem_entriesOf {entries : List (IssuedRequest × Item)} {item : Item}
    (member : item ∈ entriesOf request entries) : (request, item) ∈ entries := by
  obtain ⟨entry, kept, rfl⟩ := List.mem_map.mp member
  obtain ⟨entryIn, same⟩ := List.mem_filter.mp kept
  rw [← of_decide_eq_true same]
  exact entryIn

end Entries

/-! ## The stages of a change -/

structure RequestTrace where
  calls : List StoreCall
  replies : List StoreReply
  loads : List GroupStore
  told : List (String × Packet)

def NotifyRecord.trace (record : NotifyRecord) (request : IssuedRequest) : RequestTrace :=
  ⟨entriesOf request record.state.calls, entriesOf request record.state.replies,
    entriesOf request record.loads, entriesOf request record.told⟩

def GroupChange.ReportedBy (change : GroupChange) : StoreReply → Prop
  | .groupCreated result =>
      result.success = true ∧ result.groupId = change.groupId ∧ change.leaver = none
  | .memberOpCompleted result =>
      result.success = true ∧ result.groupId = change.groupId ∧ change.leaver.getD "" =
        if change.request.cmd = .removeMember ∨ change.request.cmd = .leaveGroup then
          result.targetUserId
        else ""
  | _ => False

structure NotifyRecord.Pends (record : NotifyRecord) (query : GroupMembersQuery)
    (change : GroupChange) : Prop where
  ofGroup : query.groupId = change.groupId
  waits : ∃ pending, record.state.group.pendingNotifications.lookup query.reqMsgId = some pending ∧
    pending.packet.cmd = .groupMemberChanged ∧ pending.targetUserId = change.leaver.getD ""

inductive NotifyRecord.Stage (record : NotifyRecord) (change : GroupChange) : Prop where
  | answered (reply : StoreReply)
      (trace : record.trace change.request = ⟨[], [reply], [], []⟩)
      (reported : change.ReportedBy reply)
  | asked (query : GroupMembersQuery)
      (trace : record.trace change.request = ⟨[.loadGroupMembers query], [], [], []⟩)
      (pends : record.Pends query change)
  | read (query : GroupMembersQuery) (store : GroupStore)
      (trace : record.trace change.request =
        ⟨[], [.groupMembersLoaded (loadGroupMembers store {} query)], [store], []⟩)
      (pends : record.Pends query change) (consistent : GroupsConsistent store)
  | done (store : GroupStore) (packet : Packet)
      (trace : record.trace change.request = ⟨[], [], [store],
        if (store.groups.find? change.groupId).isSome then
          notices store change.groupId (change.leaver.getD "") packet
        else []⟩)
      (isChange : packet.cmd = .groupMemberChanged) (consistent : GroupsConsistent store)

/-- A call that takes somebody out of a group names him. -/
def StoreCall.NamesLeaver : StoreCall → Prop
  | .removeMember op => op.targetUserId ≠ ""
  | .leaveGroup op => op.targetUserId = op.operatorUserId ∧ op.operatorUserId ≠ ""
  | _ => True

structure NotifyRecord.Queued (record : NotifyRecord) : Prop where
  apart : (record.state.replies.map Prod.fst ++ record.state.calls.map Prod.fst).Nodup
  inFlight : ∀ request, record.InFlight request → request ∈ record.state.issued
  logged : ∀ request, entriesOf request record.loads ≠ [] ∨ entriesOf request record.told ≠ [] →
    request ∈ record.state.issued
  unanswered : ∀ entry ∈ record.state.calls, entry.2.isRequest = true →
    entriesOf entry.1 record.loads = [] ∧ entriesOf entry.1 record.told = []
  named : ∀ entry ∈ record.state.calls, entry.2.NamesLeaver

structure NotifyRecord.LoadsApart (record : NotifyRecord) : Prop where
  drawn : ∀ id ∈ record.state.memberLoads, ∃ uuid ∈ record.drawn, id = "grp_notify_" ++ uuid
  apart : record.state.memberLoads.Nodup

structure NotifyRecord.KeepsStages (record : NotifyRecord) : Prop where
  issued : ∀ change ∈ record.changes, change.request ∈ record.state.issued
  leavers : ∀ change ∈ record.changes, change.leaver ≠ some ""
  stages : ∀ change ∈ record.changes, record.Stage change

/-! ## Each request is in flight at most once -/

theorem GroupHandler.namesLeaver_handlePacket {service after : GroupManagementService}
    {session : ClientSession} {packet : Packet} {call : StoreCall}
    (known : session.isAuthenticated = true → session.userId ≠ "")
    (handled : GroupHandler.handlePacket service session packet = some (.ok (after, call))) :
    call.NamesLeaver := by
  have authenticated : ∀ {rest : Except Refusal (GroupManagementService × StoreCall)},
      requireAuthenticated session rest = .ok (after, call) → session.isAuthenticated = true := by
    intro rest passed
    unfold requireAuthenticated at passed
    split at passed
    · cases passed
    · rename_i isAuthenticated
      exact not_not.mp isAuthenticated
  unfold GroupHandler.handlePacket at handled
  split at handled
  case h_3 =>
      have passed := requireAuthenticated_ok (Option.some.inj handled)
      unfold requireTexts at passed
      simp only at passed
      split at passed
      · cases passed
      · rename_i texts
        cases passed
        intro empty
        exact texts (by simp only [List.mem_cons]; exact Or.inr (Or.inl empty.symm))
  case h_4 =>
      have isAuthenticated := authenticated (Option.some.inj handled)
      cases requireTexts_ok (requireAuthenticated_ok (Option.some.inj handled))
      exact ⟨rfl, known isAuthenticated⟩
  case h_5 =>
      cases requireAuthenticated_ok (Option.some.inj handled)
      trivial
  case h_6 => cases handled
  all_goals
    cases requireTexts_ok (requireAuthenticated_ok (Option.some.inj handled))
    trivial

theorem FriendHandler.namesLeaver_handlePacket {service after : FriendManagementService}
    {session : ClientSession} {packet : Packet} {call : StoreCall}
    (handled : FriendHandler.handlePacket service session packet = some (.ok (after, call))) :
    call.NamesLeaver := by
  have carries := (FriendHandler.handlePacket_ok handled).1
  unfold FriendHandler.handlePacket at handled
  cases call with
  | removeMember op =>
      rw [carries.1] at handled
      cases handled
  | leaveGroup op =>
      rw [carries.1] at handled
      cases handled
  | _ => trivial

/-- A packet is issued as a request that names whom it takes out, or leaves
calls and results alone. -/
theorem packetReceived_cases {state : ManagementState} (tagged : WellTagged state)
    (connectionId : String) (packet : Packet) :
    (∃ request call, request ∉ state.issued ∧ call.NamesLeaver ∧
      (state.onPacketReceived connectionId packet).calls = state.calls ++ [(request, call)] ∧
      (state.onPacketReceived connectionId packet).issued = state.issued ++ [request]) ∨
    ((state.onPacketReceived connectionId packet).calls = state.calls ∧
      (state.onPacketReceived connectionId packet).issued = state.issued) := by
  unfold ManagementState.onPacketReceived
  split
  · exact Or.inr ⟨rfl, rfl⟩
  · rename_i session found
    have known := (tagged.sessions.authenticatedIff connectionId session found).mp
    have fresh : (⟨state.issued.length, session.connectionId, packet.cmd, packet.msgId⟩ :
        IssuedRequest) ∉ state.issued := by
      intro member
      have ticket : state.issued.length ∈ state.issued.map IssuedRequest.ticket :=
        List.mem_map.mpr ⟨_, member, rfl⟩
      rw [tagged.tickets, List.mem_range] at ticket
      exact absurd ticket (Nat.lt_irrefl _)
    unfold ManagementState.dispatch
    split
    · exact Or.inr ⟨rfl, rfl⟩
    · rename_i group call handled
      exact Or.inl ⟨_, call, fresh, GroupHandler.namesLeaver_handlePacket known handled, rfl, rfl⟩
    · split
      · exact Or.inr ⟨rfl, rfl⟩
      · rename_i friend call handled
        exact Or.inl ⟨_, call, fresh, FriendHandler.namesLeaver_handlePacket handled, rfl, rfl⟩
      · exact Or.inr ⟨rfl, rfl⟩

namespace NotifyRecord

variable {record : NotifyRecord}

theorem replies_packetReceived (state : ManagementState) (connectionId : String)
    (packet : Packet) :
    (state.onPacketReceived connectionId packet).replies = state.replies := by
  unfold ManagementState.onPacketReceived
  split
  · rfl
  · rename_i session found
    rcases dispatch_cases state session packet with
      ⟨_, group, friend, call, issued, _⟩ | ⟨refusal, refused⟩ | ⟨_, same⟩
    · rw [issued]
      rfl
    · rw [refused]
      rfl
    · rw [same]

theorem Queued.of_call (queued : record.Queued) {request : IssuedRequest} {call : StoreCall}
    {rest : List (IssuedRequest × StoreCall)}
    (waiting : record.state.calls = (request, call) :: rest) :
    entriesOf request rest = [] ∧ entriesOf request record.state.replies = [] := by
  have apart := queued.apart
  rw [waiting, List.map_cons, List.nodup_append] at apart
  obtain ⟨_, inCalls, across⟩ := apart
  constructor
  · exact entriesOf_eq_nil request (List.nodup_cons.mp inCalls).1
  · refine entriesOf_eq_nil request ?_
    intro member
    exact across request member request List.mem_cons_self rfl

theorem Queued.of_reply (queued : record.Queued) {request : IssuedRequest} {reply : StoreReply}
    {rest : List (IssuedRequest × StoreReply)}
    (waiting : record.state.replies = (request, reply) :: rest) :
    entriesOf request rest = [] ∧ entriesOf request record.state.calls = [] := by
  have apart := queued.apart
  rw [waiting, List.map_cons, List.cons_append, List.nodup_cons] at apart
  obtain ⟨absent, _⟩ := apart
  constructor
  · exact entriesOf_eq_nil request fun member => absent (List.mem_append_left _ member)
  · exact entriesOf_eq_nil request fun member => absent (List.mem_append_right _ member)

theorem Queued.of_same (queued : record.Queued) {after : NotifyRecord}
    (calls : after.state.calls = record.state.calls)
    (replies : after.state.replies = record.state.replies)
    (issued : after.state.issued = record.state.issued) (loads : after.loads = record.loads)
    (told : after.told = record.told) : after.Queued := by
  constructor
  · rw [calls, replies]
    exact queued.apart
  · intro request inFlight
    rw [InFlight, calls, replies] at inFlight
    rw [issued]
    exact queued.inFlight request inFlight
  · rw [loads, told, issued]
    exact queued.logged
  · rw [calls, loads, told]
    exact queued.unanswered
  · rw [calls]
    exact queued.named

theorem Queued.packetReceived (queued : record.Queued) (tagged : WellTagged record.state)
    (connectionId : String) (packet : Packet) :
    (record.next (.packetReceived connectionId packet)).Queued := by
  have replies := replies_packetReceived record.state connectionId packet
  rcases packetReceived_cases tagged connectionId packet with
    ⟨request, call, fresh, named, calls, issued⟩ | ⟨calls, issued⟩
  · have sameLoads : (record.next (.packetReceived connectionId packet)).loads = record.loads :=
      List.append_nil _
    have sameTold : (record.next (.packetReceived connectionId packet)).told = record.told :=
      List.append_nil _
    have newCalls : (record.next (.packetReceived connectionId packet)).state.calls =
      record.state.calls ++ [(request, call)] := calls
    have newIssued : (record.next (.packetReceived connectionId packet)).state.issued =
      record.state.issued ++ [request] := issued
    have sameReplies : (record.next (.packetReceived connectionId packet)).state.replies =
      record.state.replies := replies
    have unlogged : entriesOf request record.loads = [] ∧ entriesOf request record.told = [] := by
      by_contra logged
      exact fresh (queued.logged request (not_and_or.mp logged))
    constructor
    · rw [newCalls, sameReplies, List.map_append, ← List.append_assoc, List.nodup_append]
      refine ⟨queued.apart, List.nodup_singleton _, ?_⟩
      intro old oldIn new newIn
      rw [List.mem_singleton.mp newIn]
      rintro rfl
      exact fresh (queued.inFlight _ oldIn)
    · intro other inFlight
      rw [InFlight, newCalls, sameReplies, List.map_append, ← List.append_assoc] at inFlight
      rw [newIssued]
      rcases List.mem_append.mp inFlight with old | new
      · exact List.mem_append_left _ (queued.inFlight other old)
      · exact List.mem_append_right _ new
    · intro other logged
      rw [sameLoads, sameTold] at logged
      rw [newIssued]
      exact List.mem_append_left _ (queued.logged other logged)
    · rw [newCalls, sameLoads, sameTold]
      intro entry member isRequest
      rcases List.mem_append.mp member with old | new
      · exact queued.unanswered entry old isRequest
      · rw [List.mem_singleton.mp new]
        exact unlogged
    · rw [newCalls]
      intro entry member
      rcases List.mem_append.mp member with old | new
      · exact queued.named entry old
      · rw [List.mem_singleton.mp new]
        exact named
  · exact queued.of_same calls replies issued (List.append_nil _) (List.append_nil _)

theorem next_executeNext_idle (run : StoreRun) (waiting : record.state.calls = []) :
    record.next (.executeNext run) = record := by
  simp [NotifyRecord.next, ManagementEvent.next, ManagementState.executeNext, committed, loaded,
    tells, waiting]

section Executes
variable {run : StoreRun} {request : IssuedRequest} {call : StoreCall}
  {rest : List (IssuedRequest × StoreCall)}

theorem state_executeNext (waiting : record.state.calls = (request, call) :: rest) :
    (record.next (.executeNext run)).state =
      { record.state with
        database := (executeStoreCall record.state.database run call).1
        calls := rest
        replies := record.state.replies ++
          [(request, (executeStoreCall record.state.database run call).2)] } := by
  simp [NotifyRecord.next, ManagementEvent.next, ManagementState.executeNext, waiting]

theorem loaded_executeNext (waiting : record.state.calls = (request, call) :: rest) :
    record.loaded (.executeNext run) = call.membersQuery.toList.map fun _ =>
      (request, record.state.database.groupStore) := by
  unfold loaded
  simp only [waiting]
  cases call <;> rfl

theorem trace_executeNext_other (waiting : record.state.calls = (request, call) :: rest)
    {other : IssuedRequest} (differs : request ≠ other) :
    (record.next (.executeNext run)).trace other = record.trace other := by
  have calls : entriesOf other record.state.calls = entriesOf other rest := by
    rw [waiting, entriesOf_cons, if_neg differs]
  have reply : entriesOf other [(request, (executeStoreCall record.state.database run call).2)] =
      [] := by
    rw [entriesOf_cons, if_neg differs]
    rfl
  have load : entriesOf other (record.loaded (.executeNext run)) = [] := by
    rw [loaded_executeNext waiting]
    refine entriesOf_eq_nil other ?_
    intro member
    obtain ⟨entry, entryIn, isOther⟩ := List.mem_map.mp member
    obtain ⟨_, _, rfl⟩ := List.mem_map.mp entryIn
    exact differs isOther
  rw [trace, trace, state_executeNext waiting, calls, entriesOf_append, reply, List.append_nil]
  simp only [NotifyRecord.next, tells, entriesOf_append, load, List.append_nil]

end Executes

theorem Queued.executeNext (queued : record.Queued) (run : StoreRun) :
    (record.next (.executeNext run)).Queued := by
  cases waiting : record.state.calls with
  | nil =>
      rw [next_executeNext_idle run waiting]
      exact queued
  | cons entry rest =>
      obtain ⟨request, call⟩ := entry
      have state : (record.next (.executeNext run)).state = _ := state_executeNext waiting
      have told : (record.next (.executeNext run)).told = record.told := List.append_nil _
      have loads : ∀ other, other ≠ request →
          entriesOf other (record.next (.executeNext run)).loads =
            entriesOf other record.loads := fun other differs =>
        congrArg RequestTrace.loads (trace_executeNext_other waiting differs.symm)
      have inFlight : request ∈ record.state.issued := queued.inFlight request
        (List.mem_append_right _ (by rw [waiting]; exact List.mem_cons_self))
      -- the head of the calls becomes the last result, in the same place of the queue
      have samePlaces : (record.next (.executeNext run)).state.replies.map Prod.fst ++
          (record.next (.executeNext run)).state.calls.map Prod.fst =
          record.state.replies.map Prod.fst ++ record.state.calls.map Prod.fst := by
        rw [state, waiting]
        simp
      constructor
      · rw [samePlaces]
        exact queued.apart
      · intro other member
        rw [InFlight, samePlaces] at member
        rw [state]
        exact queued.inFlight other member
      · intro other logged
        rw [state]
        by_cases own : other = request
        · exact own ▸ inFlight
        · rw [loads other own, told] at logged
          exact queued.logged other logged
      · rw [state, told]
        intro other member isRequest
        have differs : other.1 ≠ request := by
          intro same
          have found : other.2 ∈ entriesOf request rest := by
            refine List.mem_map.mpr ⟨other, List.mem_filter.mpr ⟨member, ?_⟩, rfl⟩
            exact decide_eq_true same
          rw [(queued.of_call waiting).1] at found
          cases found
        rw [loads other.1 differs]
        exact queued.unanswered other (waiting ▸ List.mem_cons_of_mem _ member) isRequest
      · rw [state]
        intro other member
        exact queued.named other (waiting ▸ List.mem_cons_of_mem _ member)

structure Handled (record : NotifyRecord) (stamp : NotifyStamp) (request : IssuedRequest)
    (rest : List (IssuedRequest × StoreReply)) (queries : List GroupMembersQuery)
    (handed : List (String × Packet)) : Prop where
  calls : (record.next (.handleNext stamp)).state.calls = record.state.calls ++
    queries.map fun query => (request, StoreCall.loadGroupMembers query)
  replies : (record.next (.handleNext stamp)).state.replies = rest
  issued : (record.next (.handleNext stamp)).state.issued = record.state.issued
  loads : (record.next (.handleNext stamp)).loads = record.loads
  told : (record.next (.handleNext stamp)).told =
    record.told ++ handed.map fun entry => (request, entry)

theorem handled_of_reacts {stamp : NotifyStamp} {request : IssuedRequest} {reply : StoreReply}
    {rest : List (IssuedRequest × StoreReply)} {queries : List GroupMembersQuery}
    {handed : List (String × Packet)} (waiting : record.state.replies = (request, reply) :: rest)
    (reacts : Reacts request queries handed { record.state with replies := rest }
      ({ record.state with replies := rest }.onStoreReply stamp request reply)) :
    Handled record stamp request rest queries handed := by
  have handles : record.state.handleNext stamp =
      { record.state with replies := rest }.onStoreReply stamp request reply := by
    simp only [ManagementState.handleNext, waiting]
  have sameState : (record.next (.handleNext stamp)).state =
      { record.state with replies := rest }.onStoreReply stamp request reply := handles
  refine ⟨?_, ?_, ?_, List.append_nil _, ?_⟩
  · rw [sameState]
    exact reacts.calls
  · rw [sameState]
    exact reacts.replies
  · rw [sameState]
    exact reacts.issued
  · have handedOut : record.tells (.handleNext stamp) =
        handed.map fun entry => (request, entry) := by
      simp only [tells, waiting, handles, reacts.notified, List.drop_left]
    exact congrArg (record.told ++ ·) handedOut

theorem next_handleNext_of_nil {stamp : NotifyStamp} (waiting : record.state.replies = []) :
    record.next (.handleNext stamp) = { record with drawn := stamp.firstUuid :: record.drawn } := by
  simp [NotifyRecord.next, ManagementEvent.next, ManagementState.handleNext, committed, loaded,
    tells, waiting]

theorem Queued.handled (queued : record.Queued) {stamp : NotifyStamp} {request : IssuedRequest}
    {reply : StoreReply} {rest : List (IssuedRequest × StoreReply)}
    {queries : List GroupMembersQuery} {handed : List (String × Packet)}
    (waiting : record.state.replies = (request, reply) :: rest)
    (handles : Handled record stamp request rest queries handed) (atMostOne : queries.length ≤ 1) :
    (record.next (.handleNext stamp)).Queued := by
  have apart := queued.apart
  rw [waiting, List.map_cons, List.cons_append, List.nodup_cons] at apart
  obtain ⟨absent, apart⟩ := apart
  have issuedHead : request ∈ record.state.issued := queued.inFlight request
    (List.mem_append_left _ (by rw [waiting]; exact List.mem_cons_self))
  have places : (record.next (.handleNext stamp)).state.replies.map Prod.fst ++
      (record.next (.handleNext stamp)).state.calls.map Prod.fst =
      (rest.map Prod.fst ++ record.state.calls.map Prod.fst) ++ queries.map fun _ => request := by
    rw [handles.calls, handles.replies, List.map_append, List.map_map, List.append_assoc]
    rfl
  constructor
  · rw [places, List.nodup_append]
    refine ⟨apart, ?_, ?_⟩
    · match queries, atMostOne with
      | [], _ => exact List.nodup_nil
      | [query], _ => exact List.nodup_singleton _
    · intro old oldIn new newIn
      obtain ⟨_, _, rfl⟩ := List.mem_map.mp newIn
      rintro rfl
      exact absent oldIn
  · intro other member
    rw [InFlight, places] at member
    rw [handles.issued]
    rcases List.mem_append.mp member with old | new
    · refine queued.inFlight other ?_
      rw [InFlight, waiting, List.map_cons, List.cons_append]
      exact List.mem_cons_of_mem _ old
    · obtain ⟨_, _, rfl⟩ := List.mem_map.mp new
      exact issuedHead
  · intro other logged
    rw [handles.issued]
    by_cases own : request = other
    · exact own ▸ issuedHead
    · rw [handles.loads, handles.told, entriesOf_append, entriesOf_map, if_neg own,
        List.append_nil] at logged
      exact queued.logged other logged
  · rw [handles.calls, handles.loads, handles.told]
    intro entry member isRequest
    rcases List.mem_append.mp member with old | new
    · have own : ¬ request = entry.1 := by
        rintro rfl
        exact absent (List.mem_append_right _ (List.mem_map.mpr ⟨entry, old, rfl⟩))
      rw [entriesOf_append, entriesOf_map, if_neg own, List.append_nil]
      exact queued.unanswered entry old isRequest
    · obtain ⟨query, _, rfl⟩ := List.mem_map.mp new
      cases isRequest
  · rw [handles.calls]
    intro entry member
    rcases List.mem_append.mp member with old | new
    · exact queued.named entry old
    · obtain ⟨query, _, rfl⟩ := List.mem_map.mp new
      trivial

/-! ## Member lists have ids of their own -/

theorem loadGroupMembers_reqMsgId (store : GroupStore) (run : GroupMembersRun)
    (query : GroupMembersQuery) : (loadGroupMembers store run query).reqMsgId = query.reqMsgId := by
  unfold loadGroupMembers
  simp only
  split
  · rfl
  split
  · rfl
  split
  · rfl
  split <;> rfl

theorem LoadsApart.of_same (loads : record.LoadsApart) {after : NotifyRecord}
    (memberLoads : after.state.memberLoads = record.state.memberLoads)
    (drawn : ∀ uuid ∈ record.drawn, uuid ∈ after.drawn) : after.LoadsApart := by
  constructor
  · intro id member
    obtain ⟨uuid, uuidIn, isId⟩ := loads.drawn id (memberLoads ▸ member)
    exact ⟨uuid, drawn uuid uuidIn, isId⟩
  · rw [memberLoads]
    exact loads.apart

theorem memberLoads_executeNext (state : ManagementState) (run : StoreRun) :
    (state.executeNext run).memberLoads = state.memberLoads := by
  rcases state.executeNext_cases run with ⟨kept, _⟩ | ⟨request, query, rest, waiting, executed⟩
  · rw [ManagementState.memberLoads, ManagementState.memberLoads, kept.loadCalls,
      kept.loadReplies]
  · rw [executed]
    simp [ManagementState.memberLoads, ManagementState.loadCalls, ManagementState.loadReplies,
      waiting, StoreCall.membersQuery, StoreReply.membersResult, loadGroupMembers_reqMsgId]

structure LoadsHandled (uuid : String) (state after : ManagementState) : Prop where
  fewer : ∀ id ∈ after.memberLoads, id ∈ state.memberLoads ∨ id = "grp_notify_" ++ uuid
  apart : state.memberLoads.Nodup → "grp_notify_" ++ uuid ∉ state.memberLoads →
    after.memberLoads.Nodup
  waits : state.memberLoads.Nodup → "grp_notify_" ++ uuid ∉ state.memberLoads →
    ∀ id ∈ state.memberLoads, id ∈ after.memberLoads →
      after.group.pendingNotifications.lookup id = state.group.pendingNotifications.lookup id

theorem LoadsHandled.of_taken {uuid taken : String} {state after : ManagementState}
    (ids : state.memberLoads = taken :: after.memberLoads)
    (waits : ∀ id ≠ taken, after.group.pendingNotifications.lookup id =
      state.group.pendingNotifications.lookup id) : LoadsHandled uuid state after := by
  refine ⟨?_, ?_, ?_⟩
  · intro id member
    rw [ids]
    exact Or.inl (List.mem_cons_of_mem _ member)
  · intro apart _
    rw [ids] at apart
    exact (List.nodup_cons.mp apart).2
  · intro apart _ id _ member
    rw [ids] at apart
    apply waits
    rintro rfl
    exact (List.nodup_cons.mp apart).1 member

theorem LoadsHandled.of_asked {uuid : String} {state after : ManagementState}
    (ids : after.memberLoads = state.memberLoads ++ ["grp_notify_" ++ uuid])
    (waits : ∀ id ≠ "grp_notify_" ++ uuid, after.group.pendingNotifications.lookup id =
      state.group.pendingNotifications.lookup id) : LoadsHandled uuid state after := by
  refine ⟨?_, ?_, ?_⟩
  · intro id member
    rw [ids] at member
    exact (List.mem_append.mp member).imp_right List.mem_singleton.mp
  · intro apart fresh
    rw [ids, List.nodup_append]
    refine ⟨apart, List.nodup_singleton _, ?_⟩
    intro old oldIn new newIn
    rw [List.mem_singleton.mp newIn]
    rintro rfl
    exact fresh oldIn
  · intro _ fresh id member _
    apply waits
    rintro rfl
    exact fresh member

theorem loadsHandled (state : ManagementState) (stamp : NotifyStamp) :
    LoadsHandled stamp.firstUuid state (state.handleNext stamp) := by
  rcases state.handleNext_cases stamp with
    ⟨request, result, rest, waiting, _, after⟩ |
    ⟨request, result, rest, waiting, isNotify, replies, calls, group⟩ | ⟨_, askedOnce⟩
  · have ids : state.memberLoads = result.reqMsgId :: (state.handleNext stamp).memberLoads := by
      rw [after]
      simp [ManagementState.memberLoads, ManagementState.loadCalls, ManagementState.loadReplies,
        waiting, StoreReply.membersResult]
    exact .of_taken ids fun _ _ => by rw [after]
  · have ids : state.memberLoads = result.reqMsgId :: (state.handleNext stamp).memberLoads := by
      rw [ManagementState.memberLoads, ManagementState.memberLoads, replies, calls]
      rfl
    refine .of_taken ids ?_
    intro id other
    rw [group, (state.group.onGroupMembersForNotify_cases (ne_empty_of_notify isNotify)).1,
      if_neg other]
  · obtain ⟨replies, signals, asks, calls⟩ := askedOnce
    have ids : (state.handleNext stamp).memberLoads = state.memberLoads ++
        (signals.filterMap GroupSignal.membersQuery).map GroupMembersQuery.reqMsgId := by
      rw [ManagementState.memberLoads, ManagementState.memberLoads, replies, calls,
        List.map_append, List.append_assoc]
    rcases asks with ⟨sameWaiting, none⟩ | ⟨groupId, pending, inserted, one⟩
    · rw [none, List.map_nil, List.append_nil] at ids
      refine ⟨fun id member => Or.inl (ids ▸ member), fun apart _ => ids ▸ apart, ?_⟩
      intro _ _ id _ _
      exact congrArg (AList.lookup id) sameWaiting
    · rw [one, List.map_cons, List.map_nil] at ids
      refine .of_asked ids ?_
      intro id other
      rw [show (state.handleNext stamp).group.pendingNotifications =
        state.group.pendingNotifications.insert ("grp_notify_" ++ stamp.firstUuid) pending from
          inserted, FiniteMap.lookup_insert, if_neg other]

theorem LoadsApart.fresh (loads : record.LoadsApart) {uuid : String} (fresh : uuid ∉ record.drawn) :
    "grp_notify_" ++ uuid ∉ record.state.memberLoads := by
  intro member
  obtain ⟨other, otherIn, same⟩ := loads.drawn _ member
  exact fresh ((String.append_right_inj "grp_notify_").mp same ▸ otherIn)

theorem LoadsApart.handleNext (loads : record.LoadsApart) (stamp : NotifyStamp)
    (fresh : stamp.firstUuid ∉ record.drawn) : (record.next (.handleNext stamp)).LoadsApart := by
  have handles := loadsHandled record.state stamp
  constructor
  · intro id member
    rcases handles.fewer id member with old | new
    · obtain ⟨uuid, uuidIn, isId⟩ := loads.drawn id old
      exact ⟨uuid, List.mem_cons_of_mem _ uuidIn, isId⟩
    · exact ⟨stamp.firstUuid, List.mem_cons_self, new⟩
  · exact handles.apart loads.apart (loads.fresh fresh)

end NotifyRecord

end ShirohaChat
