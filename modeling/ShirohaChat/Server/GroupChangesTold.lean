import ShirohaChat.Server.NotificationRuns

/-!
# Every committed change of a group is told

A change stays in its stage until the database thread or the main thread takes
up its request; it is told from the tables its member list was read from.  Where
the group has been dissolved by then, the list is an error and nobody is told.
-/

set_option autoImplicit false

namespace ShirohaChat

open Transition Correlation

/-! ## Committed changes -/

section Reports
variable (store : GroupStore) (run : MemberOpRun) (op : GroupMemberOpRequest)

def GroupMemberOpResult.Repeats (result : GroupMemberOpResult) (op : GroupMemberOpRequest) :
    Prop :=
  result.groupId = op.groupId ∧ result.targetUserId = op.targetUserId

theorem addMember_repeats : (addMember store run op).2.Repeats op := by
  unfold addMember
  simp only
  repeat' split
  all_goals exact ⟨rfl, rfl⟩

theorem removeMember_repeats : (removeMember store run op).2.Repeats op := by
  unfold removeMember
  simp only
  repeat' split
  all_goals exact ⟨rfl, rfl⟩

theorem leaveGroup_repeats : (leaveGroup store run op).2.Repeats op := by
  unfold leaveGroup
  simp only
  repeat' split
  all_goals exact ⟨rfl, rfl⟩

end Reports

structure GroupChange.Committed (change : GroupChange) (request : IssuedRequest)
    (call : StoreCall) (reply : StoreReply) : Prop where
  ofRequest : change.request = request
  named : change.leaver ≠ some ""
  isRequest : call.isRequest = true
  reported : change.ReportedBy reply

theorem committed_of_committedChange {database : Database} {run : StoreRun}
    {request : IssuedRequest} {call : StoreCall} {change : GroupChange}
    (carries : call.Carries request.cmd request.msgId) (named : call.NamesLeaver)
    (changed : committedChange request (executeStoreCall database run call).1.groupStore call
      (executeStoreCall database run call).2 = some change) :
    change.Committed request call (executeStoreCall database run call).2 := by
  cases call with
  | createGroup op =>
      simp only [executeStoreCall, committedChange, Option.ite_none_right_eq_some,
        Option.some.injEq] at changed
      obtain ⟨success, rfl⟩ := changed
      exact ⟨rfl, nofun, rfl, success, rfl, rfl⟩
  | addMember op =>
      simp only [executeStoreCall, committedChange, Option.ite_none_right_eq_some,
        Option.some.injEq] at changed
      obtain ⟨success, rfl⟩ := changed
      refine ⟨rfl, nofun, rfl, success, (addMember_repeats _ _ op).1, ?_⟩
      simp [carries.1]
  | removeMember op =>
      simp only [executeStoreCall, committedChange, Option.ite_none_right_eq_some,
        Option.some.injEq] at changed
      obtain ⟨success, rfl⟩ := changed
      obtain ⟨sameGroup, sameTarget⟩ := removeMember_repeats database.groupStore run.memberOp op
      refine ⟨rfl, fun empty => named (Option.some.inj empty), rfl, success, sameGroup, ?_⟩
      rw [if_pos (Or.inl carries.1)]
      exact sameTarget.symm
  | leaveGroup op =>
      replace changed := Option.ite_none_right_eq_some.mp changed
      rw [Option.some.injEq] at changed
      obtain ⟨success, rfl⟩ := changed
      obtain ⟨sameGroup, sameTarget⟩ := leaveGroup_repeats database.groupStore run.memberOp op
      refine ⟨rfl, fun empty => named.2 (Option.some.inj empty), rfl, success.1, sameGroup, ?_⟩
      rw [if_pos (Or.inr carries.1)]
      exact (sameTarget.trans named.1).symm
  | _ => cases changed

/-! ## A request's member list among those in flight -/

namespace NotifyRecord

variable {record : NotifyRecord}

theorem mem_memberLoads_of_call {request : IssuedRequest} {query : GroupMembersQuery}
    (calls : entriesOf request record.state.calls = [.loadGroupMembers query]) :
    query.reqMsgId ∈ record.state.memberLoads := by
  have member : (request, StoreCall.loadGroupMembers query) ∈ record.state.calls :=
    mem_of_mem_entriesOf request (by rw [calls]; exact List.mem_cons_self)
  refine List.mem_append_right _ (List.mem_map.mpr ⟨query, ?_, rfl⟩)
  exact List.mem_filterMap.mpr ⟨_, member, rfl⟩

theorem mem_memberLoads_of_reply {request : IssuedRequest} {result : GroupMembersResult}
    (replies : entriesOf request record.state.replies = [.groupMembersLoaded result]) :
    result.reqMsgId ∈ record.state.memberLoads := by
  have member : (request, StoreReply.groupMembersLoaded result) ∈ record.state.replies :=
    mem_of_mem_entriesOf request (by rw [replies]; exact List.mem_cons_self)
  refine List.mem_append_left _ (List.mem_map.mpr ⟨result, ?_, rfl⟩)
  exact List.mem_filterMap.mpr ⟨_, member, rfl⟩

theorem inFlight_iff (record : NotifyRecord) {request : IssuedRequest} :
    record.InFlight request ↔
      (record.trace request).calls ≠ [] ∨ (record.trace request).replies ≠ [] := by
  have inEntries : ∀ {Item : Type} (entries : List (IssuedRequest × Item)),
      request ∈ entries.map Prod.fst ↔ entriesOf request entries ≠ [] := by
    intro Item entries
    constructor
    · intro member none
      obtain ⟨entry, entryIn, isRequest⟩ := List.mem_map.mp member
      have kept : entry.2 ∈ entriesOf request entries :=
        List.mem_map.mpr ⟨entry, List.mem_filter.mpr ⟨entryIn, decide_eq_true isRequest⟩, rfl⟩
      rw [none] at kept
      cases kept
    · intro some
      by_contra absent
      exact some (entriesOf_eq_nil request absent)
  rw [InFlight, List.mem_append, inEntries, inEntries, or_comm]
  rfl

theorem Stage.of_same {change : GroupChange} (stage : record.Stage change)
    {after : NotifyRecord} (same : after.trace change.request = record.trace change.request)
    (waits : ∀ id ∈ record.state.memberLoads, id ∈ after.state.memberLoads →
      after.state.group.pendingNotifications.lookup id =
        record.state.group.pendingNotifications.lookup id) : after.Stage change := by
  cases stage with
  | answered reply trace reported => exact .answered reply (same.trans trace) reported
  | asked query trace pends =>
      have before := mem_memberLoads_of_call (congrArg RequestTrace.calls trace)
      have now := mem_memberLoads_of_call (congrArg RequestTrace.calls (same.trans trace))
      refine .asked query (same.trans trace) ⟨pends.ofGroup, ?_⟩
      rw [waits _ before now]
      exact pends.waits
  | read query store trace pends consistent =>
      have before := mem_memberLoads_of_reply (congrArg RequestTrace.replies trace)
      have now := mem_memberLoads_of_reply (congrArg RequestTrace.replies (same.trans trace))
      rw [loadGroupMembers_reqMsgId] at before now
      refine .read query store (same.trans trace) ⟨pends.ofGroup, ?_⟩ consistent
      rw [waits _ before now]
      exact pends.waits
  | done store packet trace isChange consistent =>
      exact .done store packet (same.trans trace) isChange consistent

/-- The only call a change waits for is the load of its member list. -/
theorem Stage.of_call {change : GroupChange} (stage : record.Stage change) {call : StoreCall}
    {more : List StoreCall} (head : (record.trace change.request).calls = call :: more) :
    ∃ query, call = .loadGroupMembers query ∧ entriesOf change.request record.loads = [] ∧
      entriesOf change.request record.told = [] ∧ record.Pends query change := by
  cases stage with
  | answered reply trace reported =>
      rw [trace] at head
      cases head
  | read query store trace pends consistent =>
      rw [trace] at head
      cases head
  | done store packet trace isChange consistent =>
      rw [trace] at head
      cases head
  | asked query trace pends =>
      rw [trace] at head
      obtain ⟨rfl, _⟩ := List.cons.inj head
      exact ⟨query, rfl, congrArg RequestTrace.loads trace, congrArg RequestTrace.told trace, pends⟩

/-! ## The database thread -/

section Executes
variable {run : StoreRun} {request : IssuedRequest} {call : StoreCall}
  {rest : List (IssuedRequest × StoreCall)}

theorem trace_executeNext_own (queued : record.Queued)
    (waiting : record.state.calls = (request, call) :: rest) :
    (record.next (.executeNext run)).trace request =
      ⟨[], [(executeStoreCall record.state.database run call).2],
        entriesOf request record.loads ++
          call.membersQuery.toList.map fun _ => record.state.database.groupStore,
        entriesOf request record.told⟩ := by
  obtain ⟨noCall, noReply⟩ := queued.of_call waiting
  have load : entriesOf request (record.loaded (.executeNext run)) =
      call.membersQuery.toList.map fun _ => record.state.database.groupStore := by
    rw [loaded_executeNext waiting]
    cases call.membersQuery <;> simp [entriesOf]
  rw [trace, state_executeNext waiting, noCall, entriesOf_append, noReply]
  simp only [NotifyRecord.next, tells, entriesOf_append, load, List.append_nil, List.nil_append]
  rw [entriesOf_cons, if_pos rfl]
  rfl

/-- A change committed before either waits on, or its member list is read now. -/
theorem KeepsStages.stage_executeNext_old (keeps : record.KeepsStages)
    (queued : record.Queued) (consistent : GroupsConsistent record.state.database.groupStore)
    (reads : run.groupMembers = {}) (waiting : record.state.calls = (request, call) :: rest)
    {change : GroupChange} (old : change ∈ record.changes) :
    (record.next (.executeNext run)).Stage change := by
  have group : (record.next (.executeNext run)).state.group = record.state.group := by
    rw [state_executeNext waiting]
  by_cases own : request = change.request
  · subst own
    have head : (record.trace change.request).calls = call :: entriesOf change.request rest := by
      rw [trace, waiting, entriesOf_cons, if_pos rfl]
    obtain ⟨query, rfl, noLoads, noTold, pends⟩ := (keeps.stages change old).of_call head
    refine .read query record.state.database.groupStore ?_ ⟨pends.ofGroup, ?_⟩ consistent
    · rw [trace_executeNext_own queued waiting, noLoads, noTold, executeStoreCall, reads]
      rfl
    · rw [group]
      exact pends.waits
  · refine (keeps.stages change old).of_same (trace_executeNext_other waiting own) ?_
    intro id _ _
    rw [group]

/-- A change committed now is reported by the result of its call. -/
theorem Queued.stage_executeNext_new (queued : record.Queued)
    (waiting : record.state.calls = (request, call) :: rest) {change : GroupChange}
    (commits : change.Committed request call
      (executeStoreCall record.state.database run call).2) :
    (record.next (.executeNext run)).Stage change := by
  have callIn : (request, call) ∈ record.state.calls := waiting ▸ List.mem_cons_self
  obtain ⟨noLoads, noTold⟩ := queued.unanswered _ callIn commits.isRequest
  refine .answered _ ?_ commits.reported
  rw [commits.ofRequest, trace_executeNext_own queued waiting, noLoads, noTold,
    StoreCall.membersQuery_of_isRequest commits.isRequest]
  rfl

end Executes

theorem KeepsStages.executeNext (keeps : record.KeepsStages) (queued : record.Queued)
    (tagged : WellTagged record.state)
    (consistent : GroupsConsistent record.state.database.groupStore) {run : StoreRun}
    (reads : run.groupMembers = {}) : (record.next (.executeNext run)).KeepsStages := by
  cases waiting : record.state.calls with
  | nil =>
      rw [next_executeNext_idle run waiting]
      exact keeps
  | cons entry rest =>
      obtain ⟨request, call⟩ := entry
      have callIn : (request, call) ∈ record.state.calls := waiting ▸ List.mem_cons_self
      have issued : (record.next (.executeNext run)).state.issued = record.state.issued := by
        rw [state_executeNext waiting]
      have newChanges : ∀ change ∈ record.committed (.executeNext run),
          change.Committed request call
            (executeStoreCall record.state.database run call).2 := by
        intro change member
        simp only [committed, waiting] at member
        exact committed_of_committedChange (tagged.calls _ callIn) (queued.named _ callIn)
          (Option.mem_toList.mp member)
      have changes : ∀ change ∈ (record.next (.executeNext run)).changes,
          change ∈ record.changes ∨ change ∈ record.committed (.executeNext run) :=
        fun change member => List.mem_append.mp member
      constructor
      · intro change member
        rw [issued]
        rcases changes change member with old | new
        · exact keeps.issued change old
        · rw [(newChanges change new).ofRequest]
          exact queued.inFlight request
            (List.mem_append_right _ (List.mem_map.mpr ⟨_, callIn, rfl⟩))
      · intro change member
        rcases changes change member with old | new
        · exact keeps.leavers change old
        · exact (newChanges change new).named
      · intro change member
        rcases changes change member with old | new
        · exact keeps.stage_executeNext_old queued consistent reads waiting old
        · exact queued.stage_executeNext_new waiting (newChanges change new)

/-! ## The main thread -/

/-- The only results a change waits for are its own and its member list. -/
theorem Stage.of_reply {change : GroupChange} (stage : record.Stage change) {reply : StoreReply}
    {more : List StoreReply} (head : (record.trace change.request).replies = reply :: more) :
    (record.trace change.request = ⟨[], [reply], [], []⟩ ∧ change.ReportedBy reply) ∨
    ∃ query store, reply = .groupMembersLoaded (loadGroupMembers store {} query) ∧
      record.trace change.request = ⟨[], [reply], [store], []⟩ ∧ record.Pends query change ∧
      GroupsConsistent store := by
  cases stage with
  | answered own trace reported =>
      rw [trace] at head
      obtain ⟨rfl, _⟩ := List.cons.inj head
      exact Or.inl ⟨trace, reported⟩
  | asked query trace pends =>
      rw [trace] at head
      cases head
  | read query store trace pends consistent =>
      rw [trace] at head
      obtain ⟨rfl, _⟩ := List.cons.inj head
      exact Or.inr ⟨query, store, rfl, trace, pends, consistent⟩
  | done store packet trace isChange consistent =>
      rw [trace] at head
      cases head

section Handles
variable {stamp : NotifyStamp} {request : IssuedRequest} {reply : StoreReply}
  {rest : List (IssuedRequest × StoreReply)} {queries : List GroupMembersQuery}
  {handed : List (String × Packet)}

theorem trace_handleNext_other (waiting : record.state.replies = (request, reply) :: rest)
    (handles : Handled record stamp request rest queries handed) {other : IssuedRequest}
    (differs : request ≠ other) :
    (record.next (.handleNext stamp)).trace other = record.trace other := by
  have replies : entriesOf other record.state.replies = entriesOf other rest := by
    rw [waiting, entriesOf_cons, if_neg differs]
  have asked : entriesOf other (queries.map fun query =>
      (request, StoreCall.loadGroupMembers query)) = [] := by
    refine entriesOf_eq_nil other ?_
    intro member
    obtain ⟨entry, entryIn, isOther⟩ := List.mem_map.mp member
    obtain ⟨_, _, rfl⟩ := List.mem_map.mp entryIn
    exact differs isOther
  rw [trace, trace, handles.calls, handles.replies, handles.loads, handles.told, replies,
    entriesOf_append, asked, entriesOf_append, entriesOf_map, if_neg differs, List.append_nil,
    List.append_nil]

theorem trace_handleNext_own (queued : record.Queued)
    (waiting : record.state.replies = (request, reply) :: rest)
    (handles : Handled record stamp request rest queries handed) :
    (record.next (.handleNext stamp)).trace request =
      ⟨queries.map StoreCall.loadGroupMembers, [], entriesOf request record.loads,
        entriesOf request record.told ++ handed⟩ := by
  obtain ⟨noReply, noCall⟩ := queued.of_reply waiting
  have asked : entriesOf request (queries.map fun query =>
      (request, StoreCall.loadGroupMembers query)) = queries.map StoreCall.loadGroupMembers := by
    have mapped := entriesOf_map request request (queries.map StoreCall.loadGroupMembers)
    rw [if_pos rfl, List.map_map] at mapped
    exact mapped
  rw [trace, handles.calls, handles.replies, handles.loads, handles.told, noReply,
    entriesOf_append, noCall, asked, entriesOf_append, entriesOf_map, if_pos rfl, List.nil_append]

end Handles

end NotifyRecord

theorem lookup_of_waitingOf {group : GroupManagementService} {friend : FriendManagementService}
    {msgId : String} {waiter : Waiter}
    (waits : waitingOf group friend (.group, msgId) = some waiter) :
    ∃ pending, group.pendingRequests.lookup msgId = some pending ∧
      waiter.operation = .member pending.operation := by
  obtain ⟨pending, found, rfl⟩ := Option.map_eq_some_iff.mp waits
  exact ⟨pending, found, rfl⟩

/-- The result of a committed change finds its entry, so it asks for the members
of the group. -/
theorem asksFor_onStoreReply (state : ManagementState) {change : GroupChange}
    {reply : StoreReply} (stamp : NotifyStamp)
    (carries : reply.Carries change.request.cmd change.request.msgId)
    (waits : waitingOf state.group state.friend change.request.key = some change.request.waiter)
    (reported : change.ReportedBy reply) :
    ∃ outcome, state.onStoreReply stamp change.request reply =
        state.runGroup change.request outcome ∧
      AsksFor stamp.firstUuid change.groupId (change.leaver.getD "") state.group outcome := by
  rw [IssuedRequest.key, IssuedRequest.waiter] at waits
  cases reply with
  | groupCreated result =>
      obtain ⟨isCommand, sameMsgId⟩ := carries
      obtain ⟨success, sameGroup, stays⟩ := reported
      rw [isCommand] at waits
      obtain ⟨pending, found, _⟩ := lookup_of_waitingOf waits
      have asks := state.group.asksFor_onGroupCreated stamp (sameMsgId ▸ found) success
      rw [sameGroup] at asks
      rw [stays]
      exact ⟨_, rfl, asks⟩
  | memberOpCompleted result =>
      obtain ⟨isCommand, sameMsgId⟩ := carries
      obtain ⟨success, sameGroup, leaver⟩ := reported
      have slot : slotFor change.request.cmd = .group := by
        rcases isCommand with isAdd | isRemove | isLeave
        · rw [isAdd]
          rfl
        · rw [isRemove]
          rfl
        · rw [isLeave]
          rfl
      rw [slot] at waits
      obtain ⟨pending, found, operation⟩ := lookup_of_waitingOf waits
      have asks := state.group.asksFor_onMemberOpCompleted stamp state.sessionUserId
        (sameMsgId ▸ found) success
      have sameOperation : (pending.operation = .remove ∨ pending.operation = .leave) ↔
          (change.request.cmd = .removeMember ∨ change.request.cmd = .leaveGroup) := by
        rcases isCommand with isAdd | isRemove | isLeave
        · rw [isAdd] at operation ⊢
          simp [← PendingOperation.member.inj operation]
        · rw [isRemove] at operation ⊢
          simp [← PendingOperation.member.inj operation]
        · rw [isLeave] at operation ⊢
          simp [← PendingOperation.member.inj operation]
      rw [sameGroup] at asks
      simp only [sameOperation] at asks
      rw [leaver]
      exact ⟨_, rfl, asks⟩
  | _ => cases reported

namespace NotifyRecord

variable {record : NotifyRecord}

structure Tracked (record : NotifyRecord) : Prop where
  tagged : WellTagged record.state
  found : ∀ request ∈ record.state.exchange.inFlight,
    waitingOf record.state.group record.state.friend request.key = some request.waiter
  consistent : GroupsConsistent record.state.database.groupStore
  queued : record.Queued
  loads : record.LoadsApart
  keeps : record.KeepsStages

section Handled
variable {change : GroupChange} {stamp : NotifyStamp} {reply : StoreReply}
  {rest : List (IssuedRequest × StoreReply)}

/-- The result of the change is handled by asking for the members. -/
theorem Tracked.asked (tracked : record.Tracked)
    (waiting : record.state.replies = (change.request, reply) :: rest)
    (trace : record.trace change.request = ⟨[], [reply], [], []⟩)
    (reported : change.ReportedBy reply) : (record.next (.handleNext stamp)).Stage change := by
  have replyIn : (change.request, reply) ∈ record.state.replies := waiting ▸ List.mem_cons_self
  have next : (record.next (.handleNext stamp)).state =
      { record.state with replies := rest }.onStoreReply stamp change.request reply := by
    simp only [NotifyRecord.next, ManagementEvent.next, ManagementState.handleNext, waiting]
  have answers : reply.isAnswer = true := by
    cases reply with
    | groupMembersLoaded result => cases reported
    | _ => rfl
  have inFlight : change.request ∈ record.state.exchange.inFlight := by
    refine List.mem_append_left _ (List.mem_map.mpr ⟨(change.request, reply), ?_, rfl⟩)
    exact List.mem_filter.mpr ⟨replyIn, answers⟩
  obtain ⟨outcome, handles, asks⟩ := asksFor_onStoreReply
    { record.state with replies := rest } stamp (tracked.tagged.replies _ replyIn)
    (tracked.found _ inFlight) reported
  have reacts := Reacts.runGroup change.request { record.state with replies := rest } outcome
  rw [← handles] at reacts
  have after := trace_handleNext_own tracked.queued waiting (handled_of_reacts waiting reacts)
  obtain ⟨pending, inserted, isChange, target⟩ := asks.waits
  refine .asked ⟨change.groupId, "grp_notify_" ++ stamp.firstUuid⟩ ?_
    ⟨rfl, pending, ?_, isChange, target⟩
  · rw [after, asks.query, asks.silent,
      show entriesOf change.request record.loads = [] from congrArg RequestTrace.loads trace,
      show entriesOf change.request record.told = [] from congrArg RequestTrace.told trace]
    rfl
  · rw [next, handles, (ManagementState.sameStores_runGroup _ change.request outcome).group]
    rw [show outcome.1.pendingNotifications = _ from inserted]
    exact AList.lookup_insert _

theorem Tracked.done (tracked : record.Tracked) {query : GroupMembersQuery} {store : GroupStore}
    (waiting : record.state.replies =
      (change.request, .groupMembersLoaded (loadGroupMembers store {} query)) :: rest)
    (trace : record.trace change.request =
      ⟨[], [.groupMembersLoaded (loadGroupMembers store {} query)], [store], []⟩)
    (pends : record.Pends query change) (consistent : GroupsConsistent store) :
    (record.next (.handleNext stamp)).Stage change := by
  obtain ⟨pending, found, isChange, target⟩ := pends.waits
  have member := mem_memberLoads_of_reply (congrArg RequestTrace.replies trace)
  rw [loadGroupMembers_reqMsgId] at member
  obtain ⟨uuid, _, isId⟩ := tracked.loads.drawn _ member
  have isNotify : qStartsWith (loadGroupMembers store {} query).reqMsgId "grp_notify_" =
      true := by
    rw [loadGroupMembers_reqMsgId, isId]
    exact notify_of_notification uuid
  have named : query.reqMsgId ≠ "" := by
    rw [loadGroupMembers_reqMsgId] at isNotify
    exact ne_empty_of_notify isNotify
  have handles : { record.state with replies := rest }.onStoreReply stamp change.request
      (.groupMembersLoaded (loadGroupMembers store {} query)) =
      { record.state with replies := rest }.runGroup change.request
        (record.state.group.onGroupMembersForNotify (loadGroupMembers store {} query)) :=
    if_pos isNotify
  have reacts := Reacts.runGroup change.request
    { record.state with replies := rest }
    (record.state.group.onGroupMembersForNotify (loadGroupMembers store {} query))
  rw [← handles] at reacts
  have after := trace_handleNext_own tracked.queued waiting (handled_of_reacts waiting reacts)
  have silent := (record.state.group.onGroupMembersForNotify_cases
    (ne_empty_of_notify isNotify)).2
  obtain ⟨packet, sameCommand, told⟩ :=
    record.state.group.told_onGroupMembersForNotify store named found
  refine .done store packet ?_ (sameCommand.trans isChange) consistent
  rw [after, silent, told, target, pends.ofGroup,
    show entriesOf change.request record.loads = [store] from congrArg RequestTrace.loads trace,
    show entriesOf change.request record.told = [] from congrArg RequestTrace.told trace]
  rfl

theorem Stage.handled (stage : record.Stage change) (tracked : record.Tracked)
    (waiting : record.state.replies = (change.request, reply) :: rest) :
    (record.next (.handleNext stamp)).Stage change := by
  have head : (record.trace change.request).replies =
      reply :: entriesOf change.request rest := by
    rw [trace, waiting, entriesOf_cons, if_pos rfl]
  rcases stage.of_reply head with
    ⟨trace, reported⟩ | ⟨query, store, rfl, trace, pends, consistent⟩
  · exact tracked.asked waiting trace reported
  · exact tracked.done waiting trace pends consistent

end Handled

theorem KeepsStages.handleNext (tracked : record.Tracked) {stamp : NotifyStamp}
    (fresh : stamp.firstUuid ∉ record.drawn) : (record.next (.handleNext stamp)).KeepsStages := by
  cases waiting : record.state.replies with
  | nil =>
      rw [next_handleNext_of_nil waiting]
      refine ⟨tracked.keeps.issued, tracked.keeps.leavers, ?_⟩
      intro change member
      exact (tracked.keeps.stages change member).of_same rfl fun _ _ _ => rfl
  | cons entry rest =>
      obtain ⟨request, reply⟩ := entry
      obtain ⟨queries, handed, _, reacts⟩ := Reacts.onStoreReply request
        { record.state with replies := rest } stamp reply
      have handles := handled_of_reacts waiting reacts
      have changes : (record.next (.handleNext stamp)).changes = record.changes :=
        List.append_nil _
      refine ⟨?_, ?_, ?_⟩
      · rw [changes, handles.issued]
        exact tracked.keeps.issued
      · rw [changes]
        exact tracked.keeps.leavers
      · rw [changes]
        intro change member
        have stage := tracked.keeps.stages change member
        by_cases own : request = change.request
        · subst own
          exact stage.handled tracked waiting
        · exact stage.of_same (trace_handleNext_other waiting handles own)
            ((loadsHandled record.state stamp).waits tracked.loads.apart
              (tracked.loads.fresh fresh))

/-! ## Runs -/

theorem KeepsStages.of_same (keeps : record.KeepsStages) {after : NotifyRecord}
    (changes : after.changes = record.changes)
    (issued : ∀ request ∈ record.state.issued, request ∈ after.state.issued)
    (traces : ∀ request ∈ record.state.issued, after.trace request = record.trace request)
    (group : after.state.group.pendingNotifications = record.state.group.pendingNotifications) :
    after.KeepsStages := by
  refine ⟨?_, ?_, ?_⟩
  · rw [changes]
    intro change member
    exact issued _ (keeps.issued change member)
  · rw [changes]
    exact keeps.leavers
  · rw [changes]
    intro change member
    refine (keeps.stages change member).of_same (traces _ (keeps.issued change member)) ?_
    intro id _ _
    rw [group]

theorem KeepsStages.packetReceived (tracked : record.Tracked) (connectionId : String)
    (packet : Packet) : (record.next (.packetReceived connectionId packet)).KeepsStages := by
  have replies : (record.next (.packetReceived connectionId packet)).state.replies =
      record.state.replies := replies_packetReceived record.state connectionId packet
  have sameLoads : (record.next (.packetReceived connectionId packet)).loads = record.loads :=
    List.append_nil _
  have sameTold : (record.next (.packetReceived connectionId packet)).told = record.told :=
    List.append_nil _
  have group := (ManagementState.keepsLoads_packetReceived record.state connectionId
    packet).notifications
  rcases packetReceived_cases tracked.tagged connectionId packet with
    ⟨request, call, fresh, _, calls, issued⟩ | ⟨calls, issued⟩
  · have newCalls : (record.next (.packetReceived connectionId packet)).state.calls =
      record.state.calls ++ [(request, call)] := calls
    have newIssued : (record.next (.packetReceived connectionId packet)).state.issued =
      record.state.issued ++ [request] := issued
    refine tracked.keeps.of_same (List.append_nil _) ?_ ?_ group
    · intro other member
      rw [newIssued]
      exact List.mem_append_left _ member
    · intro other member
      have differs : request ≠ other := by
        rintro rfl
        exact fresh member
      rw [trace, trace, newCalls, replies, sameLoads, sameTold, entriesOf_append, entriesOf_cons,
        if_neg differs]
      simp [entriesOf]
  · refine tracked.keeps.of_same (List.append_nil _) ?_ ?_ group
    · intro other member
      exact issued ▸ member
    · intro other _
      have sameCalls : (record.next (.packetReceived connectionId packet)).state.calls =
        record.state.calls := calls
      rw [trace, trace, sameCalls, replies, sameLoads, sameTold]

/-- Every step keeps the queue, the member lists and the stages in order. -/
theorem Tracked.next (tracked : record.Tracked) {event : ManagementEvent}
    (assumed : record.Assumed event) :
    (record.next event).Queued ∧ (record.next event).LoadsApart ∧
      (record.next event).KeepsStages := by
  have quiet : ∀ after : NotifyRecord, after.state.calls = record.state.calls →
      after.state.replies = record.state.replies → after.state.issued = record.state.issued →
      after.state.group = record.state.group → after.changes = record.changes →
      after.loads = record.loads → after.told = record.told → after.drawn = record.drawn →
      after.Queued ∧ after.LoadsApart ∧ after.KeepsStages := by
    intro after calls replies issued group changes loads told drawn
    refine ⟨tracked.queued.of_same calls replies issued loads told, ?_, ?_⟩
    · refine tracked.loads.of_same ?_ fun uuid member => drawn ▸ member
      rw [ManagementState.memberLoads, ManagementState.loadReplies, ManagementState.loadCalls,
        calls, replies]
      rfl
    · refine tracked.keeps.of_same changes (fun request member => issued ▸ member) ?_
        (congrArg GroupManagementService.pendingNotifications group)
      intro request _
      rw [trace, trace, calls, replies, loads, told]
  cases event with
  | session event =>
      exact quiet _ rfl rfl rfl rfl (List.append_nil _) (List.append_nil _) (List.append_nil _) rfl
  | sessionDeleted connectionId =>
      exact quiet _ rfl rfl rfl rfl (List.append_nil _) (List.append_nil _) (List.append_nil _) rfl
  | ensureUser run userId nickname =>
      exact quiet _ rfl rfl rfl rfl (List.append_nil _) (List.append_nil _) (List.append_nil _) rfl
  | packetReceived connectionId packet =>
      refine ⟨tracked.queued.packetReceived tracked.tagged connectionId packet, ?_,
        KeepsStages.packetReceived tracked connectionId packet⟩
      have keepsLoads := ManagementState.keepsLoads_packetReceived record.state connectionId packet
      refine tracked.loads.of_same ?_ fun uuid member => member
      exact congrArg₂ (fun replies calls => List.map GroupMembersResult.reqMsgId replies ++
        List.map GroupMembersQuery.reqMsgId calls) keepsLoads.loadReplies keepsLoads.loadCalls
  | executeNext run =>
      refine ⟨tracked.queued.executeNext run, ?_,
        tracked.keeps.executeNext tracked.queued tracked.tagged tracked.consistent assumed⟩
      exact tracked.loads.of_same (memberLoads_executeNext record.state run)
        fun uuid member => member
  | handleNext stamp =>
      refine ⟨?_, tracked.loads.handleNext stamp assumed, KeepsStages.handleNext tracked assumed⟩
      cases waiting : record.state.replies with
      | nil =>
          rw [next_handleNext_of_nil waiting]
          exact tracked.queued.of_same rfl rfl rfl rfl rfl
      | cons entry rest =>
          obtain ⟨request, reply⟩ := entry
          obtain ⟨queries, handed, atMostOne, reacts⟩ := Reacts.onStoreReply request
            { record.state with replies := rest } stamp reply
          exact tracked.queued.handled waiting (handled_of_reacts waiting reacts) atMostOne

theorem tracked_of_reachable (record : NotifyRecord) (reached : notifySystem.Reachable record) :
    record.Tracked := by
  have management : ∀ before, notifySystem.Reachable before →
      (managementSystem.restrict NotWaiting).Reachable before.state := by
    refine System.Reachable.simulates NotifyRecord.state rfl ?_
    intro before event _ enabled
    exact Or.inr ⟨event, enabled.1, rfl⟩
  have tables : ∀ state, managementSystem.Reachable state →
      GroupsConsistent state.database.groupStore :=
    System.Reachable.invariant GroupsConsistent.empty fun _ event _ consistent _ =>
      groupsConsistent_management consistent event
  have track : ∀ before, notifySystem.Reachable before → before.Queued → before.LoadsApart →
      before.KeepsStages → before.Tracked := by
    intro before reachedBefore queued loads keeps
    have restricted := management before reachedBefore
    exact ⟨wellTagged_of_reachable before.state (System.Reachable.of_restrict restricted),
      (correlated_of_notWaiting before.state restricted).found,
      tables before.state (System.Reachable.of_restrict restricted), queued, loads, keeps⟩
  have kept : ∀ before, notifySystem.Reachable before →
      before.Queued ∧ before.LoadsApart ∧ before.KeepsStages := by
    refine System.Reachable.invariant ⟨⟨List.nodup_nil, ?_, ?_, ?_, ?_⟩, ⟨?_, List.nodup_nil⟩,
      ?_, ?_, ?_⟩ ?_
    · intro request member
      cases member
    · intro request logged
      rcases logged with loaded | told
      · exact absurd rfl loaded
      · exact absurd rfl told
    · intro entry member
      cases member
    · intro entry member
      cases member
    · intro id member
      cases member
    · intro change member
      cases member
    · intro change member
      cases member
    · intro change member
      cases member
    · intro before event reachedBefore kept enabled
      exact (track before reachedBefore kept.1 kept.2.1 kept.2.2).next enabled.2
  obtain ⟨queued, loads, keeps⟩ := kept record reached
  exact track record reached queued loads keeps

end NotifyRecord

/-- While its request is in flight, nothing has been told of a committed change.
Afterwards its member list has been read once, and the members in it and the user
taken out have been told exactly once, except that nobody has where somebody was
taken out of a group that was gone when the list was read. -/
theorem group_changes_told (record : NotifyRecord) (reached : notifySystem.Reachable record) :
    ∀ change ∈ record.changes,
      (record.InFlight change.request → entriesOf change.request record.told = []) ∧
      (¬ record.InFlight change.request → ∃ store, entriesOf change.request record.loads = [store] ∧
        (TellsExactly store change (entriesOf change.request record.told) ↔
          change.leaver = none ∨ (store.groups.find? change.groupId).isSome)) := by
  intro change member
  have keeps := (NotifyRecord.tracked_of_reachable record reached).keeps
  have named := keeps.leavers change member
  cases keeps.stages change member with
  | answered reply trace reported =>
      exact ⟨fun _ => congrArg RequestTrace.told trace,
        fun settled => absurd (record.inFlight_iff.mpr (Or.inr (by rw [trace]; nofun))) settled⟩
  | asked query trace pends =>
      exact ⟨fun _ => congrArg RequestTrace.told trace,
        fun settled => absurd (record.inFlight_iff.mpr (Or.inl (by rw [trace]; nofun))) settled⟩
  | read query store trace pends consistent =>
      exact ⟨fun _ => congrArg RequestTrace.told trace,
        fun settled => absurd (record.inFlight_iff.mpr (Or.inr (by rw [trace]; nofun))) settled⟩
  | done store packet trace isChange consistent =>
      have told := congrArg RequestTrace.told trace
      refine ⟨?_, ?_⟩
      · intro inFlight
        rcases record.inFlight_iff.mp inFlight with someCall | someReply
        · exact absurd (congrArg RequestTrace.calls trace) someCall
        · exact absurd (congrArg RequestTrace.replies trace) someReply
      · intro _
        refine ⟨store, congrArg RequestTrace.loads trace, ?_⟩
        rw [show entriesOf change.request record.told = _ from told]
        cases stored : store.groups.find? change.groupId with
        | none =>
            simp only [Option.isSome_none, Bool.false_eq_true, if_false, or_false]
            exact tellsExactly_nil_iff consistent stored
        | some group =>
            simp only [Option.isSome_some, if_true, or_true, iff_true]
            exact tellsExactly_notices store named isChange

section Example

def groupMemberPacket (cmd : Command) (msgId userId : String) : Packet :=
  { cmd := cmd, msgId := msgId,
    payload := [("groupId", .string "grp_1"), ("userId", .string userId)] }

def aliceCreatesWithBob : List ManagementEvent :=
  [.session (.newConnection "c_alice" 0), .session (.connectAccepted "c_alice" "alice" "Alice"),
    .ensureUser {} "alice" "Alice", .ensureUser {} "bob" "Bob",
    .packetReceived "c_alice" { cmd := .createGroup, msgId := "m1",
                                payload := [("groupName", .string "friends"),
                                  ("memberUserIds", .array [.string "bob"])] },
    .executeNext (StoreRun.ok "grp_1" "2026-01-01T00:00:00.000Z"), .handleNext ⟨"u1", ""⟩,
    .executeNext (StoreRun.ok "" ""), .handleNext ⟨"u2", ""⟩]

def aliceRemovesBob : List ManagementEvent :=
  [.packetReceived "c_alice" (groupMemberPacket .removeMember "m2" "bob"),
    .executeNext (StoreRun.ok "" ""), .handleNext ⟨"u3", ""⟩,
    .executeNext (StoreRun.ok "" ""), .handleNext ⟨"u4", ""⟩]

/-- Alice leaves before the members left are read for Bob's removal. -/
def aliceRemovesBobAndLeaves : List ManagementEvent :=
  [.packetReceived "c_alice" (groupMemberPacket .removeMember "m2" "bob"),
    .packetReceived "c_alice" (groupMemberPacket .leaveGroup "m3" ""),
    .executeNext (StoreRun.ok "" ""), .executeNext (StoreRun.ok "" ""),
    .handleNext ⟨"u3", ""⟩, .handleNext ⟨"u4", ""⟩, .executeNext (StoreRun.ok "" ""),
    .executeNext (StoreRun.ok "" ""), .handleNext ⟨"u5", ""⟩, .handleNext ⟨"u6", ""⟩]

def bobsRemoval : GroupChange :=
  ⟨⟨1, "c_alice", .removeMember, "m2"⟩, "grp_1", some "bob"⟩

def createdWithBob : NotifyRecord :=
  aliceCreatesWithBob.foldl NotifyRecord.next notifySystem.initial

def bobRemoved : NotifyRecord := aliceRemovesBob.foldl NotifyRecord.next createdWithBob

def bobUntold : NotifyRecord := aliceRemovesBobAndLeaves.foldl NotifyRecord.next createdWithBob

theorem createdWithBob_reachable : notifySystem.Reachable createdWithBob := by
  refine System.Reachable.run _ _ System.Reachable.initial ?_
  refine ⟨⟨⟨⟨⟨by decide, rfl⟩, ?_⟩, trivial⟩, trivial⟩,
    ⟨⟨⟨(by decide : "alice" ≠ ""), nofun⟩, trivial⟩, trivial⟩, ⟨⟨trivial, trivial⟩, trivial⟩,
    ⟨⟨trivial, trivial⟩, trivial⟩, ⟨⟨trivial, fun _ _ _ => rfl⟩, trivial⟩,
    ⟨⟨trivial, trivial⟩, rfl⟩, ⟨⟨trivial, trivial⟩, fun drawn => absurd drawn (by decide +kernel)⟩,
    ⟨⟨trivial, trivial⟩, rfl⟩, ⟨⟨trivial, trivial⟩, fun drawn => absurd drawn (by decide +kernel)⟩,
    trivial⟩
  intro connectionId now isNew
  cases isNew
  decide

theorem group_changes_told_bob :
    ∃ store, entriesOf bobsRemoval.request bobRemoved.loads = [store] ∧
      TellsExactly store bobsRemoval (entriesOf bobsRemoval.request bobRemoved.told) := by
  have reached : notifySystem.Reachable bobRemoved := by
    refine System.Reachable.run _ _ createdWithBob_reachable ?_
    exact ⟨⟨⟨trivial, fun _ _ _ => by decide +kernel⟩, trivial⟩, ⟨⟨trivial, trivial⟩, rfl⟩,
      ⟨⟨trivial, trivial⟩, fun drawn => absurd drawn (by decide +kernel)⟩,
      ⟨⟨trivial, trivial⟩, rfl⟩,
      ⟨⟨trivial, trivial⟩, fun drawn => absurd drawn (by decide +kernel)⟩, trivial⟩
  have settled : ¬ bobRemoved.InFlight bobsRemoval.request := by
    unfold NotifyRecord.InFlight
    decide +kernel
  obtain ⟨store, read, exactly⟩ :=
    (group_changes_told _ reached bobsRemoval (by decide +kernel)).2 settled
  have stored : (entriesOf bobsRemoval.request bobRemoved.loads).map
      (fun store => (store.groups.find? "grp_1").isSome) = [true] := by decide +kernel
  rw [read] at stored
  exact ⟨store, read, exactly.mpr (Or.inr (List.singleton_inj.mp stored))⟩

/-- Bob is never told that he was removed. -/
theorem group_change_untold_bob :
    ¬ ∀ record, notifySystem.Reachable record → ∀ change ∈ record.changes,
      ¬ record.InFlight change.request →
        ∃ store, entriesOf change.request record.loads = [store] ∧
          TellsExactly store change (entriesOf change.request record.told) := by
  intro always
  have reached : notifySystem.Reachable bobUntold := by
    refine System.Reachable.run _ _ createdWithBob_reachable ?_
    exact ⟨⟨⟨trivial, fun _ _ _ => by decide +kernel⟩, trivial⟩,
      ⟨⟨trivial, fun _ _ _ => by decide +kernel⟩, trivial⟩, ⟨⟨trivial, trivial⟩, rfl⟩,
      ⟨⟨trivial, trivial⟩, rfl⟩,
      ⟨⟨trivial, trivial⟩, fun drawn => absurd drawn (by decide +kernel)⟩,
      ⟨⟨trivial, trivial⟩, fun drawn => absurd drawn (by decide +kernel)⟩,
      ⟨⟨trivial, trivial⟩, rfl⟩, ⟨⟨trivial, trivial⟩, rfl⟩,
      ⟨⟨trivial, trivial⟩, fun drawn => absurd drawn (by decide +kernel)⟩,
      ⟨⟨trivial, trivial⟩, fun drawn => absurd drawn (by decide +kernel)⟩, trivial⟩
  have settled : ¬ bobUntold.InFlight bobsRemoval.request := by
    unfold NotifyRecord.InFlight
    decide +kernel
  obtain ⟨store, _, exactly⟩ := always _ reached bobsRemoval (by decide +kernel) settled
  have untold : entriesOf bobsRemoval.request bobUntold.told = [] := by decide +kernel
  have once := exactly.once "bob"
  have leaves : bobsRemoval.leaver = some "bob" := rfl
  simp [untold, leaves] at once

end Example

end ShirohaChat
