import ShirohaChat.Client.LocalGroups
import ShirohaChat.Client.SendRuns
import ShirohaChat.Shared.Packet

/-!
# Messages waiting for their acknowledgement

The two message tables and the map of timers, over runs of the process with
deleted sessions and restarts.  Every operation works on one message; what it
leaves of the others is said once, in `SameFor`.
-/

set_option autoImplicit false

namespace ShirohaChat

open Transition SendMessageUseCase

def SendSignal.Announces (msgId : String) : SendSignal → Prop
  | .messageSent sent _ _ => sent = msgId
  | .messageStatusChanged changed status => changed = msgId ∧ status = .sending
  | _ => False

theorem SendSignal.not_announces_changed {msgId other : String} (differs : other ≠ msgId)
    (status : MessageStatus) : ¬ (SendSignal.messageStatusChanged other status).Announces msgId :=
  fun announces => differs announces.1

def SendMessageUseCase.SetSending (client : SendMessageUseCase) (msgId : String) : Prop :=
  ∃ signal ∈ client.signals, signal.Announces msgId

/-- The writes succeed; what other use cases store has been delivered. -/
def SendEvent.Succeeds (client : SendMessageUseCase) : SendEvent → Prop
  | .sendMessage run _ _ _ _ => run.transaction = {} ∧ run.inserted = true ∧
      run.ackStored = true ∧ run.failed = {}
  | .resendMessage run _ _ => run.restarted = {} ∧ run.failed = {}
  | .recoverPendingMessages _ run _ => ∀ msgId, (run msgId).failed = {}
  | .ackReceived run _ _ => run = {}
  | .ackFailed run _ _ _ => run = {}
  | .timerExpired _ updated => updated = true
  | .elsewhere tables => ∀ row ∈ tables.messages.rows,
      row ∈ client.db.view.messages.rows ∨ row.status = .delivered

structure SendProcess where
  client : SendMessageUseCase := {}
  start : LocalTables := {}

inductive ProcessEvent where
  | sending (event : SendEvent)
  | sessionDeleted (run : RemoveSessionRun) (sessionId : String)
  | restarted

namespace ProcessEvent

def enabled (process : SendProcess) : ProcessEvent → Prop
  | .sending event => event.enabled process.client ∧ event.Succeeds process.client
  | .sessionDeleted run _ => run = {}
  | .restarted => True

/-- A new process has no entries and no timers, and finds what was committed. -/
def next (process : SendProcess) : ProcessEvent → SendProcess
  | .sending event => { process with client := event.next process.client }
  | .sessionDeleted run sessionId =>
      { process with client := { process.client with
          db := (process.client.db.removeSession 0 run sessionId).1 } }
  | .restarted =>
      { client := { db := { committed := process.client.db.committed } }
        start := process.client.db.committed }

end ProcessEvent

def processSystem : System SendProcess ProcessEvent where
  initial := {}
  enabled := ProcessEvent.enabled
  next := ProcessEvent.next

/-! ## What is kept of a message -/

def SendMessageUseCase.Timed (client : SendMessageUseCase) (msgId : String) : Prop :=
  ∃ timer, client.timers.pendingMessages.lookup msgId = some timer ∧
    client.timers.running.lookup timer = some msgId

theorem SendMessageUseCase.timed_startAckTimer (client : SendMessageUseCase) (msgId : String) :
    (client.startAckTimer msgId).Timed msgId := by
  refine ⟨client.timers.nextTimer, ?_, ?_⟩
  · exact (FiniteMap.lookup_insert _ _ _ _).trans (if_pos rfl)
  · exact (client.timers.lookup_start msgId _).trans (if_pos rfl)

theorem SendMessageUseCase.statusOf_timerExpired {client : SendMessageUseCase} {timer : Nat}
    {msgId : String} (running : client.timers.running.lookup timer = some msgId) :
    (SendEvent.next client (.timerExpired timer true)).statusOf msgId =
      (client.statusOf msgId).map fun _ => .failed := by
  simp only [SendEvent.next, running]
  refine (statusOf_setStatus _ msgId msgId true .failed "").trans ?_
  rw [if_pos ⟨rfl, rfl⟩]
  rfl

structure MessageKept (start : LocalTables) (client : SendMessageUseCase) (msgId : String) :
    Prop where
  pending : client.statusOf msgId = some .sending → msgId ∈ client.db.view.pendingAcks
  settled : client.statusOf msgId = some .delivered → msgId ∉ client.db.view.pendingAcks
  stored : msgId ∈ client.db.view.pendingAcks → client.statusOf msgId ≠ none
  timed : client.statusOf msgId = some .sending → client.SetSending msgId → client.Timed msgId
  announced : client.statusOf msgId = some .sending → client.SetSending msgId ∨
    (start.messages.find? msgId).map LocalMessageRow.status = some .sending

structure SameFor (msgId : String) (before after : SendMessageUseCase) : Prop where
  status : after.statusOf msgId = before.statusOf msgId
  acks : msgId ∈ after.db.view.pendingAcks ↔ msgId ∈ before.db.view.pendingAcks
  announced : after.SetSending msgId ↔ before.SetSending msgId
  timed : before.Timed msgId → after.Timed msgId

namespace SameFor

variable {msgId other : String} {client first second third : SendMessageUseCase}

theorem trans (one : SameFor msgId first second) (two : SameFor msgId second third) :
    SameFor msgId first third :=
  ⟨two.status.trans one.status, two.acks.trans one.acks, two.announced.trans one.announced,
    fun timed => two.timed (one.timed timed)⟩

theorem emit (client : SendMessageUseCase) {signal : SendSignal}
    (quiet : ¬ signal.Announces msgId) : SameFor msgId client (client.emit signal) := by
  refine ⟨rfl, Iff.rfl, ?_, id⟩
  constructor
  · rintro ⟨announced, member, announces⟩
    rcases List.mem_append.mp member with old | new
    · exact ⟨announced, old, announces⟩
    · exact absurd (List.mem_singleton.mp new ▸ announces) quiet
  · rintro ⟨announced, member, announces⟩
    exact ⟨announced, List.mem_append_left _ member, announces⟩

theorem startAckTimer (client : SendMessageUseCase) (differs : other ≠ msgId) :
    SameFor msgId client (client.startAckTimer other) := by
  refine ⟨rfl, Iff.rfl, Iff.rfl, ?_⟩
  rintro ⟨timer, entry, running⟩
  refine ⟨timer, ?_, ?_⟩
  · exact (FiniteMap.lookup_insert _ _ _ _).trans ((if_neg differs.symm).trans entry)
  · refine (client.timers.lookup_start other timer).trans ?_
    rw [if_neg (Nat.ne_of_lt (client.timers.runningBelow timer msgId running))]
    exact running

theorem stopAckTimer (client : SendMessageUseCase) (differs : other ≠ msgId) :
    SameFor msgId client (client.stopAckTimer other) := by
  refine ⟨rfl, Iff.rfl, Iff.rfl, ?_⟩
  rintro ⟨timer, entry, running⟩
  refine ⟨timer, ?_, ?_⟩
  · exact (client.timers.entry_stop other msgId).trans ((if_neg differs.symm).trans entry)
  · refine (client.timers.lookup_stop other timer).trans ?_
    rw [if_neg fun held => differs (client.timers.own other timer msgId held running).symm]
    exact running

theorem setStatus (client : SendMessageUseCase) (updated : Bool) (status : MessageStatus)
    (serverId : String) (differs : other ≠ msgId) :
    SameFor msgId client (client.setStatus updated other status serverId) := by
  refine ⟨?_, ?_, Iff.rfl, id⟩
  · rw [statusOf_setStatus, if_neg fun both => differs both.2.symm]
  · rw [SendMessageUseCase.setStatus, LocalDatabase.pendingAcks_updateMessageStatus]

theorem removeAck (client : SendMessageUseCase) (removed : Bool) (differs : other ≠ msgId) :
    SameFor msgId client (client.removeAck removed other) := by
  refine ⟨statusOf_congr msgId (LocalDatabase.messages_removePendingAck _ _ _), ?_, Iff.rfl, id⟩
  refine (LocalDatabase.mem_removePendingAck client.db removed other msgId).trans ?_
  exact and_iff_left fun both => differs both.2.symm

theorem storeAck (client : SendMessageUseCase) (stored : Bool) (differs : other ≠ msgId) :
    SameFor msgId client { client with db := (client.db.upsertPendingAck stored other).1 } := by
  refine ⟨statusOf_congr msgId (LocalDatabase.messages_upsertPendingAck _ _ _), ?_, Iff.rfl, id⟩
  unfold LocalDatabase.upsertPendingAck
  split
  · simp [differs.symm]
  · exact Iff.rfl

theorem failMessage (client : SendMessageUseCase) (run : StatusRun) (remove : Bool)
    (differs : other ≠ msgId) : SameFor msgId client (client.failMessage run other remove) := by
  have failed := (stopAckTimer client differs).trans
    (setStatus _ run.updated .failed "" differs)
  have quiet := SendSignal.not_announces_changed differs .failed
  unfold SendMessageUseCase.failMessage
  cases remove with
  | true => exact (failed.trans (removeAck _ run.ackChanged differs)).trans (emit _ quiet)
  | false => exact failed.trans (emit _ quiet)

theorem dispatch (client : SendMessageUseCase) (route : RouteRun) (failed : StatusRun)
    (message : Message) (reports : Bool) (differs : message.msgId ≠ msgId) :
    SameFor msgId client (client.dispatch route failed message reports) := by
  rcases client.dispatch_cases route failed message reports with ⟨error, gaveUp⟩ | ⟨_, _, sent⟩
  · have failing := failMessage client failed true differs
    rw [gaveUp, giveUp]
    cases reports with
    | true => exact failing.trans (emit _ id)
    | false => exact failing
  · rw [sent]
    exact emit client id

end SameFor

/-! ## The message worked on -/

namespace MessageKept

variable {start : LocalTables} {msgId : String} {client after : SendMessageUseCase}

theorem of_same (kept : MessageKept start client msgId) (same : SameFor msgId client after) :
    MessageKept start after msgId := by
  constructor
  · intro sending
    exact same.acks.mpr (kept.pending (same.status ▸ sending))
  · intro delivered member
    exact kept.settled (same.status ▸ delivered) (same.acks.mp member)
  · intro member
    rw [same.status]
    exact kept.stored (same.acks.mp member)
  · intro sending announced
    exact same.timed (kept.timed (same.status ▸ sending) (same.announced.mp announced))
  · intro sending
    rw [same.announced]
    exact kept.announced (same.status ▸ sending)

theorem of_sending (sending : after.statusOf msgId = some .sending)
    (pending : msgId ∈ after.db.view.pendingAcks) (timed : after.Timed msgId)
    (announced : after.SetSending msgId) : MessageKept start after msgId := by
  constructor
  · exact fun _ => pending
  · intro delivered
    rw [sending] at delivered
    cases delivered
  · intro _
    rw [sending]
    exact Option.some_ne_none _
  · exact fun _ _ => timed
  · exact fun _ => Or.inl announced

theorem of_failed (failed : ∀ status, after.statusOf msgId = some status → status = .failed)
    (stored : msgId ∈ after.db.view.pendingAcks → after.statusOf msgId ≠ none) :
    MessageKept start after msgId := by
  have notSending : after.statusOf msgId ≠ some .sending := fun sending =>
    nomatch failed _ sending
  constructor
  · exact fun sending => absurd sending notSending
  · intro delivered
    cases failed _ delivered
  · exact stored
  · exact fun sending => absurd sending notSending
  · exact fun sending => absurd sending notSending

theorem failMessage (kept : MessageKept start client msgId) (remove : Bool) :
    MessageKept start (client.failMessage {} msgId remove) msgId := by
  have status : (client.failMessage {} msgId remove).statusOf msgId =
      (client.statusOf msgId).map fun _ => .failed := by
    rw [statusOf_failMessage, if_pos ⟨rfl, rfl⟩]
  apply of_failed
  · intro found isFound
    rw [status] at isFound
    obtain ⟨_, _, rfl⟩ := Option.map_eq_some_iff.mp isFound
    rfl
  · intro member
    have before : msgId ∈ client.db.view.pendingAcks := by
      have unchanged :=
        LocalDatabase.pendingAcks_updateMessageStatus client.db true msgId .failed ""
      unfold SendMessageUseCase.failMessage at member
      cases remove with
      | true => exact unchanged ▸ ((LocalDatabase.mem_removePendingAck _ _ _ _).mp member).1
      | false => exact unchanged ▸ member
    rw [status, ne_eq, Option.map_eq_none_iff]
    exact kept.stored before

theorem startAckTimer (kept : MessageKept start client msgId) :
    MessageKept start (client.startAckTimer msgId) msgId :=
  ⟨kept.pending, kept.settled, kept.stored, fun _ _ => client.timed_startAckTimer msgId,
    kept.announced⟩

theorem dispatch (kept : MessageKept start client msgId) (route : RouteRun) {message : Message}
    (own : message.msgId = msgId) (reports : Bool) :
    MessageKept start (client.dispatch route {} message reports) msgId := by
  rcases client.dispatch_cases route {} message reports with ⟨error, gaveUp⟩ | ⟨_, _, sent⟩
  · rw [gaveUp, giveUp, own]
    have failing := kept.failMessage true
    cases reports with
    | true => exact failing.of_same (SameFor.emit _ id)
    | false => exact failing
  · rw [sent]
    exact kept.of_same (SameFor.emit client id)

end MessageKept

/-! ## Operations -/

def StoreKept (start : LocalTables) (client : SendMessageUseCase) : Prop :=
  ∀ msgId, MessageKept start client msgId

theorem persist_ok {db : LocalDatabase} (idle : db.Idle) {run : SendRun} (message : Message)
    (transaction : run.transaction = {}) (inserted : run.inserted = true)
    (ackStored : run.ackStored = true) :
    persist db run message = (db, none) ∨
      ∃ messages, db.view.messages.insert? message.toRow = some messages ∧
        persist db run message = ({ committed := { db.view with
          messages := messages
          pendingAcks := insert message.msgId db.view.pendingAcks } }, some ()) := by
  unfold persist
  rw [transaction, idle.runInTransaction_eq, inserted, ackStored, idle.view_eq]
  cases insertion : db.committed.messages.insert? message.toRow with
  | none => exact Or.inl (by simp [LocalDatabase.insertMessage, LocalDatabase.view, insertion])
  | some messages =>
      have found := RowTable.find?_insert? insertion message.msgId
      rw [if_pos (show message.msgId = message.toRow.msgId from rfl)] at found
      refine Or.inr ⟨messages, rfl, ?_⟩
      simp [LocalDatabase.insertMessage, LocalDatabase.upsertPendingAck, LocalDatabase.view,
        LocalDatabase.write, insertion, found]

namespace StoreKept

variable {start : LocalTables} {client after : SendMessageUseCase}

theorem of_own (kept : StoreKept start client) (own : String)
    (changed : MessageKept start after own)
    (others : ∀ msgId, own ≠ msgId → SameFor msgId client after) : StoreKept start after := by
  intro msgId
  by_cases same : own = msgId
  · exact same ▸ changed
  · exact (kept msgId).of_same (others msgId same)

/-- A message that is stored as Sending with its ack row, its timer and the signal
that it was sent. -/
theorem started (kept : StoreKept start client) {message : Message}
    (isSending : message.status = .sending) {messages : LocalMessageTable}
    (insertion : client.db.view.messages.insert? message.toRow = some messages)
    (sessionType : SessionType) :
    StoreKept start ((({ client with db := { committed := { client.db.view with
      messages := messages
      pendingAcks := insert message.msgId client.db.view.pendingAcks } } } :
        SendMessageUseCase).startAckTimer message.msgId).emit
          (.messageSent message.msgId message sessionType)) := by
  generalize persistedDef : ({ client with db := { committed := { client.db.view with
    messages := messages, pendingAcks := insert message.msgId client.db.view.pendingAcks } } } :
      SendMessageUseCase) = persisted
  have found : ∀ other, messages.find? other =
      if other = message.msgId then some message.toRow
      else client.db.view.messages.find? other := RowTable.find?_insert? insertion
  have ownStatus : persisted.statusOf message.msgId = some .sending := by
    rw [← persistedDef, statusOf]
    refine (congrArg (Option.map LocalMessageRow.status) (found message.msgId)).trans ?_
    rw [if_pos rfl, Option.map_some, Message.toRow, isSending]
  apply kept.of_own message.msgId
  · refine MessageKept.of_sending ?_ ?_ ?_ ?_
    · exact ownStatus
    · rw [← persistedDef]
      exact Finset.mem_insert_self _ _
    · exact persisted.timed_startAckTimer message.msgId
    · exact ⟨_, List.mem_append_right _ List.mem_cons_self, rfl⟩
  · intro other differs
    have same : SameFor other client persisted := by
      rw [← persistedDef]
      refine ⟨?_, ?_, Iff.rfl, id⟩
      · rw [statusOf, statusOf]
        refine congrArg (Option.map LocalMessageRow.status) ((found other).trans (if_neg ?_))
        exact fun isOwn => differs isOwn.symm
      · refine Finset.mem_insert.trans (or_iff_right ?_)
        exact fun isOwn => differs isOwn.symm
    exact (same.trans (SameFor.startAckTimer _ differs)).trans (SameFor.emit _ differs)

theorem sendMessage (kept : StoreKept start client) (idle : client.db.Idle) {run : SendRun}
    (sessionId content msgId timestamp : String)
    (succeeds : SendEvent.Succeeds client (.sendMessage run sessionId content msgId timestamp)) :
    StoreKept start (client.sendMessage run sessionId content msgId timestamp) := by
  obtain ⟨transaction, inserted, ackStored, failed⟩ := succeeds
  unfold SendMessageUseCase.sendMessage
  simp only
  split
  · exact kept
  split
  · exact fun other => (kept other).of_same (SameFor.emit _ id)
  generalize (if client.db.loadAuthUserId run.route.authLoaded = "" then "me"
    else client.db.loadAuthUserId run.route.authLoaded) = sender
  generalize (if isGroupSession client.db run.route sessionId = true then SessionType.groupChat
    else SessionType.privateChat) = sessionType
  rcases persist_ok idle ⟨msgId, trimmed content, sender, sessionId, timestamp, .sending, ""⟩
    transaction inserted ackStored with refused | ⟨messages, insertion, stored⟩
  · rw [refused]
    exact kept
  rw [stored]
  simp only [Option.isNone_some, Bool.false_eq_true, if_false]
  have startedKept := kept.started rfl insertion sessionType
  generalize SendMessageUseCase.emit _ _ = started at startedKept ⊢
  split
  · exact fun other => (startedKept other).of_same (SameFor.emit _ id)
  split
  · rw [failed]
    have failing := startedKept.of_own msgId ((startedKept msgId).failMessage true)
      fun other differs => SameFor.failMessage started {} true differs
    exact fun other => (failing other).of_same (SameFor.emit _ id)
  · exact fun other => (startedKept other).of_same (SameFor.emit _ id)

theorem dispatch (kept : StoreKept start client) (route : RouteRun) (message : Message)
    (reports : Bool) : StoreKept start (client.dispatch route {} message reports) :=
  kept.of_own message.msgId ((kept message.msgId).dispatch route rfl reports)
    fun _ differs => SameFor.dispatch client route {} message reports differs

theorem resendMessage (kept : StoreKept start client) {run : ResendRun} (sessionId msgId : String)
    (succeeds : SendEvent.Succeeds client (.resendMessage run sessionId msgId)) :
    StoreKept start (client.resendMessage run sessionId msgId) := by
  obtain ⟨restarted, failed⟩ := succeeds
  unfold SendMessageUseCase.resendMessage
  split
  · exact kept
  split
  · exact kept
  rename_i message found
  have ownId : message.msgId = msgId := by simpa using List.find?_some found
  have fetched := LocalDatabase.stored_of_fetchMessagesForSession (List.mem_of_find?_eq_some found)
  split
  · exact kept
  rw [restarted, failed]
  apply dispatch
  have ownStatus : (client.setStatus true msgId .sending).statusOf msgId = some .sending := by
    obtain ⟨row, stored⟩ := Option.ne_none_iff_exists'.mp (ownId ▸ fetched)
    rw [statusOf_setStatus, if_pos ⟨rfl, rfl⟩, statusOf, stored]
    rfl
  apply kept.of_own msgId
  · refine MessageKept.of_sending ?_ ?_ ?_ ?_
    · exact (statusOf_congr msgId (LocalDatabase.messages_upsertPendingAck _ _ _)).trans ownStatus
    · exact LocalDatabase.mem_upsertPendingAck_self (by
        intro missing
        rw [statusOf, missing] at ownStatus
        cases ownStatus)
    · exact timed_startAckTimer _ msgId
    · exact ⟨_, List.mem_append_right _ List.mem_cons_self, rfl, rfl⟩
  · intro other differs
    have updated := SameFor.setStatus client true .sending "" differs
    exact ((updated.trans (SameFor.storeAck _ true differs)).trans
      (SameFor.emit _ (SendSignal.not_announces_changed differs _))).trans
        (SameFor.startAckTimer _ differs)

theorem recoverOne (kept : StoreKept start client) {run : RecoverRun} (message : Message)
    (failed : run.failed = {}) : StoreKept start (client.recoverOne run message) := by
  rw [SendMessageUseCase.recoverOne, failed]
  apply dispatch
  exact kept.of_own message.msgId (kept message.msgId).startAckTimer
    fun _ differs => SameFor.startAckTimer client differs

theorem recoverPendingMessages (kept : StoreKept start client) {run : String → RecoverRun}
    (fetched : Bool) (sessionId : String) (failed : ∀ msgId, (run msgId).failed = {}) :
    StoreKept start (client.recoverPendingMessages fetched run sessionId) :=
  List.foldlRecOn _ _ kept fun _ before message _ => before.recoverOne message (failed _)

theorem onAckReceived (kept : StoreKept start client) (msgId serverId : String) :
    StoreKept start (client.onAckReceived {} msgId serverId) := by
  cases entry : client.timers.pendingMessages.lookup msgId with
  | none =>
      unfold SendMessageUseCase.onAckReceived
      rw [entry]
      exact kept
  | some timer =>
      have acks := mem_pendingAcks_onAckReceived client {} msgId serverId timer entry
      have removed : msgId ∉ (client.onAckReceived {} msgId serverId).db.view.pendingAcks :=
        fun member => (acks.mp member).2 rfl
      have notSending : (client.onAckReceived {} msgId serverId).statusOf msgId ≠
          some .sending := by
        cases stored : client.statusOf msgId with
        | none =>
            have same : (client.stopAckTimer msgId).statusOf msgId = none := stored
            have after := statusOf_setStatus (client.stopAckTimer msgId) msgId msgId true
              .delivered serverId
            rw [same, if_pos ⟨rfl, rfl⟩] at after
            unfold SendMessageUseCase.onAckReceived
            rw [entry]
            refine ne_of_eq_of_ne ((statusOf_congr msgId
              (LocalDatabase.messages_removePendingAck _ _ _)).trans after) nofun
        | some status =>
            rw [statusOf_onAckReceived client {} msgId serverId timer entry
              (by rw [stored]; exact Option.some_ne_none _) rfl]
            exact nofun
      apply kept.of_own msgId
      · exact ⟨fun sending => absurd sending notSending, fun _ => removed,
          fun member => absurd member removed, fun sending => absurd sending notSending,
          fun sending => absurd sending notSending⟩
      · intro other differs
        unfold SendMessageUseCase.onAckReceived
        rw [entry]
        exact (((SameFor.stopAckTimer client differs).trans
          (SameFor.setStatus _ true .delivered serverId differs)).trans
            (SameFor.removeAck _ true differs)).trans
              (SameFor.emit _ (SendSignal.not_announces_changed differs _))

theorem onAckFailed (kept : StoreKept start client) (msgId : String) (code : Int32)
    (reason : String) : StoreKept start (client.onAckFailed {} msgId code reason) := by
  have same : client.onAckFailed {} msgId code reason =
      (client.failMessage {} msgId (decide (0 < code ∧ code < 500))).emit
        (.messageError (classifyError reason)) := by
    simp [SendMessageUseCase.onAckFailed, SendMessageUseCase.failMessage]
  rw [same]
  have failing := kept.of_own msgId ((kept msgId).failMessage (decide (0 < code ∧ code < 500)))
    fun _ differs => SameFor.failMessage client {} _ differs
  exact fun other => (failing other).of_same (SameFor.emit _ id)

/-- A timer that fires fails its own message, whichever timer the entry holds. -/
theorem timerExpired (kept : StoreKept start client) (timer : Nat) :
    StoreKept start (SendEvent.next client (.timerExpired timer true)) := by
  simp only [SendEvent.next]
  split
  · exact kept
  rename_i expired found
  have status := statusOf_timerExpired found
  simp only [SendEvent.next, found] at status
  apply kept.of_own expired
  · apply MessageKept.of_failed
    · intro found isFound
      obtain ⟨_, _, rfl⟩ := Option.map_eq_some_iff.mp (status.symm.trans isFound)
      rfl
    · intro member
      rw [status, ne_eq, Option.map_eq_none_iff]
      have same := LocalDatabase.pendingAcks_updateMessageStatus client.db true expired .failed ""
      exact (kept expired).stored (same ▸ member)
  · intro other differs
    have dropped : SameFor other client { client with
        timers := (client.timers.removeTimer timer).removeEntry expired } := by
      refine ⟨rfl, Iff.rfl, Iff.rfl, ?_⟩
      rintro ⟨held, entry, running⟩
      refine ⟨held, ?_, ?_⟩
      · exact (FiniteMap.lookup_erase _ _ _).trans ((if_neg differs.symm).trans entry)
      · refine (FiniteMap.lookup_erase _ _ _).trans ((if_neg ?_).trans running)
        rintro rfl
        exact differs (Option.some.inj (found.symm.trans running))
    exact (dropped.trans (SameFor.setStatus _ true .failed "" differs)).trans
      (SameFor.emit _ (SendSignal.not_announces_changed differs _))

theorem elsewhere (kept : StoreKept start client) {tables : LocalTables}
    (enabled : SendEvent.enabled client (.elsewhere tables))
    (succeeds : SendEvent.Succeeds client (.elsewhere tables)) :
    StoreKept start (SendEvent.next client (.elsewhere tables)) := by
  obtain ⟨sameAcks, keptRows⟩ := enabled
  intro msgId
  have view : (SendEvent.next client (.elsewhere tables)).db.view = tables :=
    LocalDatabase.view_write _ _
  have acks : msgId ∈ (SendEvent.next client (.elsewhere tables)).db.view.pendingAcks ↔
      msgId ∈ client.db.view.pendingAcks := by
    rw [view, sameAcks]
  have status : (SendEvent.next client (.elsewhere tables)).statusOf msgId =
      (tables.messages.find? msgId).map LocalMessageRow.status := by
    rw [statusOf, view]
  cases stored : client.db.view.messages.find? msgId with
  | some row =>
      obtain ⟨rowIn, isId⟩ := (RowTable.find?_eq_some _ _ _).mp stored
      have found := (RowTable.find?_eq_some tables.messages msgId row).mpr
        ⟨keptRows row rowIn, isId⟩
      refine (kept msgId).of_same ⟨?_, acks, Iff.rfl, id⟩
      rw [status, found, statusOf, stored]
  | none =>
      have absent : client.statusOf msgId = none := by
        rw [statusOf, stored]
        rfl
      have unpending : msgId ∉ (SendEvent.next client (.elsewhere tables)).db.view.pendingAcks :=
        fun member => (kept msgId).stored (acks.mp member) absent
      have notSending : (SendEvent.next client (.elsewhere tables)).statusOf msgId ≠
          some .sending := by
        intro sending
        rw [status] at sending
        obtain ⟨row, found, isSending⟩ := Option.map_eq_some_iff.mp sending
        obtain ⟨rowIn, isId⟩ := (RowTable.find?_eq_some _ _ _).mp found
        rcases succeeds row rowIn with old | delivered
        · exact (RowTable.find?_eq_none _ _).mp stored row old isId
        · rw [delivered] at isSending
          cases isSending
      exact ⟨fun sending => absurd sending notSending, fun _ => unpending,
        fun member => absurd member unpending, fun sending => absurd sending notSending,
        fun sending => absurd sending notSending⟩

/-- The messages of a deleted session go together with their acknowledgements. -/
theorem removeSession (kept : StoreKept start client) (idle : client.db.Idle)
    (sessionId : String) :
    StoreKept start { client with db := (client.db.removeSession 0 {} sessionId).1 } := by
  rcases idle.removeSession_view sessionId with same | ⟨messages, acks⟩
  · rw [same]
    exact kept
  intro msgId
  have status : ({ client with db := (client.db.removeSession 0 {} sessionId).1 } :
      SendMessageUseCase).statusOf msgId = ((client.db.view.messages.find? msgId).filter
        fun row => !decide (row.sessionId = sessionId)).map LocalMessageRow.status := by
    rw [statusOf]
    simp only
    rw [messages, RowTable.find?_deleteWhere]
  have pending : msgId ∈ (client.db.removeSession 0 {} sessionId).1.view.pendingAcks ↔
      msgId ∈ client.db.view.pendingAcks ∧
        ∀ row, client.db.view.messages.find? msgId = some row → row.sessionId ≠ sessionId := by
    rw [acks, Finset.mem_filter]
    refine and_congr_right fun _ => ?_
    simp only [List.mem_map, RowTable.mem_select, decide_eq_true_eq, not_exists, not_and]
    constructor
    · intro absent row found ofSession
      obtain ⟨rowIn, isId⟩ := (RowTable.find?_eq_some _ _ _).mp found
      exact absent row ⟨rowIn, ofSession⟩ isId
    · intro others row rowIn isId
      exact others row ((RowTable.find?_eq_some _ _ _).mpr ⟨rowIn.1, isId⟩) rowIn.2
  by_cases gone : ∃ row, client.db.view.messages.find? msgId = some row ∧ row.sessionId = sessionId
  · obtain ⟨row, found, ofSession⟩ := gone
    have absent : ({ client with db := (client.db.removeSession 0 {} sessionId).1 } :
        SendMessageUseCase).statusOf msgId = none := by
      rw [status, found, Option.filter_some, if_neg (by simp [ofSession])]
      rfl
    apply MessageKept.of_failed
    · intro found isFound
      rw [absent] at isFound
      cases isFound
    · intro member
      exact absurd ofSession ((pending.mp member).2 row found)
  · have others : ∀ row, client.db.view.messages.find? msgId = some row →
        row.sessionId ≠ sessionId := fun row found ofSession => gone ⟨row, found, ofSession⟩
    refine (kept msgId).of_same ⟨?_, pending.trans (and_iff_left others), Iff.rfl, id⟩
    rw [status, statusOf]
    cases found : client.db.view.messages.find? msgId with
    | none => rfl
    | some row => rw [Option.filter_some, if_pos (by simp [others row found])]

end StoreKept

/-! ## No transaction stays open -/

namespace SendMessageUseCase

variable {client : SendMessageUseCase}

theorem idle_failMessage (idle : client.db.Idle) (run : StatusRun) (msgId : String)
    (remove : Bool) : (client.failMessage run msgId remove).db.Idle := by
  have updated := idle.updateMessageStatus run.updated msgId .failed ""
  unfold failMessage
  cases remove with
  | true => exact updated.removePendingAck run.ackChanged msgId
  | false => exact updated

theorem idle_dispatch (idle : client.db.Idle) (route : RouteRun) (failed : StatusRun)
    (message : Message) (reports : Bool) :
    (client.dispatch route failed message reports).db.Idle := by
  rcases client.dispatch_cases route failed message reports with ⟨error, gaveUp⟩ | ⟨_, _, sent⟩
  · have failing := idle_failMessage idle failed message.msgId true
    rw [gaveUp, giveUp]
    cases reports with
    | true => exact failing
    | false => exact failing
  · rw [sent]
    exact idle

theorem idle_sendMessage (idle : client.db.Idle) {run : SendRun}
    (sessionId content msgId timestamp : String)
    (succeeds : SendEvent.Succeeds client (.sendMessage run sessionId content msgId timestamp)) :
    (client.sendMessage run sessionId content msgId timestamp).db.Idle := by
  obtain ⟨transaction, inserted, ackStored, _⟩ := succeeds
  unfold sendMessage
  simp only
  split
  · exact idle
  split
  · exact idle
  generalize (if client.db.loadAuthUserId run.route.authLoaded = "" then "me"
    else client.db.loadAuthUserId run.route.authLoaded) = sender
  generalize (⟨msgId, trimmed content, sender, sessionId, timestamp, .sending, ""⟩ : Message) =
    message
  generalize (if isGroupSession client.db run.route sessionId = true then SessionType.groupChat
    else SessionType.privateChat) = sessionType
  have persisted : (persist client.db run message).1.Idle := by
    rcases persist_ok idle message transaction inserted ackStored with refused | ⟨_, _, stored⟩
    · rw [refused]
      exact idle
    · rw [stored]
      rfl
  split
  · exact persisted
  split
  · exact persisted
  split
  · exact @idle_failMessage ((startAckTimer { client with
      db := (persist client.db run message).1 } msgId).emit _) persisted run.failed msgId true
  · exact persisted

theorem idle_resendMessage (idle : client.db.Idle) (run : ResendRun) (sessionId msgId : String) :
    (client.resendMessage run sessionId msgId).db.Idle := by
  unfold resendMessage
  split
  · exact idle
  split
  · exact idle
  split
  · exact idle
  · apply idle_dispatch
    exact (idle.updateMessageStatus run.restarted.updated msgId .sending "").upsertPendingAck
      run.restarted.ackChanged msgId

theorem idle_recoverPendingMessages (idle : client.db.Idle) (fetched : Bool)
    (run : String → RecoverRun) (sessionId : String) :
    (client.recoverPendingMessages fetched run sessionId).db.Idle :=
  List.foldlRecOn (motive := fun after : SendMessageUseCase => after.db.Idle) _ _ idle
    fun after before message _ => @idle_dispatch (after.startAckTimer message.msgId)
      before (run message.msgId).route (run message.msgId).failed message false

theorem idle_onAckReceived (idle : client.db.Idle) (run : StatusRun) (msgId serverId : String) :
    (client.onAckReceived run msgId serverId).db.Idle := by
  unfold onAckReceived
  split
  · exact idle
  · exact (idle.updateMessageStatus run.updated msgId .delivered serverId).removePendingAck
      run.ackChanged msgId

theorem idle_onAckFailed (idle : client.db.Idle) (run : StatusRun) (msgId : String)
    (code : Int32) (reason : String) : (client.onAckFailed run msgId code reason).db.Idle := by
  have failed := idle.updateMessageStatus run.updated msgId .failed ""
  unfold onAckFailed
  simp only [emit]
  split
  · exact failed.removePendingAck run.ackChanged msgId
  · exact failed

end SendMessageUseCase

/-! ## Runs -/

structure ProcessKept (process : SendProcess) : Prop where
  idle : process.client.db.Idle
  messages : StoreKept process.start process.client

namespace ProcessKept

theorem empty : ProcessKept {} := by
  refine ⟨rfl, ?_⟩
  intro msgId
  apply MessageKept.of_failed
  · intro status found
    cases found
  · intro member
    cases member

variable {process : SendProcess}

theorem sending (kept : ProcessKept process) (event : SendEvent)
    (enabled : event.enabled process.client) (succeeds : event.Succeeds process.client) :
    ProcessKept (ProcessEvent.next process (.sending event)) := by
  obtain ⟨idle, messages⟩ := kept
  cases event with
  | sendMessage run sessionId content msgId timestamp =>
      have ended := idle_sendMessage idle sessionId content msgId timestamp succeeds
      have stored := messages.sendMessage idle sessionId content msgId timestamp succeeds
      simp only [ProcessEvent.next, SendEvent.next]
      exact ⟨ended, stored⟩
  | resendMessage run sessionId msgId =>
      exact ⟨idle_resendMessage idle run sessionId msgId,
        messages.resendMessage sessionId msgId succeeds⟩
  | recoverPendingMessages fetched run sessionId =>
      exact ⟨idle_recoverPendingMessages idle fetched run sessionId,
        messages.recoverPendingMessages fetched sessionId succeeds⟩
  | ackReceived run msgId serverId =>
      have ok : run = {} := succeeds
      subst ok
      exact ⟨idle_onAckReceived idle {} msgId serverId, messages.onAckReceived msgId serverId⟩
  | ackFailed run msgId code reason =>
      have ok : run = {} := succeeds
      subst ok
      exact ⟨idle_onAckFailed idle {} msgId code reason, messages.onAckFailed msgId code reason⟩
  | timerExpired timer updated =>
      have ok : updated = true := succeeds
      subst ok
      refine ⟨?_, messages.timerExpired timer⟩
      simp only [ProcessEvent.next, SendEvent.next]
      split
      · exact idle
      · exact idle.updateMessageStatus true _ .failed ""
  | elsewhere tables => exact ⟨idle.write tables, messages.elsewhere enabled succeeds⟩

/-- A new process has announced nothing: what is Sending it has found so. -/
theorem restarted (kept : ProcessKept process) :
    ProcessKept (ProcessEvent.next process .restarted) := by
  have sameStatus : ∀ msgId, (ProcessEvent.next process .restarted).client.statusOf msgId =
      process.client.statusOf msgId := by
    intro msgId
    rw [statusOf, statusOf, kept.idle.view_eq]
    rfl
  have sameAcks : (ProcessEvent.next process .restarted).client.db.view.pendingAcks =
      process.client.db.view.pendingAcks := by
    rw [kept.idle.view_eq]
    rfl
  refine ⟨rfl, ?_⟩
  intro msgId
  obtain ⟨pending, settled, stored, _, _⟩ := kept.messages msgId
  constructor
  · rw [sameStatus, sameAcks]
    exact pending
  · rw [sameStatus, sameAcks]
    exact settled
  · rw [sameStatus, sameAcks]
    exact stored
  · rintro _ ⟨signal, member, _⟩
    cases member
  · intro sending
    exact Or.inr sending

theorem next (kept : ProcessKept process) (event : ProcessEvent)
    (enabled : event.enabled process) : ProcessKept (event.next process) := by
  cases event with
  | sending event => exact kept.sending event enabled.1 enabled.2
  | sessionDeleted run sessionId =>
      have ok : run = {} := enabled
      subst ok
      exact ⟨kept.idle.removeSession sessionId, kept.messages.removeSession kept.idle sessionId⟩
  | restarted => exact kept.restarted

end ProcessKept

/-- Every message keeps its rows and its timer together.  So one that is
Sending can be recovered, and if this process set it so, a timer runs that will
fail it. -/
theorem sending_messages_kept (process : SendProcess)
    (reached : processSystem.Reachable process) (msgId : String) :
    MessageKept process.start process.client msgId ∧
      (process.client.statusOf msgId = some .sending →
        (∃ message ∈ process.client.db.fetchPendingMessages true, message.msgId = msgId) ∧
        (process.client.SetSending msgId → ∃ timer,
          process.client.timers.pendingMessages.lookup msgId = some timer ∧
          process.client.timers.running.lookup timer = some msgId ∧
          (SendEvent.next process.client (.timerExpired timer true)).statusOf msgId =
            some .failed)) := by
  have kept : ∀ process, processSystem.Reachable process → ProcessKept process :=
    System.Reachable.invariant ProcessKept.empty fun _ event _ kept enabled =>
      kept.next event enabled
  have message := (kept process reached).messages msgId
  refine ⟨message, fun sending => ⟨?_, ?_⟩⟩
  · obtain ⟨row, found, _⟩ := Option.map_eq_some_iff.mp sending
    obtain ⟨rowIn, rfl⟩ := (RowTable.find?_eq_some _ _ _).mp found
    obtain ⟨fetched, member, isId, _⟩ :=
      LocalDatabase.mem_fetchPendingMessages_of_row rowIn (message.pending sending)
    exact ⟨fetched, member, isId⟩
  · intro announced
    obtain ⟨timer, entry, running⟩ := message.timed sending announced
    refine ⟨timer, entry, running, ?_⟩
    rw [statusOf_timerExpired running, sending]
    rfl

def aliceSendsToBob : List ProcessEvent :=
  [.sending (.elsewhere aliceWithBob.committed),
    .sending (.sendMessage {} "s1" "hi" "m1" "2026-01-01T00:00:00Z")]

def aliceSentToBob : SendProcess := aliceSendsToBob.foldl ProcessEvent.next {}

theorem aliceSentToBob_reachable : processSystem.Reachable aliceSentToBob := by
  refine System.Reachable.run aliceSendsToBob _ System.Reachable.initial
    ⟨⟨⟨rfl, ?_⟩, ?_⟩, ⟨trivial, rfl, rfl, rfl, rfl⟩, trivial⟩
  · intro row member
    cases member
  · intro row member
    cases member

theorem sending_messages_kept_m1 :
    aliceSentToBob.client.statusOf "m1" = some .sending ∧
      "m1" ∈ aliceSentToBob.client.db.view.pendingAcks ∧
      ∃ timer, aliceSentToBob.client.timers.running.lookup timer = some "m1" := by
  have kept := sending_messages_kept aliceSentToBob aliceSentToBob_reachable "m1"
  have sending : aliceSentToBob.client.statusOf "m1" = some .sending := by decide
  obtain ⟨timer, _, running, _⟩ := (kept.2 sending).2 ⟨_, List.mem_cons_self, rfl⟩
  exact ⟨sending, kept.1.pending sending, timer, running⟩

/-! ## Acknowledged messages -/

/-- The `SendMessageAck` case of `NetworkService::handleIncomingPacket`, with the
slots its signals are connected to. -/
def SendMessageUseCase.handleIncomingPacket (client : SendMessageUseCase) (run : StatusRun)
    (packet : Packet) : SendMessageUseCase :=
  match packet.cmd with
  | .sendMessageAck =>
      if packet.msgId = "" then client
      else if packet.code = 200 then
        client.onAckReceived run packet.msgId (jsonText (packet.payload.value "serverId"))
      else if packet.code ≠ 0 then
        client.onAckFailed run packet.msgId packet.code packet.message
      else client
  | _ => client

def SendMessageUseCase.Acknowledged (client : SendMessageUseCase) (msgId : String) : Prop :=
  client.statusOf msgId = some .delivered ∧ msgId ∉ client.db.view.pendingAcks

/-- The server's acknowledgement takes effect exactly where the message still has
its entry, unless it had taken effect before. -/
theorem sendMessageAck_acknowledges_iff (process : SendProcess)
    (reached : processSystem.Reachable process) (packet : Packet)
    (isAck : packet.cmd = .sendMessageAck) (accepted : packet.code = 200)
    (stored : process.client.statusOf packet.msgId ≠ none) :
    (process.client.handleIncomingPacket {} packet).Acknowledged packet.msgId ↔
      packet.msgId ≠ "" ∧ process.client.timers.pendingMessages.lookup packet.msgId ≠ none ∨
        process.client.statusOf packet.msgId = some .delivered := by
  have message := (sending_messages_kept process reached packet.msgId).1
  have unchanged : process.client.Acknowledged packet.msgId ↔
      process.client.statusOf packet.msgId = some .delivered :=
    ⟨fun acknowledged => acknowledged.1, fun delivered => ⟨delivered, message.settled delivered⟩⟩
  unfold SendMessageUseCase.handleIncomingPacket
  rw [isAck]
  simp only
  by_cases unnamed : packet.msgId = ""
  · rw [if_pos unnamed, unchanged]
    simp [unnamed]
  rw [if_neg unnamed, if_pos accepted]
  cases entry : process.client.timers.pendingMessages.lookup packet.msgId with
  | none =>
      have ignored : process.client.onAckReceived {} packet.msgId
          (jsonText (packet.payload.value "serverId")) = process.client := by
        unfold SendMessageUseCase.onAckReceived
        rw [entry]
      rw [ignored, unchanged]
      simp
  | some timer =>
      have delivered := statusOf_onAckReceived process.client {} packet.msgId
        (jsonText (packet.payload.value "serverId")) timer entry stored rfl
      have acks := mem_pendingAcks_onAckReceived process.client {} packet.msgId
        (jsonText (packet.payload.value "serverId")) timer entry
      exact iff_of_true ⟨delivered, fun member => (acks.mp member).2 rfl⟩
        (Or.inl ⟨unnamed, Option.some_ne_none _⟩)

def ackOfM1 : Packet :=
  { cmd := .sendMessageAck, msgId := "m1", code := 200,
    payload := [("serverId", .string "srv_1")] }

theorem sendMessageAck_acknowledges_m1 :
    (aliceSentToBob.client.handleIncomingPacket {} ackOfM1).Acknowledged "m1" :=
  (sendMessageAck_acknowledges_iff aliceSentToBob aliceSentToBob_reachable ackOfM1 rfl rfl
    (by decide)).mpr (Or.inl ⟨by decide, by decide⟩)

/-- The acknowledgement comes after the timer has expired. -/
theorem sendMessageAck_late_ignored :
    ¬ ∀ process, processSystem.Reachable process → ∀ packet : Packet,
      packet.cmd = .sendMessageAck → packet.code = 200 →
      process.client.statusOf packet.msgId ≠ none →
      (process.client.handleIncomingPacket {} packet).Acknowledged packet.msgId := by
  intro always
  have reached : processSystem.Reachable
      (ProcessEvent.next aliceSentToBob (.sending (.timerExpired 0 true))) := by
    refine System.Reachable.step (.sending (.timerExpired 0 true)) aliceSentToBob_reachable ?_
    refine ⟨?_, rfl⟩
    simp only [SendEvent.enabled]
    decide
  have acknowledged := always _ reached ackOfM1 rfl rfl (by decide)
  exact absurd acknowledged.1 (by decide)

end ShirohaChat
