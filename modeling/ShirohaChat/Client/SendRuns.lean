import ShirohaChat.Client.SendMessage
import ShirohaChat.Lib.Transition

/-!
# Runs of the sending use case

An acknowledged message stays delivered as long as nothing that is left of it
can fail it again: no running timer of it, and no row of `pending_acks` from
which `recoverPendingMessages` would start one.
-/

set_option autoImplicit false

namespace ShirohaChat

open Transition SendMessageUseCase

inductive SendEvent where
  | sendMessage (run : SendRun) (sessionId content msgId timestamp : String)
  | resendMessage (run : ResendRun) (sessionId msgId : String)
  | recoverPendingMessages (fetched : Bool) (run : String → RecoverRun) (sessionId : String)
  | ackReceived (run : StatusRun) (msgId serverId : String)
  | ackFailed (run : StatusRun) (msgId : String) (code : Int32) (reason : String)
  | timerExpired (timer : Nat) (updated : Bool)
  /-- Another use case changed the tables. -/
  | elsewhere (tables : LocalTables)

namespace SendEvent

/-- Other use cases leave the stored messages and the pending
acknowledgements alone. -/
def enabled (client : SendMessageUseCase) : SendEvent → Prop
  | .timerExpired timer _ => client.timers.running.lookup timer ≠ none
  | .elsewhere tables =>
      tables.pendingAcks = client.db.view.pendingAcks ∧
        ∀ row ∈ client.db.view.messages.rows, row ∈ tables.messages.rows
  | _ => True

def next (client : SendMessageUseCase) : SendEvent → SendMessageUseCase
  | .sendMessage run sessionId content msgId timestamp =>
      client.sendMessage run sessionId content msgId timestamp
  | .resendMessage run sessionId msgId => client.resendMessage run sessionId msgId
  | .recoverPendingMessages fetched run sessionId =>
      client.recoverPendingMessages fetched run sessionId
  | .ackReceived run msgId serverId => client.onAckReceived run msgId serverId
  | .ackFailed run msgId code reason => client.onAckFailed run msgId code reason
  | .timerExpired timer updated =>
      match client.timers.running.lookup timer with
      | none => client
      | some msgId =>
          { client with timers := client.timers.removeTimer timer }.onSendTimeout updated msgId
  | .elsewhere tables => { client with db := client.db.write tables }

/-- The two events by which a message may leave `Delivered`. -/
def Reopens (msgId : String) : SendEvent → Prop
  | .resendMessage _ _ resent => resent = msgId
  | .ackFailed _ failed _ _ => failed = msgId
  | _ => False

end SendEvent

def sendSystem (db : LocalDatabase) : System SendMessageUseCase SendEvent where
  initial := { db := db }
  enabled := SendEvent.enabled
  next := SendEvent.next

/-- In every continuation in which the message is neither resent nor refused
its stored status is `Delivered`. -/
def StaysDelivered (db : LocalDatabase) (client : SendMessageUseCase) (msgId : String) : Prop :=
  ∀ events, (sendSystem db).Enabled client events →
    (∀ event ∈ events, ¬ event.Reopens msgId) →
    (events.foldl SendEvent.next client).statusOf msgId = some .delivered

structure Settled (msgId : String) (client : SendMessageUseCase) : Prop where
  delivered : client.statusOf msgId = some .delivered
  silent : ∀ timer, client.timers.running.lookup timer ≠ some msgId
  acknowledged : msgId ∉ client.db.view.pendingAcks

namespace Settled

variable {msgId other : String} {client : SendMessageUseCase}

theorem emit (settled : Settled msgId client) (signal : SendSignal) :
    Settled msgId (client.emit signal) :=
  ⟨settled.delivered, settled.silent, settled.acknowledged⟩

theorem startAckTimer (settled : Settled msgId client) (differs : other ≠ msgId) :
    Settled msgId (client.startAckTimer other) := by
  refine ⟨settled.delivered, ?_, settled.acknowledged⟩
  intro timer found
  have started := (client.timers.lookup_start other timer).symm.trans found
  split at started
  · exact differs (Option.some.inj started)
  · exact settled.silent timer started

theorem stopAckTimer (settled : Settled msgId client) (stopped : String) :
    Settled msgId (client.stopAckTimer stopped) := by
  refine ⟨settled.delivered, ?_, settled.acknowledged⟩
  intro timer found
  have left := (client.timers.lookup_stop stopped timer).symm.trans found
  split at left
  · cases left
  · exact settled.silent timer left

theorem setStatus (settled : Settled msgId client) (updated : Bool) (status : MessageStatus)
    (serverId : String) (harmless : other = msgId → status = .delivered) :
    Settled msgId (client.setStatus updated other status serverId) := by
  refine ⟨?_, settled.silent, ?_⟩
  · rw [statusOf_setStatus, settled.delivered]
    split
    · rename_i own
      rw [harmless own.2.symm]
      rfl
    · rfl
  · simp only [SendMessageUseCase.setStatus, LocalDatabase.pendingAcks_updateMessageStatus]
    exact settled.acknowledged

theorem removeAck (settled : Settled msgId client) (removed : Bool) :
    Settled msgId (client.removeAck removed other) := by
  refine ⟨?_, settled.silent, ?_⟩
  · rw [statusOf_congr msgId (LocalDatabase.messages_removePendingAck _ _ _)]
    exact settled.delivered
  · intro member
    exact settled.acknowledged
      ((LocalDatabase.mem_removePendingAck client.db removed other msgId).mp member).1

theorem storeAck (settled : Settled msgId client) (stored : Bool) (differs : other ≠ msgId) :
    Settled msgId { client with db := (client.db.upsertPendingAck stored other).1 } := by
  refine ⟨?_, settled.silent, ?_⟩
  · have same := LocalDatabase.messages_upsertPendingAck client.db stored other
    exact (statusOf_congr msgId same).trans settled.delivered
  · intro member
    rcases LocalDatabase.mem_upsertPendingAck _ _ _ _ member with old | new
    · exact settled.acknowledged old
    · exact differs new.symm

theorem failMessage (settled : Settled msgId client) (run : StatusRun) (remove : Bool)
    (differs : other ≠ msgId) : Settled msgId (client.failMessage run other remove) := by
  have failed := (settled.stopAckTimer other).setStatus run.updated .failed ""
    fun same => absurd same differs
  unfold SendMessageUseCase.failMessage
  apply Settled.emit
  split
  · exact failed.removeAck run.ackChanged
  · exact failed

theorem dispatch (settled : Settled msgId client) (route : RouteRun) (failed : StatusRun)
    (message : Message) (reports : Bool) (differs : message.msgId ≠ msgId) :
    Settled msgId (client.dispatch route failed message reports) := by
  rcases client.dispatch_cases route failed message reports with ⟨error, gaveUp⟩ | ⟨_, _, sent⟩
  · have failing := settled.failMessage failed true differs
    rw [gaveUp, giveUp]
    cases reports with
    | true => exact failing.emit _
    | false => exact failing
  · rw [sent]
    exact settled.emit _

theorem recoverOne (settled : Settled msgId client) (run : RecoverRun) (message : Message)
    (differs : message.msgId ≠ msgId) : Settled msgId (client.recoverOne run message) :=
  (settled.startAckTimer differs).dispatch run.route run.failed message false differs

theorem withDb (settled : Settled msgId client) (db : LocalDatabase)
    (sameRow : db.view.messages.find? msgId = client.db.view.messages.find? msgId)
    (acknowledged : msgId ∉ db.view.pendingAcks) : Settled msgId { client with db := db } := by
  refine ⟨?_, settled.silent, acknowledged⟩
  have delivered := settled.delivered
  rw [statusOf, ← sameRow] at delivered
  exact delivered

/-- A new message has an id of its own: the insertion refuses a stored one. -/
theorem sendMessage (settled : Settled msgId client) (run : SendRun)
    (sessionId content fresh timestamp : String) :
    Settled msgId (client.sendMessage run sessionId content fresh timestamp) := by
  unfold SendMessageUseCase.sendMessage
  simp only
  split
  · exact settled
  split
  · exact settled.emit _
  generalize (if client.db.loadAuthUserId run.route.authLoaded = "" then "me"
    else client.db.loadAuthUserId run.route.authLoaded) = sender
  generalize messageDef : (⟨fresh, trimmed content, sender, sessionId, timestamp, .sending, ""⟩ :
    Message) = message
  have ownId : message.msgId = fresh := by rw [← messageDef]
  rcases persist_view client.db run message with refused | ⟨unused, others, acks⟩
  · rw [refused]
    exact settled
  · have differs : fresh ≠ msgId := by
      rintro rfl
      have delivered := settled.delivered
      rw [statusOf, ← ownId, unused] at delivered
      cases delivered
    have stored : Settled msgId { client with db := (persist client.db run message).1 } := by
      apply settled.withDb
      · exact others msgId (ownId ▸ differs.symm)
      · intro member
        rcases acks msgId member with old | new
        · exact settled.acknowledged old
        · exact differs (ownId ▸ new.symm)
    split
    · exact stored
    have started := (stored.startAckTimer differs).emit
    split
    · exact (started _).emit _
    split
    · exact ((started _).failMessage run.failed true differs).emit _
    · exact (started _).emit _

theorem resendMessage (settled : Settled msgId client) (run : ResendRun)
    (sessionId resent : String) (differs : resent ≠ msgId) :
    Settled msgId (client.resendMessage run sessionId resent) := by
  unfold SendMessageUseCase.resendMessage
  split
  · exact settled
  split
  · exact settled
  rename_i message found
  have ownId : message.msgId = resent := by simpa using List.find?_some found
  split
  · exact settled
  have updated := settled.setStatus run.restarted.updated .sending "" fun same =>
    absurd same differs
  have stored := updated.storeAck run.restarted.ackChanged differs
  exact (((stored.emit (.messageStatusChanged resent .sending)).startAckTimer differs).dispatch
    run.route run.failed message true (ownId ▸ differs))

theorem recoverPendingMessages (settled : Settled msgId client) (fetched : Bool)
    (run : String → RecoverRun) (sessionId : String) :
    Settled msgId (client.recoverPendingMessages fetched run sessionId) := by
  have loop : ∀ messages : List Message, (∀ message ∈ messages, message.msgId ≠ msgId) →
      ∀ client, Settled msgId client → Settled msgId (messages.foldl
        (fun client message => client.recoverOne (run message.msgId) message) client) := by
    intro messages
    induction messages with
    | nil =>
        intro _ client settled
        exact settled
    | cons message rest ih =>
        intro differ client settled
        exact ih (fun other otherIn => differ other (List.mem_cons_of_mem _ otherIn)) _
          (settled.recoverOne _ message (differ message List.mem_cons_self))
  apply loop _ _ _ settled
  intro message member same
  have pending := LocalDatabase.mem_fetchPendingMessages (List.mem_filter.mp member).1
  exact settled.acknowledged (same ▸ pending)

theorem onAckReceived (settled : Settled msgId client) (run : StatusRun)
    (acked serverId : String) : Settled msgId (client.onAckReceived run acked serverId) := by
  unfold SendMessageUseCase.onAckReceived
  split
  · exact settled
  · exact (((settled.stopAckTimer acked).setStatus run.updated .delivered serverId
      fun _ => rfl).removeAck run.ackChanged).emit _

theorem onAckFailed (settled : Settled msgId client) (run : StatusRun) (failed : String)
    (code : Int32) (reason : String) (differs : failed ≠ msgId) :
    Settled msgId (client.onAckFailed run failed code reason) := by
  have refused := (settled.stopAckTimer failed).setStatus run.updated .failed ""
    fun same => absurd same differs
  unfold SendMessageUseCase.onAckFailed
  apply Settled.emit
  apply Settled.emit
  split
  · exact refused.removeAck run.ackChanged
  · exact refused

theorem timerExpired (settled : Settled msgId client) (timer : Nat) (updated : Bool) :
    Settled msgId (SendEvent.next client (.timerExpired timer updated)) := by
  simp only [SendEvent.next]
  split
  · exact settled
  · rename_i expired found
    have differs : expired ≠ msgId := by
      rintro rfl
      exact settled.silent timer found
    have quiet : Settled msgId { client with
        timers := (client.timers.removeTimer timer).removeEntry expired } := by
      refine ⟨settled.delivered, ?_, settled.acknowledged⟩
      intro other otherFound
      exact settled.silent other (FiniteMap.of_lookup_erase otherFound).2
    exact (quiet.setStatus updated .failed "" fun same => absurd same differs).emit _

theorem elsewhere (settled : Settled msgId client) (tables : LocalTables)
    (enabled : SendEvent.enabled client (.elsewhere tables)) :
    Settled msgId (SendEvent.next client (.elsewhere tables)) := by
  obtain ⟨sameAcks, kept⟩ := enabled
  apply settled.withDb
  · rw [LocalDatabase.view_write]
    cases stored : client.db.view.messages.find? msgId with
    | none =>
        have delivered := settled.delivered
        rw [statusOf, stored] at delivered
        cases delivered
    | some row =>
        obtain ⟨rowIn, sameId⟩ := (RowTable.find?_eq_some _ _ _).mp stored
        exact (RowTable.find?_eq_some _ _ _).mpr ⟨kept row rowIn, sameId⟩
  · rw [LocalDatabase.view_write, sameAcks]
    exact settled.acknowledged

theorem step (settled : Settled msgId client) (event : SendEvent)
    (enabled : event.enabled client) (closed : ¬ event.Reopens msgId) :
    Settled msgId (event.next client) := by
  cases event with
  | sendMessage run sessionId content fresh timestamp =>
      exact settled.sendMessage run sessionId content fresh timestamp
  | resendMessage run sessionId resent => exact settled.resendMessage run sessionId resent closed
  | recoverPendingMessages fetched run sessionId =>
      exact settled.recoverPendingMessages fetched run sessionId
  | ackReceived run acked serverId => exact settled.onAckReceived run acked serverId
  | ackFailed run failed code reason => exact settled.onAckFailed run failed code reason closed
  | timerExpired timer updated => exact settled.timerExpired timer updated
  | elsewhere tables => exact settled.elsewhere tables enabled

theorem stays (db : LocalDatabase) (settled : Settled msgId client) :
    StaysDelivered db client msgId := by
  intro events
  induction events generalizing client with
  | nil =>
      intro _ _
      exact settled.delivered
  | cons event rest ih =>
      intro enabled closed
      have after := settled.step event enabled.1 (closed event List.mem_cons_self)
      exact ih after enabled.2 fun other otherIn => closed other (List.mem_cons_of_mem _ otherIn)

end Settled
/-! ## What can fail an acknowledged message again -/

structure AtRisk (msgId : String) (client : SendMessageUseCase) : Prop where
  stored : client.statusOf msgId ≠ none
  failing : client.statusOf msgId = some .failed ∨
    ∃ timer, client.timers.running.lookup timer = some msgId

namespace AtRisk

variable {msgId other : String} {client : SendMessageUseCase}

theorem startAckTimer (risk : AtRisk msgId client) (started : String) :
    AtRisk msgId (client.startAckTimer started) := by
  refine ⟨risk.stored, ?_⟩
  rcases risk.failing with failed | ⟨timer, running⟩
  · exact Or.inl failed
  · refine Or.inr ⟨timer, (client.timers.lookup_start started timer).trans ?_⟩
    rw [if_neg (Nat.ne_of_lt (client.timers.runningBelow timer msgId running))]
    exact running

theorem failMessage (risk : AtRisk msgId client) (run : StatusRun) (differs : other ≠ msgId) :
    AtRisk msgId (client.failMessage run other true) := by
  have sameStatus : (client.failMessage run other true).statusOf msgId =
      client.statusOf msgId := by
    rw [statusOf_failMessage, if_neg fun both => differs both.2.symm]
  refine ⟨sameStatus ▸ risk.stored, ?_⟩
  rcases risk.failing with failed | ⟨timer, running⟩
  · exact Or.inl (sameStatus.trans failed)
  · refine Or.inr ⟨timer, (client.timers.lookup_stop other timer).trans ?_⟩
    rw [if_neg fun held => differs (client.timers.own other timer msgId held running).symm]
    exact running

theorem recoverOther (risk : AtRisk msgId client) (run : RecoverRun) (message : Message)
    (differs : message.msgId ≠ msgId) : AtRisk msgId (client.recoverOne run message) := by
  have started := risk.startAckTimer message.msgId
  rw [recoverOne]
  rcases (client.startAckTimer message.msgId).dispatch_cases run.route run.failed message false with
    ⟨error, gaveUp⟩ | ⟨_, _, sent⟩
  · rw [gaveUp]
    exact started.failMessage run.failed differs
  · rw [sent]
    exact ⟨started.stored, started.failing⟩

theorem recoverOwn (stored : client.statusOf msgId ≠ none) (message : Message)
    (own : message.msgId = msgId) : AtRisk msgId (client.recoverOne {} message) := by
  have running : (client.startAckTimer message.msgId).timers.running.lookup
      client.timers.nextTimer = some msgId := by
    rw [← own]
    exact (client.timers.lookup_start _ _).trans (if_pos rfl)
  rw [recoverOne]
  rcases (client.startAckTimer message.msgId).dispatch_cases {} {} message false with
    ⟨error, gaveUp⟩ | ⟨_, _, sent⟩
  · have failed : (((client.startAckTimer message.msgId).failMessage {} message.msgId
        true)).statusOf msgId = some .failed := by
      rw [statusOf_failMessage, if_pos ⟨rfl, own.symm⟩]
      obtain ⟨status, isStored⟩ := Option.ne_none_iff_exists'.mp stored
      have same : (client.startAckTimer message.msgId).statusOf msgId = some status := isStored
      rw [same]
      rfl
    rw [gaveUp]
    exact ⟨by rw [giveUp]; simp [failed], Or.inl failed⟩
  · rw [sent]
    exact ⟨stored, Or.inr ⟨_, running⟩⟩

theorem stored_recoverOne (stored : client.statusOf msgId ≠ none) (run : RecoverRun)
    (message : Message) : (client.recoverOne run message).statusOf msgId ≠ none := by
  rw [recoverOne]
  rcases (client.startAckTimer message.msgId).dispatch_cases run.route run.failed message false with
    ⟨error, gaveUp⟩ | ⟨_, _, sent⟩
  · have failed := (client.startAckTimer message.msgId).statusOf_failMessage message.msgId msgId
      run.failed true
    rw [gaveUp, giveUp, if_neg (by simp), failed]
    split
    · rw [ne_eq, Option.map_eq_none_iff]
      exact stored
    · exact stored
  · rw [sent]
    exact stored

/-- The loop over the pending messages of a session leaves every one of them
running or failed. -/
theorem recoverLoop (messages : List Message) :
    ∀ client : SendMessageUseCase, client.statusOf msgId ≠ none →
      (AtRisk msgId client ∨ ∃ message ∈ messages, message.msgId = msgId) →
      AtRisk msgId
        (messages.foldl (fun client message => client.recoverOne {} message) client) := by
  induction messages with
  | nil =>
      intro client _ risk
      rcases risk with risk | ⟨message, member, _⟩
      · exact risk
      · cases member
  | cons message rest ih =>
      intro client stored risk
      apply ih _ (stored_recoverOne stored {} message)
      by_cases own : message.msgId = msgId
      · exact Or.inl (recoverOwn stored message own)
      · rcases risk with risk | ⟨other, member, isOwn⟩
        · exact Or.inl (risk.recoverOther {} message own)
        · rcases List.mem_cons.mp member with rfl | inRest
          · exact absurd isOwn own
          · exact Or.inr ⟨other, inRest, isOwn⟩

theorem breaks (db : LocalDatabase) (risk : AtRisk msgId client) :
    ¬ StaysDelivered db client msgId := by
  intro stays
  rcases risk.failing with failed | ⟨timer, running⟩
  · have delivered := stays [] trivial (by simp)
    rw [List.foldl_nil, failed] at delivered
    cases delivered
  · have enabled : (sendSystem db).Enabled client [.timerExpired timer true] :=
      ⟨by simp [sendSystem, SendEvent.enabled, running], trivial⟩
    have delivered := stays _ enabled (by simp [SendEvent.Reopens])
    have failed : (SendEvent.next client (.timerExpired timer true)).statusOf msgId =
        (client.statusOf msgId).map fun _ => .failed := by
      simp only [SendEvent.next, running]
      refine (statusOf_setStatus _ msgId msgId true .failed "").trans ?_
      rw [if_pos ⟨rfl, rfl⟩]
      rfl
    obtain ⟨status, isStored⟩ := Option.ne_none_iff_exists'.mp risk.stored
    rw [List.foldl_cons, List.foldl_nil, failed, isStored] at delivered
    cases delivered

end AtRisk

theorem StaysDelivered.next {db : LocalDatabase} {client : SendMessageUseCase} {msgId : String}
    (stays : StaysDelivered db client msgId) (event : SendEvent) (enabled : event.enabled client)
    (closed : ¬ event.Reopens msgId) : StaysDelivered db (event.next client) msgId := by
  intro rest restEnabled restClosed
  refine stays (event :: rest) ⟨enabled, restEnabled⟩ ?_
  intro other member
  rcases List.mem_cons.mp member with rfl | inRest
  · exact closed
  · exact restClosed other inRest

/-- A row left in `pending_acks` lets a recovery start a timer again. -/
theorem not_staysDelivered_of_pendingAck {db : LocalDatabase} {client : SendMessageUseCase}
    {msgId : String} (stored : client.statusOf msgId ≠ none)
    (pending : msgId ∈ client.db.view.pendingAcks) : ¬ StaysDelivered db client msgId := by
  intro stays
  cases found : client.db.view.messages.find? msgId with
  | none => exact stored (by rw [statusOf, found]; rfl)
  | some row =>
      obtain ⟨rowIn, rfl⟩ := (RowTable.find?_eq_some _ _ _).mp found
      obtain ⟨message, fetched, sameId, sameSession⟩ :=
        LocalDatabase.mem_fetchPendingMessages_of_row rowIn pending
      refine (AtRisk.recoverLoop _ client stored (Or.inr ⟨message, ?_, sameId⟩)).breaks db
        (stays.next (.recoverPendingMessages true (fun _ => {}) row.sessionId) trivial id)
      exact List.mem_filter.mpr ⟨fetched, decide_eq_true sameSession⟩

/-! ## Acknowledged messages -/

section Acknowledged
variable (db : LocalDatabase) (client : SendMessageUseCase) (run : StatusRun)
  (msgId serverId : String) (timer : Nat)
  (pending : client.timers.pendingMessages.lookup msgId = some timer)

include pending

theorem timers_onAckReceived :
    (client.onAckReceived run msgId serverId).timers = client.timers.stop msgId := by
  unfold SendMessageUseCase.onAckReceived
  rw [pending]
  rfl

theorem statusOf_onAckReceived (stored : client.statusOf msgId ≠ none)
    (updated : run.updated = true) :
    (client.onAckReceived run msgId serverId).statusOf msgId = some .delivered := by
  have removed : (client.onAckReceived run msgId serverId).statusOf msgId =
      ((client.stopAckTimer msgId).setStatus run.updated msgId .delivered serverId).statusOf
        msgId := by
    unfold SendMessageUseCase.onAckReceived
    rw [pending]
    exact statusOf_congr msgId (LocalDatabase.messages_removePendingAck _ _ _)
  obtain ⟨status, isStored⟩ := Option.ne_none_iff_exists'.mp stored
  have same : (client.stopAckTimer msgId).statusOf msgId = some status := isStored
  rw [removed, statusOf_setStatus, if_pos ⟨updated, rfl⟩, same]
  rfl

theorem mem_pendingAcks_onAckReceived :
    msgId ∈ (client.onAckReceived run msgId serverId).db.view.pendingAcks ↔
      msgId ∈ client.db.view.pendingAcks ∧ ¬ run.ackChanged = true := by
  unfold SendMessageUseCase.onAckReceived
  rw [pending]
  refine (LocalDatabase.mem_removePendingAck _ run.ackChanged msgId msgId).trans ?_
  rw [show ((client.stopAckTimer msgId).setStatus run.updated msgId .delivered
      serverId).db.view.pendingAcks = client.db.view.pendingAcks from
    LocalDatabase.pendingAcks_updateMessageStatus _ _ _ _ _]
  simp

/-- The acknowledged message stays delivered, in every continuation in which it
is neither resent nor refused, exactly when at the acknowledgement no timer of
it was running but the one its entry held, and its row of `pending_acks` was
deleted if it had one. -/
theorem ackReceived_staysDelivered_iff (stored : client.statusOf msgId ≠ none)
    (updated : run.updated = true) :
    StaysDelivered db (client.onAckReceived run msgId serverId) msgId ↔
      (∀ other, client.timers.running.lookup other = some msgId → other = timer) ∧
        (msgId ∈ client.db.view.pendingAcks → run.ackChanged = true) := by
  have delivered := statusOf_onAckReceived client run msgId serverId timer pending stored updated
  have timers := timers_onAckReceived client run msgId serverId timer pending
  have acks := mem_pendingAcks_onAckReceived client run msgId serverId timer pending
  have storedAfter : (client.onAckReceived run msgId serverId).statusOf msgId ≠ none := by
    rw [delivered]
    simp
  constructor
  · intro stays
    constructor
    · intro other running
      by_contra differs
      have risk : AtRisk msgId (client.onAckReceived run msgId serverId) := by
        refine ⟨storedAfter, Or.inr ⟨other, ?_⟩⟩
        rw [timers, AckTimers.lookup_stop, pending, if_neg]
        · exact running
        · intro same
          exact differs (Option.some.inj same).symm
      exact risk.breaks db stays
    · intro member
      by_contra kept
      exact not_staysDelivered_of_pendingAck storedAfter (acks.mpr ⟨member, kept⟩) stays
  · rintro ⟨onlyOwn, removed⟩
    refine Settled.stays db ⟨delivered, ?_, ?_⟩
    · intro other running
      rw [timers, AckTimers.lookup_stop, pending] at running
      split at running
      · cases running
      · rename_i differs
        exact differs (congrArg some (onlyOwn other running).symm)
    · intro member
      obtain ⟨before, kept⟩ := acks.mp member
      exact kept (removed before)

end Acknowledged

def aliceWithBob : LocalDatabase :=
  { committed := {
      sessions := ⟨[⟨"s1", .privateChat, "Bob", "bob", 0⟩], by decide⟩
      authUserId := "alice" } }

def aliceSends : List SendEvent :=
  [.sendMessage {} "s1" "hi" "m1" "2026-01-01T00:00:00Z"]

theorem ackReceived_staysDelivered_iff_m1 :
    StaysDelivered aliceWithBob
      ((aliceSends.foldl SendEvent.next { db := aliceWithBob }).onAckReceived {} "m1" "srv_1")
      "m1" := by
  refine (ackReceived_staysDelivered_iff aliceWithBob _ {} "m1" "srv_1" 0 (by decide) (by decide)
    rfl).mpr ⟨?_, fun _ => rfl⟩
  intro other running
  have started : AList.lookup other (AList.insert 0 "m1" (∅ : FiniteMap Nat String)) =
      some "m1" := running
  rw [FiniteMap.lookup_insert] at started
  split at started
  · assumption
  · cases started

def aliceRecovers : List SendEvent :=
  aliceSends ++ [SendEvent.recoverPendingMessages true (fun _ => {}) "s1"]

/-- The first timer is still running when the acknowledgement arrives. -/
theorem ackReceived_times_out :
    ¬ ∀ client, (sendSystem aliceWithBob).Reachable client →
      ∀ (run : StatusRun) (msgId serverId : String),
        (client.onAckReceived run msgId serverId).statusOf msgId = some .delivered →
        StaysDelivered aliceWithBob (client.onAckReceived run msgId serverId) msgId := by
  intro always
  have reached : (sendSystem aliceWithBob).Reachable
      (aliceRecovers.foldl SendEvent.next { db := aliceWithBob }) :=
    System.Reachable.run aliceRecovers _ System.Reachable.initial ⟨trivial, trivial, trivial⟩
  have delivered := always _ reached {} "m1" "srv_1" (by decide)
    [.timerExpired 0 true] ⟨by simp only [sendSystem, SendEvent.enabled]; decide, trivial⟩
    (by simp [SendEvent.Reopens])
  exact absurd delivered (by decide)

end ShirohaChat
