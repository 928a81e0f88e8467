import ShirohaChat.Client.LocalStore
import ShirohaChat.Lib.FiniteMap

/-!
# Sending messages

`SendMessageUseCase` with its map `m_pendingMessages` and the timers it starts.
A timer is a number; `running` holds the timers that were started and neither
stopped nor fired, each with the message id its handler captured.  Replacing an
entry of the map does not stop the timer the entry held.
-/

set_option autoImplicit false

namespace ShirohaChat

inductive SendMessageError where
  | groupNotSynced
  | recipientMissing
  | authFailed
  | payloadTooLarge
  | networkError
  deriving DecidableEq, Repr

/-- The signals of the use case and its calls of `sendText`. -/
inductive SendSignal where
  | messageSent (msgId : String) (message : Message) (sessionType : SessionType)
  | messageStatusChanged (msgId : String) (status : MessageStatus)
  | messageError (error : SendMessageError)
  | sendText (msgId senderUserId sessionId content sessionType recipientUserId : String)

/-! ## Acknowledgement timers -/

structure AckTimers where
  pendingMessages : FiniteMap String Nat
  running : FiniteMap Nat String
  nextTimer : Nat
  runningBelow : ∀ timer msgId, running.lookup timer = some msgId → timer < nextTimer
  entryBelow : ∀ msgId timer, pendingMessages.lookup msgId = some timer → timer < nextTimer
  own : ∀ msgId timer other, pendingMessages.lookup msgId = some timer →
    running.lookup timer = some other → other = msgId

namespace AckTimers

def empty : AckTimers where
  pendingMessages := ∅
  running := ∅
  nextTimer := 0
  runningBelow := by intro _ _ found; cases found
  entryBelow := by intro _ _ found; cases found
  own := by intro _ _ _ found; cases found

/-- The entry of the message is replaced; the timer it held keeps running. -/
def start (timers : AckTimers) (msgId : String) : AckTimers where
  pendingMessages := timers.pendingMessages.insert msgId timers.nextTimer
  running := timers.running.insert timers.nextTimer msgId
  nextTimer := timers.nextTimer + 1
  runningBelow := by
    intro timer started found
    rw [FiniteMap.lookup_insert] at found
    split at found
    · omega
    · exact Nat.lt_succ_of_lt (timers.runningBelow timer started found)
  entryBelow := by
    intro pendingId timer found
    rw [FiniteMap.lookup_insert] at found
    split at found
    · cases found
      omega
    · exact Nat.lt_succ_of_lt (timers.entryBelow pendingId timer found)
  own := by
    intro pendingId timer other entry runs
    rw [FiniteMap.lookup_insert] at entry runs
    split at entry
    · rename_i same
      cases entry
      rw [if_pos rfl] at runs
      cases runs
      exact same.symm
    · have below := timers.entryBelow pendingId timer entry
      rw [if_neg (Nat.ne_of_lt below)] at runs
      exact timers.own pendingId timer other entry runs

def dropping (timers : AckTimers) (pendingMessages : FiniteMap String Nat)
    (running : FiniteMap Nat String)
    (fewerEntries : ∀ msgId timer, pendingMessages.lookup msgId = some timer →
      timers.pendingMessages.lookup msgId = some timer)
    (fewerRunning : ∀ timer msgId, running.lookup timer = some msgId →
      timers.running.lookup timer = some msgId) : AckTimers where
  pendingMessages := pendingMessages
  running := running
  nextTimer := timers.nextTimer
  runningBelow := fun timer msgId found =>
    timers.runningBelow timer msgId (fewerRunning timer msgId found)
  entryBelow := fun msgId timer found =>
    timers.entryBelow msgId timer (fewerEntries msgId timer found)
  own := fun msgId timer other entry runs =>
    timers.own msgId timer other (fewerEntries msgId timer entry) (fewerRunning timer other runs)

def removeEntry (timers : AckTimers) (msgId : String) : AckTimers :=
  timers.dropping (timers.pendingMessages.erase msgId) timers.running
    (by
      intro other timer found
      rw [FiniteMap.lookup_erase] at found
      split at found
      · cases found
      · exact found)
    fun _ _ found => found

def removeTimer (timers : AckTimers) (timer : Nat) : AckTimers :=
  timers.dropping timers.pendingMessages (timers.running.erase timer) (fun _ _ found => found)
    (by
      intro other msgId found
      rw [FiniteMap.lookup_erase] at found
      split at found
      · cases found
      · exact found)

def stop (timers : AckTimers) (msgId : String) : AckTimers :=
  match timers.pendingMessages.lookup msgId with
  | none => timers
  | some timer => (timers.removeTimer timer).removeEntry msgId

theorem lookup_start (timers : AckTimers) (msgId : String) (timer : Nat) :
    (timers.start msgId).running.lookup timer =
      if timer = timers.nextTimer then some msgId else timers.running.lookup timer :=
  FiniteMap.lookup_insert timers.running timers.nextTimer timer msgId

theorem lookup_stop (timers : AckTimers) (msgId : String) (timer : Nat) :
    (timers.stop msgId).running.lookup timer =
      if timers.pendingMessages.lookup msgId = some timer then none
      else timers.running.lookup timer := by
  unfold stop
  cases found : timers.pendingMessages.lookup msgId with
  | none => simp
  | some held =>
      simp only [Option.some.injEq, removeEntry, removeTimer, dropping, FiniteMap.lookup_erase]
      by_cases same : timer = held
      · simp [same]
      · rw [if_neg same, if_neg fun swapped => same swapped.symm]

theorem entry_stop (timers : AckTimers) (msgId other : String) :
    (timers.stop msgId).pendingMessages.lookup other =
      if other = msgId then none else timers.pendingMessages.lookup other := by
  unfold stop
  cases found : timers.pendingMessages.lookup msgId with
  | none =>
      by_cases same : other = msgId
      · rw [if_pos same, same, found]
      · rw [if_neg same]
  | some held => exact FiniteMap.lookup_erase timers.pendingMessages msgId other

end AckTimers

/-! ## The use case -/

structure SendMessageUseCase where
  db : LocalDatabase := {}
  timers : AckTimers := AckTimers.empty
  signals : List SendSignal := []

structure RouteRun where
  sessionLoaded : Bool := true
  ownerLoaded : Bool := true
  groupLoaded : Bool := true
  groupReloaded : Bool := true
  authLoaded : Bool := true

structure StatusRun where
  updated : Bool := true
  ackChanged : Bool := true

structure SendRun where
  transaction : TransactionRun := {}
  inserted : Bool := true
  ackStored : Bool := true
  route : RouteRun := {}
  failed : StatusRun := {}

structure ResendRun where
  fetched : Bool := true
  restarted : StatusRun := {}
  route : RouteRun := {}
  failed : StatusRun := {}

structure RecoverRun where
  route : RouteRun := {}
  failed : StatusRun := {}

namespace SendMessageUseCase

def emit (client : SendMessageUseCase) (signal : SendSignal) : SendMessageUseCase :=
  { client with signals := client.signals ++ [signal] }

def startAckTimer (client : SendMessageUseCase) (msgId : String) : SendMessageUseCase :=
  { client with timers := client.timers.start msgId }

def stopAckTimer (client : SendMessageUseCase) (msgId : String) : SendMessageUseCase :=
  { client with timers := client.timers.stop msgId }

def setStatus (client : SendMessageUseCase) (updated : Bool) (msgId : String)
    (status : MessageStatus) (serverId : String := "") : SendMessageUseCase :=
  { client with db := (client.db.updateMessageStatus updated msgId status serverId).1 }

def removeAck (client : SendMessageUseCase) (removed : Bool) (msgId : String) :
    SendMessageUseCase :=
  { client with db := (client.db.removePendingAck removed msgId).1 }

def failMessage (client : SendMessageUseCase) (run : StatusRun) (msgId : String)
    (removePendingAck : Bool) : SendMessageUseCase :=
  let failed := (client.stopAckTimer msgId).setStatus run.updated msgId .failed
  (if removePendingAck then failed.removeAck run.ackChanged msgId else failed).emit
    (.messageStatusChanged msgId .failed)

def isGroupSession (db : LocalDatabase) (run : RouteRun) (sessionId : String) : Bool :=
  (db.loadSession run.sessionLoaded run.ownerLoaded sessionId).any
      (fun session => session.sessionType = .groupChat) ||
    (db.loadGroup run.groupLoaded true sessionId).isSome

/-- The peer of the stored session, empty when it cannot be loaded. -/
def recipientOf (db : LocalDatabase) (run : RouteRun) (sessionId : String) : String :=
  ((db.loadSession run.sessionLoaded run.ownerLoaded sessionId).map
    Session.peerUserId).getD ""

def groupMissing (db : LocalDatabase) (run : RouteRun) (sessionId : String) : Bool :=
  (db.loadGroup run.groupReloaded true sessionId).isNone

/-- The transaction of `sendMessage`; whether the acknowledgement was recorded
is not looked at. -/
def persist (db : LocalDatabase) (run : SendRun) (message : Message) :
    LocalDatabase × Option Unit :=
  db.runInTransaction 0 run.transaction fun inner =>
    match inner.insertMessage run.inserted message with
    | (_, false) => (inner, none)
    | (stored, true) => ((stored.upsertPendingAck run.ackStored message.msgId).1, some ())

def sendMessage (client : SendMessageUseCase) (run : SendRun)
    (sessionId content msgId timestamp : String) : SendMessageUseCase :=
  let text := trimmed content
  if text = "" ∨ sessionId = "" then client
  else
    let authUserId := client.db.loadAuthUserId run.route.authLoaded
    let sender := if authUserId = "" then "me" else authUserId
    let isGroup := isGroupSession client.db run.route sessionId
    if isGroup ∧ groupMissing client.db run.route sessionId then
      client.emit (.messageError .groupNotSynced)
    else
      let message : Message := ⟨msgId, text, sender, sessionId, timestamp, .sending, ""⟩
      let (db, persisted) := persist client.db run message
      if persisted.isNone then { client with db := db }
      else
        let started := (startAckTimer { client with db := db } msgId).emit
          (.messageSent msgId message (if isGroup then .groupChat else .privateChat))
        if isGroup then started.emit (.sendText msgId sender sessionId text "group" "")
        else
          let recipient := recipientOf client.db run.route sessionId
          if recipient = "" ∨ recipient = sender then
            (started.failMessage run.failed msgId true).emit (.messageError .recipientMissing)
          else started.emit (.sendText msgId sender sessionId text "private" recipient)

/-- A message that cannot be sent; only `resendMessage` reports the error. -/
def giveUp (client : SendMessageUseCase) (failed : StatusRun) (msgId : String)
    (reports : Bool) (error : SendMessageError) : SendMessageUseCase :=
  let failedClient := client.failMessage failed msgId true
  if reports then failedClient.emit (.messageError error) else failedClient

/-- The end that `resendMessage` and `recoverPendingMessages` share. -/
def dispatch (client : SendMessageUseCase) (route : RouteRun) (failed : StatusRun)
    (message : Message) (reports : Bool) : SendMessageUseCase :=
  if isGroupSession client.db route message.sessionId then
    if groupMissing client.db route message.sessionId then
      client.giveUp failed message.msgId reports .groupNotSynced
    else
      client.emit (.sendText message.msgId message.senderId message.sessionId message.content
        "group" "")
  else
    let recipient := recipientOf client.db route message.sessionId
    if recipient = "" ∨ recipient = client.db.loadAuthUserId route.authLoaded then
      client.giveUp failed message.msgId reports .recipientMissing
    else
      client.emit (.sendText message.msgId message.senderId message.sessionId message.content
        "private" recipient)

def resendMessage (client : SendMessageUseCase) (run : ResendRun) (sessionId msgId : String) :
    SendMessageUseCase :=
  if msgId = "" ∨ sessionId = "" then client
  else
    match (client.db.fetchMessagesForSession run.fetched sessionId 1000).find?
        fun message => message.msgId = msgId with
    | none => client
    | some message =>
        if message.content = "" then client
        else
          let updated := client.setStatus run.restarted.updated msgId .sending
          let stored := { updated with
            db := (updated.db.upsertPendingAck run.restarted.ackChanged msgId).1 }
          dispatch ((stored.emit (.messageStatusChanged msgId .sending)).startAckTimer msgId)
            run.route run.failed message true

def recoverOne (client : SendMessageUseCase) (run : RecoverRun) (message : Message) :
    SendMessageUseCase :=
  dispatch (client.startAckTimer message.msgId) run.route run.failed message false

/-- Which reads and writes succeed is given for each message. -/
def recoverPendingMessages (client : SendMessageUseCase) (fetched : Bool)
    (run : String → RecoverRun) (sessionId : String) : SendMessageUseCase :=
  ((client.db.fetchPendingMessages fetched).filter fun message =>
      message.sessionId = sessionId).foldl
    (fun client message => client.recoverOne (run message.msgId) message) client

def onAckReceived (client : SendMessageUseCase) (run : StatusRun) (msgId serverId : String) :
    SendMessageUseCase :=
  match client.timers.pendingMessages.lookup msgId with
  | none => client
  | some _ =>
      (((client.stopAckTimer msgId).setStatus run.updated msgId .delivered serverId).removeAck
        run.ackChanged msgId).emit (.messageStatusChanged msgId .delivered)

def classifyError (reason : String) : SendMessageError :=
  if qContainsIgnoringCase reason "recipientUserId" then .recipientMissing
  else if qContainsIgnoringCase reason "Not authenticated" then .authFailed
  else if qContainsIgnoringCase reason "too large" then .payloadTooLarge
  else .networkError

def onAckFailed (client : SendMessageUseCase) (run : StatusRun) (msgId : String)
    (code : Int32) (reason : String) : SendMessageUseCase :=
  let failed := (client.stopAckTimer msgId).setStatus run.updated msgId .failed
  let settled := if 0 < code ∧ code < 500 then failed.removeAck run.ackChanged msgId else failed
  (settled.emit (.messageStatusChanged msgId .failed)).emit (.messageError (classifyError reason))

/-- The handler of a timer that fired; it removes the entry of its message,
whichever timer the entry holds. -/
def onSendTimeout (client : SendMessageUseCase) (updated : Bool) (msgId : String) :
    SendMessageUseCase :=
  (setStatus { client with timers := client.timers.removeEntry msgId } updated msgId .failed).emit
    (.messageStatusChanged msgId .failed)

def statusOf (client : SendMessageUseCase) (msgId : String) : Option MessageStatus :=
  (client.db.view.messages.find? msgId).map LocalMessageRow.status

/-! ## What the parts change -/

theorem persist_view (db : LocalDatabase) (run : SendRun) (message : Message) :
    persist db run message = (db, none) ∨
      db.view.messages.find? message.msgId = none ∧
      (∀ other, other ≠ message.msgId →
        (persist db run message).1.view.messages.find? other = db.view.messages.find? other) ∧
      ∀ other ∈ (persist db run message).1.view.pendingAcks,
        other ∈ db.view.pendingAcks ∨ other = message.msgId := by
  unfold persist
  rcases db.runInTransaction_view run.transaction _ with
    same | ⟨started, after, value, sameView, ran, result⟩
  · exact Or.inl same
  · cases inserted : started.insertMessage run.inserted message with
    | mk stored ok =>
        rw [inserted] at ran
        cases ok with
        | false => cases ran
        | true =>
            cases ran
            obtain ⟨messages, insertion, rfl⟩ := LocalDatabase.insertMessage_eq_true inserted
            rw [sameView] at insertion
            have view : (db.runInTransaction 0 run.transaction fun inner =>
                match inner.insertMessage run.inserted message with
                | (_, false) => (inner, none)
                | (stored, true) =>
                    ((stored.upsertPendingAck run.ackStored message.msgId).1, some ())).1.view =
                ((started.write { started.view with messages := messages }).upsertPendingAck
                  run.ackStored message.msgId).1.view := by
              rcases result with committed | leftOpen
              · rw [committed]
                rfl
              · rw [leftOpen]
                rfl
            refine Or.inr ⟨?_, ?_, ?_⟩
            · have fresh := (RowTable.insert?_eq_some insertion).1
              exact (RowTable.find?_eq_none _ _).mpr fun row rowIn sameId =>
                fresh (List.mem_map.mpr ⟨row, rowIn, sameId⟩)
            · intro other differs
              rw [view, LocalDatabase.messages_upsertPendingAck, LocalDatabase.view_write,
                RowTable.find?_insert? insertion, if_neg]
              exact differs
            · intro other member
              rw [view] at member
              have cases := LocalDatabase.mem_upsertPendingAck _ _ _ _ member
              rw [LocalDatabase.view_write] at cases
              rw [← sameView]
              exact cases

section Parts
variable (client : SendMessageUseCase) (msgId other : String)

theorem statusOf_congr {client after : SendMessageUseCase}
    (same : after.db.view.messages = client.db.view.messages) :
    after.statusOf msgId = client.statusOf msgId := by
  rw [statusOf, statusOf, same]

theorem statusOf_setStatus (updated : Bool) (status : MessageStatus) (serverId : String) :
    (client.setStatus updated msgId status serverId).statusOf other =
      if updated = true ∧ other = msgId then (client.statusOf other).map fun _ => status
      else client.statusOf other := by
  simp only [statusOf, setStatus, LocalDatabase.find?_updateMessageStatus, Option.map_map]
  split
  · cases client.db.view.messages.find? other <;> simp
  · cases client.db.view.messages.find? other <;> simp

theorem statusOf_failMessage (run : StatusRun) (remove : Bool) :
    (client.failMessage run msgId remove).statusOf other =
      if run.updated = true ∧ other = msgId then (client.statusOf other).map fun _ => .failed
      else client.statusOf other := by
  have sameMessages : (client.failMessage run msgId remove).db.view.messages =
      ((client.stopAckTimer msgId).setStatus run.updated msgId .failed).db.view.messages := by
    unfold failMessage
    cases remove with
    | true => exact LocalDatabase.messages_removePendingAck _ _ _
    | false => rfl
  rw [statusOf_congr other sameMessages, statusOf_setStatus]
  rfl

theorem dispatch_cases (route : RouteRun) (failed : StatusRun) (message : Message)
    (reports : Bool) :
    (∃ error, client.dispatch route failed message reports =
      client.giveUp failed message.msgId reports error) ∨
    ∃ sessionType recipient, client.dispatch route failed message reports =
      client.emit (.sendText message.msgId message.senderId message.sessionId message.content
        sessionType recipient) := by
  unfold dispatch
  by_cases isGroup : isGroupSession client.db route message.sessionId
  · by_cases missing : groupMissing client.db route message.sessionId
    · exact Or.inl ⟨_, by rw [if_pos isGroup, if_pos missing]⟩
    · exact Or.inr ⟨_, _, by rw [if_pos isGroup, if_neg missing]⟩
  · rw [if_neg isGroup]
    simp only
    split
    · exact Or.inl ⟨_, rfl⟩
    · exact Or.inr ⟨_, _, rfl⟩

end Parts

end SendMessageUseCase
end ShirohaChat
