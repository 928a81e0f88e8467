import ShirohaChat.Shared.Domain
import ShirohaChat.Lib.RowTable
import Mathlib.Data.Finset.Basic

/-!
# The client's local database

The tables as the connection of `DatabaseManager` sees them.  Outside of a
transaction a statement is committed at once; inside one it changes the view of
the connection only.  An `ok` is false where the database is not open or the
statement fails for another reason than a constraint, which the tables decide.
-/

set_option autoImplicit false

namespace ShirohaChat

/-! ## Tables -/

structure LocalMessageRow where
  msgId : String
  sessionId : String
  senderUserId : String
  content : String
  status : MessageStatus
  timestamp : String
  serverId : Option String
  deriving DecidableEq

structure SessionRow where
  sessionId : String
  sessionType : SessionType
  sessionName : String
  peerUserId : String
  unreadCount : Int
  deriving DecidableEq

structure LocalGroupRow where
  groupId : String
  name : String
  creatorUserId : String
  deriving DecidableEq

structure LocalGroupMemberRow where
  groupId : String
  userId : String
  role : GroupMemberRole
  deriving DecidableEq

def LocalGroupMemberRow.key (row : LocalGroupMemberRow) : String × String :=
  (row.groupId, row.userId)

structure LocalUserRow where
  userId : String
  nickname : String
  deriving DecidableEq

def LocalMessageRow.toMessage (row : LocalMessageRow) : Message :=
  ⟨row.msgId, row.content, row.senderUserId, row.sessionId, row.timestamp, row.status,
    row.serverId.getD ""⟩

/-- An empty `serverId` leaves the column alone. -/
def LocalMessageRow.withStatus (row : LocalMessageRow) (status : MessageStatus)
    (serverId : String) : LocalMessageRow :=
  { row with
    status := status
    serverId := if serverId = "" then row.serverId else some serverId }

@[simp] theorem LocalMessageRow.withStatus_status (row : LocalMessageRow)
    (status : MessageStatus) (serverId : String) :
    (row.withStatus status serverId).status = status := rfl

def Message.toRow (message : Message) : LocalMessageRow :=
  ⟨message.msgId, message.sessionId, message.senderId, message.content, message.status,
    message.timestamp, if message.serverId = "" then none else some message.serverId⟩

abbrev LocalMessageTable := RowTable LocalMessageRow String LocalMessageRow.msgId
abbrev SessionTable := RowTable SessionRow String SessionRow.sessionId
abbrev LocalUserTable := RowTable LocalUserRow String LocalUserRow.userId
abbrev LocalGroupTable := RowTable LocalGroupRow String LocalGroupRow.groupId
abbrev LocalGroupMemberTable :=
  RowTable LocalGroupMemberRow (String × String) LocalGroupMemberRow.key

structure LocalTables where
  messages : LocalMessageTable := RowTable.empty
  /-- The message ids of `pending_acks`. -/
  pendingAcks : Finset String := ∅
  sessions : SessionTable := RowTable.empty
  users : LocalUserTable := RowTable.empty
  groups : LocalGroupTable := RowTable.empty
  groupMembers : LocalGroupMemberTable := RowTable.empty
  /-- The user of the newest row of `auth_state`, empty when there is none. -/
  authUserId : String := ""

/-! ## Connection and transactions -/

/-- The committed tables, and what the connection sees while a transaction is
open. -/
structure LocalDatabase where
  committed : LocalTables := {}
  transaction : Option LocalTables := none

/-- A commit that fails either undid the transaction or left it open. -/
inductive CommitOutcome where
  | committed
  | undone
  | leftOpen
  deriving DecidableEq, Repr

structure TransactionRun where
  isOpen : Bool := true
  begun : Bool := true
  commit : CommitOutcome := .committed

structure SaveRun where
  transaction : TransactionRun := {}
  executed : Bool := true

structure RemoveSessionRun where
  transaction : TransactionRun := {}
  acksDeleted : Bool := true
  messagesDeleted : Bool := true
  sessionDeleted : Bool := true

structure SaveGroupRun where
  transaction : TransactionRun := {}
  upserted : Bool := true
  membersDeleted : Bool := true
  memberInserted : String → Bool := fun _ => true

structure RemoveGroupRun where
  transaction : TransactionRun := {}
  membersDeleted : Bool := true
  groupDeleted : Bool := true

namespace LocalDatabase

def view (db : LocalDatabase) : LocalTables := db.transaction.getD db.committed

def write (db : LocalDatabase) (tables : LocalTables) : LocalDatabase :=
  match db.transaction with
  | some _ => { db with transaction := some tables }
  | none => { db with committed := tables }

@[simp] theorem view_write (db : LocalDatabase) (tables : LocalTables) :
    (db.write tables).view = tables := by
  unfold write view
  cases db.transaction <;> rfl

/-- `runInTransaction` at the given depth; the callback's value is `none` where
it returns false.  A `BEGIN` inside an open transaction fails. -/
def runInTransaction {Value : Type} (db : LocalDatabase) (depth : Nat) (run : TransactionRun)
    (callback : LocalDatabase → LocalDatabase × Option Value) :
    LocalDatabase × Option Value :=
  if ¬ run.isOpen then (db, none)
  else if depth ≠ 0 then callback db
  else if ¬ (run.begun ∧ db.transaction.isNone) then (db, none)
  else
    match callback { db with transaction := some db.committed } with
    | (_, none) => (db, none)
    | (after, some value) =>
        match run.commit with
        | .committed => ({ committed := after.view }, some value)
        | .undone => (db, none)
        | .leftOpen => ({ db with transaction := some after.view }, none)

/-- A transaction of its own leaves the view as it was, or the view is the one
its callback left; it reports success only where that view is committed. -/
theorem runInTransaction_view {Value : Type} (db : LocalDatabase) (run : TransactionRun)
    (callback : LocalDatabase → LocalDatabase × Option Value) :
    db.runInTransaction 0 run callback = (db, none) ∨
      ∃ started after value, started.view = db.view ∧ callback started = (after, some value) ∧
        (db.runInTransaction 0 run callback = ({ committed := after.view }, some value) ∨
          db.runInTransaction 0 run callback =
            ({ db with transaction := some after.view }, none)) := by
  unfold runInTransaction
  by_cases isOpen : run.isOpen
  · by_cases begun : run.begun ∧ db.transaction.isNone
    · have sameView : ({ db with transaction := some db.committed } : LocalDatabase).view =
          db.view := by
        unfold view
        rw [Option.isNone_iff_eq_none.mp begun.2]
        rfl
      cases ran : callback { db with transaction := some db.committed } with
      | mk after result =>
          cases result with
          | none => simp [isOpen, begun]
          | some value =>
              cases outcome : run.commit with
              | committed =>
                  exact Or.inr ⟨_, after, value, sameView, ran, by simp [isOpen, begun]⟩
              | undone => simp [isOpen, begun]
              | leftOpen =>
                  exact Or.inr ⟨_, after, value, sameView, ran, by simp [isOpen, begun]⟩
    · exact Or.inl (by rw [if_neg (by simp [isOpen]), if_neg (by simp), if_pos begun])
  · exact Or.inl (by rw [if_pos isOpen])

theorem runInTransaction_nested {Value : Type} (db : LocalDatabase) (depth : Nat)
    (run : TransactionRun) (callback : LocalDatabase → LocalDatabase × Option Value) :
    db.runInTransaction (depth + 1) run callback =
      if run.isOpen then callback db else (db, none) := by
  unfold runInTransaction
  cases run.isOpen <;> simp

theorem runInTransaction_frame {Value Field : Type} (db : LocalDatabase) (depth : Nat)
    (run : TransactionRun) (callback : LocalDatabase → LocalDatabase × Option Value)
    (field : LocalTables → Field)
    (kept : ∀ inner, field (callback inner).1.view = field inner.view) :
    field (db.runInTransaction depth run callback).1.view = field db.view := by
  cases depth with
  | succ depth =>
      rw [runInTransaction_nested]
      split
      · exact kept db
      · rfl
  | zero =>
      rcases db.runInTransaction_view run callback with
        same | ⟨started, after, value, sameView, ran, result⟩
      · rw [same]
      · have afterKept := kept started
        rw [ran, sameView] at afterKept
        rcases result with committed | leftOpen
        · rw [committed]
          exact afterKept
        · rw [leftOpen]
          exact afterKept

/-! ## Messages -/

def insertMessage (db : LocalDatabase) (ok : Bool) (message : Message) :
    LocalDatabase × Bool :=
  if ¬ ok then (db, false)
  else
    match db.view.messages.insert? message.toRow with
    | none => (db, false)
    | some messages => (db.write { db.view with messages := messages }, true)

def updateMessageStatus (db : LocalDatabase) (ok : Bool) (msgId : String)
    (status : MessageStatus) (serverId : String := "") : LocalDatabase × Bool :=
  if ¬ ok then (db, false)
  else
    (db.write { db.view with
      messages := db.view.messages.updateWhere (fun row => row.msgId = msgId)
        (fun row => row.withStatus status serverId) fun _ => rfl }, true)

def fetchMessagesForSession (db : LocalDatabase) (ok : Bool) (sessionId : String)
    (limit : Nat) (offset : Nat := 0) : List Message :=
  if ¬ ok ∨ sessionId = "" ∨ limit = 0 then []
  else
    let rows := db.view.messages.rows.filter fun row => row.sessionId = sessionId
    (((oldestFirst LocalMessageRow.timestamp rows).drop offset).take limit).map
      LocalMessageRow.toMessage

def fetchPendingMessages (db : LocalDatabase) (ok : Bool) : List Message :=
  if ¬ ok then []
  else
    let rows := db.view.messages.rows.filter fun row => row.msgId ∈ db.view.pendingAcks
    (oldestFirst LocalMessageRow.timestamp rows).map fun row =>
      { row.toMessage with status := .sending, serverId := "" }

/-- The foreign key refuses the id of a message that is not stored. -/
def upsertPendingAck (db : LocalDatabase) (ok : Bool) (msgId : String) :
    LocalDatabase × Bool :=
  if ok ∧ (db.view.messages.find? msgId).isSome then
    (db.write { db.view with pendingAcks := insert msgId db.view.pendingAcks }, true)
  else (db, false)

def removePendingAck (db : LocalDatabase) (ok : Bool) (msgId : String) :
    LocalDatabase × Bool :=
  if ok then
    (db.write { db.view with pendingAcks := db.view.pendingAcks.erase msgId }, true)
  else (db, false)

theorem insertMessage_eq_true {db after : LocalDatabase} {ok : Bool} {message : Message}
    (inserted : db.insertMessage ok message = (after, true)) :
    ∃ messages, db.view.messages.insert? message.toRow = some messages ∧
      after = db.write { db.view with messages := messages } := by
  unfold insertMessage at inserted
  split at inserted
  · cases inserted
  · cases result : db.view.messages.insert? message.toRow with
    | none =>
        rw [result] at inserted
        cases inserted
    | some messages =>
        rw [result] at inserted
        cases inserted
        exact ⟨messages, rfl, rfl⟩

theorem insertMessage_snd (db : LocalDatabase) (ok : Bool) (message : Message) :
    (db.insertMessage ok message).2 = true ↔
      ok = true ∧ db.view.messages.find? message.msgId = none := by
  have fresh : db.view.messages.insert? message.toRow = none ↔
      db.view.messages.find? message.msgId ≠ none := by
    rw [RowTable.insert?_eq_none, ne_eq, RowTable.find?_eq_none]
    simp only [List.mem_map, not_forall, not_not, exists_prop]
    exact Iff.rfl
  unfold insertMessage
  cases ok with
  | false => simp
  | true =>
      cases inserted : db.view.messages.insert? message.toRow with
      | none => simpa [inserted] using fresh.mp inserted
      | some messages =>
          have unused : ¬ db.view.messages.find? message.msgId ≠ none := fun taken => by
            rw [fresh.mpr taken] at inserted
            cases inserted
          simpa [inserted] using unused

theorem find?_updateMessageStatus (db : LocalDatabase) (ok : Bool) (msgId other : String)
    (status : MessageStatus) (serverId : String) :
    (db.updateMessageStatus ok msgId status serverId).1.view.messages.find? other =
      (db.view.messages.find? other).map fun row =>
        if ok = true ∧ other = msgId then row.withStatus status serverId else row := by
  unfold updateMessageStatus
  cases ok with
  | false => simp
  | true =>
      simp only [not_true_eq_false, if_false, view_write, true_and]
      exact db.view.messages.find?_updateWhere msgId other _ _

@[simp] theorem pendingAcks_updateMessageStatus (db : LocalDatabase) (ok : Bool)
    (msgId : String) (status : MessageStatus) (serverId : String) :
    (db.updateMessageStatus ok msgId status serverId).1.view.pendingAcks =
      db.view.pendingAcks := by
  unfold updateMessageStatus
  cases ok <;> simp

theorem stored_of_fetchMessagesForSession {db : LocalDatabase} {ok : Bool} {sessionId : String}
    {limit offset : Nat} {message : Message}
    (fetched : message ∈ db.fetchMessagesForSession ok sessionId limit offset) :
    db.view.messages.find? message.msgId ≠ none := by
  unfold fetchMessagesForSession at fetched
  split at fetched
  · cases fetched
  · obtain ⟨row, rowIn, rfl⟩ := List.mem_map.mp fetched
    have sorted := List.mem_of_mem_drop (List.mem_of_mem_take rowIn)
    have kept := (List.mem_filter.mp ((List.perm_insertionSort _ _).mem_iff.mp sorted)).1
    intro missing
    exact (RowTable.find?_eq_none _ _).mp missing row kept rfl

theorem mem_fetchPendingMessages {db : LocalDatabase} {ok : Bool} {message : Message}
    (fetched : message ∈ db.fetchPendingMessages ok) :
    message.msgId ∈ db.view.pendingAcks := by
  unfold fetchPendingMessages at fetched
  split at fetched
  · cases fetched
  · obtain ⟨row, rowIn, rfl⟩ := List.mem_map.mp fetched
    have joined := (List.mem_filter.mp ((List.perm_insertionSort _ _).mem_iff.mp rowIn)).2
    exact of_decide_eq_true joined

theorem mem_fetchPendingMessages_of_row {db : LocalDatabase} {row : LocalMessageRow}
    (stored : row ∈ db.view.messages.rows) (pending : row.msgId ∈ db.view.pendingAcks) :
    ∃ message ∈ db.fetchPendingMessages true,
      message.msgId = row.msgId ∧ message.sessionId = row.sessionId := by
  refine ⟨{ row.toMessage with status := .sending, serverId := "" }, ?_, rfl, rfl⟩
  unfold fetchPendingMessages
  rw [if_neg (by simp)]
  apply List.mem_map_of_mem
  apply (List.perm_insertionSort _ _).mem_iff.mpr
  exact List.mem_filter.mpr ⟨stored, decide_eq_true pending⟩

@[simp] theorem messages_upsertPendingAck (db : LocalDatabase) (ok : Bool) (msgId : String) :
    (db.upsertPendingAck ok msgId).1.view.messages = db.view.messages := by
  unfold upsertPendingAck
  split <;> simp

theorem mem_upsertPendingAck (db : LocalDatabase) (ok : Bool) (msgId other : String)
    (member : other ∈ (db.upsertPendingAck ok msgId).1.view.pendingAcks) :
    other ∈ db.view.pendingAcks ∨ other = msgId := by
  unfold upsertPendingAck at member
  split at member
  · simp only [view_write, Finset.mem_insert] at member
    exact member.symm
  · exact Or.inl member

theorem mem_upsertPendingAck_self {db : LocalDatabase} {msgId : String}
    (stored : db.view.messages.find? msgId ≠ none) :
    msgId ∈ (db.upsertPendingAck true msgId).1.view.pendingAcks := by
  unfold upsertPendingAck
  rw [if_pos ⟨rfl, Option.isSome_iff_ne_none.mpr stored⟩, view_write]
  exact Finset.mem_insert_self _ _

@[simp] theorem messages_removePendingAck (db : LocalDatabase) (ok : Bool) (msgId : String) :
    (db.removePendingAck ok msgId).1.view.messages = db.view.messages := by
  unfold removePendingAck
  split <;> simp

theorem mem_removePendingAck (db : LocalDatabase) (ok : Bool) (msgId other : String) :
    other ∈ (db.removePendingAck ok msgId).1.view.pendingAcks ↔
      other ∈ db.view.pendingAcks ∧ ¬ (ok = true ∧ other = msgId) := by
  unfold removePendingAck
  cases ok with
  | false => simp
  | true => simp [and_comm]

/-! ## Users and sessions -/

/-- Both texts are trimmed; an empty nickname keeps the stored one. -/
def upsertUser (db : LocalDatabase) (ok : Bool) (userId nickname : String) :
    LocalDatabase × Bool :=
  if ¬ ok ∨ trimmed userId = "" then (db, false)
  else
    let row : LocalUserRow := ⟨trimmed userId, trimmed nickname⟩
    (db.write { db.view with
      users := db.view.users.upsert row
        (fun old => if row.nickname ≠ "" then { old with nickname := row.nickname } else old)
        (by intro old; split <;> rfl) }, true)

def loadAuthUserId (db : LocalDatabase) (ok : Bool) : String :=
  if ok then db.view.authUserId else ""

def loadSession (db : LocalDatabase) (ok ownerOk : Bool) (sessionId : String) :
    Option Session :=
  if ¬ ok ∨ sessionId = "" then none
  else
    (db.view.sessions.find? sessionId).map fun row =>
      Session.restore row.sessionId row.sessionType (db.loadAuthUserId ownerOk)
        row.sessionName row.peerUserId row.unreadCount

/-- An empty peer keeps the stored one. -/
def saveSession (db : LocalDatabase) (depth : Nat) (run : SaveRun) (session : Session) :
    LocalDatabase × Bool :=
  if session.sessionId = "" then (db, false)
  else
    let (after, result) := db.runInTransaction depth run.transaction fun inner =>
      if run.executed then
        let row : SessionRow := ⟨session.sessionId, session.sessionType, session.sessionName,
          session.peerUserId, session.unreadCount⟩
        (inner.write { inner.view with
          sessions := inner.view.sessions.upsert row
            (fun old => { row with
              sessionId := old.sessionId
              peerUserId := if row.peerUserId ≠ "" then row.peerUserId else old.peerUserId })
            fun _ => rfl }, some ())
      else (inner, none)
    (after, result.isSome)

def removeSession (db : LocalDatabase) (depth : Nat) (run : RemoveSessionRun)
    (sessionId : String) : LocalDatabase × Bool :=
  if sessionId = "" then (db, false)
  else
    let (after, result) := db.runInTransaction depth run.transaction fun inner =>
      if ¬ run.acksDeleted then (inner, none)
      else
        let ofSession := (inner.view.messages.select fun row =>
          row.sessionId = sessionId).map LocalMessageRow.msgId
        let unacked := inner.write { inner.view with
          pendingAcks := inner.view.pendingAcks.filter fun msgId => msgId ∉ ofSession }
        if ¬ run.messagesDeleted then (unacked, none)
        else
          let emptied := unacked.write { unacked.view with
            messages := unacked.view.messages.deleteWhere fun row => row.sessionId = sessionId }
          if ¬ run.sessionDeleted then (emptied, none)
          else
            (emptied.write { emptied.view with
              sessions := emptied.view.sessions.deleteWhere fun row =>
                row.sessionId = sessionId }, some ())
    (after, result.isSome)

/-! ## Groups -/

def loadGroup (db : LocalDatabase) (ok membersOk : Bool) (groupId : String) : Option Group :=
  if ¬ ok ∨ groupId = "" then none
  else
    (db.view.groups.find? groupId).map fun row => {
      groupId := row.groupId
      groupName := some row.name
      creatorUserId := some row.creatorUserId
      members :=
        if membersOk then
          (db.view.groupMembers.select fun member => member.groupId = groupId).map
            fun member => ⟨member.userId, member.role⟩
        else [] }

def insertMembers (db : LocalDatabase) (inserted : String → Bool) (groupId : String) :
    List GroupMember → LocalDatabase × Option Unit
  | [] => (db, some ())
  | member :: rest =>
      if ¬ inserted member.userId then (db, none)
      else
        match db.view.groupMembers.insert? ⟨groupId, member.userId, member.role⟩ with
        | none => (db, none)
        | some groupMembers =>
            insertMembers (db.write { db.view with groupMembers := groupMembers }) inserted
              groupId rest

/-- A name or a creator that is the null string breaks its `NOT NULL`. -/
def saveGroup (db : LocalDatabase) (depth : Nat) (run : SaveGroupRun) (group : Group) :
    LocalDatabase × Bool :=
  if group.groupId = "" then (db, false)
  else
    let (after, result) := db.runInTransaction depth run.transaction fun inner =>
      match run.upserted, group.groupName, group.creatorUserId with
      | true, some name, some creatorUserId =>
          let row : LocalGroupRow := ⟨group.groupId, name, creatorUserId⟩
          let upserted := inner.write { inner.view with
            groups := inner.view.groups.upsert row
              (fun old => { row with groupId := old.groupId }) fun _ => rfl }
          if ¬ run.membersDeleted then (upserted, none)
          else
            insertMembers (upserted.write { upserted.view with
              groupMembers := upserted.view.groupMembers.deleteWhere fun member =>
                member.groupId = group.groupId })
              run.memberInserted group.groupId group.members
      | _, _, _ => (inner, none)
    (after, result.isSome)

def removeGroup (db : LocalDatabase) (depth : Nat) (run : RemoveGroupRun)
    (groupId : String) : LocalDatabase × Bool :=
  if groupId = "" then (db, false)
  else
    let (after, result) := db.runInTransaction depth run.transaction fun inner =>
      if ¬ run.membersDeleted then (inner, none)
      else
        let emptied := inner.write { inner.view with
          groupMembers := inner.view.groupMembers.deleteWhere fun member =>
            member.groupId = groupId }
        if ¬ run.groupDeleted then (emptied, none)
        else
          (emptied.write { emptied.view with
            groups := emptied.view.groups.deleteWhere fun row => row.groupId = groupId },
            some ())
    (after, result.isSome)

def listGroups (db : LocalDatabase) (ok : Bool) : List LocalGroupRow :=
  if ok then db.view.groups.rows else []

def unreadOf (db : LocalDatabase) (sessionId : String) : Int :=
  max 0 (((db.view.sessions.find? sessionId).map SessionRow.unreadCount).getD 0)

theorem loadSession_eq_some {db : LocalDatabase} {ok ownerOk : Bool} {sessionId : String}
    {session : Session} (loaded : db.loadSession ok ownerOk sessionId = some session) :
    session.sessionId = sessionId ∧ session.unreadCount = db.unreadOf sessionId := by
  unfold loadSession at loaded
  split at loaded
  · cases loaded
  · obtain ⟨row, found, rfl⟩ := Option.map_eq_some_iff.mp loaded
    refine ⟨((RowTable.find?_eq_some _ _ _).mp found).2, ?_⟩
    simp only [unreadOf, found, Session.restore, Option.map_some, Option.getD_some]
    split <;> omega

/-! ## What the repositories leave alone -/

theorem frame_upsertUser {Field : Type} (field : LocalTables → Field)
    (kept : ∀ tables users, field { tables with users := users } = field tables)
    (db : LocalDatabase) (ok : Bool) (userId nickname : String) :
    field (db.upsertUser ok userId nickname).1.view = field db.view := by
  unfold upsertUser
  split
  · rfl
  · rw [view_write, kept]

theorem frame_saveSession {Field : Type} (field : LocalTables → Field)
    (kept : ∀ tables sessions, field { tables with sessions := sessions } = field tables)
    (db : LocalDatabase) (depth : Nat) (run : SaveRun) (session : Session) :
    field (db.saveSession depth run session).1.view = field db.view := by
  unfold saveSession
  split
  · rfl
  · apply db.runInTransaction_frame depth run.transaction _ field
    intro inner
    split
    · rw [view_write, kept]
    · rfl

theorem frame_removeSession {Field : Type} (field : LocalTables → Field)
    (kept : ∀ tables messages pendingAcks sessions,
      field { tables with messages := messages, pendingAcks := pendingAcks, sessions := sessions } =
        field tables)
    (db : LocalDatabase) (depth : Nat) (run : RemoveSessionRun) (sessionId : String) :
    field (db.removeSession depth run sessionId).1.view = field db.view := by
  have acks : ∀ tables pendingAcks,
      field { tables with pendingAcks := pendingAcks } = field tables :=
    fun tables pendingAcks => kept tables tables.messages pendingAcks tables.sessions
  have messages : ∀ tables messages, field { tables with messages := messages } = field tables :=
    fun tables messages => kept tables messages tables.pendingAcks tables.sessions
  have sessions : ∀ tables sessions, field { tables with sessions := sessions } = field tables :=
    fun tables sessions => kept tables tables.messages tables.pendingAcks sessions
  unfold removeSession
  split
  · rfl
  · apply db.runInTransaction_frame depth run.transaction _ field
    intro inner
    split
    · rfl
    · simp only
      split
      · rw [view_write, acks]
      · split
        · rw [view_write, messages, view_write, acks]
        · rw [view_write, sessions, view_write, messages, view_write, acks]

theorem saveSession_nested (db : LocalDatabase) (depth : Nat) (run : SaveRun)
    (session : Session) (named : session.sessionId ≠ "") :
    (db.saveSession (depth + 1) run session).2 = (run.transaction.isOpen && run.executed) := by
  unfold saveSession
  rw [if_neg named, runInTransaction_nested]
  cases run.transaction.isOpen <;> cases run.executed <;> rfl

def sessionsAfterSave (sessions : SessionTable) (session : Session) : SessionTable :=
  let row : SessionRow := ⟨session.sessionId, session.sessionType, session.sessionName,
    session.peerUserId, session.unreadCount⟩
  sessions.upsert row
    (fun old => { row with
      sessionId := old.sessionId
      peerUserId := if row.peerUserId ≠ "" then row.peerUserId else old.peerUserId })
    fun _ => rfl

theorem view_saveSession_nested {db after : LocalDatabase} {depth : Nat} {run : SaveRun}
    {session : Session} (saved : db.saveSession (depth + 1) run session = (after, true)) :
    after.view = { db.view with sessions := sessionsAfterSave db.view.sessions session } := by
  unfold saveSession at saved
  split at saved
  · cases saved
  rw [runInTransaction_nested] at saved
  cases isOpen : run.transaction.isOpen with
  | false => simp [isOpen] at saved
  | true =>
      cases executed : run.executed with
      | false => simp [isOpen, executed] at saved
      | true =>
          simp only [isOpen, executed, if_true, Option.isSome_some, Prod.mk.injEq,
            and_true] at saved
          rw [← saved, view_write]
          rfl

theorem unreadOf_saveSession {db after : LocalDatabase} {depth : Nat} {run : SaveRun}
    {session : Session} (saved : db.saveSession (depth + 1) run session = (after, true))
    (other : String) :
    after.unreadOf other =
      if other = session.sessionId then max 0 session.unreadCount else db.unreadOf other := by
  rw [unreadOf, view_saveSession_nested saved, sessionsAfterSave, RowTable.find?_upsert, unreadOf]
  by_cases same : other = session.sessionId
  · rw [if_pos same, if_pos same]
    cases db.view.sessions.find? other <;> rfl
  · rw [if_neg same, if_neg same]

theorem frame_insertMembers {Field : Type} (field : LocalTables → Field)
    (kept : ∀ tables groupMembers,
      field { tables with groupMembers := groupMembers } = field tables)
    (inserted : String → Bool) (groupId : String) (members : List GroupMember) :
    ∀ db : LocalDatabase,
      field (db.insertMembers inserted groupId members).1.view = field db.view := by
  induction members with
  | nil =>
      intro db
      rfl
  | cons member rest ih =>
      intro db
      unfold insertMembers
      split
      · rfl
      · split
        · rfl
        · rw [ih, view_write, kept]

theorem frame_saveGroup {Field : Type} (field : LocalTables → Field)
    (kept : ∀ tables groups groupMembers,
      field { tables with groups := groups, groupMembers := groupMembers } = field tables)
    (db : LocalDatabase) (depth : Nat) (run : SaveGroupRun) (group : Group) :
    field (db.saveGroup depth run group).1.view = field db.view := by
  have members : ∀ tables groupMembers,
      field { tables with groupMembers := groupMembers } = field tables :=
    fun tables groupMembers => kept tables tables.groups groupMembers
  have groups : ∀ tables groups, field { tables with groups := groups } = field tables :=
    fun tables groups => kept tables groups tables.groupMembers
  unfold saveGroup
  split
  · rfl
  · apply db.runInTransaction_frame depth run.transaction _ field
    intro inner
    split
    · simp only
      split
      · rw [view_write, groups]
      · rw [frame_insertMembers field members, view_write, members, view_write, groups]
    · rfl

theorem frame_removeGroup {Field : Type} (field : LocalTables → Field)
    (kept : ∀ tables groups groupMembers,
      field { tables with groups := groups, groupMembers := groupMembers } = field tables)
    (db : LocalDatabase) (depth : Nat) (run : RemoveGroupRun) (groupId : String) :
    field (db.removeGroup depth run groupId).1.view = field db.view := by
  have members : ∀ tables groupMembers,
      field { tables with groupMembers := groupMembers } = field tables :=
    fun tables groupMembers => kept tables tables.groups groupMembers
  have groups : ∀ tables groups, field { tables with groups := groups } = field tables :=
    fun tables groups => kept tables groups tables.groupMembers
  unfold removeGroup
  split
  · rfl
  · apply db.runInTransaction_frame depth run.transaction _ field
    intro inner
    split
    · rfl
    · simp only
      split
      · rw [view_write, members]
      · rw [view_write, groups, view_write, members]

end LocalDatabase

end ShirohaChat
