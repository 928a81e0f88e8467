import ShirohaChat.Client.LocalGroups

/-!
# What the repositories do to the stored sessions

Where a transaction either commits or is undone, a saved session is stored with
its unread count or nothing changes, and the group repository leaves the
sessions alone.
-/

set_option autoImplicit false

namespace ShirohaChat

namespace LocalDatabase

variable {db after : LocalDatabase}

def HasSession (db : LocalDatabase) (sessionId : String) : Prop :=
  ∃ row ∈ db.view.sessions.rows, row.sessionId = sessionId

structure SoundSessions (db : LocalDatabase) : Prop where
  idle : db.Idle
  named : ∀ row ∈ db.view.sessions.rows, row.sessionId ≠ ""
  counted : ∀ row ∈ db.view.sessions.rows, 0 ≤ row.unreadCount

theorem SoundSessions.unreadOf_row (sound : db.SoundSessions) {row : SessionRow}
    (rowIn : row ∈ db.view.sessions.rows) : db.unreadOf row.sessionId = row.unreadCount := by
  have found := (db.view.sessions.find?_eq_some row.sessionId row).mpr ⟨rowIn, rfl⟩
  rw [unreadOf, found, Option.map_some, Option.getD_some]
  exact max_eq_right (sound.counted row rowIn)

theorem unreadOf_congr (same : after.view.sessions = db.view.sessions) (sessionId : String) :
    after.unreadOf sessionId = db.unreadOf sessionId := by
  rw [unreadOf, same]
  rfl

theorem hasSession_congr (same : after.view.sessions = db.view.sessions) (sessionId : String) :
    after.HasSession sessionId ↔ db.HasSession sessionId := by
  rw [HasSession, same]
  exact Iff.rfl

theorem SoundSessions.of_sessions (sound : db.SoundSessions) (idle : after.Idle)
    (same : after.view.sessions = db.view.sessions) : after.SoundSessions :=
  ⟨idle, by rw [same]; exact sound.named, by rw [same]; exact sound.counted⟩

theorem unreadOf_absent {sessionId : String} (absent : ¬ db.HasSession sessionId) :
    db.unreadOf sessionId = 0 := by
  have none : db.view.sessions.find? sessionId = none :=
    (db.view.sessions.find?_eq_none sessionId).mpr fun row rowIn same => absent ⟨row, rowIn, same⟩
  rw [unreadOf, none]
  rfl

theorem SoundSessions.unreadOf_empty (sound : db.SoundSessions) : db.unreadOf "" = 0 :=
  unreadOf_absent fun ⟨row, rowIn, unnamed⟩ => sound.named row rowIn unnamed

theorem loadSession_eq_none {sessionId : String} (named : sessionId ≠ "") :
    db.loadSession true true sessionId = none ↔ ¬ db.HasSession sessionId := by
  unfold loadSession
  rw [if_neg (by simp [named]), Option.map_eq_none_iff, RowTable.find?_eq_none]
  simp [HasSession]

theorem loadSession_stored {sessionId : String} {session : Session}
    (loaded : db.loadSession true true sessionId = some session) :
    sessionId ≠ "" ∧ db.HasSession sessionId := by
  have named : sessionId ≠ "" := by
    rintro rfl
    unfold loadSession at loaded
    rw [if_pos (by simp)] at loaded
    cases loaded
  refine ⟨named, by_contra fun absent => ?_⟩
  rw [(loadSession_eq_none named).mpr absent] at loaded
  cases loaded

theorem ownerUserId_loadSession {ok ownerOk : Bool} {sessionId : String} {session : Session}
    (loaded : db.loadSession ok ownerOk sessionId = some session) :
    session.ownerUserId = db.loadAuthUserId ownerOk := by
  unfold loadSession at loaded
  split at loaded
  · cases loaded
  · obtain ⟨row, _, rfl⟩ := Option.map_eq_some_iff.mp loaded
    rfl

/-! ## Saving a session -/

theorem Idle.view_saveSession (idle : db.Idle) (commits : Bool) {session : Session}
    (named : session.sessionId ≠ "") :
    (db.saveSession 0 { transaction := .ending commits } session).1.view =
      if commits then { db.view with sessions := sessionsAfterSave db.view.sessions session }
      else db.view := by
  have started : ({ db with transaction := some db.committed } : LocalDatabase).view = db.view :=
    idle.view_eq.symm
  unfold LocalDatabase.saveSession
  rw [if_neg named]
  simp only [idle.runInTransaction_ending, if_true, view_write, started]
  cases commits
  · rfl
  · rfl

structure SessionSaved (db after : LocalDatabase) (saved : Bool) (session : Session) : Prop where
  sound : after.SoundSessions
  authUserId : after.view.authUserId = db.view.authUserId
  hasSession : ∀ other, after.HasSession other ↔
    (saved = true ∧ other = session.sessionId) ∨ db.HasSession other
  unreadOf : ∀ other, after.unreadOf other =
    if saved = true ∧ other = session.sessionId then session.unreadCount else db.unreadOf other

theorem SoundSessions.of_sessionsAfterSave (sound : db.SoundSessions) (idle : after.Idle)
    {session : Session} (named : session.sessionId ≠ "") (counted : 0 ≤ session.unreadCount)
    (stored : after.view.sessions = sessionsAfterSave db.view.sessions session)
    (authUserId : after.view.authUserId = db.view.authUserId) :
    SessionSaved db after true session := by
  have found : ∀ other, (after.view.sessions.find? other).map SessionRow.unreadCount =
      if other = session.sessionId then some session.unreadCount
      else (db.view.sessions.find? other).map SessionRow.unreadCount := by
    intro other
    rw [stored, sessionsAfterSave, RowTable.find?_upsert]
    by_cases same : other = session.sessionId
    · rw [if_pos same, if_pos same]
      cases db.view.sessions.find? other <;> rfl
    · rw [if_neg same, if_neg same]
  have hasSession : ∀ other, after.HasSession other ↔
      other = session.sessionId ∨ db.HasSession other := by
    intro other
    rw [HasSession, stored]
    exact RowTable.exists_key_upsert _ _ _ _ other
  refine ⟨⟨idle, ?_, ?_⟩, authUserId, ?_, ?_⟩
  · intro row rowIn unnamed
    rcases (hasSession "").mp ⟨row, rowIn, unnamed⟩ with own | ⟨old, oldIn, oldUnnamed⟩
    · exact named own.symm
    · exact sound.named old oldIn oldUnnamed
  · intro row rowIn
    have count := found row.sessionId
    rw [(after.view.sessions.find?_eq_some _ _).mpr ⟨rowIn, rfl⟩, Option.map_some] at count
    split at count
    · rw [Option.some.inj count]
      exact counted
    · obtain ⟨old, oldFound, sameCount⟩ := Option.map_eq_some_iff.mp count.symm
      rw [← sameCount]
      exact sound.counted old ((RowTable.find?_eq_some _ _ _).mp oldFound).1
  · intro other
    rw [hasSession]
    simp
  · intro other
    rw [LocalDatabase.unreadOf, found]
    by_cases same : other = session.sessionId
    · rw [if_pos same, if_pos ⟨rfl, same⟩]
      exact max_eq_right counted
    · rw [if_neg same, if_neg (fun both => same both.2)]
      rfl

theorem SoundSessions.sessionSaved (sound : db.SoundSessions) (commits : Bool)
    {session : Session} (named : session.sessionId ≠ "") (counted : 0 ≤ session.unreadCount) :
    SessionSaved db (db.saveSession 0 { transaction := .ending commits } session).1 commits
      session := by
  have view := sound.idle.view_saveSession commits named
  have idle := sound.idle.saveSession_closed { transaction := .ending commits }
    (TransactionRun.ending_closed commits) session
  generalize (db.saveSession 0 { transaction := .ending commits } session).1 = after at view idle
  cases commits with
  | false =>
      have same : after.view = db.view := view
      have sameSessions : after.view.sessions = db.view.sessions := by rw [same]
      refine ⟨sound.of_sessions idle sameSessions, by rw [same], ?_, ?_⟩
      · intro other
        rw [hasSession_congr sameSessions]
        simp
      · intro other
        rw [unreadOf_congr sameSessions]
        simp
  | true =>
      exact sound.of_sessionsAfterSave idle named counted (by rw [view]; rfl) (by rw [view]; rfl)

/-! ## Databases with the same counts -/

structure SameCounts (db after : LocalDatabase) : Prop where
  sound : after.SoundSessions
  authUserId : after.view.authUserId = db.view.authUserId
  hasSession : ∀ sessionId, db.HasSession sessionId → after.HasSession sessionId
  unreadOf : ∀ sessionId, after.unreadOf sessionId = db.unreadOf sessionId

theorem SoundSessions.sameCounts (sound : db.SoundSessions) : SameCounts db db :=
  ⟨sound, rfl, fun _ => id, fun _ => rfl⟩

theorem SameCounts.trans {first second third : LocalDatabase} (left : SameCounts first second)
    (right : SameCounts second third) : SameCounts first third :=
  ⟨right.sound, right.authUserId.trans left.authUserId,
    fun sessionId stored => right.hasSession sessionId (left.hasSession sessionId stored),
    fun sessionId => (right.unreadOf sessionId).trans (left.unreadOf sessionId)⟩

theorem SoundSessions.sameCounts_of_sessions (sound : db.SoundSessions) (idle : after.Idle)
    (sessions : after.view.sessions = db.view.sessions)
    (authUserId : after.view.authUserId = db.view.authUserId) : SameCounts db after :=
  ⟨sound.of_sessions idle sessions, authUserId,
    fun sessionId => (hasSession_congr sessions sessionId).mpr, unreadOf_congr sessions⟩

theorem SoundSessions.sameCounts_foldl {Row : Type} {change : LocalDatabase → Row → LocalDatabase}
    (step : ∀ (db : LocalDatabase) (row : Row), db.SoundSessions → SameCounts db (change db row))
    (rows : List Row) :
    ∀ db : LocalDatabase, db.SoundSessions → SameCounts db (rows.foldl change db) := by
  induction rows with
  | nil =>
      intro db sound
      exact sound.sameCounts
  | cons row rest ih =>
      intro db sound
      have first := step db row sound
      exact first.trans (ih _ first.sound)

theorem SoundSessions.sameCounts_saveSession (sound : db.SoundSessions) (commits : Bool)
    {session : Session} (sameCount : session.unreadCount = db.unreadOf session.sessionId) :
    SameCounts db (db.saveSession 0 { transaction := .ending commits } session).1 := by
  by_cases named : session.sessionId = ""
  · have unchanged : (db.saveSession 0 { transaction := .ending commits } session).1 = db := by
      unfold LocalDatabase.saveSession
      rw [if_pos named]
    rw [unchanged]
    exact sound.sameCounts
  · have counted : 0 ≤ session.unreadCount := sameCount ▸ Int.le_max_left _ _
    have saved := sound.sessionSaved commits named counted
    refine ⟨saved.sound, saved.authUserId, fun other stored =>
      (saved.hasSession other).mpr (Or.inr stored), ?_⟩
    intro other
    rw [saved.unreadOf]
    split
    · rename_i own
      rw [own.2, sameCount]
    · rfl

theorem SoundSessions.sameCounts_saveGroup (sound : db.SoundSessions) (commits : Bool)
    (group : Group) :
    SameCounts db (db.saveGroup 0 { transaction := .ending commits } group).1 := by
  have idle := sound.idle.saveGroup_closed { transaction := .ending commits }
    (TransactionRun.ending_closed commits) group
  exact sound.sameCounts_of_sessions idle
    (frame_saveGroup LocalTables.sessions (fun _ _ _ => rfl) _ _ _ _)
    (frame_saveGroup LocalTables.authUserId (fun _ _ _ => rfl) _ _ _ _)

theorem SoundSessions.sameCounts_removeGroup (sound : db.SoundSessions) (commits : Bool)
    (groupId : String) :
    SameCounts db (db.removeGroup 0 { transaction := .ending commits } groupId).1 := by
  have idle := sound.idle.removeGroup_closed { transaction := .ending commits }
    (TransactionRun.ending_closed commits) groupId
  exact sound.sameCounts_of_sessions idle
    (frame_removeGroup LocalTables.sessions (fun _ _ _ => rfl) _ _ _ _)
    (frame_removeGroup LocalTables.authUserId (fun _ _ _ => rfl) _ _ _ _)

/-! ## Removing a session -/

structure SessionRemoved (db after : LocalDatabase) (removed : Bool) (sessionId : String) :
    Prop where
  sound : after.SoundSessions
  authUserId : after.view.authUserId = db.view.authUserId
  unreadOf : ∀ other, after.unreadOf other =
    if removed = true ∧ other = sessionId then 0 else db.unreadOf other

theorem Idle.sessions_removeSession (idle : db.Idle) (commits : Bool) {sessionId : String}
    (named : sessionId ≠ "") :
    (db.removeSession 0 { transaction := .ending commits } sessionId).1.view.sessions =
      if commits then
        db.view.sessions.deleteWhere fun row => row.sessionId = sessionId
      else db.view.sessions := by
  have started : ({ db with transaction := some db.committed } : LocalDatabase).view = db.view :=
    idle.view_eq.symm
  unfold LocalDatabase.removeSession
  rw [if_neg named]
  simp only [idle.runInTransaction_ending, not_true_eq_false, if_false, view_write, started]
  cases commits
  · rfl
  · rfl

theorem SoundSessions.sessionRemoved (sound : db.SoundSessions) (commits : Bool)
    {sessionId : String} (named : sessionId ≠ "") :
    SessionRemoved db (db.removeSession 0 { transaction := .ending commits } sessionId).1 commits
      sessionId := by
  have sessions := sound.idle.sessions_removeSession commits named
  have authUserId := frame_removeSession LocalTables.authUserId (fun _ _ _ _ => rfl) db 0
    { transaction := .ending commits } sessionId
  have idle := sound.idle.removeSession_closed { transaction := .ending commits }
    (TransactionRun.ending_closed commits) sessionId
  generalize (db.removeSession 0 { transaction := .ending commits } sessionId).1 = after
    at sessions authUserId idle
  cases commits with
  | false =>
      refine ⟨sound.of_sessions idle sessions, authUserId, ?_⟩
      intro other
      rw [unreadOf_congr sessions]
      simp
  | true =>
      rw [if_pos rfl] at sessions
      have kept : ∀ row ∈ after.view.sessions.rows, row ∈ db.view.sessions.rows := by
        intro row rowIn
        rw [sessions, RowTable.mem_deleteWhere] at rowIn
        exact rowIn.1
      refine ⟨⟨idle, fun row rowIn => sound.named row (kept row rowIn),
        fun row rowIn => sound.counted row (kept row rowIn)⟩, authUserId, ?_⟩
      intro other
      rw [LocalDatabase.unreadOf, sessions, RowTable.find?_deleteWhere, LocalDatabase.unreadOf]
      cases found : db.view.sessions.find? other with
      | none => simp
      | some row =>
          have isOther := ((RowTable.find?_eq_some _ _ _).mp found).2
          rw [Option.filter_some, isOther]
          by_cases own : other = sessionId
          · simp [own]
          · simp [own]

end LocalDatabase
end ShirohaChat
