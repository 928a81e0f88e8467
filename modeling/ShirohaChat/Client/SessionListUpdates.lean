import ShirohaChat.Client.ShownSessions

/-!
# What the handlers do to the sessions

Each handler keeps the table free of unread messages of the current session, and
leaves the list showing the stored counts: most of them load it again at their
end, a switch clears one count on either side.
-/

set_option autoImplicit false

namespace ShirohaChat

open LocalDatabase

/-! ## Writes that change no count -/

namespace SessionClient

variable {db : LocalDatabase}

theorem saveSession_sameCounts (sound : db.SoundSessions) (commits : Bool) {session : Session}
    (sameCount : session.unreadCount = db.unreadOf session.sessionId) :
    SameCounts db (saveSession db commits session) :=
  sound.sameCounts_saveSession commits sameCount

theorem saveSession_updateMetadata (sound : db.SoundSessions) (commits : Bool)
    {sessionId : String} {session : Session}
    (loaded : db.loadSession true true sessionId = some session) (name peer : String) :
    SameCounts db (saveSession db commits (session.updateMetadata name peer)) := by
  obtain ⟨own, count⟩ := loadSession_eq_some loaded
  apply saveSession_sameCounts sound commits
  rw [Session.updateMetadata_unreadCount, Session.updateMetadata_sessionId, own]
  exact count

/-- A new session starts with the count that an absent one has. -/
theorem saveSession_new (sound : db.SoundSessions) (commits : Bool) {new : Session}
    (absent : db.loadSession true true new.sessionId = none) (unread : new.unreadCount = 0) :
    SameCounts db (saveSession db commits new) := by
  apply saveSession_sameCounts sound commits
  rw [unread]
  by_cases named : new.sessionId = ""
  · rw [named, sound.unreadOf_empty]
  · exact (unreadOf_absent ((loadSession_eq_none named).mp absent)).symm

theorem renameSession_sameCounts (sound : db.SoundSessions) (commits : Bool) {new : Session}
    (unread : new.unreadCount = 0) : SameCounts db (renameSession db commits new) := by
  unfold renameSession
  cases loaded : db.loadSession true true new.sessionId with
  | none => exact saveSession_new sound commits loaded unread
  | some session => exact saveSession_updateMetadata sound commits loaded _ _

theorem ensureGroupSession_sameCounts (sound : db.SoundSessions) (commits : Bool)
    (row : LocalGroupRow) : SameCounts db (ensureGroupSession commits db row) := by
  unfold ensureGroupSession
  split
  · exact sound.sameCounts
  · cases loaded : db.loadSession true true row.groupId with
    | none => exact saveSession_new sound commits loaded rfl
    | some session =>
        simp only
        split
        · exact saveSession_updateMetadata sound commits loaded _ _
        · exact sound.sameCounts

theorem refreshSession_sameCounts (sound : db.SoundSessions) (commits : Bool) (row : SessionRow) :
    SameCounts db (refreshSession commits db row) ∧
      ∀ other, (refreshSession commits db row).HasSession other → db.HasSession other := by
  unfold refreshSession
  cases db.loadGroup true true row.sessionId with
  | none => exact ⟨sound.sameCounts, fun _ => id⟩
  | some group =>
      simp only
      split
      · cases loaded : db.loadSession true true row.sessionId with
        | none => exact ⟨sound.sameCounts, fun _ => id⟩
        | some session =>
            refine ⟨saveSession_updateMetadata sound commits loaded _ _, fun other stored => ?_⟩
            obtain ⟨own, count⟩ := loadSession_eq_some loaded
            obtain ⟨named, known⟩ := loadSession_stored loaded
            have saved := sound.sessionSaved commits
              (show (session.updateMetadata (trimmed (group.groupName.getD "")) "").sessionId ≠ ""
                from own ▸ named) (count ▸ Int.le_max_left _ _)
            rcases (saved.hasSession other).mp stored with ⟨_, same⟩ | old
            · rw [same, Session.updateMetadata_sessionId, own]
              exact known
            · exact old
      · exact ⟨sound.sameCounts, fun _ => id⟩

theorem refreshSessions_sameCounts (refreshed : String → Bool) (rows : List SessionRow) :
    ∀ db : LocalDatabase, db.SoundSessions →
      SameCounts db (rows.foldl
        (fun db row => refreshSession (refreshed row.sessionId) db row) db) ∧
      ∀ other, (rows.foldl (fun db row => refreshSession (refreshed row.sessionId) db row)
        db).HasSession other → db.HasSession other := by
  induction rows with
  | nil =>
      intro db sound
      exact ⟨sound.sameCounts, fun _ => id⟩
  | cons row rest ih =>
      intro db sound
      have first := refreshSession_sameCounts sound (refreshed row.sessionId) row
      have later := ih _ first.1.sound
      exact ⟨first.1.trans later.1, fun other stored => first.2 other (later.2 other stored)⟩

theorem applyEntry_sameCounts (sound : db.SoundSessions) (groupSaved sessionSaved : Bool)
    (entry : GroupListEntryDto) :
    SameCounts db (applyEntry groupSaved sessionSaved db entry) := by
  unfold applyEntry
  split
  · exact sound.sameCounts
  · have saved := sound.sameCounts_saveGroup groupSaved
      ⟨entry.groupId, entry.groupName, entry.creatorUserId, entry.members, false⟩
    exact saved.trans (renameSession_sameCounts saved.sound sessionSaved rfl)

/-! ## Loading the sessions -/

structure SameUser (client after : SessionClient) : Prop where
  selfUserId : after.selfUserId = client.selfUserId
  isAuthenticated : after.isAuthenticated = client.isAuthenticated
  currentSessionId : after.currentSessionId = client.currentSessionId
  activeSessionId : after.activeSessionId = client.activeSessionId

structure Synced (client after : SessionClient) : Prop extends SameUser client after where
  counts : SameCounts client.db after.db

variable {client : SessionClient}

theorem sessionId_sessionItem (db : LocalDatabase) (row : SessionRow) :
    (sessionItem db row).sessionId = row.sessionId := rfl

theorem loadSessions_synced (sound : client.db.SoundSessions) (run : LoadSessionsRun) :
    Synced client (client.loadSessions run) ∧
      SessionListModel.Shows (client.loadSessions run).sessions (client.loadSessions run).db := by
  have ensured := SoundSessions.sameCounts_foldl
    (fun db row sound => ensureGroupSession_sameCounts sound (run.ensured row.groupId) row)
    (client.db.listGroups true) client.db sound
  generalize ensuredDef : (client.db.listGroups true).foldl
    (fun db row => ensureGroupSession (run.ensured row.groupId) db row) client.db = stored
    at ensured
  have allNamed : (stored.view.sessions.rows.filter fun row => row.sessionId ≠ "") =
      stored.view.sessions.rows := by
    apply List.filter_eq_self.mpr
    intro row rowIn
    simpa using ensured.sound.named row rowIn
  have refreshed := refreshSessions_sameCounts run.refreshed stored.view.sessions.rows stored
    ensured.sound
  have loadedDb : (client.loadSessions run).db = stored.view.sessions.rows.foldl
      (fun db row => refreshSession (run.refreshed row.sessionId) db row) stored := by
    unfold loadSessions
    simp only [ensuredDef, allNamed]
  have loadedList : (client.loadSessions run).sessions =
      stored.view.sessions.rows.map fun row => (sessionItem stored row).withName := by
    unfold loadSessions
    simp only [ensuredDef, allNamed, SessionListModel.refresh, List.map_map]
    rfl
  rw [← loadedDb] at refreshed
  refine ⟨⟨⟨rfl, rfl, rfl, rfl⟩, ensured.trans refreshed.1⟩, ?_, ?_, ?_⟩
  · rw [loadedList, List.map_map]
    refine (List.map_congr_left fun row _ => ?_) ▸ stored.view.sessions.keysNodup
    simp [sessionId_sessionItem]
  · intro other known
    obtain ⟨row, rowIn, isOther⟩ := refreshed.2 other known
    rw [loadedList]
    exact ⟨_, List.mem_map.mpr ⟨row, rowIn, rfl⟩, by simp [sessionId_sessionItem, isOther]⟩
  · intro item itemIn
    rw [loadedList] at itemIn
    obtain ⟨row, rowIn, rfl⟩ := List.mem_map.mp itemIn
    rw [refreshed.1.unreadOf]
    simp only [SessionListModel.sessionId_withName, SessionListModel.unreadCount_withName,
      sessionId_sessionItem]
    exact (ensured.sound.unreadOf_row rowIn).symm

theorem syncGroupSessions_synced (sound : client.db.SoundSessions) (run : LoadSessionsRun) :
    Synced client (client.syncGroupSessions run) ∧
      (SessionListModel.Shows client.sessions client.db → SessionListModel.Shows
        (client.syncGroupSessions run).sessions (client.syncGroupSessions run).db) := by
  unfold syncGroupSessions
  split
  · exact ⟨⟨⟨rfl, rfl, rfl, rfl⟩, sound.sameCounts⟩, id⟩
  split
  · exact ⟨⟨⟨rfl, rfl, rfl, rfl⟩, sound.sameCounts⟩, id⟩
  · obtain ⟨synced, shows⟩ := loadSessions_synced sound run
    exact ⟨⟨⟨rfl, rfl, rfl, rfl⟩, synced.counts⟩, fun _ => shows⟩

/-! ## What every handler keeps -/

structure Kept (client : SessionClient) : Prop where
  sound : client.db.SoundSessions
  active : client.activeSessionId = client.currentSessionId
  read : client.db.unreadOf client.currentSessionId = 0

structure Shown (client : SessionClient) : Prop where
  owner : client.db.view.authUserId = client.selfUserId
  shows : SessionListModel.Shows client.sessions client.db

structure Carries (client after : SessionClient) : Prop where
  kept : after.Kept
  authUserId : after.db.view.authUserId = client.db.view.authUserId
  selfUserId : after.selfUserId = client.selfUserId
  isAuthenticated : after.isAuthenticated = client.isAuthenticated

theorem Carries.trans {first second third : SessionClient} (left : Carries first second)
    (right : Carries second third) : Carries first third :=
  ⟨right.kept, right.authUserId.trans left.authUserId, right.selfUserId.trans left.selfUserId,
    right.isAuthenticated.trans left.isAuthenticated⟩

theorem Kept.carries (kept : client.Kept) : Carries client client := ⟨kept, rfl, rfl, rfl⟩

theorem Kept.of_synced (kept : client.Kept) {after : SessionClient}
    (synced : Synced client after) : Carries client after := by
  refine ⟨⟨synced.counts.sound, ?_, ?_⟩, synced.counts.authUserId, synced.selfUserId,
    synced.isAuthenticated⟩
  · rw [synced.activeSessionId, synced.currentSessionId]
    exact kept.active
  · rw [synced.counts.unreadOf, synced.currentSessionId]
    exact kept.read

theorem Kept.of_sameCounts (kept : client.Kept) {db : LocalDatabase}
    (same : SameCounts client.db db) : Carries client { client with db := db } :=
  kept.of_synced ⟨⟨rfl, rfl, rfl, rfl⟩, same⟩

theorem Carries.shown {after : SessionClient} (carries : Carries client after)
    (shown : client.Shown) (shows : SessionListModel.Shows after.sessions after.db) :
    after.Shown :=
  ⟨carries.authUserId.trans (shown.owner.trans carries.selfUserId.symm), shows⟩

theorem Kept.loadSessions (kept : client.Kept) (run : LoadSessionsRun) :
    Carries client (client.loadSessions run) ∧
      SessionListModel.Shows (client.loadSessions run).sessions (client.loadSessions run).db := by
  obtain ⟨synced, shows⟩ := loadSessions_synced kept.sound run
  exact ⟨kept.of_synced synced, shows⟩

/-- After a handler that ends with loading, the list is right whatever it showed. -/
theorem Carries.loadSessions {after : SessionClient} (carries : Carries client after)
    (run : LoadSessionsRun) :
    Carries client (after.loadSessions run) ∧
      SessionListModel.Shows (after.loadSessions run).sessions (after.loadSessions run).db := by
  obtain ⟨loaded, shows⟩ := carries.kept.loadSessions run
  exact ⟨carries.trans loaded, shows⟩

theorem Kept.clearCurrentSession (kept : client.Kept) :
    Carries client client.clearCurrentSession :=
  ⟨⟨kept.sound, rfl, kept.sound.unreadOf_empty⟩, rfl, rfl, rfl⟩

theorem updateCurrentSessionInfo_same (client : SessionClient) (sessionId : String)
    (sessionType : SessionType) (displayName : String) :
    SameUser client (client.updateCurrentSessionInfo sessionId sessionType displayName) ∧
      (client.updateCurrentSessionInfo sessionId sessionType displayName).db = client.db ∧
      (client.updateCurrentSessionInfo sessionId sessionType displayName).sessions =
        client.sessions := by
  unfold updateCurrentSessionInfo
  split
  · exact ⟨⟨rfl, rfl, rfl, rfl⟩, rfl, rfl⟩
  · exact ⟨⟨rfl, rfl, rfl, rfl⟩, rfl, rfl⟩

theorem updateCurrentSessionInfo_synced (sound : client.db.SoundSessions) (sessionId : String)
    (sessionType : SessionType) (displayName : String) :
    Synced client (client.updateCurrentSessionInfo sessionId sessionType displayName) := by
  obtain ⟨sameUser, sameDb, _⟩ :=
    client.updateCurrentSessionInfo_same sessionId sessionType displayName
  exact ⟨sameUser, sameDb ▸ sound.sameCounts⟩

/-! ## Switching and deleting -/

def MarksRead (client : SessionClient) (saved : Bool) (sessionId : String) : Prop :=
  client.currentSessionId = sessionId ∨ saved = true ∨ client.db.unreadOf sessionId = 0

/-- The session that `switchToSession` loaded at its beginning, saved as read over
tables that may have changed since. -/
def markSession (db named : LocalDatabase) (saved : Bool) (sessionId : String) : LocalDatabase :=
  match db.loadSession true true sessionId with
  | some session => saveSession named saved session.markRead
  | none => named

structure Marked (named after : LocalDatabase) (sessionId : String) : Prop where
  sound : after.SoundSessions
  authUserId : after.view.authUserId = named.view.authUserId
  hasSession : ∀ other, after.HasSession other → named.HasSession other
  unreadOf : ∀ other, after.unreadOf other =
    if other = sessionId then 0 else named.unreadOf other

theorem marked_markSession {named : LocalDatabase} (same : SameCounts db named)
    {saved : Bool} {sessionId : String} (sound : db.SoundSessions)
    (read : saved = true ∨ db.unreadOf sessionId = 0) :
    Marked named (markSession db named saved sessionId) sessionId := by
  unfold SessionClient.markSession
  cases loaded : db.loadSession true true sessionId with
  | none =>
      have unread : named.unreadOf sessionId = 0 := by
        rw [same.unreadOf]
        by_cases unnamed : sessionId = ""
        · rw [unnamed, sound.unreadOf_empty]
        · exact unreadOf_absent ((loadSession_eq_none unnamed).mp loaded)
      refine ⟨same.sound, rfl, fun _ => id, fun other => ?_⟩
      change named.unreadOf other = _
      split
      · rename_i own
        rw [own, unread]
      · rfl
  | some session =>
      obtain ⟨isNamed, known⟩ := loadSession_stored loaded
      have own := (loadSession_eq_some loaded).1
      have marked := same.sound.sessionSaved saved
        (show session.markRead.sessionId ≠ "" from own ▸ isNamed) (Int.le_refl 0)
      refine ⟨marked.sound, marked.authUserId, fun other stored => ?_, fun other => ?_⟩
      · rcases (marked.hasSession other).mp stored with ⟨_, isIt⟩ | old
        · rw [isIt, Session.markRead_sessionId, own]
          exact same.hasSession sessionId known
        · exact old
      · refine (marked.unreadOf other).trans ?_
        rw [Session.markRead_sessionId, own, Session.markRead_unreadCount]
        by_cases isIt : other = sessionId
        · rw [if_pos isIt]
          split
          · rfl
          · rename_i notSaved
            rw [isIt, same.unreadOf]
            exact read.resolve_left fun committed => notSaved ⟨committed, isIt⟩
        · rw [if_neg isIt, if_neg fun both => isIt both.2]

/-- The session is loaded before and saved after a sync of the groups. -/
theorem switchToSession_cases (sound : client.db.SoundSessions) (run : SwitchRun)
    {sessionId : String} (hint : String) (differs : client.currentSessionId ≠ sessionId) :
    ∃ named : SessionClient,
      Synced (client.setCurrentSessionId sessionId) named ∧
      (SessionListModel.Shows client.sessions client.db →
        SessionListModel.Shows named.sessions named.db) ∧
      SameUser named (client.switchToSession run sessionId hint) ∧
      (client.switchToSession run sessionId hint).db =
        markSession client.db named.db run.saved sessionId ∧
      (client.switchToSession run sessionId hint).sessions =
        SessionListModel.clearUnread sessionId named.sessions := by
  have started : (client.setCurrentSessionId sessionId).db.SoundSessions := sound
  unfold switchToSession
  rw [if_neg differs]
  simp only
  generalize syncing : (if ((client.setCurrentSessionId sessionId).db.loadGroup true true
      sessionId).isSome ∧ (((client.setCurrentSessionId sessionId).db.loadGroup true true
        sessionId).map fun group => trimmed (group.groupName.getD "")).getD "" = "" then
      (client.setCurrentSessionId sessionId).syncGroupSessions run.synced
    else client.setCurrentSessionId sessionId) = named
  have synced : Synced (client.setCurrentSessionId sessionId) named ∧
      (SessionListModel.Shows client.sessions client.db →
        SessionListModel.Shows named.sessions named.db) := by
    rw [← syncing]
    split
    · exact syncGroupSessions_synced started run.synced
    · exact ⟨⟨⟨rfl, rfl, rfl, rfl⟩, started.sameCounts⟩, id⟩
  refine ⟨named, synced.1, synced.2, ?_⟩
  unfold markSession
  cases loaded : client.db.loadSession true true sessionId with
  | none =>
      rw [show (client.setCurrentSessionId sessionId).db.loadSession true true sessionId = none
        from loaded]
      exact ⟨⟨rfl, rfl, rfl, rfl⟩, rfl, rfl⟩
  | some session =>
      rw [show (client.setCurrentSessionId sessionId).db.loadSession true true sessionId =
        some session from loaded]
      exact ⟨⟨rfl, rfl, rfl, rfl⟩, rfl, rfl⟩

theorem switchToSession_carries (kept : client.Kept) {run : SwitchRun} {sessionId : String}
    (marks : client.MarksRead run.saved sessionId) (hint : String) :
    Carries client (client.switchToSession run sessionId hint) ∧
      (SessionListModel.Shows client.sessions client.db → SessionListModel.Shows
        (client.switchToSession run sessionId hint).sessions
        (client.switchToSession run sessionId hint).db) := by
  by_cases differs : client.currentSessionId = sessionId
  · rw [switchToSession, if_pos differs]
    exact ⟨kept.carries, id⟩
  obtain ⟨named, synced, shows, sameUser, db, sessions⟩ :=
    switchToSession_cases kept.sound run hint differs
  have counts : SameCounts client.db named.db := synced.counts
  have marked := marked_markSession counts kept.sound (marks.resolve_left differs)
  rw [← db] at marked
  have current : (client.switchToSession run sessionId hint).currentSessionId = sessionId :=
    sameUser.currentSessionId.trans synced.currentSessionId
  refine ⟨⟨⟨marked.sound, ?_, ?_⟩, ?_, ?_, ?_⟩, ?_⟩
  · rw [current]
    exact sameUser.activeSessionId.trans synced.activeSessionId
  · rw [current, marked.unreadOf, if_pos rfl]
  · exact marked.authUserId.trans counts.authUserId
  · exact sameUser.selfUserId.trans synced.selfUserId
  · exact sameUser.isAuthenticated.trans synced.isAuthenticated
  · intro before
    rw [sessions]
    exact (shows before).clearUnread counts.sound.unreadOf_empty marked.hasSession marked.unreadOf

theorem switchToSessionIfNone_carries (kept : client.Kept) {run : SwitchRun} {sessionId : String}
    (marks : client.currentSessionId = "" → client.MarksRead run.saved sessionId) :
    Carries client (client.switchToSessionIfNone run sessionId) ∧
      (SessionListModel.Shows client.sessions client.db → SessionListModel.Shows
        (client.switchToSessionIfNone run sessionId).sessions
        (client.switchToSessionIfNone run sessionId).db) := by
  unfold switchToSessionIfNone
  split
  · exact ⟨kept.carries, id⟩
  · rename_i free
    exact switchToSession_carries kept (marks (by_contra fun busy => free (Or.inl busy))) _

theorem startPrivateChat_carries (kept : client.Kept) (sha256 : List Nat → String) (saved : Bool)
    {switched : SwitchRun} (loaded : LoadSessionsRun) {userId selfUserId : String}
    (nickname : String) (marks : client.MarksRead switched.saved
      (computePrivateSessionId sha256 selfUserId userId)) :
    Carries client
        (client.startPrivateChat sha256 saved switched loaded userId nickname selfUserId) ∧
      SessionListModel.Shows
        (client.startPrivateChat sha256 saved switched loaded userId nickname selfUserId).sessions
        (client.startPrivateChat sha256 saved switched loaded userId nickname selfUserId).db := by
  unfold startPrivateChat
  simp only
  generalize (if trimmed nickname = "" then userId else trimmed nickname) = displayName
  generalize computePrivateSessionId sha256 selfUserId userId = sessionId at marks
  have renamed := renameSession_sameCounts kept.sound saved
    (show (⟨sessionId, .privateChat, selfUserId, displayName, userId, 0⟩ : Session).unreadCount = 0
      from rfl)
  have stored := kept.of_sameCounts renamed
  have marksStored : MarksRead { client with
      db := renameSession client.db saved
        ⟨sessionId, .privateChat, selfUserId, displayName, userId, 0⟩ }
      switched.saved sessionId := by
    unfold MarksRead
    rw [renamed.unreadOf]
    exact marks
  have chosen := (switchToSession_carries stored.kept marksStored displayName).1
  exact (stored.trans chosen).loadSessions loaded

/-- The current session may be the removed one, but then none is current. -/
theorem Kept.sessionRemoved (kept : client.Kept) (removed : Bool) (sessionId : String) :
    Carries client { client with
      db := (client.db.removeSession 0 { transaction := .ending removed } sessionId).1 } := by
  by_cases named : sessionId = ""
  · have unchanged : (client.db.removeSession 0 { transaction := .ending removed } sessionId).1 =
        client.db := by
      unfold LocalDatabase.removeSession
      rw [if_pos named]
    rw [unchanged]
    exact kept.carries
  · have gone := kept.sound.sessionRemoved removed named
    refine ⟨⟨gone.sound, kept.active, ?_⟩, gone.authUserId, rfl, rfl⟩
    change (client.db.removeSession 0 { transaction := .ending removed } sessionId).1.unreadOf
      client.currentSessionId = 0
    rw [gone.unreadOf]
    split
    · rfl
    · exact kept.read

theorem deleteSession_carries (kept : client.Kept) (removed : Bool) (loaded : LoadSessionsRun)
    (sessionId : String) :
    Carries client (client.deleteSession removed loaded sessionId) ∧
      (SessionListModel.Shows client.sessions client.db → SessionListModel.Shows
        (client.deleteSession removed loaded sessionId).sessions
        (client.deleteSession removed loaded sessionId).db) := by
  unfold deleteSession
  split
  · exact ⟨kept.carries, id⟩
  · have gone := kept.sessionRemoved removed sessionId
    simp only
    split
    · obtain ⟨carries, shows⟩ := (gone.trans gone.kept.clearCurrentSession).loadSessions loaded
      exact ⟨carries, fun _ => shows⟩
    · obtain ⟨carries, shows⟩ := gone.loadSessions loaded
      exact ⟨carries, fun _ => shows⟩

/-! ## Friends and groups -/

theorem clearStale_carries (kept : client.Kept) (groupRemoved sessionRemoved : Bool)
    (groupId : String) :
    Carries client (clearStale groupRemoved sessionRemoved client groupId) := by
  have withoutGroup := kept.of_sameCounts (kept.sound.sameCounts_removeGroup groupRemoved groupId)
  have gone := withoutGroup.trans (withoutGroup.kept.sessionRemoved sessionRemoved groupId)
  unfold clearStale
  simp only
  split
  · exact gone.trans gone.kept.clearCurrentSession
  · exact gone

theorem applyGroupList_carries (kept : client.Kept) (run : ApplyGroupListRun)
    (groups : List GroupListEntryDto) : Carries client (applyGroupList run client groups) := by
  have saved := kept.of_sameCounts (SoundSessions.sameCounts_foldl
    (fun db entry sound => applyEntry_sameCounts sound (run.groupSaved entry.2)
      (run.sessionSaved entry.2) entry.1) groups.zipIdx client.db kept.sound)
  unfold applyGroupList
  simp only
  generalize groups.zipIdx.foldl (fun db entry =>
    applyEntry (run.groupSaved entry.2) (run.sessionSaved entry.2) db entry.1) client.db = stored
    at saved
  generalize (groups.map GroupListEntryDto.groupId).filter (fun groupId => groupId ≠ "") = active
  have cleared : Carries client ((stored.listGroups true).foldl
      (fun client row => if row.groupId ∈ active then client
        else clearStale (run.groupRemoved row.groupId) (run.sessionRemoved row.groupId)
          client row.groupId) { client with db := stored }) := by
    refine List.foldlRecOn (motive := fun after => Carries client after) _ _ saved ?_
    intro before carries row _
    split
    · exact carries
    · exact carries.trans (clearStale_carries carries.kept _ _ _)
  split
  · exact cleared.trans (cleared.kept.of_synced
      (updateCurrentSessionInfo_synced cleared.kept.sound _ _ _))
  · exact cleared

theorem Carries.completeInitialSessionLoad {after : SessionClient}
    (carries : Carries client after) (run : LoadSessionsRun) :
    Carries client (after.completeInitialSessionLoad run) ∧ SessionListModel.Shows
      (after.completeInitialSessionLoad run).sessions
      (after.completeInitialSessionLoad run).db := by
  obtain ⟨loaded, shows⟩ := carries.loadSessions run
  exact ⟨⟨⟨loaded.kept.sound, loaded.kept.active, loaded.kept.read⟩, loaded.authUserId,
    loaded.selfUserId, loaded.isAuthenticated⟩, shows⟩

theorem Kept.syncEnded (kept : client.Kept) :
    Carries client { client with groupSyncInProgress := false } :=
  ⟨⟨kept.sound, kept.active, kept.read⟩, rfl, rfl, rfl⟩

theorem onGroupListLoaded_carries (kept : client.Kept) (run : ApplyGroupListRun)
    (loaded : LoadSessionsRun) (groups : List GroupListEntryDto) :
    Carries client (client.onGroupListLoaded run loaded groups) ∧ SessionListModel.Shows
      (client.onGroupListLoaded run loaded groups).sessions
      (client.onGroupListLoaded run loaded groups).db :=
  have applied := kept.syncEnded.trans (applyGroupList_carries kept.syncEnded.kept run groups)
  applied.completeInitialSessionLoad loaded

theorem onGroupListLoadFailed_carries (kept : client.Kept) (loaded : LoadSessionsRun) :
    Carries client (client.onGroupListLoadFailed loaded) ∧ SessionListModel.Shows
      (client.onGroupListLoadFailed loaded).sessions
      (client.onGroupListLoadFailed loaded).db :=
  kept.syncEnded.completeInitialSessionLoad loaded

theorem onCreateGroupResult_carries (kept : client.Kept) (saved : Bool)
    (synced loaded : LoadSessionsRun) (success : Bool) (groupId : String)
    (groupName : Option String) :
    Carries client (client.onCreateGroupResult saved synced loaded success groupId groupName) ∧
      (SessionListModel.Shows client.sessions client.db → SessionListModel.Shows
        (client.onCreateGroupResult saved synced loaded success groupId groupName).sessions
        (client.onCreateGroupResult saved synced loaded success groupId groupName).db) := by
  unfold onCreateGroupResult
  split
  · exact ⟨kept.carries, id⟩
  · have renamed := renameSession_sameCounts kept.sound saved
      (show (⟨groupId, .groupChat, "", resolveGroupDisplayName client.db groupId
        (groupName.getD ""), "", 0⟩ : Session).unreadCount = 0 from rfl)
    have stored := kept.of_sameCounts renamed
    have asked := stored.trans
      (stored.kept.of_synced (syncGroupSessions_synced stored.kept.sound synced).1)
    obtain ⟨carries, shows⟩ := asked.loadSessions loaded
    exact ⟨carries, fun _ => shows⟩

def Accepts (client : SessionClient) (userId friendUserId changeType : String) : Prop :=
  ¬ (client.db.loadAuthUserId true ≠ "" ∧ userId ≠ client.db.loadAuthUserId true) ∧
    ¬ (changeType ≠ "accepted" ∨ friendUserId = "")

theorem onFriendChanged_carries (kept : client.Kept) (sha256 : List Nat → String) (saved : Bool)
    (loaded : LoadSessionsRun) {switched : SwitchRun} {userId friendUserId changeType : String}
    (marks : client.Accepts userId friendUserId changeType → client.currentSessionId = "" →
      client.MarksRead switched.saved
        (computePrivateSessionId sha256 (client.db.loadAuthUserId true) friendUserId)) :
    Carries client
        (client.onFriendChanged sha256 saved loaded switched userId friendUserId changeType) ∧
      (SessionListModel.Shows client.sessions client.db → SessionListModel.Shows
        (client.onFriendChanged sha256 saved loaded switched userId friendUserId
          changeType).sessions
        (client.onFriendChanged sha256 saved loaded switched userId friendUserId
          changeType).db) := by
  unfold onFriendChanged
  simp only
  split
  · exact ⟨kept.carries, id⟩
  rename_i own
  split
  · exact ⟨kept.carries, id⟩
  rename_i accepted
  have marksRead := marks ⟨own, accepted⟩
  generalize computePrivateSessionId sha256 (client.db.loadAuthUserId true) friendUserId =
    sessionId at marksRead
  have renamed := renameSession_sameCounts kept.sound saved
    (show (⟨sessionId, .privateChat, client.db.loadAuthUserId true, friendUserId, friendUserId,
      0⟩ : Session).unreadCount = 0 from rfl)
  have stored := kept.of_sameCounts renamed
  obtain ⟨listed, shows⟩ := stored.loadSessions loaded
  generalize storedDef : ({ client with
      db := renameSession client.db saved ⟨sessionId, .privateChat, client.db.loadAuthUserId true,
        friendUserId, friendUserId, 0⟩ } : SessionClient) = before at stored listed shows
  have counts := (loadSessions_synced stored.kept.sound loaded).1.counts
  have marksListed : (before.loadSessions loaded).currentSessionId = "" →
      (before.loadSessions loaded).MarksRead switched.saved sessionId := by
    subst storedDef
    intro free
    rcases marksRead free with current | committed | unread
    · exact Or.inl current
    · exact Or.inr (Or.inl committed)
    · refine Or.inr (Or.inr ?_)
      rw [counts.unreadOf, renamed.unreadOf]
      exact unread
  obtain ⟨chosen, chosenShows⟩ := switchToSessionIfNone_carries listed.kept marksListed
  exact ⟨listed.trans chosen, fun _ => chosenShows shows⟩

/-! ## Where every transaction commits

The group sync knows the same functions without a list and with no transaction
that is undone. -/

theorem refreshSession_unnamed (db : LocalDatabase) (row : SessionRow)
    (unnamed : row.sessionId = "") : ShirohaChat.refreshSession db row = db := by
  unfold ShirohaChat.refreshSession LocalDatabase.loadGroup
  rw [if_pos (Or.inr unnamed)]

theorem db_loadSessions_committing (client : SessionClient) :
    (client.loadSessions {}).db = ShirohaChat.loadSessions client.db := by
  have refreshed : ∀ (rows : List SessionRow) (db : LocalDatabase),
      (rows.filter fun row => row.sessionId ≠ "").foldl (refreshSession true) db =
        rows.foldl ShirohaChat.refreshSession db := by
    intro rows
    induction rows with
    | nil => exact fun _ => rfl
    | cons row rest ih =>
        intro db
        by_cases unnamed : row.sessionId = ""
        · rw [List.filter_cons_of_neg (by simp [unnamed]), List.foldl_cons,
            refreshSession_unnamed db row unnamed]
          exact ih db
        · rw [List.filter_cons_of_pos (by simp [unnamed]), List.foldl_cons]
          exact ih _
  exact refreshed _ _

theorem db_clearStale_committing (client : SessionClient) (groupId : String) :
    (clearStale true true client groupId).db = ShirohaChat.clearStale client.db groupId := by
  unfold clearStale
  simp only
  split <;> rfl

theorem db_applyGroupList_committing (client : SessionClient) (groups : List GroupListEntryDto) :
    (applyGroupList {} client groups).db = ShirohaChat.applyGroupList client.db groups := by
  have saved : groups.zipIdx.foldl (fun db entry => applyEntry true true db entry.1) client.db =
      groups.foldl ShirohaChat.applyEntry client.db := by
    conv_rhs => rw [← List.zipIdx_map_fst 0 groups, List.foldl_map]
    rfl
  have cleared : ∀ (rows : List LocalGroupRow) (active : List String) (client : SessionClient),
      (rows.foldl (fun client row => if row.groupId ∈ active then client
        else clearStale true true client row.groupId) client).db =
      rows.foldl (fun db row => if row.groupId ∈ active then db
        else ShirohaChat.clearStale db row.groupId) client.db := by
    intro rows active
    induction rows with
    | nil => exact fun _ => rfl
    | cons row rest ih =>
        intro client
        rw [List.foldl_cons, List.foldl_cons, ih]
        split
        · rfl
        · rw [db_clearStale_committing]
  unfold applyGroupList ShirohaChat.applyGroupList
  simp only
  rw [saved]
  generalize groups.foldl ShirohaChat.applyEntry client.db = stored
  generalize (groups.map GroupListEntryDto.groupId).filter (fun groupId => groupId ≠ "") = active
  rw [← cleared (stored.listGroups true) active { client with db := stored }]
  split
  · exact (updateCurrentSessionInfo_same _ _ _ _).2.1
  · rfl

end SessionClient

end ShirohaChat
