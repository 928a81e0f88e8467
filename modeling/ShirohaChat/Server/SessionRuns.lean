import ShirohaChat.Lib.Transition
import ShirohaChat.Server.SessionManager

/-!
# Runs of the session manager

Connections come, authenticate (possibly again, as somebody else), are swept by
the heartbeat check and go.  `attach` is called with a fresh id by
`ServerApp::onNewConnection`, and `connectAccepted` with a user id that
`handleConnect` has checked not to be empty.
-/

set_option autoImplicit false

namespace ShirohaChat

open Transition

inductive SessionEvent where
  | newConnection (connectionId : String) (now : Int)
  | connectAccepted (connectionId userId nickname : String)
  | heartbeat (connectionId : String) (now : Int)
  | sweepTimeouts (now : Int)
  | socketClosing (connectionId : String)
  | disconnected (connectionId : String)

namespace SessionEvent

def enabled (manager : SessionManager) : SessionEvent → Prop
  | .newConnection connectionId _ =>
      connectionId ≠ "" ∧ manager.findByConnectionId connectionId = none
  | .connectAccepted _ userId _ => userId ≠ ""
  | _ => True

def next (manager : SessionManager) : SessionEvent → SessionManager
  | .newConnection connectionId now =>
      manager.attach { connectionId := connectionId, lastHeartbeatAt := now }
  | .connectAccepted connectionId userId nickname =>
      manager.connectAccepted connectionId userId nickname
  | .heartbeat connectionId now => manager.touchHeartbeat connectionId now
  | .sweepTimeouts now => manager.sweepTimeouts now
  | .socketClosing connectionId =>
      manager.updateSession connectionId ClientSession.closeSocket
  | .disconnected connectionId => (manager.detach connectionId).1

end SessionEvent

def sessionSystem : System SessionManager SessionEvent where
  initial := SessionManager.empty
  enabled := SessionEvent.enabled
  next := SessionEvent.next

/-! ## What holds in every run -/

structure SessionsWellFormed (manager : SessionManager) : Prop where
  ownId : ∀ connectionId session, manager.findByConnectionId connectionId = some session →
    session.connectionId = connectionId
  idNonempty : ∀ connectionId session,
    manager.findByConnectionId connectionId = some session → connectionId ≠ ""
  authenticatedIff : ∀ connectionId session,
    manager.findByConnectionId connectionId = some session →
      (session.isAuthenticated = true ↔ session.userId ≠ "")

/-- A change of a session that leaves its identity alone. -/
def KeepsIdentity (change : ClientSession → ClientSession) : Prop :=
  ∀ session, (change session).connectionId = session.connectionId ∧
    (change session).userId = session.userId ∧
    (change session).isAuthenticated = session.isAuthenticated

structure QuietChange (change : ClientSession → ClientSession) : Prop where
  keepsIdentity : KeepsIdentity change
  opensNoSocket : ∀ session, (change session).socketValid = true → session.socketValid = true

theorem quietChange_id : QuietChange id :=
  ⟨fun _ => ⟨rfl, rfl, rfl⟩, fun _ valid => valid⟩

theorem quietChange_closeSocket : QuietChange ClientSession.closeSocket :=
  ⟨fun _ => ⟨rfl, rfl, rfl⟩, fun _ valid => nomatch valid⟩

theorem quietChange_updateHeartbeat (now : Int) :
    QuietChange fun session => session.updateHeartbeat now :=
  ⟨fun _ => ⟨rfl, rfl, rfl⟩, fun _ valid => valid⟩

structure QuietStep (manager after : SessionManager) : Prop where
  sameMap : after.userMap = manager.userMap
  sessions : ∀ connectionId, ∃ change, QuietChange change ∧
    after.findByConnectionId connectionId =
      (manager.findByConnectionId connectionId).map change

theorem quietStep_updateSession (manager : SessionManager) (touched : String)
    {change : ClientSession → ClientSession} (quiet : QuietChange change) :
    QuietStep manager (manager.updateSession touched change) := by
  refine ⟨SessionManager.userMap_updateSession _ _ _, ?_⟩
  intro connectionId
  rw [SessionManager.findByConnectionId_updateSession]
  by_cases same : connectionId = touched
  · subst same
    exact ⟨change, quiet, if_pos rfl⟩
  · exact ⟨id, quietChange_id, by rw [if_neg same, Option.map_id_fun, id]⟩

theorem quietStep_sweepTimeouts (manager : SessionManager) (now : Int) :
    QuietStep manager (manager.sweepTimeouts now) := by
  refine ⟨SessionManager.userMap_closeAll _ _, ?_⟩
  intro connectionId
  obtain ⟨change, shape, after⟩ := SessionManager.findByConnectionId_closeAll
    (manager.staleConnections now SessionManager.heartbeatTimeoutMs) manager connectionId
  refine ⟨change, ?_, after⟩
  rcases shape with rfl | rfl
  · exact quietChange_id
  · exact quietChange_closeSocket

theorem QuietStep.before {manager after : SessionManager} (quiet : QuietStep manager after)
    {connectionId : String} {session : ClientSession}
    (found : after.findByConnectionId connectionId = some session) :
    ∃ before change, manager.findByConnectionId connectionId = some before ∧
      QuietChange change ∧ session = change before := by
  obtain ⟨change, quietly, changed⟩ := quiet.sessions connectionId
  rw [changed] at found
  obtain ⟨before, beforeFound, rfl⟩ := Option.map_eq_some_iff.mp found
  exact ⟨before, change, beforeFound, quietly, rfl⟩

/-- Where a session found after a step comes from: it is new, it has just been
authenticated, or it changed quietly. -/
theorem session_cases (manager : SessionManager) (event : SessionEvent) {connectionId : String}
    {session : ClientSession}
    (found : (event.next manager).findByConnectionId connectionId = some session) :
    (∃ now, event = .newConnection connectionId now ∧
      session = { connectionId := connectionId, lastHeartbeatAt := now }) ∨
    (∃ before userId nickname, manager.findByConnectionId connectionId = some before ∧
      event = .connectAccepted connectionId userId nickname ∧
      session = before.markAuthenticated userId nickname) ∨
    ∃ before change, manager.findByConnectionId connectionId = some before ∧
      QuietChange change ∧ session = change before := by
  have unchanged : manager.findByConnectionId connectionId = some session →
      ∃ before change, manager.findByConnectionId connectionId = some before ∧
        QuietChange change ∧ session = change before :=
    fun old => ⟨session, id, old, quietChange_id, rfl⟩
  cases event with
  | newConnection fresh now =>
      simp only [SessionEvent.next, SessionManager.findByConnectionId_attach] at found
      split at found
      · rename_i same
        subst same
        exact Or.inl ⟨now, rfl, (Option.some.inj found).symm⟩
      · exact Or.inr (Or.inr (unchanged found))
  | connectAccepted accepted userId nickname =>
      simp only [SessionEvent.next, SessionManager.findByConnectionId_connectAccepted] at found
      split at found
      · rename_i same
        subst same
        obtain ⟨before, beforeFound, rfl⟩ := Option.map_eq_some_iff.mp found
        exact Or.inr (Or.inl ⟨before, userId, nickname, beforeFound, rfl, rfl⟩)
      · exact Or.inr (Or.inr (unchanged found))
  | heartbeat touched now =>
      have quiet := quietStep_updateSession manager touched (quietChange_updateHeartbeat now)
      exact Or.inr (Or.inr (quiet.before found))
  | sweepTimeouts now =>
      exact Or.inr (Or.inr ((quietStep_sweepTimeouts manager now).before found))
  | socketClosing touched =>
      have quiet := quietStep_updateSession manager touched quietChange_closeSocket
      exact Or.inr (Or.inr (quiet.before found))
  | disconnected closed =>
      simp only [SessionEvent.next, SessionManager.findByConnectionId_detach] at found
      split at found
      · cases found
      · exact Or.inr (Or.inr (unchanged found))

theorem SessionsWellFormed.step {manager : SessionManager} (event : SessionEvent)
    (wellFormed : SessionsWellFormed manager) (enabled : event.enabled manager) :
    SessionsWellFormed (event.next manager) := by
  constructor
  · intro connectionId session found
    rcases session_cases manager event found with ⟨now, rfl, rfl⟩ |
      ⟨before, userId, nickname, old, rfl, rfl⟩ | ⟨before, change, old, quiet, rfl⟩
    · rfl
    · exact wellFormed.ownId connectionId before old
    · exact (quiet.keepsIdentity before).1.trans (wellFormed.ownId connectionId before old)
  · intro connectionId session found
    rcases session_cases manager event found with ⟨now, rfl, rfl⟩ |
      ⟨before, userId, nickname, old, rfl, rfl⟩ | ⟨before, change, old, quiet, rfl⟩
    · exact enabled.1
    · exact wellFormed.idNonempty connectionId before old
    · exact wellFormed.idNonempty connectionId before old
  · intro connectionId session found
    rcases session_cases manager event found with ⟨now, rfl, rfl⟩ |
      ⟨before, userId, nickname, old, rfl, rfl⟩ | ⟨before, change, old, quiet, rfl⟩
    · simp
    · have nonempty : userId ≠ "" := enabled
      simp [ClientSession.markAuthenticated, nonempty]
    · obtain ⟨_, sameUser, sameAuth⟩ := quiet.keepsIdentity before
      rw [sameUser, sameAuth]
      exact wellFormed.authenticatedIff connectionId before old

theorem sessionsWellFormed_empty : SessionsWellFormed SessionManager.empty := by
  constructor
  · intro connectionId session found
    cases found
  · intro connectionId session found
    cases found
  · intro connectionId session found
    cases found

theorem sessionsWellFormed_of_reachable (manager : SessionManager)
    (reached : sessionSystem.Reachable manager) : SessionsWellFormed manager := by
  refine System.Reachable.invariant sessionsWellFormed_empty ?_ manager reached
  intro before event _ wellFormed enabled
  exact wellFormed.step event enabled

/-- A session is new or was there before, and a socket never opens again. -/
theorem session_next (manager : SessionManager) (event : SessionEvent) {connectionId : String}
    {session : ClientSession}
    (found : (event.next manager).findByConnectionId connectionId = some session) :
    (∃ now, event = .newConnection connectionId now) ∨
      ∃ before, manager.findByConnectionId connectionId = some before ∧
        (session.socketValid = true → before.socketValid = true) := by
  rcases session_cases manager event found with ⟨now, isNew, _⟩ |
    ⟨before, userId, nickname, old, _, rfl⟩ | ⟨before, change, old, quiet, rfl⟩
  · exact Or.inl ⟨now, isNew⟩
  · exact Or.inr ⟨before, old, id⟩
  · exact Or.inr ⟨before, old, quiet.opensNoSocket before⟩

/-! ## The user map and the sessions it points at -/

/-- A `Connect` takes over a connection only if the user map points no other
user at it. -/
def KeepsUser (manager : SessionManager) : SessionEvent → Prop
  | .connectAccepted connectionId userId _ =>
      ∀ other, manager.userMap.lookup other = some connectionId → other = userId
  | _ => True

def Backed (manager : SessionManager) : Prop :=
  ∀ userId connectionId, manager.userMap.lookup userId = some connectionId →
    ∃ session, manager.findByConnectionId connectionId = some session ∧
      session.userId = userId ∧ userId ≠ ""

theorem backed_empty : Backed SessionManager.empty := by
  intro userId connectionId mapped
  cases mapped

theorem Backed.quiet {manager after : SessionManager} (backed : Backed manager)
    (quiet : QuietStep manager after) : Backed after := by
  intro userId connectionId mapped
  rw [quiet.sameMap] at mapped
  obtain ⟨session, found, sameUser, nonempty⟩ := backed userId connectionId mapped
  obtain ⟨change, quietly, changed⟩ := quiet.sessions connectionId
  refine ⟨change session, ?_, ?_, nonempty⟩
  · rw [changed, found]
    rfl
  · exact (quietly.keepsIdentity session).2.1.trans sameUser

theorem Backed.step {manager : SessionManager} (event : SessionEvent)
    (backed : Backed manager) (enabled : event.enabled manager)
    (keeps : KeepsUser manager event) : Backed (event.next manager) := by
  cases event with
  | newConnection fresh now =>
      intro userId connectionId mapped
      obtain ⟨session, found, sameUser, nonempty⟩ := backed userId connectionId mapped
      refine ⟨session, ?_, sameUser, nonempty⟩
      have attached : connectionId ≠ fresh := by
        rintro rfl
        rw [enabled.2] at found
        contradiction
      exact (SessionManager.findByConnectionId_attach _ _ _).trans ((if_neg attached).trans found)
  | connectAccepted accepted accountId nickname =>
      intro userId connectionId mapped
      simp only [SessionEvent.next] at mapped ⊢
      rw [SessionManager.userMap_connectAccepted] at mapped
      rw [SessionManager.findByConnectionId_connectAccepted]
      split at mapped
      · rename_i taken
        cases mapped
        obtain ⟨session, found⟩ := Option.ne_none_iff_exists'.mp taken.1
        have nonempty : accountId ≠ "" := enabled
        exact ⟨_, by rw [if_pos rfl, found]; rfl, taken.2.symm, taken.2 ▸ nonempty⟩
      · rename_i kept
        obtain ⟨session, found, sameUser, nonempty⟩ := backed userId connectionId mapped
        have elsewhere : connectionId ≠ accepted := by
          rintro rfl
          exact kept ⟨by rw [found]; simp, keeps userId mapped⟩
        exact ⟨session, by rw [if_neg elsewhere, found], sameUser, nonempty⟩
  | heartbeat touched now =>
      exact backed.quiet
        (quietStep_updateSession manager touched (quietChange_updateHeartbeat now))
  | sweepTimeouts now => exact backed.quiet (quietStep_sweepTimeouts manager now)
  | socketClosing touched =>
      exact backed.quiet (quietStep_updateSession manager touched quietChange_closeSocket)
  | disconnected closed =>
      intro userId connectionId mapped
      simp only [SessionEvent.next] at mapped ⊢
      rw [SessionManager.userMap_detach] at mapped
      split at mapped
      · contradiction
      · rename_i kept
        obtain ⟨session, found, sameUser, nonempty⟩ := backed userId connectionId mapped
        have elsewhere : connectionId ≠ closed := by
          rintro rfl
          exact kept ⟨session, found, sameUser ▸ nonempty, sameUser.symm⟩
        refine ⟨session, ?_, sameUser, nonempty⟩
        rw [SessionManager.findByConnectionId_detach, if_neg elsewhere, found]

theorem backed_of_keepsUser (manager : SessionManager)
    (reached : (sessionSystem.restrict KeepsUser).Reachable manager) : Backed manager := by
  refine System.Reachable.invariant backed_empty ?_ manager reached
  intro before event _ backed enabled
  exact backed.step event enabled.1 enabled.2

def FindsOwnSession (manager : SessionManager) : Prop :=
  ∀ userId session, manager.findByUserId userId = some session →
    manager.findByConnectionId session.connectionId = some session ∧
      session.isAuthenticated = true ∧ session.userId = userId

theorem Backed.findsOwnSession {manager : SessionManager} (backed : Backed manager)
    (wellFormed : SessionsWellFormed manager) : FindsOwnSession manager := by
  intro userId session found
  obtain ⟨connectionId, mapped, _, attached⟩ :=
    (manager.findByUserId_eq_some userId session).mp found
  obtain ⟨backing, backingFound, sameUser, nonempty⟩ := backed userId connectionId mapped
  have sessionEq : session = backing := Option.some.inj (attached.symm.trans backingFound)
  subst sessionEq
  refine ⟨?_, ?_, sameUser⟩
  · rw [wellFormed.ownId connectionId session attached, attached]
  · exact (wellFormed.authenticatedIff connectionId session attached).mpr (sameUser ▸ nonempty)

/-- A takeover while the map still points another user at the connection makes
that user's packets go to the new one. -/
theorem takeover_breaks_findsOwnSession {manager : SessionManager} (backed : Backed manager)
    (wellFormed : SessionsWellFormed manager) (event : SessionEvent)
    (sound : FindsOwnSession (event.next manager)) : KeepsUser manager event := by
  cases event with
  | connectAccepted accepted accountId nickname =>
      intro other mapped
      by_contra differ
      obtain ⟨session, found, _, _⟩ := backed other accepted mapped
      have mappedAfter : (manager.connectAccepted accepted accountId nickname).userMap.lookup
          other = some accepted := by
        rw [SessionManager.userMap_connectAccepted, if_neg fun taken => differ taken.2, mapped]
      have foundAfter : (manager.connectAccepted accepted accountId nickname).findByConnectionId
          accepted = some (session.markAuthenticated accountId nickname) := by
        rw [SessionManager.findByConnectionId_connectAccepted, if_pos rfl, found]
        rfl
      have routed := sound other (session.markAuthenticated accountId nickname)
        ((SessionManager.findByUserId_eq_some _ _ _).mpr
          ⟨accepted, mappedAfter, wellFormed.idNonempty accepted session found, foundAfter⟩)
      exact differ routed.2.2.symm
  | _ => trivial

theorem routeToUser_writes {Text : Type} [JsonDocument Text] {manager : SessionManager}
    (sound : FindsOwnSession manager) (userId : String) (packet : Packet)
    (write : SocketWrite Text) (written : write ∈ (routeToUser Text manager userId packet).2) :
    ∃ session, manager.findByConnectionId write.connectionId = some session ∧
      session.isAuthenticated = true ∧ session.userId = userId := by
  unfold routeToUser at written
  split at written
  · cases written
  · rename_i session found
    unfold ClientSession.sendPacket at written
    split at written
    · rw [List.mem_singleton] at written
      subst written
      obtain ⟨attached, authenticated, own⟩ := sound userId session found
      exact ⟨session, attached, authenticated, own⟩
    · cases written

/-- As long as no `Connect` takes a connection over from a user the map still
points at it, `findByUserId` and `routeToUser` reach only the user's own
sessions; and a step from such a state keeps this exactly when it is no such
takeover. -/
theorem findByUserId_own_session (Text : Type) [JsonDocument Text] (manager : SessionManager)
    (reached : (sessionSystem.restrict KeepsUser).Reachable manager) :
    FindsOwnSession manager ∧
      (∀ userId packet, ∀ write ∈ (routeToUser Text manager userId packet).2,
        ∃ session, manager.findByConnectionId write.connectionId = some session ∧
          session.isAuthenticated = true ∧ session.userId = userId) ∧
      ∀ event : SessionEvent, event.enabled manager →
        (FindsOwnSession (event.next manager) ↔ KeepsUser manager event) := by
  have backed := backed_of_keepsUser manager reached
  have wellFormed := sessionsWellFormed_of_reachable manager reached.of_restrict
  have sound := backed.findsOwnSession wellFormed
  refine ⟨sound, ?_, ?_⟩
  · intro userId packet write written
    exact routeToUser_writes sound userId packet write written
  · intro event enabled
    constructor
    · exact takeover_breaks_findsOwnSession backed wellFormed event
    · intro keeps
      exact (backed.step event enabled keeps).findsOwnSession (wellFormed.step event enabled)

def aliceLogin : List SessionEvent :=
  [.newConnection "c1" 0, .connectAccepted "c1" "alice" "Alice"]

theorem findByUserId_own_session_alice :
    FindsOwnSession (aliceLogin.foldl SessionEvent.next SessionManager.empty) := by
  have nonempty : "alice" ≠ "" := by decide
  have reached : (sessionSystem.restrict KeepsUser).Reachable
      (aliceLogin.foldl SessionEvent.next SessionManager.empty) := by
    refine System.Reachable.run aliceLogin _ System.Reachable.initial ?_
    refine ⟨⟨⟨by decide, rfl⟩, trivial⟩, ⟨nonempty, ?_⟩, trivial⟩
    intro other mapped
    cases mapped
  exact (findByUserId_own_session ParsedText _ reached).1

def aliceTakenOver : List SessionEvent :=
  aliceLogin ++ [SessionEvent.connectAccepted "c1" "bob" "Bob"]

/-- Alice's entry of the user map leads to bob's session. -/
theorem findByUserId_foreign_session :
    ¬ ∀ manager, sessionSystem.Reachable manager → FindsOwnSession manager := by
  intro always
  have aliceNonempty : "alice" ≠ "" := by decide
  have bobNonempty : "bob" ≠ "" := by decide
  have reached : sessionSystem.Reachable (aliceTakenOver.foldl SessionEvent.next
      SessionManager.empty) := by
    refine System.Reachable.run aliceTakenOver _ System.Reachable.initial ?_
    exact ⟨⟨by decide, rfl⟩, aliceNonempty, bobNonempty, trivial⟩
  have own := always _ reached "alice" ⟨"c1", 0, "bob", "Bob", true, .connected⟩ (by decide)
  exact absurd own.2.2 (by decide)

/-! ## Users with a live connection -/

def SameUser (manager : SessionManager) : SessionEvent → Prop
  | .connectAccepted connectionId userId _ =>
      ∀ session, manager.findByConnectionId connectionId = some session →
        session.isAuthenticated = true → session.userId = userId
  | _ => True

/-- An authenticated connection closes only as the last one of its user. -/
def LastOfUser (manager : SessionManager) : SessionEvent → Prop
  | .disconnected connectionId =>
      ∀ session, manager.findByConnectionId connectionId = some session →
        session.isAuthenticated = true →
        ∀ other otherSession, manager.findByConnectionId other = some otherSession →
          otherSession.isAuthenticated = true → otherSession.userId = session.userId →
          other = connectionId
  | _ => True

def FindsLiveUsers (manager : SessionManager) : Prop :=
  ∀ connectionId session, manager.findByConnectionId connectionId = some session →
    session.isAuthenticated = true → manager.findByUserId session.userId ≠ none

def Mapped (manager : SessionManager) : Prop :=
  ∀ connectionId session, manager.findByConnectionId connectionId = some session →
    session.isAuthenticated = true → manager.userMap.lookup session.userId ≠ none

theorem keepsUser_of_sameUser {manager : SessionManager} (backed : Backed manager)
    (wellFormed : SessionsWellFormed manager) (event : SessionEvent)
    (same : SameUser manager event) : KeepsUser manager event := by
  cases event with
  | connectAccepted accepted accountId nickname =>
      intro other mapped
      obtain ⟨session, found, own, nonempty⟩ := backed other accepted mapped
      have authenticated := (wellFormed.authenticatedIff accepted session found).mpr
        (own ▸ nonempty)
      exact own.symm.trans (same session found authenticated)
  | _ => trivial

theorem backed_of_sameUser (manager : SessionManager)
    (reached : (sessionSystem.restrict SameUser).Reachable manager) : Backed manager := by
  refine System.Reachable.invariant backed_empty ?_ manager reached
  intro before event beforeReached backed enabled
  have wellFormed := sessionsWellFormed_of_reachable before beforeReached.of_restrict
  exact backed.step event enabled.1 (keepsUser_of_sameUser backed wellFormed event enabled.2)

theorem Mapped.quiet {manager after : SessionManager} (mapped : Mapped manager)
    (quiet : QuietStep manager after) : Mapped after := by
  intro connectionId session found authenticated
  obtain ⟨before, change, beforeFound, quietly, rfl⟩ := quiet.before found
  obtain ⟨_, sameUser, sameAuth⟩ := quietly.keepsIdentity before
  rw [quiet.sameMap, sameUser]
  exact mapped connectionId before beforeFound (sameAuth ▸ authenticated)

theorem Mapped.step {manager : SessionManager} (event : SessionEvent)
    (mapped : Mapped manager) (wellFormed : SessionsWellFormed manager)
    (last : LastOfUser manager event) : Mapped (event.next manager) := by
  cases event with
  | newConnection fresh now =>
      intro connectionId session found authenticated
      simp only [SessionEvent.next] at found ⊢
      rw [SessionManager.findByConnectionId_attach] at found
      split at found
      · cases found
        contradiction
      · exact mapped connectionId session found authenticated
  | connectAccepted accepted accountId nickname =>
      intro connectionId session found authenticated
      simp only [SessionEvent.next] at found ⊢
      rw [SessionManager.findByConnectionId_connectAccepted] at found
      rw [SessionManager.userMap_connectAccepted]
      split
      · simp
      · rename_i untouched
        split at found
        · obtain ⟨before, beforeFound, rfl⟩ := Option.map_eq_some_iff.mp found
          exact absurd ⟨by rw [beforeFound]; simp, rfl⟩ untouched
        · exact mapped connectionId session found authenticated
  | heartbeat touched now =>
      exact mapped.quiet
        (quietStep_updateSession manager touched (quietChange_updateHeartbeat now))
  | sweepTimeouts now => exact mapped.quiet (quietStep_sweepTimeouts manager now)
  | socketClosing touched =>
      exact mapped.quiet (quietStep_updateSession manager touched quietChange_closeSocket)
  | disconnected closed =>
      intro connectionId session found authenticated
      simp only [SessionEvent.next] at found ⊢
      rw [SessionManager.findByConnectionId_detach] at found
      split at found
      · contradiction
      · rename_i elsewhere
        rw [SessionManager.userMap_detach]
        split
        · rename_i removed
          obtain ⟨gone, goneFound, nonempty, sameUser⟩ := removed
          have goneAuthenticated :=
            (wellFormed.authenticatedIff closed gone goneFound).mpr nonempty
          exact absurd (last gone goneFound goneAuthenticated connectionId session found
            authenticated sameUser) elsewhere
        · exact mapped connectionId session found authenticated

theorem Mapped.findsLiveUsers {manager : SessionManager} (mapped : Mapped manager)
    (backed : Backed manager) (wellFormed : SessionsWellFormed manager) :
    FindsLiveUsers manager := by
  intro connectionId session found authenticated
  obtain ⟨target, entry⟩ :=
    Option.ne_none_iff_exists'.mp (mapped connectionId session found authenticated)
  obtain ⟨backing, backingFound, _⟩ := backed session.userId target entry
  have reachedSession := (manager.findByUserId_eq_some session.userId backing).mpr
    ⟨target, entry, wellFormed.idNonempty target backing backingFound, backingFound⟩
  rw [reachedSession]
  simp

/-- Closing one of two connections of a user makes him look offline. -/
theorem detach_breaks_findsLiveUsers {manager : SessionManager}
    (wellFormed : SessionsWellFormed manager) (event : SessionEvent)
    (live : FindsLiveUsers (event.next manager)) : LastOfUser manager event := by
  cases event with
  | disconnected closed =>
      intro session found authenticated other otherSession otherFound otherAuth sameUser
      by_contra elsewhere
      have nonempty := (wellFormed.authenticatedIff closed session found).mp authenticated
      have stays : (manager.detach closed).1.findByConnectionId other = some otherSession := by
        rw [SessionManager.findByConnectionId_detach, if_neg elsewhere, otherFound]
      have unmapped : (manager.detach closed).1.userMap.lookup otherSession.userId = none := by
        rw [SessionManager.userMap_detach, if_pos ⟨session, found, nonempty, sameUser⟩]
      refine live other otherSession stays otherAuth ?_
      simp only [SessionEvent.next]
      unfold SessionManager.findByUserId
      rw [unmapped]
      rfl
  | _ => trivial

/-- As long as a user's connections close last one only, whoever has a live
authenticated connection is found; and a step from such a state keeps this
exactly when it closes no connection of a user who has another. -/
theorem findByUserId_live_user (manager : SessionManager)
    (reached : ((sessionSystem.restrict SameUser).restrict LastOfUser).Reachable manager) :
    FindsLiveUsers manager ∧
      ∀ event : SessionEvent, event.enabled manager → SameUser manager event →
        (FindsLiveUsers (event.next manager) ↔ LastOfUser manager event) := by
  have base := reached.of_restrict
  have backed := backed_of_sameUser manager base
  have wellFormed := sessionsWellFormed_of_reachable manager base.of_restrict
  have mapped : Mapped manager := by
    refine System.Reachable.invariant ?_ ?_ manager reached
    · intro connectionId session found
      cases found
    · intro before event beforeReached ih enabled
      exact ih.step event
        (sessionsWellFormed_of_reachable before beforeReached.of_restrict.of_restrict) enabled.2
  refine ⟨mapped.findsLiveUsers backed wellFormed, ?_⟩
  intro event enabled same
  constructor
  · exact detach_breaks_findsLiveUsers wellFormed event
  · intro last
    exact (mapped.step event wellFormed last).findsLiveUsers
      (backed.step event enabled (keepsUser_of_sameUser backed wellFormed event same))
      (wellFormed.step event enabled)

theorem findByUserId_live_user_alice :
    FindsLiveUsers (aliceLogin.foldl SessionEvent.next SessionManager.empty) := by
  have nonempty : "alice" ≠ "" := by decide
  have reached : ((sessionSystem.restrict SameUser).restrict LastOfUser).Reachable
      (aliceLogin.foldl SessionEvent.next SessionManager.empty) := by
    refine System.Reachable.run aliceLogin _ System.Reachable.initial ?_
    refine ⟨⟨⟨⟨by decide, rfl⟩, trivial⟩, trivial⟩, ⟨⟨nonempty, ?_⟩, trivial⟩, trivial⟩
    intro session found authenticated
    cases found
    cases authenticated
  exact (findByUserId_live_user _ reached).1

def aliceReconnects : List SessionEvent :=
  aliceLogin ++ [SessionEvent.newConnection "c2" 0,
    SessionEvent.connectAccepted "c2" "alice" "Alice", SessionEvent.disconnected "c1"]

/-- The second connection is still attached, and alice is not found. -/
theorem findByUserId_misses_live_user :
    ¬ ∀ manager, (sessionSystem.restrict SameUser).Reachable manager →
      FindsLiveUsers manager := by
  intro always
  have nonempty : "alice" ≠ "" := by decide
  have reached : (sessionSystem.restrict SameUser).Reachable
      (aliceReconnects.foldl SessionEvent.next SessionManager.empty) := by
    refine System.Reachable.run aliceReconnects _ System.Reachable.initial ?_
    refine ⟨⟨⟨by decide, rfl⟩, trivial⟩, ⟨nonempty, ?_⟩, ⟨⟨by decide, rfl⟩, trivial⟩,
      ⟨nonempty, ?_⟩, ⟨trivial, trivial⟩, trivial⟩
    · intro session found authenticated
      cases found
      cases authenticated
    · intro session found authenticated
      cases found
      cases authenticated
  exact always _ reached "c2" ⟨"c2", 0, "alice", "Alice", true, .connected⟩ (by decide) rfl
    (by decide)

end ShirohaChat
