import ShirohaChat.Server.SessionRuns

/-!
# Heartbeats and the sweep

Which sockets are open is read off the clock: a connection keeps its socket as
long as no sweep finds its last heartbeat, or its arrival before the first one,
more than the timeout ago.
-/

set_option autoImplicit false

namespace ShirohaChat

open Transition

/-! ## The handler -/

/-- `HeartbeatHandler::handleHeartbeat`. -/
def handleHeartbeat (Text : Type) [JsonDocument Text] (manager : SessionManager)
    (session : ClientSession) (packet : Packet) (now : Int) :
    SessionManager × List (SocketWrite Text) :=
  (manager.touchHeartbeat session.connectionId now,
    session.sendPacket (Packet.makeAck .heartbeatAck packet.msgId 200 "pong" []))

theorem SessionManager.mem_staleConnections (manager : SessionManager) (now timeoutMs : Int)
    (connectionId : String) :
    connectionId ∈ manager.staleConnections now timeoutMs ↔
      ∃ session, manager.findByConnectionId connectionId = some session ∧
        now - session.lastHeartbeatAt > timeoutMs := by
  simp only [staleConnections, List.mem_map, List.mem_filter, decide_eq_true_eq,
    findByConnectionId]
  constructor
  · rintro ⟨⟨entryId, session⟩, ⟨member, stale⟩, rfl⟩
    exact ⟨session, AList.mem_lookup_iff.mpr member, stale⟩
  · rintro ⟨session, found, stale⟩
    exact ⟨⟨connectionId, session⟩, ⟨AList.mem_lookup_iff.mp found, stale⟩, rfl⟩

theorem SessionManager.findByConnectionId_closeAll_eq (connectionIds : List String)
    (connectionId : String) :
    ∀ manager : SessionManager,
      (connectionIds.foldl (fun manager connectionId =>
        manager.updateSession connectionId ClientSession.closeSocket)
        manager).findByConnectionId connectionId =
          if connectionId ∈ connectionIds then
            (manager.findByConnectionId connectionId).map ClientSession.closeSocket
          else manager.findByConnectionId connectionId := by
  induction connectionIds with
  | nil => intro manager; simp
  | cons closed rest ih =>
      intro manager
      rw [List.foldl_cons, ih, findByConnectionId_updateSession]
      by_cases here : connectionId = closed
      · subst here
        by_cases again : connectionId ∈ rest
        · rw [if_pos again, if_pos rfl, if_pos List.mem_cons_self, Option.map_map]
          rfl
        · rw [if_neg again, if_pos rfl, if_pos List.mem_cons_self]
      · simp only [here, List.mem_cons, false_or, if_false]

/-- A sweep closes the sockets of the connections that were silent too long. -/
theorem SessionManager.findByConnectionId_sweepTimeouts (manager : SessionManager) (now : Int)
    (connectionId : String) :
    (manager.sweepTimeouts now).findByConnectionId connectionId =
      (manager.findByConnectionId connectionId).map fun session =>
        if now - session.lastHeartbeatAt > heartbeatTimeoutMs then session.closeSocket
        else session := by
  rw [sweepTimeouts, findByConnectionId_closeAll_eq]
  simp only [mem_staleConnections]
  cases found : manager.findByConnectionId connectionId with
  | none => simp
  | some session =>
      by_cases stale : now - session.lastHeartbeatAt > heartbeatTimeoutMs <;> simp [stale]

/-! ## What is heard of a connection -/

/-- The clock at the last sign of the connection, which came at the given time. -/
def lastHeard (connectionId : String) (came : Int) (since : List SessionEvent) : Int :=
  since.foldl (fun last event => match event with
    | .heartbeat touched now => if touched = connectionId then now else last
    | _ => last) came

theorem lastHeard_append (connectionId : String) (came : Int) (since : List SessionEvent)
    (event : SessionEvent) :
    lastHeard connectionId came (since ++ [event]) =
      match event with
      | .heartbeat touched now =>
          if touched = connectionId then now else lastHeard connectionId came since
      | _ => lastHeard connectionId came since :=
  List.foldl_append

structure KeptOpen (connectionId : String) (came : Int) (since : List SessionEvent) : Prop where
  uncut : .socketClosing connectionId ∉ since
  heard : ∀ earlier now later, since = earlier ++ .sweepTimeouts now :: later →
    now - lastHeard connectionId came earlier ≤ SessionManager.heartbeatTimeoutMs

structure CameBefore (history : List SessionEvent) (connectionId : String) (came : Int)
    (since : List SessionEvent) : Prop where
  split : ∃ before, history = before ++ .newConnection connectionId came :: since
  attached : .disconnected connectionId ∉ since

theorem keptOpen_append (connectionId : String) (came : Int) (since : List SessionEvent)
    (event : SessionEvent) :
    KeptOpen connectionId came (since ++ [event]) ↔
      KeptOpen connectionId came since ∧ event ≠ .socketClosing connectionId ∧
        ∀ now, event = .sweepTimeouts now →
          now - lastHeard connectionId came since ≤ SessionManager.heartbeatTimeoutMs := by
  constructor
  · intro opened
    refine ⟨⟨?_, ?_⟩, ?_, ?_⟩
    · exact fun cut => opened.uncut (List.mem_append_left _ cut)
    · intro earlier now later split
      exact opened.heard earlier now (later ++ [event]) (by simp [split])
    · exact fun cut => opened.uncut (List.mem_append_right _ (List.mem_singleton.mpr cut.symm))
    · intro now swept
      exact opened.heard since now [] (by rw [swept])
  · rintro ⟨opened, uncut, fresh⟩
    refine ⟨?_, ?_⟩
    · intro cut
      rcases List.mem_append.mp cut with cut | cut
      · exact opened.uncut cut
      · exact uncut (List.mem_singleton.mp cut).symm
    · intro earlier now later split
      rcases List.eq_nil_or_concat later with rfl | ⟨later', last, rfl⟩
      · obtain ⟨rfl, last⟩ := List.append_inj' split rfl
        exact fresh now (List.singleton_inj.mp last)
      · rw [List.concat_eq_append, ← List.cons_append, ← List.append_assoc] at split
        obtain ⟨rfl, -⟩ := List.append_inj' split rfl
        exact opened.heard earlier now later' rfl

theorem cameBefore_append {history : List SessionEvent} {event : SessionEvent}
    {connectionId : String} {came : Int} {since : List SessionEvent}
    (cameBefore : CameBefore (history ++ [event]) connectionId came since) :
    (event = .newConnection connectionId came ∧ since = []) ∨
      ∃ earlier, since = earlier ++ [event] ∧ event ≠ .disconnected connectionId ∧
        CameBefore history connectionId came earlier := by
  obtain ⟨⟨before, split⟩, attached⟩ := cameBefore
  rcases List.eq_nil_or_concat since with rfl | ⟨earlier, last, rfl⟩
  · obtain ⟨-, last⟩ := List.append_inj' split rfl
    exact Or.inl ⟨List.singleton_inj.mp last, rfl⟩
  · rw [List.concat_eq_append, ← List.cons_append, ← List.append_assoc] at split
    obtain ⟨rfl, same⟩ := List.append_inj' split rfl
    obtain rfl := List.singleton_inj.mp same
    rw [List.concat_eq_append, List.mem_append, not_or] at attached
    refine Or.inr ⟨earlier, List.concat_eq_append, ?_, ⟨before, rfl⟩, attached.1⟩
    exact fun gone => attached.2 (List.mem_singleton.mpr gone.symm)

theorem CameBefore.append {history : List SessionEvent} {event : SessionEvent}
    {connectionId : String} {came : Int} {since : List SessionEvent}
    (cameBefore : CameBefore history connectionId came since)
    (stays : event ≠ .disconnected connectionId) :
    CameBefore (history ++ [event]) connectionId came (since ++ [event]) := by
  obtain ⟨⟨before, rfl⟩, attached⟩ := cameBefore
  refine ⟨⟨before, by simp⟩, ?_⟩
  intro gone
  rcases List.mem_append.mp gone with gone | gone
  · exact attached gone
  · exact stays (List.mem_singleton.mp gone).symm

/-! ## Runs -/

structure WatchedServer (Text : Type) where
  manager : SessionManager
  wire : List (SocketWrite Text)
  history : List SessionEvent

inductive WatchEvent (Text : Type) where
  | session (event : SessionEvent)
  | textMessageReceived (connectionId : String) (rawData : Text) (now : Int)

namespace WatchEvent

variable {Text : Type} [JsonDocument Text]

def enabled (server : WatchedServer Text) : WatchEvent Text → Prop
  | .session event => (∀ connectionId now, event ≠ .heartbeat connectionId now) ∧
      event.enabled server.manager
  | .textMessageReceived _ _ _ => True

/-- `ServerApp::onPacketReceived` for a decoded text, as far as heartbeats go. -/
def next (server : WatchedServer Text) : WatchEvent Text → WatchedServer Text
  | .session event =>
      { server with manager := event.next server.manager
                    history := server.history ++ [event] }
  | .textMessageReceived connectionId rawData now =>
      match decode rawData, server.manager.findByConnectionId connectionId with
      | .ok packet, some attached =>
          if packet.cmd = .heartbeat then
            let handled := handleHeartbeat Text server.manager attached packet now
            { manager := handled.1
              wire := server.wire ++ handled.2
              history := server.history ++ [.heartbeat connectionId now] }
          else server
      | _, _ => server

end WatchEvent

def watchSystem (Text : Type) [JsonDocument Text] :
    System (WatchedServer Text) (WatchEvent Text) where
  initial := ⟨SessionManager.empty, [], []⟩
  enabled := WatchEvent.enabled
  next := WatchEvent.next

section Watched
variable {Text : Type} [JsonDocument Text]

theorem watch_next (server : WatchedServer Text) (event : WatchEvent Text)
    (enabled : event.enabled server) (wellFormed : SessionsWellFormed server.manager) :
    event.next server = server ∨
      ∃ happened : SessionEvent, happened.enabled server.manager ∧
        (event.next server).manager = happened.next server.manager ∧
        (event.next server).history = server.history ++ [happened] := by
  cases event with
  | session event => exact Or.inr ⟨event, enabled.2, rfl, rfl⟩
  | textMessageReceived connectionId rawData now =>
      simp only [WatchEvent.next]
      split
      · rename_i packet session decoded found
        split
        · have own := wellFormed.ownId connectionId session found
          refine Or.inr ⟨.heartbeat connectionId now, trivial, ?_, rfl⟩
          simp only [handleHeartbeat, own, SessionEvent.next]
        · exact Or.inl rfl
      · exact Or.inl rfl

theorem sessions_of_watched : ∀ server, (watchSystem Text).Reachable server →
    SessionsWellFormed server.manager := by
  refine System.Reachable.invariant sessionsWellFormed_empty ?_
  intro before event _ wellFormed enabled
  rcases watch_next before event enabled wellFormed with same | ⟨happened, able, after, -⟩
  · rw [show (watchSystem Text).next before event = before from same]
    exact wellFormed
  · have step := wellFormed.step happened able
    rwa [← after] at step

structure ReadsClock (connectionId : String) (came : Int) (since : List SessionEvent)
    (session : ClientSession) : Prop where
  heartbeat : session.lastHeartbeatAt = lastHeard connectionId came since
  socket : session.socketValid = true ↔ KeptOpen connectionId came since

structure Watched (manager : SessionManager) (history : List SessionEvent) : Prop where
  found : ∀ connectionId came since, CameBefore history connectionId came since →
    ∃ session, manager.findByConnectionId connectionId = some session ∧
      ReadsClock connectionId came since session
  came : ∀ connectionId session, manager.findByConnectionId connectionId = some session →
    ∃ came since, CameBefore history connectionId came since

theorem readsClock_new (connectionId : String) (came : Int) :
    ReadsClock connectionId came []
      { connectionId := connectionId, lastHeartbeatAt := came } := by
  refine ⟨rfl, ?_⟩
  constructor
  · intro _
    refine ⟨List.not_mem_nil, ?_⟩
    intro earlier now later split
    exact absurd split.symm (by simp)
  · intro _
    rfl

theorem ReadsClock.next {manager : SessionManager} {event : SessionEvent}
    {connectionId : String} {came : Int} {since : List SessionEvent} {session : ClientSession}
    (reads : ReadsClock connectionId came since session)
    (found : manager.findByConnectionId connectionId = some session)
    (enabled : event.enabled manager) (stays : event ≠ .disconnected connectionId) :
    ∃ after, (event.next manager).findByConnectionId connectionId = some after ∧
      ReadsClock connectionId came (since ++ [event]) after := by
  -- an event that touches neither the clock reading nor the socket
  have quiet : ∀ after : ClientSession, after.lastHeartbeatAt = session.lastHeartbeatAt →
      after.socketValid = session.socketValid → event ≠ .socketClosing connectionId →
      (∀ now, event ≠ .sweepTimeouts now) → (∀ now, event ≠ .heartbeat connectionId now) →
      ReadsClock connectionId came (since ++ [event]) after := by
    intro after sameClock sameSocket uncut unswept unheard
    refine ⟨?_, ?_⟩
    · rw [sameClock, reads.heartbeat, lastHeard_append]
      cases event with
      | heartbeat touched now =>
          have other : touched ≠ connectionId := fun same => unheard now (same ▸ rfl)
          exact (if_neg other).symm
      | _ => rfl
    · rw [sameSocket, reads.socket, keptOpen_append]
      exact ⟨fun opened => ⟨opened, uncut, fun now swept => absurd swept (unswept now)⟩,
        fun opened => opened.1⟩
  cases event with
  | newConnection fresh now =>
      have other : connectionId ≠ fresh := by
        rintro rfl
        exact absurd (found.symm.trans enabled.2) (Option.some_ne_none _)
      refine ⟨session, ?_, quiet session rfl rfl (by simp) (by simp) (by simp)⟩
      simp only [SessionEvent.next, SessionManager.findByConnectionId_attach]
      exact (if_neg other).trans found
  | connectAccepted accepted userId nickname =>
      simp only [SessionEvent.next, SessionManager.findByConnectionId_connectAccepted]
      by_cases here : connectionId = accepted
      · subst here
        refine ⟨session.markAuthenticated userId nickname, ?_,
          quiet _ rfl rfl (by simp) (by simp) (by simp)⟩
        rw [if_pos rfl, found]
        rfl
      · exact ⟨session, (if_neg here).trans found,
          quiet _ rfl rfl (by simp) (by simp) (by simp)⟩
  | heartbeat touched now =>
      simp only [SessionEvent.next, SessionManager.touchHeartbeat,
        SessionManager.findByConnectionId_updateSession]
      by_cases here : connectionId = touched
      · subst here
        refine ⟨session.updateHeartbeat now, by rw [if_pos rfl, found]; rfl, ?_, ?_⟩
        · rw [lastHeard_append]
          exact (if_pos rfl).symm
        · refine reads.socket.trans (Iff.symm ?_)
          rw [keptOpen_append]
          exact ⟨fun opened => opened.1, fun opened => ⟨opened, by simp, by simp⟩⟩
      · refine ⟨session, (if_neg here).trans found, quiet _ rfl rfl (by simp) (by simp) ?_⟩
        intro _ same
        injection same with same
        exact here same.symm
  | sweepTimeouts now =>
      refine ⟨_, by
        rw [SessionEvent.next, SessionManager.findByConnectionId_sweepTimeouts, found,
          Option.map_some], ?_, ?_⟩
      · rw [lastHeard_append, ← reads.heartbeat]
        split <;> rfl
      · rw [keptOpen_append, ← reads.socket, ← reads.heartbeat]
        by_cases stale : now - session.lastHeartbeatAt > SessionManager.heartbeatTimeoutMs
        · rw [if_pos stale]
          constructor
          · intro opened
            cases opened
          · rintro ⟨-, -, fresh⟩
            exact absurd (fresh now rfl) (not_le.mpr stale)
        · rw [if_neg stale]
          constructor
          · intro opened
            refine ⟨opened, by simp, ?_⟩
            rintro _ ⟨⟩
            exact not_lt.mp stale
          · exact fun opened => opened.1
  | socketClosing closing =>
      simp only [SessionEvent.next, SessionManager.findByConnectionId_updateSession]
      by_cases here : connectionId = closing
      · subst here
        refine ⟨session.closeSocket, by rw [if_pos rfl, found]; rfl, ?_, ?_⟩
        · rw [lastHeard_append]
          exact reads.heartbeat
        · rw [keptOpen_append]
          constructor
          · intro opened
            cases opened
          · rintro ⟨-, uncut, -⟩
            exact absurd rfl uncut
      · refine ⟨session, (if_neg here).trans found, quiet _ rfl rfl ?_ (by simp) (by simp)⟩
        intro same
        injection same with same
        exact here same.symm
  | disconnected gone =>
      have other : connectionId ≠ gone := fun same => stays (same ▸ rfl)
      refine ⟨session, ?_, quiet session rfl rfl (by simp) (by simp) (by simp)⟩
      simp only [SessionEvent.next, SessionManager.findByConnectionId_detach]
      exact (if_neg other).trans found

theorem Watched.next {manager : SessionManager} {history : List SessionEvent}
    (watched : Watched manager history) (event : SessionEvent) (enabled : event.enabled manager) :
    Watched (event.next manager) (history ++ [event]) := by
  constructor
  · intro connectionId came since cameBefore
    rcases cameBefore_append cameBefore with ⟨rfl, rfl⟩ | ⟨earlier, rfl, stays, before⟩
    · refine ⟨_, ?_, readsClock_new connectionId came⟩
      exact (SessionManager.findByConnectionId_attach _ _ _).trans (if_pos rfl)
    · obtain ⟨session, found, reads⟩ := watched.found connectionId came earlier before
      exact reads.next found enabled stays
  · intro connectionId session found
    by_cases gone : event = .disconnected connectionId
    · subst gone
      rw [SessionEvent.next, SessionManager.findByConnectionId_detach, if_pos rfl] at found
      cases found
    · have old : ∀ before, manager.findByConnectionId connectionId = some before →
          ∃ came since, CameBefore (history ++ [event]) connectionId came since := by
        intro before beforeFound
        obtain ⟨came, since, cameBefore⟩ := watched.came connectionId before beforeFound
        exact ⟨came, since ++ [event], cameBefore.append gone⟩
      rcases session_cases manager event found with ⟨now, rfl, -⟩ |
        ⟨before, _, _, beforeFound, -, -⟩ | ⟨before, _, beforeFound, -, -⟩
      · exact ⟨now, [], ⟨⟨history, rfl⟩, List.not_mem_nil⟩⟩
      · exact old before beforeFound
      · exact old before beforeFound

theorem watched_of_reachable : ∀ server, (watchSystem Text).Reachable server →
    Watched server.manager server.history := by
  refine System.Reachable.invariant ?_ ?_
  · constructor
    · rintro connectionId came since ⟨⟨before, split⟩, -⟩
      exact absurd split.symm (by simp [watchSystem])
    · intro connectionId session found
      cases found
  · intro before event reachedBefore watched enabled
    rcases watch_next before event enabled (sessions_of_watched before reachedBefore) with
      same | ⟨happened, able, after, told⟩
    · rw [show (watchSystem Text).next before event = before from same]
      exact watched
    · have step := watched.next happened able
      rwa [← after, ← told] at step

structure Beats (server : WatchedServer Text) (event : WatchEvent Text) (connectionId : String)
    (packet : Packet) : Prop where
  text : ∃ rawData now, event = .textMessageReceived connectionId rawData now ∧
    decode rawData = .ok packet
  heartbeat : packet.cmd = .heartbeat
  socket : ∃ session, server.manager.findByConnectionId connectionId = some session ∧
    session.socketValid = true

/-- A socket is open exactly when its connection has come, is attached still, has
not been cut off, and has been heard of in time before each sweep.  A heartbeat
on an open socket is answered there, and nothing else is written. -/
theorem socket_open_iff_heard (Text : Type) [JsonDocument Text] (server : WatchedServer Text)
    (reached : (watchSystem Text).Reachable server) :
    (∀ connectionId,
      (∃ session, server.manager.findByConnectionId connectionId = some session ∧
        session.socketValid = true) ↔
      ∃ came since, CameBefore server.history connectionId came since ∧
        KeptOpen connectionId came since) ∧
    ∀ event : WatchEvent Text,
      (∀ connectionId packet, Beats server event connectionId packet →
        (event.next server).wire = server.wire ++ [⟨connectionId,
          (Packet.makeAck .heartbeatAck packet.msgId 200 "pong" []).encode⟩]) ∧
      ((∀ connectionId packet, ¬ Beats server event connectionId packet) →
        (event.next server).wire = server.wire) := by
  have watched := watched_of_reachable server reached
  have wellFormed := sessions_of_watched server reached
  refine ⟨?_, fun event => ⟨?_, ?_⟩⟩
  · intro connectionId
    constructor
    · rintro ⟨session, found, valid⟩
      obtain ⟨came, since, cameBefore⟩ := watched.came connectionId session found
      obtain ⟨same, sameFound, reads⟩ := watched.found connectionId came since cameBefore
      obtain rfl := Option.some.inj (found.symm.trans sameFound)
      exact ⟨came, since, cameBefore, reads.socket.mp valid⟩
    · rintro ⟨came, since, cameBefore, opened⟩
      obtain ⟨session, found, reads⟩ := watched.found connectionId came since cameBefore
      exact ⟨session, found, reads.socket.mpr opened⟩
  · rintro connectionId packet ⟨⟨rawData, now, rfl, decoded⟩, heartbeat, session, found, valid⟩
    have own := wellFormed.ownId connectionId session found
    simp only [WatchEvent.next, decoded, found, heartbeat, if_true, handleHeartbeat,
      ClientSession.sendPacket, valid, own]
  · intro quiet
    cases event with
    | session happened => rfl
    | textMessageReceived connectionId rawData now =>
        simp only [WatchEvent.next]
        split
        · rename_i packet attached decoded found
          split
          · rename_i heartbeat
            have closed : ¬ attached.socketValid = true := fun valid =>
              quiet connectionId packet ⟨⟨rawData, now, rfl, decoded⟩, heartbeat, attached,
                found, valid⟩
            simp only [handleHeartbeat, ClientSession.sendPacket, if_neg closed,
              List.append_nil]
          · rfl
        · rfl

end Watched

def aliceBeats : List (WatchEvent ParsedText) :=
  [.session (.newConnection "c1" 0),
    .textMessageReceived "c1" ({ cmd := .heartbeat, msgId := "h1" } : Packet).encode 60000,
    .session (.sweepTimeouts 120000)]

theorem socket_open_iff_heard_alice :
    ∃ came since, CameBefore (aliceBeats.foldl WatchEvent.next
      (watchSystem ParsedText).initial).history "c1" came since ∧ KeptOpen "c1" came since := by
  have reached : (watchSystem ParsedText).Reachable
      (aliceBeats.foldl WatchEvent.next (watchSystem ParsedText).initial) := by
    refine System.Reachable.run aliceBeats _ System.Reachable.initial ?_
    exact ⟨⟨nofun, by decide, rfl⟩, trivial, ⟨nofun, trivial⟩, trivial⟩
  exact ((socket_open_iff_heard ParsedText _ reached).1 "c1").mp
    ⟨⟨"c1", 60000, "", "", false, .connected⟩, by decide, by decide⟩

end ShirohaChat
