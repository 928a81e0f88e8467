import ShirohaChat.Server.SessionRuns
import ShirohaChat.Server.OfflineManager

/-!
# A packet is written or queued

The decision whether a user is online is taken from the session map; whether a
packet can be written is a matter of the socket.  Between `close()` and the
`disconnected` report the two disagree.
-/

set_option autoImplicit false

namespace ShirohaChat

open Transition

section Enqueue
variable {Text : Type} [JsonDocument Text]

def WrittenTo (manager : SessionManager) (userId : String) (packet : Packet)
    (writes : List (SocketWrite Text)) : Prop :=
  ∃ session, manager.findByUserId userId = some session ∧
    manager.findByConnectionId session.connectionId = some session ∧
    session.socketValid = true ∧
    (⟨session.connectionId, packet.encode⟩ : SocketWrite Text) ∈ writes

def WrittenOrQueued (Text : Type) [JsonDocument Text] (manager : SessionManager)
    (userId : String) (packet : Packet) : Prop :=
  WrittenTo manager userId packet (enqueueIfOffline Text manager userId packet).1 ∨
    (enqueueIfOffline Text manager userId packet).2 = some ⟨userId, packet.encode⟩

theorem enqueueIfOffline_offline (manager : SessionManager) (userId : String)
    (packet : Packet) (missing : manager.findByUserId userId = none) :
    enqueueIfOffline Text manager userId packet =
      ([], some ⟨userId, packet.encode⟩) := by
  unfold enqueueIfOffline routeToUser
  rw [missing]

theorem enqueueIfOffline_online (manager : SessionManager) (userId : String)
    (packet : Packet) (session : ClientSession)
    (found : manager.findByUserId userId = some session) :
    enqueueIfOffline Text manager userId packet =
      (session.sendPacket packet, none) := by
  unfold enqueueIfOffline routeToUser
  rw [found]

/-- In every reachable state a packet is written or queued exactly when the
session the user is mapped to, if any, has a valid socket. -/
theorem enqueueIfOffline_written_or_queued_iff (manager : SessionManager)
    (reached : sessionSystem.Reachable manager) (userId : String) (packet : Packet) :
    WrittenOrQueued Text manager userId packet ↔
      ∀ session, manager.findByUserId userId = some session → session.socketValid = true := by
  have wellFormed := sessionsWellFormed_of_reachable manager reached
  unfold WrittenOrQueued WrittenTo
  cases found : manager.findByUserId userId with
  | none =>
      rw [enqueueIfOffline_offline manager userId packet found]
      simp
  | some session =>
      obtain ⟨connectionId, _, _, attached⟩ :=
        (manager.findByUserId_eq_some userId session).mp found
      have own := wellFormed.ownId connectionId session attached
      rw [enqueueIfOffline_online manager userId packet session found]
      constructor
      · rintro (⟨target, targetFound, _, valid, _⟩ | queued)
        · intro other otherFound
          rw [← Option.some.inj otherFound, Option.some.inj targetFound]
          exact valid
        · cases queued
      · intro valid
        have sessionValid := valid session rfl
        refine Or.inl ⟨session, rfl, by rw [own, attached], sessionValid, ?_⟩
        simp [ClientSession.sendPacket, sessionValid]

theorem enqueueIfOffline_written_or_queued_iff_alice :
    WrittenOrQueued ParsedText (aliceLogin.foldl SessionEvent.next SessionManager.empty)
      "alice" { cmd := .receiveMessage, msgId := "srv_1" } := by
  have nonempty : "alice" ≠ "" := by decide
  have reached : sessionSystem.Reachable
      (aliceLogin.foldl SessionEvent.next SessionManager.empty) := by
    refine System.Reachable.run aliceLogin _ System.Reachable.initial ?_
    exact ⟨⟨by decide, rfl⟩, nonempty, trivial⟩
  refine (enqueueIfOffline_written_or_queued_iff _ reached "alice" _).mpr ?_
  intro session found
  cases found
  rfl

/-- Alice has been silent for longer than the timeout when the sweep runs. -/
def aliceSwept : List SessionEvent := aliceLogin ++ [SessionEvent.sweepTimeouts 100000]

/-- Her socket is closing but not yet reported disconnected: a packet for her
is neither written nor queued. -/
theorem enqueueIfOffline_loses_packet :
    ¬ ∀ manager, sessionSystem.Reachable manager → ∀ userId packet,
      WrittenOrQueued ParsedText manager userId packet := by
  intro always
  have nonempty : "alice" ≠ "" := by decide
  have reached : sessionSystem.Reachable
      (aliceSwept.foldl SessionEvent.next SessionManager.empty) := by
    refine System.Reachable.run aliceSwept _ System.Reachable.initial ?_
    exact ⟨⟨by decide, rfl⟩, nonempty, trivial, trivial⟩
  rcases always _ reached "alice" { cmd := .receiveMessage, msgId := "srv_1" } with
    ⟨_, _, _, _, written⟩ | queued
  · cases written
  · cases queued

end Enqueue
end ShirohaChat
