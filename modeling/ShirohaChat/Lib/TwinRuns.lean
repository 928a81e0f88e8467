import ShirohaChat.Lib.Transition

/-!
# Two runs, one of which skips events

A twin run takes one event at a time into a run that processes every event and
into another one that skips some.  What the two runs agree on is shown by two
steps: an event processed by both keeps the agreement, and so does an event
processed by the first alone.
-/

set_option autoImplicit false

namespace Transition

universe u v

structure Twin (State : Type u) where
  full : State
  skipping : State

structure TwinEvent (Event : Type v) where
  event : Event
  skipped : Bool

namespace System

variable {State : Type u} {Event : Type v}

def twin (system : System State Event) (maySkip : Event → Prop) :
    System (Twin State) (TwinEvent Event) where
  initial := ⟨system.initial, system.initial⟩
  enabled runs taken :=
    system.enabled runs.full taken.event ∧ system.enabled runs.skipping taken.event ∧
      (taken.skipped = true → maySkip taken.event)
  next runs taken :=
    { full := system.next runs.full taken.event
      skipping :=
        if taken.skipped then runs.skipping else system.next runs.skipping taken.event }

variable {system : System State Event} {maySkip : Event → Prop}
  {condition : Twin State → TwinEvent Event → Prop}

/-- The two runs agree when events processed together and events skipped by the
second run keep the agreement. -/
theorem Reachable.twins_agree {Agree : State → State → Prop}
    (base : Agree system.initial system.initial)
    (together : ∀ runs event, (system.twin maySkip).Reachable runs →
      Agree runs.full runs.skipping → system.enabled runs.full event →
      system.enabled runs.skipping event → condition runs ⟨event, false⟩ →
      Agree (system.next runs.full event) (system.next runs.skipping event))
    (apart : ∀ runs event, (system.twin maySkip).Reachable runs →
      Agree runs.full runs.skipping → system.enabled runs.full event → maySkip event →
      Agree (system.next runs.full event) runs.skipping) :
    ∀ runs, ((system.twin maySkip).restrict condition).Reachable runs →
      Agree runs.full runs.skipping := by
  apply Reachable.invariant
  · exact base
  · rintro runs ⟨event, skipped⟩ reached agree ⟨⟨enabled, enabled', may⟩, holds⟩
    have reachedTwin := reached.of_restrict
    cases skipped with
    | false => exact together runs event reachedTwin agree enabled enabled' holds
    | true => exact apart runs event reachedTwin agree enabled (may rfl)

end System
end Transition
