import Mathlib.Data.List.Basic

/-!
# Guarded transition systems

A system has one initial state, a total step function and a guard saying which
events can happen.  All nondeterminism lives in the events.  Reachability is
the least set closed under enabled steps; an invariant is proved once through
`Reachable.invariant`, and a run that obeys a further condition at each step
is a run of the `restrict`ed system.
-/

set_option autoImplicit false

namespace Transition

universe u v w x

structure System (State : Type u) (Event : Type v) where
  initial : State
  enabled : State → Event → Prop
  next : State → Event → State

namespace System

variable {State : Type u} {Event : Type v}

inductive Reachable (system : System State Event) : State → Prop where
  | initial : Reachable system system.initial
  | step {state : State} (event : Event) (reached : Reachable system state)
      (enabled : system.enabled state event) :
      Reachable system (system.next state event)

/-- The induction over runs.  The state before the step may be used as a
reachable one, so invariants proved earlier are available for later ones. -/
theorem Reachable.invariant {system : System State Event} {Inv : State → Prop}
    (base : Inv system.initial)
    (preserved : ∀ state event, system.Reachable state → Inv state →
      system.enabled state event → Inv (system.next state event)) :
    ∀ state, system.Reachable state → Inv state := by
  intro state reached
  induction reached with
  | initial => exact base
  | step event reached enabled ih => exact preserved _ event reached ih enabled

/-- The same system, with every step asked to meet a further condition. -/
def restrict (system : System State Event) (condition : State → Event → Prop) :
    System State Event :=
  { system with
    enabled := fun state event => system.enabled state event ∧ condition state event }

theorem Reachable.of_restrict {system : System State Event}
    {condition : State → Event → Prop} {state : State}
    (reached : (system.restrict condition).Reachable state) :
    system.Reachable state := by
  induction reached with
  | initial => exact Reachable.initial
  | step event _ enabled ih => exact Reachable.step event ih enabled.1

/-- A run of one system is a run of another one, seen through `abs`, when each
of its steps is one step there or none. -/
theorem Reachable.simulates {State' : Type w} {Event' : Type x}
    {system : System State Event} {spec : System State' Event'} (abs : State → State')
    (base : abs system.initial = spec.initial)
    (step : ∀ state event, system.Reachable state → system.enabled state event →
      abs (system.next state event) = abs state ∨
      ∃ event', spec.enabled (abs state) event' ∧
        abs (system.next state event) = spec.next (abs state) event') :
    ∀ state, system.Reachable state → spec.Reachable (abs state) := by
  intro state reached
  induction reached with
  | initial =>
      rw [base]
      exact Reachable.initial
  | @step before event reachedBefore enabled ih =>
      rcases step before event reachedBefore enabled with same | ⟨event', enabled', after⟩
      · rw [same]
        exact ih
      · rw [after]
        exact Reachable.step event' ih enabled'

/-- The same for a relation between the states: each reachable state is related
to a reachable one of the other system. -/
theorem Reachable.simulates_rel {State' : Type w} {Event' : Type x}
    {system : System State Event} {spec : System State' Event'} {Rel : State → State' → Prop}
    (base : Rel system.initial spec.initial)
    (step : ∀ state event state', system.Reachable state → spec.Reachable state' →
      Rel state state' → system.enabled state event →
      Rel (system.next state event) state' ∨
      ∃ event', spec.enabled state' event' ∧
        Rel (system.next state event) (spec.next state' event')) :
    ∀ state, system.Reachable state → ∃ state', spec.Reachable state' ∧ Rel state state' := by
  intro state reached
  induction reached with
  | initial => exact ⟨spec.initial, Reachable.initial, base⟩
  | @step before event reachedBefore enabled ih =>
      obtain ⟨state', reached', related⟩ := ih
      rcases step before event state' reachedBefore reached' related enabled with
        same | ⟨event', enabled', after⟩
      · exact ⟨state', reached', same⟩
      · exact ⟨spec.next state' event', Reachable.step event' reached' enabled', after⟩

def Enabled (system : System State Event) : State → List Event → Prop
  | _, [] => True
  | state, event :: rest =>
      system.enabled state event ∧ system.Enabled (system.next state event) rest

theorem Reachable.run {system : System State Event} (events : List Event) :
    ∀ state, system.Reachable state → system.Enabled state events →
      system.Reachable (events.foldl system.next state) := by
  induction events with
  | nil => intro state reached _; exact reached
  | cons event rest ih =>
      intro state reached enabled
      exact ih _ (Reachable.step event reached enabled.1) enabled.2

end System
end Transition
