import Mathlib.Data.List.Nodup
import Mathlib.Data.List.Perm.Basic
import Mathlib.Logic.Function.Basic
import ShirohaChat.Lib.Transition

/-!
# Correlating replies with requests

Requests travel to a server and their replies come back in the order they were
issued.  What is needed to answer a request waits in a table under its key; the
reply takes the entry out and answers from it.  As long as no request is issued
under a key that is still waiting, each request is answered once, from the entry
it left.
-/

set_option autoImplicit false

namespace Correlation

open Transition

universe u v w x

/-- `inFlight` holds the requests not yet answered, oldest first. -/
structure Exchange (Item : Type u) (Key : Type v) (Entry : Type w) (Answer : Type x) where
  waiting : Key → Option Entry
  inFlight : List Item
  issued : List Item
  answered : List (Item × Answer)

variable {Item : Type u} {Key : Type v} {Entry : Type w} {Answer : Type x}

namespace Exchange

def empty : Exchange Item Key Entry Answer := ⟨fun _ => none, [], [], []⟩

variable [DecidableEq Key]

/-- A request leaves its entry, replacing what was there. -/
def issue (key : Item → Key) (entry : Item → Entry) (exchange : Exchange Item Key Entry Answer)
    (item : Item) : Exchange Item Key Entry Answer :=
  { exchange with
    waiting := Function.update exchange.waiting (key item) (some (entry item))
    inFlight := exchange.inFlight ++ [item]
    issued := exchange.issued ++ [item] }

/-- A reply takes out the entry of its request; without one it is dropped. -/
def settle (key : Item → Key) (respond : Item → Entry → Answer)
    (exchange : Exchange Item Key Entry Answer) (item : Item) :
    Exchange Item Key Entry Answer :=
  match exchange.waiting (key item) with
  | none => exchange
  | some kept =>
      { exchange with
        waiting := Function.update exchange.waiting (key item) none
        answered := exchange.answered ++ [(item, respond item kept)] }

/-- The oldest reply comes in. -/
def answer (key : Item → Key) (respond : Item → Entry → Answer)
    (exchange : Exchange Item Key Entry Answer) : Exchange Item Key Entry Answer :=
  match exchange.inFlight with
  | [] => exchange
  | item :: rest => { exchange with inFlight := rest }.settle key respond item

end Exchange

inductive ExchangeEvent (Item : Type u) where
  | issue (item : Item)
  | answer

section Runs
variable (key : Item → Key) (entry : Item → Entry) (respond : Item → Entry → Answer)

/-- Every request in flight finds its own entry, every answer was given from
the entry of its request, and nothing is lost. -/
structure Correlated (exchange : Exchange Item Key Entry Answer) : Prop where
  found : ∀ item ∈ exchange.inFlight, exchange.waiting (key item) = some (entry item)
  apart : (exchange.inFlight.map key).Nodup
  matched : ∀ pair ∈ exchange.answered, pair.2 = respond pair.1 (entry pair.1)
  ledger : (exchange.inFlight ++ exchange.answered.map Prod.fst).Perm exchange.issued

namespace Correlated

variable {key} {entry} {respond} {exchange : Exchange Item Key Entry Answer}

theorem empty : Correlated key entry respond Exchange.empty := by
  constructor
  · intro item member
    cases member
  · exact List.nodup_nil
  · intro pair member
    cases member
  · exact List.Perm.nil

variable [DecidableEq Key]

theorem issue (correlated : Correlated key entry respond exchange) {item : Item}
    (free : exchange.waiting (key item) = none) :
    Correlated key entry respond (exchange.issue key entry item) := by
  have others : ∀ other ∈ exchange.inFlight, key other ≠ key item := by
    intro other member sameKey
    have waits := correlated.found other member
    rw [sameKey, free] at waits
    cases waits
  constructor
  · intro other member
    rcases List.mem_append.mp member with old | new
    · have waits := correlated.found other old
      simpa [Exchange.issue, Function.update_of_ne (others other old)] using waits
    · rw [List.mem_singleton.mp new]
      simp [Exchange.issue]
  · simp only [Exchange.issue, List.map_append, List.nodup_append, List.map_cons, List.map_nil]
    refine ⟨correlated.apart, by simp, ?_⟩
    intro oldKey oldIn newKey newIn
    obtain ⟨other, member, rfl⟩ := List.mem_map.mp oldIn
    rw [List.mem_singleton.mp newIn]
    exact others other member
  · exact correlated.matched
  · have moved : (exchange.inFlight ++ [item] ++ exchange.answered.map Prod.fst).Perm
        (exchange.inFlight ++ exchange.answered.map Prod.fst ++ [item]) := by
      simp only [List.append_assoc]
      exact List.Perm.append_left _ List.perm_append_comm
    exact moved.trans (correlated.ledger.append_right [item])

theorem answer (correlated : Correlated key entry respond exchange) :
    Correlated key entry respond (exchange.answer key respond) := by
  unfold Exchange.answer
  cases flight : exchange.inFlight with
  | nil => exact correlated
  | cons item rest =>
      have waits : exchange.waiting (key item) = some (entry item) :=
        correlated.found item (flight ▸ List.mem_cons_self)
      have apart := correlated.apart
      rw [flight, List.map_cons, List.nodup_cons] at apart
      simp only [Exchange.settle, waits]
      constructor
      · intro other member
        have waitsOther := correlated.found other (flight ▸ List.mem_cons_of_mem _ member)
        have differ : key other ≠ key item := by
          intro sameKey
          exact apart.1 (List.mem_map.mpr ⟨other, member, sameKey⟩)
        simpa [Function.update_of_ne differ] using waitsOther
      · exact apart.2
      · intro pair member
        rcases List.mem_append.mp member with old | new
        · exact correlated.matched pair old
        · rw [List.mem_singleton.mp new]
      · have ledger := correlated.ledger
        rw [flight] at ledger
        refine List.Perm.trans ?_ ledger
        simp only [List.map_append, List.map_cons, List.map_nil, ← List.append_assoc]
        exact List.perm_append_singleton item _

end Correlated

variable [DecidableEq Key]

/-- Requests are only issued under free keys. -/
def exchangeSystem : System (Exchange Item Key Entry Answer) (ExchangeEvent Item) where
  initial := Exchange.empty
  enabled := fun exchange event =>
    match event with
    | .issue item => exchange.waiting (key item) = none
    | .answer => True
  next := fun exchange event =>
    match event with
    | .issue item => exchange.issue key entry item
    | .answer => exchange.answer key respond

theorem correlated_of_reachable (exchange : Exchange Item Key Entry Answer)
    (reached : (exchangeSystem key entry respond).Reachable exchange) :
    Correlated key entry respond exchange := by
  refine reached.invariant Correlated.empty ?_
  intro exchange event _ correlated enabled
  cases event with
  | issue item => exact correlated.issue enabled
  | answer => exact correlated.answer

def WaitsInFlight (exchange : Exchange Item Key Entry Answer) : Prop :=
  ∀ sought value, exchange.waiting sought = some value →
    ∃ item ∈ exchange.inFlight, key item = sought

theorem waitsInFlight_of_reachable (exchange : Exchange Item Key Entry Answer)
    (reached : (exchangeSystem key entry respond).Reachable exchange) :
    WaitsInFlight key exchange := by
  refine reached.invariant ?_ ?_
  · intro sought value waits
    cases waits
  intro exchange event reachedBefore inFlight enabled sought value waits
  cases event with
  | issue item =>
      by_cases same : sought = key item
      · exact ⟨item, List.mem_append_right _ (List.mem_singleton_self item), same.symm⟩
      · rw [show ((exchangeSystem key entry respond).next exchange (.issue item)).waiting =
          Function.update exchange.waiting (key item) (some (entry item)) from rfl,
          Function.update_of_ne same] at waits
        obtain ⟨other, member, isKey⟩ := inFlight sought value waits
        exact ⟨other, List.mem_append_left _ member, isKey⟩
  | answer =>
      have correlated := correlated_of_reachable key entry respond exchange reachedBefore
      simp only [exchangeSystem, Exchange.answer] at waits ⊢
      cases flight : exchange.inFlight with
      | nil =>
          rw [flight] at waits
          exact inFlight sought value waits
      | cons item rest =>
          have waitsItem := correlated.found item (flight ▸ List.mem_cons_self)
          simp only [flight, Exchange.settle, waitsItem] at waits ⊢
          by_cases same : sought = key item
          · rw [same, Function.update_self] at waits
            cases waits
          · rw [Function.update_of_ne same] at waits
            obtain ⟨other, member, isKey⟩ := inFlight sought value waits
            rw [flight] at member
            rcases List.mem_cons.mp member with rfl | later
            · exact absurd isKey.symm same
            · exact ⟨other, later, isKey⟩

end Runs

variable {key : Item → Key} {entry : Item → Entry} {respond : Item → Entry → Answer}

/-- With nothing in flight every request has exactly one answer. -/
theorem Correlated.answered_once [DecidableEq Item]
    {exchange : Exchange Item Key Entry Answer}
    (correlated : Correlated key entry respond exchange) (quiescent : exchange.inFlight = [])
    (distinct : exchange.issued.Nodup) {item : Item} (issued : item ∈ exchange.issued) :
    (exchange.answered.map Prod.fst).count item = 1 := by
  have ledger := correlated.ledger
  rw [quiescent, List.nil_append] at ledger
  rw [ledger.count_eq]
  exact List.count_eq_one_of_mem distinct issued

theorem Correlated.answered_issued {exchange : Exchange Item Key Entry Answer}
    (correlated : Correlated key entry respond exchange) {pair : Item × Answer}
    (answered : pair ∈ exchange.answered) : pair.1 ∈ exchange.issued :=
  correlated.ledger.mem_iff.mp
    (List.mem_append_right _ (List.mem_map.mpr ⟨pair, answered, rfl⟩))

end Correlation
