import Mathlib.Logic.Relation
import ShirohaChat.Lib.FiniteMap

/-!
# Caches evicted in the order of a key list

Keys are listed as they enter.  A key can be listed twice, and a listed key can
be gone from the cache already.  Eviction takes keys from the front of the list
until one is cached whose entry is not due, given the present size.
-/

set_option autoImplicit false

namespace EvictingCache

universe u v

variable {κ : Type u} {ν : Type v} [DecidableEq κ]

def Listed (order : List κ) (cache : FiniteMap κ ν) : Prop :=
  ∀ key ∈ cache, key ∈ order

omit [DecidableEq κ] in
theorem listed_empty : Listed [] (∅ : FiniteMap κ ν) :=
  fun key cached => absurd cached (AList.notMem_empty key)

theorem Listed.enter {order : List κ} {cache : FiniteMap κ ν} (listed : Listed order cache)
    (key : κ) (entry : ν) : Listed (order ++ [key]) (AList.insert key entry cache) := by
  intro other cached
  rcases (AList.mem_insert cache).mp cached with isKey | old
  · exact List.mem_append_right order (List.mem_singleton.mpr isKey)
  · exact List.mem_append_left [key] (listed other old)

omit [DecidableEq κ] in
theorem Listed.unlist {key : κ} {rest : List κ} {cache : FiniteMap κ ν}
    (listed : Listed (key :: rest) cache) (gone : key ∉ cache) : Listed rest cache := by
  intro other cached
  rcases List.mem_cons.mp (listed other cached) with isKey | later
  · exact absurd (isKey ▸ cached) gone
  · exact later

theorem Listed.drop {key : κ} {rest : List κ} {cache : FiniteMap κ ν}
    (listed : Listed (key :: rest) cache) : Listed rest (AList.erase key cache) := by
  have stillListed : Listed (key :: rest) (AList.erase key cache) :=
    fun other cached => listed other (AList.mem_erase.mp cached).2
  exact stillListed.unlist fun cached => (AList.mem_erase.mp cached).1 rfl

section Eviction
variable (due : ν → Nat → Prop)

/-- One entry leaves the cache while it is due. -/
def Drops (before after : FiniteMap κ ν) : Prop :=
  ∃ key entry, AList.lookup key before = some entry ∧ due entry before.keys.length ∧
    after = AList.erase key before

variable {due} in
theorem lookup_of_drops {before after : FiniteMap κ ν}
    (dropped : Relation.ReflTransGen (Drops due) before after) {key : κ} {entry : ν}
    (found : AList.lookup key after = some entry) : AList.lookup key before = some entry := by
  induction dropped with
  | refl => exact found
  | tail _ drop ih =>
      obtain ⟨other, _, _, _, rfl⟩ := drop
      exact ih (FiniteMap.of_lookup_erase found).2

variable [∀ entry size, Decidable (due entry size)]

def evict : List κ → FiniteMap κ ν → List κ × FiniteMap κ ν
  | [], cache => ([], cache)
  | oldest :: rest, cache =>
      match AList.lookup oldest cache with
      | none => evict rest cache
      | some entry =>
          if due entry cache.keys.length then evict rest (AList.erase oldest cache)
          else (oldest :: rest, cache)

/-- Eviction drops due entries one at a time and changes nothing else. -/
theorem evict_drops (order : List κ) (cache : FiniteMap κ ν) :
    Relation.ReflTransGen (Drops due) cache (evict due order cache).2 := by
  fun_induction evict due order cache with
  | case1 cache => exact .refl
  | case2 oldest rest cache missing ih => exact ih
  | case3 oldest rest cache entry cached isDue ih =>
      exact .head ⟨oldest, entry, cached, isDue, rfl⟩ ih
  | case4 oldest rest cache entry cached notDue => exact .refl

theorem Listed.evict {order : List κ} {cache : FiniteMap κ ν} (listed : Listed order cache) :
    Listed (evict due order cache).1 (evict due order cache).2 := by
  fun_induction EvictingCache.evict due order cache with
  | case1 cache => exact listed
  | case2 oldest rest cache missing ih =>
      exact ih (listed.unlist (AList.lookup_eq_none.mp missing))
  | case3 oldest rest cache entry cached isDue ih => exact ih listed.drop
  | case4 oldest rest cache entry cached notDue => exact listed

/-- Eviction ends at the end of the list or at an entry that is not due. -/
theorem evict_stops (order : List κ) (cache : FiniteMap κ ν) :
    (evict due order cache).1 = [] ∨
      ∃ entry, ¬ due entry (evict due order cache).2.keys.length := by
  fun_induction evict due order cache with
  | case1 cache => exact Or.inl rfl
  | case2 oldest rest cache missing ih => exact ih
  | case3 oldest rest cache entry cached isDue ih => exact ih
  | case4 oldest rest cache entry cached notDue => exact Or.inr ⟨entry, notDue⟩

/-- Where every entry of a cache over capacity is due, the cache fits after eviction. -/
theorem evict_fits {order : List κ} {cache : FiniteMap κ ν} (listed : Listed order cache)
    {capacity : Nat} (overCapacity : ∀ entry size, capacity < size → due entry size) :
    (evict due order cache).2.keys.length ≤ capacity := by
  rcases evict_stops due order cache with atEnd | ⟨entry, notDue⟩
  · have kept := listed.evict due
    rw [atEnd] at kept
    have noKeys : (evict due order cache).2.keys = [] :=
      List.eq_nil_iff_forall_not_mem.mpr fun key cached =>
        List.not_mem_nil (kept key (AList.mem_keys.mpr cached))
    rw [noKeys]
    exact Nat.zero_le capacity
  · exact Nat.le_of_not_lt fun tooMany => notDue (overCapacity entry _ tooMany)

end Eviction

end EvictingCache
