import Mathlib.Data.Finset.Erase
import Mathlib.Data.Finset.Insert
import Mathlib.Data.List.AList

/-!
# Finite maps with one value type

Association lists with distinct keys, read through `lookup`.  The lemmas give
every update by cases on the key, which is how the invariants use them.
-/

set_option autoImplicit false

universe u v w

abbrev FiniteMap (κ : Type u) (ν : Type v) := AList fun _ : κ => ν

namespace FiniteMap

variable {κ : Type u} {ν : Type v} [DecidableEq κ]

theorem lookup_insert (map : FiniteMap κ ν) (key other : κ) (value : ν) :
    AList.lookup other (AList.insert key value map) =
      if other = key then some value else AList.lookup other map := by
  by_cases same : other = key
  · subst same
    rw [if_pos rfl, AList.lookup_insert]
  · rw [if_neg same, AList.lookup_insert_ne same]

theorem lookup_erase (map : FiniteMap κ ν) (key other : κ) :
    AList.lookup other (AList.erase key map) =
      if other = key then none else AList.lookup other map := by
  by_cases same : other = key
  · subst same
    rw [if_pos rfl, AList.lookup_erase]
  · rw [if_neg same, AList.lookup_erase_ne same]

theorem of_lookup_insert {map : FiniteMap κ ν} {key other : κ} {value found : ν}
    (present : AList.lookup other (AList.insert key value map) = some found) :
    (other = key ∧ found = value) ∨ (other ≠ key ∧ AList.lookup other map = some found) := by
  rw [lookup_insert] at present
  by_cases same : other = key
  · rw [if_pos same, Option.some.injEq] at present
    exact Or.inl ⟨same, present.symm⟩
  · rw [if_neg same] at present
    exact Or.inr ⟨same, present⟩

theorem of_lookup_erase {map : FiniteMap κ ν} {key other : κ} {found : ν}
    (present : AList.lookup other (AList.erase key map) = some found) :
    other ≠ key ∧ AList.lookup other map = some found := by
  rw [lookup_erase] at present
  by_cases same : other = key
  · rw [if_pos same] at present
    cases present
  · rw [if_neg same] at present
    exact ⟨same, present⟩

theorem mem_iff (map : FiniteMap κ ν) (key : κ) :
    key ∈ map ↔ ∃ value, AList.lookup key map = some value := by
  rw [← AList.lookup_isSome, Option.isSome_iff_exists]

theorem notMem_iff (map : FiniteMap κ ν) (key : κ) :
    key ∉ map ↔ AList.lookup key map = none :=
  AList.lookup_eq_none.symm

/-! ## A set beside a map, holding one name for each value -/

/-- The set holds the names of the values and nothing else, and no two values
have the same name. -/
structure Indexes {ι : Type w} (name : ν → ι) (map : FiniteMap κ ν) (index : Finset ι) :
    Prop where
  mem_iff : ∀ wanted, wanted ∈ index ↔
    ∃ key value, AList.lookup key map = some value ∧ name value = wanted
  apart : ∀ key other value otherValue, AList.lookup key map = some value →
    AList.lookup other map = some otherValue → name value = name otherValue → key = other

namespace Indexes

variable {ι : Type w} {name : ν → ι} {map : FiniteMap κ ν} {index : Finset ι}

theorem empty : Indexes name (∅ : FiniteMap κ ν) ∅ := by
  have nothing (key : κ) : AList.lookup key (∅ : FiniteMap κ ν) = none :=
    AList.lookup_empty key
  constructor
  · intro wanted
    simp [nothing]
  · intro key other value otherValue found
    rw [nothing] at found
    cases found

variable [DecidableEq ι]

/-- A value enters under a new key while its name is free. -/
theorem insert (indexes : Indexes name map index) {key : κ} {value : ν} (fresh : key ∉ map)
    (free : name value ∉ index) :
    Indexes name (AList.insert key value map) (Insert.insert (name value) index) := by
  have missing : AList.lookup key map = none := (notMem_iff map key).mp fresh
  have others {other : κ} {otherValue : ν} (found : AList.lookup other map = some otherValue) :
      other ≠ key ∧ name otherValue ≠ name value := by
    constructor
    · rintro rfl
      rw [missing] at found
      cases found
    · intro sameName
      exact free ((indexes.mem_iff _).mpr ⟨other, otherValue, found, sameName⟩)
  constructor
  · intro wanted
    rw [Finset.mem_insert, indexes.mem_iff]
    constructor
    · rintro (rfl | ⟨other, otherValue, found, isWanted⟩)
      · exact ⟨key, value, by rw [lookup_insert, if_pos rfl], rfl⟩
      · exact ⟨other, otherValue, by rw [lookup_insert, if_neg (others found).1]; exact found,
          isWanted⟩
    · rintro ⟨other, otherValue, found, isWanted⟩
      rcases of_lookup_insert found with ⟨_, rfl⟩ | ⟨_, old⟩
      · exact Or.inl isWanted.symm
      · exact Or.inr ⟨other, otherValue, old, isWanted⟩
  · intro first second firstValue secondValue firstFound secondFound sameName
    rcases of_lookup_insert firstFound with ⟨isFirst, rfl⟩ | ⟨_, firstOld⟩ <;>
      rcases of_lookup_insert secondFound with ⟨isSecond, rfl⟩ | ⟨_, secondOld⟩
    · exact isFirst.trans isSecond.symm
    · exact absurd sameName.symm (others secondOld).2
    · exact absurd sameName (others firstOld).2
    · exact indexes.apart first second firstValue secondValue firstOld secondOld sameName

/-- A value leaves, and its name with it. -/
theorem erase (indexes : Indexes name map index) {key : κ} {value : ν}
    (present : AList.lookup key map = some value) :
    Indexes name (AList.erase key map) (index.erase (name value)) := by
  constructor
  · intro wanted
    rw [Finset.mem_erase, indexes.mem_iff]
    constructor
    · rintro ⟨otherName, other, otherValue, found, rfl⟩
      have isOther : other ≠ key := by
        rintro rfl
        rw [present] at found
        cases found
        exact otherName rfl
      exact ⟨other, otherValue, by rw [lookup_erase, if_neg isOther]; exact found, rfl⟩
    · rintro ⟨other, otherValue, found, rfl⟩
      obtain ⟨isOther, before⟩ := of_lookup_erase found
      refine ⟨?_, other, otherValue, before, rfl⟩
      intro sameName
      exact isOther (indexes.apart other key otherValue value before present sameName)
  · intro first second firstValue secondValue firstFound secondFound
    exact indexes.apart first second firstValue secondValue (of_lookup_erase firstFound).2
      (of_lookup_erase secondFound).2

end Indexes

end FiniteMap
