import Mathlib.Data.List.Nodup
import ShirohaChat.Lib.FiniteMap

/-!
# Sorting rows into entries through an index

The entries stand under distinct keys and an index takes each key to the
position of its entry.  Every row goes to the entry that the index names, so
an entry ends with the rows of its own key, in their order.
-/

set_option autoImplicit false

namespace Scatter

variable {Key Entry Row : Type} [DecidableEq Key]

/-- Enters the keys at the positions from `position` on. -/
def indexed : List Key → Nat → FiniteMap Key Nat → FiniteMap Key Nat
  | [], _, index => index
  | key :: rest, position, index => indexed rest (position + 1) (AList.insert key position index)

theorem lookup_indexed (keys : List Key) : ∀ (position : Nat) (index : FiniteMap Key Nat)
    (_ : keys.Nodup) (wanted : Key), AList.lookup wanted (indexed keys position index) =
      if wanted ∈ keys then some (position + keys.idxOf wanted) else AList.lookup wanted index := by
  induction keys with
  | nil =>
      intro position index _ wanted
      rfl
  | cons key rest ih =>
      intro position index distinct wanted
      obtain ⟨fresh, distinctRest⟩ := List.nodup_cons.mp distinct
      rw [indexed, ih _ _ distinctRest, FiniteMap.lookup_insert]
      by_cases here : wanted = key
      · subst here
        rw [if_neg fresh, if_pos rfl, if_pos List.mem_cons_self, List.idxOf_cons_self]
        rfl
      · have later : wanted ∈ key :: rest ↔ wanted ∈ rest := by simp [here]
        simp only [later, if_neg here]
        rw [List.idxOf_cons_ne rest (Ne.symm here), Nat.succ_eq_add_one,
          Nat.add_comm (rest.idxOf wanted) 1, ← Nat.add_assoc]

variable (rowKey : Row → Key) (put : Entry → Row → Entry)

def place (index : FiniteMap Key Nat) (entries : List Entry) (row : Row) : List Entry :=
  match AList.lookup (rowKey row) index with
  | none => entries
  | some position => entries.modify position fun entry => put entry row

def scatter (index : FiniteMap Key Nat) (rows : List Row) (entries : List Entry) : List Entry :=
  rows.foldl (place rowKey put index) entries

variable (key : Entry → Key)

theorem modify_idxOf (entries : List Entry) (distinct : (entries.map key).Nodup)
    (wanted : Key) (change : Entry → Entry) :
    entries.modify ((entries.map key).idxOf wanted) change =
      entries.map fun entry => if wanted = key entry then change entry else entry := by
  induction entries with
  | nil => simp
  | cons entry rest ih =>
      obtain ⟨fresh, distinctRest⟩ := List.nodup_cons.mp distinct
      rw [List.map_cons, List.map_cons]
      by_cases here : wanted = key entry
      · rw [here, List.idxOf_cons_self, List.modify_zero_cons, if_pos rfl]
        congr 1
        have others : ∀ other ∈ rest,
            (if key entry = key other then change other else other) = other := by
          intro other otherIn
          exact if_neg fun same => fresh (List.mem_map.mpr ⟨other, otherIn, same.symm⟩)
        rw [List.map_congr_left others, List.map_id']
      · rw [List.idxOf_cons_ne _ (Ne.symm here), List.modify_succ_cons, if_neg here,
          ih distinctRest]

theorem place_eq_map (entries : List Entry) (distinct : (entries.map key).Nodup) (row : Row) :
    place rowKey put (indexed (entries.map key) 0 ∅) entries row =
      entries.map fun entry => if rowKey row = key entry then put entry row else entry := by
  unfold place
  rw [lookup_indexed _ _ _ distinct]
  by_cases known : rowKey row ∈ entries.map key
  · rw [if_pos known, Nat.zero_add]
    exact modify_idxOf key entries distinct _ _
  · rw [if_neg known]
    have untouched : ∀ entry ∈ entries,
        (if rowKey row = key entry then put entry row else entry) = entry := by
      intro entry entryIn
      exact if_neg fun same => known (List.mem_map.mpr ⟨entry, entryIn, same.symm⟩)
    rw [List.map_congr_left untouched, List.map_id']
    rfl

/-- Every entry receives exactly the rows of its key, in their order. -/
theorem scatter_eq_map (keepsKey : ∀ entry row, key (put entry row) = key entry)
    (rows : List Row) : ∀ (entries : List Entry), (entries.map key).Nodup →
      scatter rowKey put (indexed (entries.map key) 0 ∅) rows entries =
        entries.map fun entry =>
          (rows.filter fun row => rowKey row = key entry).foldl put entry := by
  induction rows with
  | nil =>
      intro entries _
      simp [scatter]
  | cons row rest ih =>
      intro entries distinct
      have placed := place_eq_map rowKey put key entries distinct row
      have sameKeys : (entries.map fun entry =>
          if rowKey row = key entry then put entry row else entry).map key = entries.map key := by
        rw [List.map_map]
        apply List.map_congr_left
        intro entry _
        simp only [Function.comp_apply]
        split
        · exact keepsKey entry row
        · rfl
      have rest' := ih _ (sameKeys.symm ▸ distinct)
      rw [sameKeys] at rest'
      rw [scatter, List.foldl_cons, placed]
      rw [scatter] at rest'
      rw [rest', List.map_map]
      apply List.map_congr_left
      intro entry _
      simp only [Function.comp_apply]
      by_cases same : rowKey row = key entry
      · simp [same, keepsKey]
      · simp [same]

end Scatter
