import Mathlib.Data.List.Nodup

/-!
# Tables with a primary key

The rows stand in insertion order and their keys are distinct, so a table that
breaks its primary key cannot be built.  `insert?` is the SQL `INSERT`, which
fails on a key already present; `insertOrIgnore` drops such a row and keeps the
table.  Deletion and update are by a condition on the row.
-/

set_option autoImplicit false

universe u v

structure RowTable (Row : Type u) (Key : Type v) (key : Row → Key) where
  rows : List Row
  keysNodup : (rows.map key).Nodup

namespace RowTable

variable {Row : Type u} {Key : Type v} {key : Row → Key}

def empty : RowTable Row Key key := ⟨[], List.nodup_nil⟩

theorem eq_of_key (table : RowTable Row Key key) {left right : Row}
    (leftIn : left ∈ table.rows) (rightIn : right ∈ table.rows)
    (same : key left = key right) : left = right :=
  List.inj_on_of_nodup_map table.keysNodup leftIn rightIn same

theorem eraseP_key [DecidableEq Key] {rows : List Row} (distinct : (rows.map key).Nodup)
    (k : Key) :
    (rows.eraseP fun row => key row = k) = rows.filter fun row => key row ≠ k := by
  induction rows with
  | nil => rfl
  | cons first rest ih =>
      obtain ⟨fresh, distinctRest⟩ := List.nodup_cons.mp distinct
      by_cases isKey : key first = k
      · rw [List.eraseP_cons_of_pos (by simp [isKey]), List.filter_cons_of_neg (by simp [isKey])]
        apply (List.filter_eq_self.mpr ?_).symm
        intro other otherIn
        have differs : key other ≠ k := fun same =>
          fresh (List.mem_map.mpr ⟨other, otherIn, same.trans isKey.symm⟩)
        simp [differs]
      · rw [List.eraseP_cons_of_neg (by simp [isKey]), List.filter_cons_of_pos (by simp [isKey]),
          ih distinctRest]

def select (table : RowTable Row Key key) (chosen : Row → Bool) : List Row :=
  table.rows.filter chosen

def count (table : RowTable Row Key key) (chosen : Row → Bool) : Nat :=
  (table.select chosen).length

theorem mem_select (table : RowTable Row Key key) (chosen : Row → Bool) (row : Row) :
    row ∈ table.select chosen ↔ row ∈ table.rows ∧ chosen row = true :=
  List.mem_filter

theorem nodup_second {Left Right : Type v} [DecidableEq Left] {left : Row → Left}
    {right : Row → Right} (table : RowTable Row (Left × Right) fun row => (left row, right row))
    (first : Left) : ((table.select fun row => left row = first).map right).Nodup := by
  have keys : ((table.select fun row => left row = first).map
      fun row => (left row, right row)).Nodup :=
    List.Nodup.sublist (List.filter_sublist.map _) table.keysNodup
  refine List.Nodup.of_map (fun second => (first, second)) ?_
  rw [List.map_map]
  have sameKeys : (table.select fun row => left row = first).map
      ((fun second => (first, second)) ∘ right) =
      (table.select fun row => left row = first).map fun row => (left row, right row) := by
    apply List.map_congr_left
    intro row member
    have ofFirst := ((table.mem_select _ row).mp member).2
    simp only [Function.comp_apply, of_decide_eq_true ofFirst]
  rw [sameKeys]
  exact keys

theorem count_eq_zero (table : RowTable Row Key key) (chosen : Row → Bool) :
    table.count chosen = 0 ↔ ∀ row ∈ table.rows, chosen row = false := by
  simp only [count, select, List.length_eq_zero_iff, List.filter_eq_nil_iff,
    Bool.not_eq_true]

theorem count_key_le_one (table : RowTable Row Key key) (chosen : Row → Bool) (k : Key)
    (byKey : ∀ row ∈ table.rows, chosen row = true → key row = k) :
    table.count chosen ≤ 1 := by
  have distinct : ((table.select chosen).map key).Nodup :=
    List.Nodup.sublist (List.filter_sublist.map key) table.keysNodup
  have constant : ∀ found ∈ (table.select chosen).map key, found = k := by
    intro found member
    obtain ⟨row, rowIn, rfl⟩ := List.mem_map.mp member
    obtain ⟨stored, isChosen⟩ := (table.mem_select chosen row).mp rowIn
    exact byKey row stored isChosen
  have repeated := List.eq_replicate_of_mem constant
  rw [repeated, List.nodup_replicate, List.length_map] at distinct
  exact distinct

theorem count_append {table table' : RowTable Row Key key} {added : List Row}
    (appended : table'.rows = table.rows ++ added) (chosen : Row → Bool) :
    table'.count chosen = table.count chosen + (added.filter chosen).length := by
  simp [count, select, appended, List.filter_append]

theorem one_le_count (table : RowTable Row Key key) (chosen : Row → Bool) {row : Row}
    (rowIn : row ∈ table.rows) (isChosen : chosen row = true) : 1 ≤ table.count chosen :=
  List.length_pos_of_mem ((table.mem_select chosen row).mpr ⟨rowIn, isChosen⟩)

def deleteWhere (table : RowTable Row Key key) (doomed : Row → Bool) :
    RowTable Row Key key :=
  ⟨table.rows.filter fun row => !doomed row,
    List.Nodup.sublist (List.filter_sublist.map key) table.keysNodup⟩

theorem mem_deleteWhere (table : RowTable Row Key key) (doomed : Row → Bool) (row : Row) :
    row ∈ (table.deleteWhere doomed).rows ↔ row ∈ table.rows ∧ doomed row = false := by
  simp [deleteWhere]

theorem count_deleteWhere_le (table : RowTable Row Key key) (doomed chosen : Row → Bool) :
    (table.deleteWhere doomed).count chosen ≤ table.count chosen :=
  (List.filter_sublist.filter chosen).length_le

def updateWhere (table : RowTable Row Key key) (chosen : Row → Bool) (change : Row → Row)
    (keepsKey : ∀ row, key (change row) = key row) : RowTable Row Key key :=
  ⟨table.rows.map fun row => if chosen row then change row else row, by
    have sameKeys : (table.rows.map fun row => if chosen row then change row else row).map key =
        table.rows.map key := by
      rw [List.map_map]
      apply List.map_congr_left
      intro row _
      simp only [Function.comp_apply]
      split
      · exact keepsKey row
      · rfl
    rw [sameKeys]
    exact table.keysNodup⟩

theorem mem_updateWhere (table : RowTable Row Key key) (chosen : Row → Bool)
    (change : Row → Row) (keepsKey : ∀ row, key (change row) = key row) (row : Row) :
    row ∈ (table.updateWhere chosen change keepsKey).rows ↔
      ∃ old ∈ table.rows, row = if chosen old then change old else old := by
  simp only [updateWhere, List.mem_map]
  constructor
  · rintro ⟨old, oldIn, rfl⟩
    exact ⟨old, oldIn, rfl⟩
  · rintro ⟨old, oldIn, rfl⟩
    exact ⟨old, oldIn, rfl⟩

theorem count_mono (table : RowTable Row Key key) {chosen wider : Row → Bool}
    (implied : ∀ row, chosen row = true → wider row = true) :
    table.count chosen ≤ table.count wider :=
  (List.monotone_filter_right table.rows implied).length_le

theorem count_or_le (table : RowTable Row Key key) (left right : Row → Bool) :
    table.count (fun row => left row || right row) ≤ table.count left + table.count right := by
  simp only [count, select, ← List.countP_eq_length_filter]
  induction table.rows with
  | nil => simp
  | cons row rest ih =>
      simp only [List.countP_cons]
      cases isLeft : left row <;> cases isRight : right row <;>
        simp only [Bool.or_true, Bool.or_false, Bool.false_eq_true, if_true, if_false] <;> omega

theorem count_updateWhere_le (table : RowTable Row Key key) (updated chosen : Row → Bool)
    (change : Row → Row) (keepsKey : ∀ row, key (change row) = key row) :
    (table.updateWhere updated change keepsKey).count chosen ≤
      table.count fun row => chosen row || (updated row && chosen (change row)) := by
  simp only [count, select, updateWhere, List.filter_map, List.length_map]
  apply List.Sublist.length_le
  apply List.monotone_filter_right
  intro row isChosen
  simp only [Function.comp_apply] at isChosen
  by_cases isUpdated : updated row = true
  · rw [if_pos isUpdated] at isChosen
    simp [isUpdated, isChosen]
  · rw [if_neg isUpdated] at isChosen
    simp [isChosen]

section Keyed
variable [DecidableEq Key]

theorem count_updateWhere_key_le (table : RowTable Row Key key) (k : Key) (chosen : Row → Bool)
    (change : Row → Row) (keepsKey : ∀ row, key (change row) = key row) :
    (table.updateWhere (fun row => key row = k) change keepsKey).count chosen ≤
      table.count chosen + 1 := by
  have own : table.count (fun row => key row = k) ≤ 1 :=
    table.count_key_le_one _ k fun row _ isKey => of_decide_eq_true isKey
  calc (table.updateWhere (fun row => key row = k) change keepsKey).count chosen
      ≤ table.count (fun row => chosen row || (decide (key row = k) && chosen (change row))) :=
        table.count_updateWhere_le _ chosen change keepsKey
    _ ≤ table.count (fun row => chosen row || decide (key row = k)) := by
        apply table.count_mono
        intro row either
        simp only [Bool.or_eq_true, Bool.and_eq_true] at either ⊢
        exact either.imp id And.left
    _ ≤ table.count chosen + table.count (fun row => key row = k) :=
        table.count_or_le chosen _
    _ ≤ table.count chosen + 1 := Nat.add_le_add_left own _

def find? (table : RowTable Row Key key) (k : Key) : Option Row :=
  table.rows.find? fun row => key row = k

theorem find?_eq_some (table : RowTable Row Key key) (k : Key) (row : Row) :
    table.find? k = some row ↔ row ∈ table.rows ∧ key row = k := by
  constructor
  · intro found
    exact ⟨List.mem_of_find?_eq_some found, by simpa using List.find?_some found⟩
  · rintro ⟨rowIn, rfl⟩
    cases found : table.find? (key row) with
    | none =>
        have missing := List.find?_eq_none.mp found row rowIn
        simp at missing
    | some other =>
        have sameKey : key other = key row := by simpa using List.find?_some found
        rw [table.eq_of_key (List.mem_of_find?_eq_some found) rowIn sameKey]

theorem find?_eq_none (table : RowTable Row Key key) (k : Key) :
    table.find? k = none ↔ ∀ row ∈ table.rows, key row ≠ k := by
  simp [find?, List.find?_eq_none]

def insert? (table : RowTable Row Key key) (row : Row) : Option (RowTable Row Key key) :=
  if taken : key row ∈ table.rows.map key then none
  else some ⟨table.rows ++ [row], by
    rw [List.map_append, List.nodup_append]
    refine ⟨table.keysNodup, by simp, ?_⟩
    intro old oldIn new newIn same
    simp only [List.map_cons, List.map_nil, List.mem_singleton] at newIn
    exact taken (newIn ▸ same ▸ oldIn)⟩

theorem insert?_eq_none (table : RowTable Row Key key) (row : Row) :
    table.insert? row = none ↔ key row ∈ table.rows.map key := by
  unfold insert?
  split
  · simp_all
  · simp_all

theorem insert?_eq_some {table table' : RowTable Row Key key} {row : Row}
    (success : table.insert? row = some table') :
    key row ∉ table.rows.map key ∧ table'.rows = table.rows ++ [row] := by
  unfold insert? at success
  split at success
  · contradiction
  · rename_i fresh
    cases success
    exact ⟨fresh, rfl⟩

def insertOrIgnore (table : RowTable Row Key key) (row : Row) : RowTable Row Key key :=
  (table.insert? row).getD table

theorem insertOrIgnore_taken (table : RowTable Row Key key) (row : Row)
    (taken : key row ∈ table.rows.map key) : table.insertOrIgnore row = table := by
  rw [insertOrIgnore, (table.insert?_eq_none row).mpr taken]
  rfl

theorem insertOrIgnore_fresh (table : RowTable Row Key key) (row : Row)
    (fresh : key row ∉ table.rows.map key) :
    (table.insertOrIgnore row).rows = table.rows ++ [row] := by
  cases result : table.insert? row with
  | none => exact absurd ((table.insert?_eq_none row).mp result) fresh
  | some table' =>
      rw [insertOrIgnore, result]
      exact (insert?_eq_some result).2

/-- Rows already stored survive an `INSERT OR IGNORE`. -/
theorem mem_insertOrIgnore_of_mem (table : RowTable Row Key key) (row : Row) {old : Row}
    (oldIn : old ∈ table.rows) : old ∈ (table.insertOrIgnore row).rows := by
  by_cases taken : key row ∈ table.rows.map key
  · rw [table.insertOrIgnore_taken row taken]
    exact oldIn
  · rw [table.insertOrIgnore_fresh row taken]
    exact List.mem_append_left _ oldIn

theorem find?_insert? {table table' : RowTable Row Key key} {row : Row}
    (success : table.insert? row = some table') (other : Key) :
    table'.find? other = if other = key row then some row else table.find? other := by
  obtain ⟨fresh, rows⟩ := insert?_eq_some success
  unfold find?
  rw [rows, List.find?_append]
  by_cases same : other = key row
  · have missing : (table.rows.find? fun old => key old = other) = none := by
      apply List.find?_eq_none.mpr
      intro old oldIn
      simp only [decide_eq_true_eq]
      intro sameKey
      exact fresh (List.mem_map.mpr ⟨old, oldIn, sameKey.trans same⟩)
    rw [missing, if_pos same]
    simp [same]
  · have differs : ¬ key row = other := fun sameKey => same sameKey.symm
    simp [same, differs]

theorem find?_updateWhere (table : RowTable Row Key key) (k other : Key) (change : Row → Row)
    (keepsKey : ∀ row, key (change row) = key row) :
    (table.updateWhere (fun row => key row = k) change keepsKey).find? other =
      (table.find? other).map fun row => if other = k then change row else row := by
  unfold find? updateWhere
  simp only [List.find?_map]
  have sameChoice : ((fun row => decide (key row = other)) ∘ fun row =>
      if decide (key row = k) = true then change row else row) =
      fun row => decide (key row = other) := by
    funext row
    simp only [Function.comp_apply]
    split
    · rw [keepsKey]
    · rfl
  rw [sameChoice]
  cases found : table.rows.find? fun row => key row = other with
  | none => rfl
  | some row =>
      have isOther : key row = other := by simpa using List.find?_some found
      simp [isOther]

theorem find?_deleteWhere (table : RowTable Row Key key) (doomed : Row → Bool) (k : Key) :
    (table.deleteWhere doomed).find? k = (table.find? k).filter fun row => !doomed row := by
  cases found : table.find? k with
  | none =>
      refine (find?_eq_none _ _).mpr fun row rowIn => ?_
      exact (find?_eq_none _ _).mp found row ((table.mem_deleteWhere doomed row).mp rowIn).1
  | some row =>
      obtain ⟨rowIn, isKey⟩ := (find?_eq_some _ _ _).mp found
      cases isDoomed : doomed row with
      | false =>
          rw [Option.filter_some, if_pos (by simp [isDoomed])]
          exact (find?_eq_some _ _ _).mpr ⟨(table.mem_deleteWhere doomed row).mpr
            ⟨rowIn, isDoomed⟩, isKey⟩
      | true =>
          rw [Option.filter_some, if_neg (by simp [isDoomed])]
          refine (find?_eq_none _ _).mpr fun other otherIn sameKey => ?_
          obtain ⟨kept, survives⟩ := (table.mem_deleteWhere doomed other).mp otherIn
          rw [table.eq_of_key kept rowIn (sameKey.trans isKey.symm), isDoomed] at survives
          cases survives

/-- SQL's `INSERT ... ON CONFLICT DO UPDATE`. -/
def upsert (table : RowTable Row Key key) (row : Row) (merge : Row → Row)
    (keepsKey : ∀ old, key (merge old) = key old) : RowTable Row Key key :=
  (table.insert? row).getD
    (table.updateWhere (fun old => key old = key row) merge keepsKey)

theorem find?_upsert (table : RowTable Row Key key) (row : Row) (merge : Row → Row)
    (keepsKey : ∀ old, key (merge old) = key old) (other : Key) :
    (table.upsert row merge keepsKey).find? other =
      if other = key row then some (((table.find? other).map merge).getD row)
      else table.find? other := by
  unfold upsert
  cases inserted : table.insert? row with
  | some table' =>
      rw [Option.getD_some, find?_insert? inserted]
      by_cases same : other = key row
      · have missing : table.find? other = none := by
          apply (table.find?_eq_none other).mpr
          intro old oldIn sameKey
          exact (insert?_eq_some inserted).1 (List.mem_map.mpr ⟨old, oldIn, sameKey.trans same⟩)
        rw [if_pos same, if_pos same, missing]
        rfl
      · rw [if_neg same, if_neg same]
  | none =>
      rw [Option.getD_none, find?_updateWhere]
      by_cases same : other = key row
      · have taken := (table.insert?_eq_none row).mp inserted
        obtain ⟨old, oldIn, sameKey⟩ := List.mem_map.mp taken
        have found := (table.find?_eq_some other old).mpr ⟨oldIn, sameKey.trans same.symm⟩
        rw [found, if_pos same]
        simp [same]
      · cases table.find? other <;> simp [same]

theorem exists_key_upsert (table : RowTable Row Key key) (row : Row) (merge : Row → Row)
    (keepsKey : ∀ old, key (merge old) = key old) (k : Key) :
    (∃ found ∈ (table.upsert row merge keepsKey).rows, key found = k) ↔
      k = key row ∨ ∃ found ∈ table.rows, key found = k := by
  have byFind : ∀ other : RowTable Row Key key,
      (∃ found ∈ other.rows, key found = k) ↔ ∃ found, other.find? k = some found := by
    intro other
    simp only [find?_eq_some]
  rw [byFind, byFind, find?_upsert]
  by_cases same : k = key row
  · simp [same]
  · simp [same]

theorem mem_upsert (table : RowTable Row Key key) (added : Row) (merge : Row → Row)
    (keepsKey : ∀ old, key (merge old) = key old) {row : Row}
    (member : row ∈ (table.upsert added merge keepsKey).rows) :
    row = added ∨ row ∈ table.rows ∨ ∃ old ∈ table.rows, row = merge old := by
  unfold upsert at member
  cases inserted : table.insert? added with
  | some table' =>
      rw [inserted, Option.getD_some, (insert?_eq_some inserted).2, List.mem_append,
        List.mem_singleton] at member
      exact member.symm.imp id Or.inl
  | none =>
      rw [inserted, Option.getD_none, mem_updateWhere] at member
      obtain ⟨old, oldIn, isRow⟩ := member
      split at isRow
      · exact Or.inr (Or.inr ⟨old, oldIn, isRow⟩)
      · exact Or.inr (Or.inl (isRow ▸ oldIn))

theorem mem_iff_find? (table : RowTable Row Key key) (row : Row) :
    row ∈ table.rows ↔ table.find? (key row) = some row := by
  rw [find?_eq_some]
  simp

end Keyed
end RowTable
