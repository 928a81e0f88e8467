import Mathlib.Data.List.Basic
import Mathlib.Order.Lattice

/-!
# Pages of ordered rows

The newest rows of a collection under a key, against the page that a query with
an ascending order, a limit and no offset cuts off its front.
-/

set_option autoImplicit false

universe u v

namespace Pages

variable {Row : Type u} {Key : Type v} [LinearOrder Key] {key : Row → Key}

/-- The `limit` newest of some rows, the oldest of them first. -/
structure IsNewest (key : Row → Key) (limit : Nat) (rows page : List Row) : Prop where
  size : page.length = min limit rows.length
  ordered : page.Pairwise fun left right => key left < key right
  newest : ∃ older, (older ++ page).Perm rows ∧
    ∀ old ∈ older, ∀ row ∈ page, key old < key row

/-- A row is on the first page when fewer rows are older than fit on the page. -/
theorem mem_take_iff_countP {sorted : List Row} {row : Row}
    (ordered : sorted.Pairwise fun left right => key left < key right) (member : row ∈ sorted)
    {older : Row → Bool} (isOlder : ∀ other, older other = true ↔ key other < key row)
    (limit : Nat) : row ∈ sorted.take limit ↔ sorted.countP older < limit := by
  induction sorted generalizing limit with
  | nil => cases member
  | cons first rest ih =>
      obtain ⟨below, orderedRest⟩ := List.pairwise_cons.mp ordered
      cases limit with
      | zero => simp
      | succ limit =>
          rw [List.take_succ_cons, List.mem_cons]
          rcases List.mem_cons.mp member with rfl | inRest
          · have noneOlder : rest.countP older = 0 := by
              apply List.countP_eq_zero.mpr
              intro other otherIn
              rw [isOlder, not_lt]
              exact le_of_lt (below other otherIn)
            rw [List.countP_cons_of_neg (by simp [isOlder]), noneOlder]
            simp
          · have firstOlder := below row inRest
            have differs : row ≠ first := by
              rintro rfl
              exact lt_irrefl _ firstOlder
            rw [List.countP_cons_of_pos ((isOlder first).mpr firstOlder),
              ← Nat.lt_sub_iff_add_lt,
              Nat.add_sub_cancel, ← ih orderedRest inRest limit]
            simp [differs]

/-- The newest row is on the first page only where all others fit before it. -/
theorem newest_mem_take_iff {rows sorted : List Row} {row : Row}
    (ordered : sorted.Pairwise fun left right => key left < key right)
    (sameRows : sorted.Perm (rows ++ [row])) (newest : ∀ old ∈ rows, key old < key row)
    (limit : Nat) : row ∈ sorted.take limit ↔ rows.length < limit := by
  have member : row ∈ sorted :=
    sameRows.mem_iff.mpr (List.mem_append_right _ (List.mem_singleton_self row))
  have isOlder : ∀ other, decide (key other < key row) = true ↔ key other < key row :=
    fun _ => decide_eq_true_iff
  have allOlder : rows.countP (fun other => decide (key other < key row)) = rows.length :=
    List.countP_eq_length.mpr fun old oldIn => decide_eq_true (newest old oldIn)
  rw [mem_take_iff_countP ordered member isOlder, sameRows.countP_eq, List.countP_append,
    allOlder, List.countP_cons_of_neg (by simp), List.countP_nil, Nat.add_zero]

/-- The front of the ascending order is the newest page only where it is all
there is. -/
theorem isNewest_take_iff {rows sorted : List Row}
    (ordered : sorted.Pairwise fun left right => key left < key right)
    (sameRows : sorted.Perm rows) {limit : Nat} (positive : 0 < limit) :
    IsNewest key limit rows (sorted.take limit) ↔ rows.length ≤ limit := by
  have sameLength := sameRows.length_eq
  constructor
  · intro page
    by_contra tooMany
    obtain ⟨older, parts, newer⟩ := page.newest
    cases sorted with
    | nil =>
        rw [List.length_nil] at sameLength
        omega
    | cons first rest =>
        -- The last row of all is not on the page, yet no row of the page is newer.
        have someOlder : older ≠ [] := by
          rintro rfl
          have whole := parts.length_eq
          rw [List.nil_append, List.length_take] at whole
          omega
        obtain ⟨old, oldIn⟩ := List.exists_mem_of_ne_nil older someOlder
        have onPage : first ∈ (first :: rest).take limit := by
          cases limit with
          | zero => omega
          | succ limit =>
              rw [List.take_succ_cons]
              exact List.mem_cons_self
        have oldBelow : key old < key first := newer old oldIn first onPage
        have oldStored : old ∈ first :: rest :=
          sameRows.mem_iff.mpr (parts.mem_iff.mp (List.mem_append_left _ oldIn))
        rcases List.mem_cons.mp oldStored with rfl | inRest
        · exact lt_irrefl _ oldBelow
        · exact lt_asymm oldBelow ((List.pairwise_cons.mp ordered).1 old inRest)
  · intro fits
    rw [List.take_of_length_le (by omega)]
    exact ⟨by omega, ordered, [], sameRows, by simp⟩

section Positions
variable {Id : Type v} [DecidableEq Id] (id : Row → Id)

/-- Among rows with distinct ids, the first page has a row where its position is on it. -/
theorem find?_take_id {row : Row} (rows : List Row) :
    ∀ (limit : Nat), (rows.map id).Nodup → row ∈ rows →
      ((rows.take limit).find? fun other => id other = id row) =
        if (rows.map id).idxOf (id row) < limit then some row else none := by
  induction rows with
  | nil =>
      intro limit _ member
      cases member
  | cons first rest ih =>
      intro limit distinct member
      obtain ⟨fresh, distinctRest⟩ := List.nodup_cons.mp distinct
      cases limit with
      | zero => simp
      | succ limit =>
          rw [List.take_succ_cons, List.map_cons]
          rcases List.mem_cons.mp member with rfl | inRest
          · simp
          · have differs : id first ≠ id row := fun same =>
              fresh (List.mem_map.mpr ⟨row, inRest, same.symm⟩)
            rw [List.find?_cons_of_neg (by simpa using differs), ih limit distinctRest inRest,
              List.idxOf_cons_ne _ differs]
            simp only [Nat.succ_eq_add_one, Nat.add_lt_add_iff_right]

end Positions

end Pages
