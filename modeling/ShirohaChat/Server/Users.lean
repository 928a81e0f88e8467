import ShirohaChat.Lib.RowTable

/-!
# The users table
-/

set_option autoImplicit false

namespace ShirohaChat

structure UserRow where
  userId : String
  nickname : String
  deriving DecidableEq

abbrev UserTable := RowTable UserRow String UserRow.userId

structure EnsureUserRun where
  isOpen : Bool := true
  selected : Bool := true
  inserted : Bool := true

/-- The new table and the nickname returned. -/
def ensureUserAndGetNickname (users : UserTable) (run : EnsureUserRun)
    (userId nickname : String) : UserTable × String :=
  let fallbackNickname := if nickname = "" then "Anonymous" else nickname
  if ¬ run.isOpen then (users, fallbackNickname)
  else if userId = "" then (users, fallbackNickname)
  else if ¬ run.selected then (users, fallbackNickname)
  else
    match users.find? userId with
    | some row => (users, if row.nickname = "" then fallbackNickname else row.nickname)
    | none =>
        (if run.inserted then users.insertOrIgnore ⟨userId, fallbackNickname⟩ else users,
          fallbackNickname)

/-- `SELECT COUNT(*) FROM users WHERE user_id = ?`. -/
def UserTable.countOf (users : UserTable) (userId : String) : Nat :=
  users.count fun row => row.userId = userId

theorem UserTable.exists_of_countOf (users : UserTable) {userId : String}
    (counted : users.countOf userId ≠ 0) : ∃ row ∈ users.rows, row.userId = userId := by
  by_contra absent
  apply counted
  apply (users.count_eq_zero _).mpr
  intro row member
  exact decide_eq_false fun same => absent ⟨row, member, same⟩

theorem mem_ensureUser {users : UserTable} {run : EnsureUserRun} {userId nickname : String}
    {row : UserRow} (member : row ∈ (ensureUserAndGetNickname users run userId nickname).1.rows) :
    row ∈ users.rows ∨ row.userId = userId := by
  unfold ensureUserAndGetNickname at member
  simp only at member
  split at member
  · exact Or.inl member
  split at member
  · exact Or.inl member
  split at member
  · exact Or.inl member
  split at member
  · exact Or.inl member
  rename_i unknown
  split at member
  · rw [users.insertOrIgnore_fresh] at member
    · rcases List.mem_append.mp member with old | new
      · exact Or.inl old
      · exact Or.inr (by rw [List.mem_singleton.mp new])
    · intro taken
      obtain ⟨old, oldIn, same⟩ := List.mem_map.mp taken
      exact (users.find?_eq_none userId).mp unknown old oldIn same
  · exact Or.inl member

end ShirohaChat
