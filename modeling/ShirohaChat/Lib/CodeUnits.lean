import Mathlib.Data.List.Lex
import Mathlib.Order.Basic

/-!
# The orders of UTF-8 bytes and of UTF-16 code units

A code that puts the codes of two symbols in the order of their ranks, whatever
follows them, compares coded lists as it compares lists of ranks.  UTF-8 ranks a
character by its code point; UTF-16 ranks the characters above U+FFFF, written
with surrogates, below those from U+E000 to U+FFFF.  So the two orders of a pair
of strings differ exactly when the first characters in which they differ come
from these two ranges.
-/

set_option autoImplicit false

namespace CodeUnits

section OrderedCode

variable {Symbol : Type}

theorem append_lt_append_left (front x y : List Nat) :
    front ++ x < front ++ y ↔ x < y := by
  induction front with
  | nil => rfl
  | cons unit front ih =>
      rw [List.cons_append, List.cons_append, List.cons_lt_cons_iff]
      simp [ih]

/-- Codes of different symbols are told apart by their units, in rank order. -/
structure OrderedCode (code : Symbol → List Nat) (rank : Symbol → Nat) : Prop where
  injective : ∀ a b, rank a = rank b → a = b
  nonempty : ∀ a, code a ≠ []
  separated : ∀ a b, rank a < rank b → ∀ x y, code a ++ x < code b ++ y

theorem OrderedCode.flatMap_lt_iff {code : Symbol → List Nat} {rank : Symbol → Nat}
    (ordered : OrderedCode code rank) :
    ∀ left right : List Symbol,
      left.flatMap code < right.flatMap code ↔ left.map rank < right.map rank := by
  intro left
  induction left with
  | nil =>
      intro right
      cases right with
      | nil => simp
      | cons b right =>
          have shape := List.cons_head_tail (ordered.nonempty b)
          simp only [List.flatMap_nil, List.map_nil, List.flatMap_cons, List.map_cons,
            List.nil_lt_cons, iff_true]
          rw [← shape]
          exact List.nil_lt_cons _ _
  | cons a left ih =>
      intro right
      cases right with
      | nil => simp
      | cons b right =>
          simp only [List.flatMap_cons, List.map_cons, List.cons_lt_cons_iff]
          rcases Nat.lt_trichotomy (rank a) (rank b) with less | same | more
          · simp [less, ordered.separated a b less]
          · have symbolEq := ordered.injective a b same
            subst symbolEq
            simp [append_lt_append_left, ih right]
          · have reverse := ordered.separated b a more (right.flatMap code) (left.flatMap code)
            have notLess : ¬ code a ++ left.flatMap code < code b ++ right.flatMap code :=
              fun less => lt_asymm less reverse
            have notRank : ¬ rank a < rank b := by omega
            have notSame : rank a ≠ rank b := by omega
            simp [notLess, notRank, notSame]

end OrderedCode

/-! ## The two encodings -/

/-- UTF-16: one unit up to U+FFFF, a surrogate pair above. -/
def utf16Char (c : Char) : List Nat :=
  if c.toNat < 0x10000 then [c.toNat]
  else [0xD800 + (c.toNat - 0x10000) / 0x400, 0xDC00 + (c.toNat - 0x10000) % 0x400]

def utf16 (chars : List Char) : List Nat := chars.flatMap utf16Char

theorem utf16_of_basic {chars : List Char} (basic : ∀ c ∈ chars, c.toNat < 0x10000) :
    utf16 chars = chars.map Char.toNat := by
  induction chars with
  | nil => rfl
  | cons c chars ih =>
      have one : utf16Char c = [c.toNat] := if_pos (basic c List.mem_cons_self)
      have rest := ih fun other member => basic other (List.mem_cons_of_mem c member)
      rw [utf16, List.flatMap_cons, one, ← utf16, rest]
      rfl

def utf8Char (c : Char) : List Nat := (String.utf8EncodeChar c).map UInt8.toNat

def utf8 (chars : List Char) : List Nat := chars.flatMap utf8Char

/-- Position of a character in UTF-16 order: the supplementary characters come
between U+D7FF and U+E000. -/
def utf16Rank (c : Char) : Nat :=
  if c.toNat < 0xD800 then c.toNat
  else if c.toNat < 0x10000 then c.toNat + 0x100000
  else c.toNat - 0x10000 + 0xD800

theorem toNat_valid (c : Char) :
    c.toNat < 0xD800 ∨ (0xDFFF < c.toNat ∧ c.toNat < 0x110000) := c.valid

theorem utf16_ordered : OrderedCode utf16Char utf16Rank where
  injective := by
    intro a b same
    have validA := toNat_valid a
    have validB := toNat_valid b
    apply Char.toNat_inj.mp
    unfold utf16Rank at same
    split at same <;> split at same <;> (try split at same) <;> (try split at same) <;> omega
  nonempty := by
    intro a
    unfold utf16Char
    split <;> simp
  separated := by
    intro a b less x y
    have validA := toNat_valid a
    have validB := toNat_valid b
    unfold utf16Rank at less
    unfold utf16Char
    split at less <;> split <;> split <;>
      simp only [List.cons_append, List.nil_append, List.cons_lt_cons_iff] <;>
      split at less <;> (try split at less) <;> omega

theorem utf8Char_eq (c : Char) :
    utf8Char c =
      if c.toNat ≤ 0x7f then [c.toNat]
      else if c.toNat ≤ 0x7ff then [c.toNat / 64 % 0x20 + 0xc0, c.toNat % 0x40 + 0x80]
      else if c.toNat ≤ 0xffff then
        [c.toNat / 4096 % 0x10 + 0xe0, c.toNat / 64 % 0x40 + 0x80, c.toNat % 0x40 + 0x80]
      else
        [c.toNat / 262144 % 0x08 + 0xf0, c.toNat / 4096 % 0x40 + 0x80,
          c.toNat / 64 % 0x40 + 0x80, c.toNat % 0x40 + 0x80] := by
  have valueEq : c.val.toNat = c.toNat := rfl
  unfold utf8Char String.utf8EncodeChar
  simp only [valueEq]
  split
  · simp only [List.map_cons, List.map_nil, UInt8.toNat_ofNat', List.cons.injEq, and_true]
    omega
  · split
    · simp only [List.map_cons, List.map_nil, UInt8.toNat_ofNat', List.cons.injEq, and_true]
      omega
    · split
      · simp only [List.map_cons, List.map_nil, UInt8.toNat_ofNat', List.cons.injEq, and_true]
        omega
      · simp only [List.map_cons, List.map_nil, UInt8.toNat_ofNat', List.cons.injEq, and_true]
        omega

/-- The leading digit to base 64 decides unless it is shared. -/
theorem base64_lt (m n : Nat) (less : m < n) :
    m / 64 < n / 64 ∨ (m / 64 = n / 64 ∧ m % 64 < n % 64) := by omega

/-- Four-byte codes: the groups of a smaller code point come first. -/
theorem fourBytes_lt (m n : Nat) (less : m < n) (bound : n < 0x110000) :
    m / 262144 % 8 < n / 262144 % 8 ∨ (m / 262144 % 8 = n / 262144 % 8 ∧
      (m / 4096 % 64 < n / 4096 % 64 ∨ (m / 4096 % 64 = n / 4096 % 64 ∧
        (m / 64 % 64 < n / 64 % 64 ∨ (m / 64 % 64 = n / 64 % 64 ∧ m % 64 < n % 64))))) := by
  have nestM : m / 64 / 64 = m / 4096 ∧ m / 4096 / 64 = m / 262144 := by
    rw [Nat.div_div_eq_div_mul, Nat.div_div_eq_div_mul]
    exact ⟨rfl, rfl⟩
  have nestN : n / 64 / 64 = n / 4096 ∧ n / 4096 / 64 = n / 262144 := by
    rw [Nat.div_div_eq_div_mul, Nat.div_div_eq_div_mul]
    exact ⟨rfl, rfl⟩
  have topM : m / 262144 % 8 = m / 262144 := by omega
  have topN : n / 262144 % 8 = n / 262144 := by omega
  rw [topM, topN]
  rcases base64_lt m n less with less1 | ⟨same1, last⟩
  · rcases base64_lt (m / 64) (n / 64) less1 with less2 | ⟨same2, third⟩
    · rw [nestM.1, nestN.1] at less2
      rcases base64_lt (m / 4096) (n / 4096) less2 with less3 | ⟨same3, second⟩
      · exact Or.inl (nestM.2 ▸ nestN.2 ▸ less3)
      · exact Or.inr ⟨nestM.2 ▸ nestN.2 ▸ same3, Or.inl second⟩
    · rw [nestM.1, nestN.1] at same2
      refine Or.inr ⟨?_, Or.inr ⟨?_, Or.inl third⟩⟩
      · rw [← nestM.2, ← nestN.2, same2]
      · rw [same2]
  · have same2 : m / 4096 = n / 4096 := by rw [← nestM.1, ← nestN.1, same1]
    refine Or.inr ⟨?_, Or.inr ⟨?_, Or.inr ⟨?_, last⟩⟩⟩
    · rw [← nestM.2, ← nestN.2, same2]
    · rw [same2]
    · rw [same1]

theorem utf8_ordered : OrderedCode utf8Char Char.toNat where
  injective := fun _ _ same => Char.toNat_inj.mp same
  nonempty := by
    intro a
    rw [utf8Char_eq]
    split <;> [skip; split <;> [skip; split]] <;> simp
  separated := by
    intro a b less x y
    have validA := toNat_valid a
    have validB := toNat_valid b
    have fourBytes := fourBytes_lt a.toNat b.toNat less (by omega)
    rw [utf8Char_eq, utf8Char_eq]
    split <;> [skip; split <;> [skip; split]] <;>
      (split <;> [skip; split <;> [skip; split]]) <;>
      simp only [List.cons_append, List.nil_append, List.cons_lt_cons_iff] <;> omega

theorem utf16_lt_iff (left right : List Char) :
    utf16 left < utf16 right ↔ left.map utf16Rank < right.map utf16Rank :=
  utf16_ordered.flatMap_lt_iff left right

theorem utf8_lt_iff (left right : List Char) :
    utf8 left < utf8 right ↔ left.map Char.toNat < right.map Char.toNat :=
  utf8_ordered.flatMap_lt_iff left right

theorem utf16_injective (left right : List Char) (same : utf16 left = utf16 right) :
    left = right := by
  have notLess : ¬ left.map utf16Rank < right.map utf16Rank := by
    rw [← utf16_lt_iff, same]
    exact lt_irrefl _
  have notMore : ¬ right.map utf16Rank < left.map utf16Rank := by
    rw [← utf16_lt_iff, same]
    exact lt_irrefl _
  have ranks : left.map utf16Rank = right.map utf16Rank :=
    le_antisymm (not_lt.mp notMore) (not_lt.mp notLess)
  exact List.map_injective_iff.mpr (fun a b => utf16_ordered.injective a b) ranks

/-! ## Where the orders differ -/

/-- The first two characters in which the strings differ, if neither is a
prefix of the other. -/
def firstDifference : List Char → List Char → Option (Char × Char)
  | a :: left, b :: right => if a = b then firstDifference left right else some (a, b)
  | _, _ => none

/-- One character from U+E000 to U+FFFF, the other above U+FFFF. -/
def Swapped (a b : Char) : Prop :=
  (0xE000 ≤ a.toNat ∧ a.toNat < 0x10000 ∧ 0x10000 ≤ b.toNat) ∨
    (0xE000 ≤ b.toNat ∧ b.toNat < 0x10000 ∧ 0x10000 ≤ a.toNat)

instance (a b : Char) : Decidable (Swapped a b) := by
  unfold Swapped
  infer_instance

def OrdersAgree (left right : List Char) : Prop :=
  ∀ pair, firstDifference left right = some pair → ¬ Swapped pair.1 pair.2

theorem rank_agrees_iff (a b : Char) (differ : a ≠ b) :
    (utf16Rank a < utf16Rank b ↔ a.toNat < b.toNat) ↔ ¬ Swapped a b := by
  have validA := toNat_valid a
  have validB := toNat_valid b
  have differNat : a.toNat ≠ b.toNat := fun same => differ (Char.toNat_inj.mp same)
  unfold utf16Rank Swapped
  split <;> split <;> (try split) <;> (try split) <;> omega

/-- UTF-16 order and UTF-8 order put a pair of strings the same way round
exactly when their first difference does not mix the two ranges. -/
theorem orders_agree_iff (left right : List Char) :
    (utf16 left < utf16 right ↔ utf8 left < utf8 right) ↔ OrdersAgree left right := by
  rw [utf16_lt_iff, utf8_lt_iff]
  induction left generalizing right with
  | nil => cases right <;> simp [OrdersAgree, firstDifference]
  | cons a left ih =>
      cases right with
      | nil => simp [OrdersAgree, firstDifference]
      | cons b right =>
          by_cases same : a = b
          · subst same
            have tail := ih right
            simpa [OrdersAgree, firstDifference, List.cons_lt_cons_iff] using tail
          · have rankNe : utf16Rank a ≠ utf16Rank b :=
              fun rankEq => same (utf16_ordered.injective a b rankEq)
            have natNe : a.toNat ≠ b.toNat := fun natEq => same (Char.toNat_inj.mp natEq)
            simp only [List.map_cons, List.cons_lt_cons_iff, rankNe, natNe, false_and,
              or_false, rank_agrees_iff a b same]
            simp [OrdersAgree, firstDifference, same]

theorem utf8_trichotomy {left right : List Char} (differ : left ≠ right) :
    utf8 left < utf8 right ∨ utf8 right < utf8 left := by
  rw [utf8_lt_iff, utf8_lt_iff]
  apply lt_or_gt_of_ne
  intro same
  exact differ (List.map_injective_iff.mpr (fun a b => utf8_ordered.injective a b) same)

theorem utf8_injective (left right : List Char) (same : utf8 left = utf8 right) :
    left = right := by
  by_contra differ
  rcases utf8_trichotomy differ with less | more
  · exact lt_irrefl _ (same ▸ less)
  · exact lt_irrefl _ (same ▸ more)

theorem utf16_trichotomy {left right : List Char} (differ : left ≠ right) :
    utf16 left < utf16 right ∨ utf16 right < utf16 left :=
  lt_or_gt_of_ne fun same => differ (utf16_injective left right same)

end CodeUnits
