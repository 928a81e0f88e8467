import Mathlib.Data.List.Basic

/-!
# Two texts joined by a separator

A pair written as one text with a separator between its parts can be read as
another pair exactly when a part holds the separator in the right place: the
first part of one pair goes on, past a separator, into the second part of the
other.
-/

set_option autoImplicit false

namespace Joined

universe u

variable {Symbol : Type u} (separator : Symbol)

def join (left right : List Symbol) : List Symbol := left ++ separator :: right

/-- The second pair takes a piece, with its separator, from the second part of
the first pair into its own first part. -/
def Resplits (left right left' right' : List Symbol) : Prop :=
  ∃ piece, left' = join separator left piece ∧ right = join separator piece right'

/-- The two pairs are different readings of one text. -/
def Ambiguous (left right left' right' : List Symbol) : Prop :=
  Resplits separator left right left' right' ∨ Resplits separator left' right' left right

variable {separator} {left right left' right' : List Symbol}

theorem Resplits.length_lt (resplits : Resplits separator left right left' right') :
    left.length < left'.length := by
  obtain ⟨piece, rfl, _⟩ := resplits
  simp only [join, List.length_append, List.length_cons]
  omega

theorem Resplits.join_eq (resplits : Resplits separator left right left' right') :
    join separator left right = join separator left' right' := by
  obtain ⟨piece, rfl, rfl⟩ := resplits
  simp [join]

theorem Ambiguous.join_eq (ambiguous : Ambiguous separator left right left' right') :
    join separator left right = join separator left' right' := by
  rcases ambiguous with resplits | resplits
  · exact resplits.join_eq
  · exact resplits.join_eq.symm

theorem Ambiguous.left_ne (ambiguous : Ambiguous separator left right left' right') :
    left ≠ left' := by
  rintro rfl
  rcases ambiguous with resplits | resplits <;> exact absurd resplits.length_lt (Nat.lt_irrefl _)

theorem join_eq_join_iff :
    join separator left right = join separator left' right' ↔
      (left = left' ∧ right = right') ∨ Ambiguous separator left right left' right' := by
  constructor
  · intro same
    rcases List.append_eq_append_iff.mp same with ⟨middle, goesOn, rest⟩ | ⟨middle, goesOn, rest⟩
    · cases middle with
      | nil => exact Or.inl ⟨by simpa using goesOn.symm, by simpa using rest⟩
      | cons first piece =>
          rw [List.cons_append, List.cons.injEq] at rest
          obtain ⟨rfl, rest⟩ := rest
          exact Or.inr (Or.inl ⟨piece, goesOn, rest⟩)
    · cases middle with
      | nil => exact Or.inl ⟨by simpa using goesOn, by simpa using rest.symm⟩
      | cons first piece =>
          rw [List.cons_append, List.cons.injEq] at rest
          obtain ⟨rfl, rest⟩ := rest
          exact Or.inr (Or.inr ⟨piece, goesOn, rest⟩)
  · rintro (⟨rfl, rfl⟩ | ambiguous)
    · rfl
    · exact ambiguous.join_eq

theorem toList_join (left right : String) :
    (left ++ ":" ++ right).toList = join ':' left.toList right.toList := by
  simp [join]

end Joined
