import ShirohaChat.Lib.CodeUnits
import Mathlib.Data.List.DropRight
import Mathlib.Data.List.Sort

/-!
# Strings of the program

A `QString` is modelled by the characters it denotes; `size` and `operator<`
work on its UTF-16 code units.  The two null/empty states of a `QString` differ
only where a value is bound to an SQL statement; there the model uses
`Option String`, with `none` for the null string.
-/

set_option autoImplicit false

namespace ShirohaChat

open CodeUnits

/-- `QString::size()`. -/
def qSize (text : String) : Nat := (utf16 text.toList).length

/-- `QString::toUtf8().size()`. -/
def utf8Size (text : String) : Nat := (utf8 text.toList).length

/-- `operator<` of `QString`: code unit by code unit. -/
def qLess (left right : String) : Bool :=
  decide (utf16 left.toList < utf16 right.toList)

/-- SQLite's comparison of two TEXT values under the default collation. -/
def sqlLess (left right : String) : Bool :=
  decide (utf8 left.toList < utf8 right.toList)

/-- `ORDER BY column DESC` on a TEXT column. -/
def newestFirst {Row : Type} (column : Row → String) (rows : List Row) : List Row :=
  rows.insertionSort fun left right => sqlLess (column left) (column right) = false

/-- `ORDER BY column ASC` on a TEXT column. -/
def oldestFirst {Row : Type} (column : Row → String) (rows : List Row) : List Row :=
  rows.insertionSort fun left right => sqlLess (column right) (column left) = false

theorem newestFirst_perm {Row : Type} (column : Row → String) (rows : List Row) :
    (newestFirst column rows).Perm rows :=
  List.perm_insertionSort _ rows

theorem oldestFirst_perm {Row : Type} (column : Row → String) (rows : List Row) :
    (oldestFirst column rows).Perm rows :=
  List.perm_insertionSort _ rows

def isSpace (c : Char) : Bool :=
  c.toNat == 0x20 || (0x09 ≤ c.toNat && c.toNat ≤ 0x0d) || c.toNat == 0x85 ||
    c.toNat == 0xa0 || c.toNat == 0x1680 || (0x2000 ≤ c.toNat && c.toNat ≤ 0x200a) ||
    c.toNat == 0x2028 || c.toNat == 0x2029 || c.toNat == 0x202f || c.toNat == 0x205f ||
    c.toNat == 0x3000

def qStartsWith (text start : String) : Bool := start.toList.isPrefixOf text.toList

/-- The simple case folding of Unicode on the characters that fold to ASCII. -/
def foldToAscii (c : Char) : Char :=
  if c.isUpper then c.toLower
  else if c.toNat = 0x17f then 's'
  else if c.toNat = 0x212a then 'k'
  else c

/-- `text.contains(part, Qt::CaseInsensitive)` for an ASCII `part`. -/
def qContainsIgnoringCase (text part : String) : Bool :=
  (text.toList.map foldToAscii).tails.any (part.toList.map foldToAscii).isPrefixOf

def trimmed (text : String) : String :=
  String.ofList ((text.toList.dropWhile isSpace).reverse.dropWhile isSpace).reverse

theorem trimmed_trimmed (text : String) : trimmed (trimmed text) = trimmed text := by
  have asDropped : ∀ text, trimmed text =
      String.ofList ((text.toList.dropWhile isSpace).rdropWhile isSpace) := fun _ => rfl
  simp only [asDropped, String.toList_ofList]
  congr 1
  generalize leftDef : text.toList.dropWhile isSpace = left
  have startsBare : ∀ first rest, left.rdropWhile isSpace = first :: rest →
      isSpace first = false := by
    intro first rest dropped
    obtain ⟨ending, whole⟩ := List.rdropWhile_prefix isSpace left
    rw [dropped, List.cons_append, ← leftDef] at whole
    have head := List.head?_dropWhile_not isSpace text.toList
    rw [← whole, List.head?_cons] at head
    simpa using head
  cases dropped : left.rdropWhile isSpace with
  | nil => rfl
  | cons first rest =>
      rw [List.dropWhile_cons_of_neg (by simp [startsBare first rest dropped]), ← dropped,
        List.rdropWhile_idempotent]

/-- A text as `trimmed` leaves it, and not empty. -/
structure CleanText (text : String) : Prop where
  nonempty : text ≠ ""
  trimmed : trimmed text = text

instance (text : String) : Decidable (CleanText text) :=
  decidable_of_iff (text ≠ "" ∧ ShirohaChat.trimmed text = text)
    ⟨fun both => ⟨both.1, both.2⟩, fun clean => ⟨clean.nonempty, clean.trimmed⟩⟩

theorem cleanText_trimmed {text : String} (nonempty : trimmed text ≠ "") :
    CleanText (trimmed text) :=
  ⟨nonempty, trimmed_trimmed text⟩

theorem qLess_asymm {left right : String} (less : qLess left right = true) :
    qLess right left = false := by
  simp only [qLess, decide_eq_true_eq, decide_eq_false_iff_not] at less ⊢
  exact lt_asymm less

theorem qLess_total {left right : String} (differ : left ≠ right) :
    qLess left right = true ∨ qLess right left = true := by
  simp only [qLess, decide_eq_true_eq]
  exact utf16_trichotomy fun same => differ (String.toList_inj.mp same)

theorem sqlLess_asymm {left right : String} (less : sqlLess left right = true) :
    sqlLess right left = false := by
  simp only [sqlLess, decide_eq_true_eq, decide_eq_false_iff_not] at less ⊢
  exact lt_asymm less

theorem sqlLess_total {left right : String} (differ : left ≠ right) :
    sqlLess left right = true ∨ sqlLess right left = true := by
  simp only [sqlLess, decide_eq_true_eq]
  exact utf8_trichotomy fun same => differ (String.toList_inj.mp same)

/-- No row comes before one with a smaller text. -/
theorem oldestFirst_ordered {Row : Type} (column : Row → String) (rows : List Row) :
    (oldestFirst column rows).Pairwise fun left right =>
      sqlLess (column right) (column left) = false := by
  have total : Std.Total fun left right : Row => sqlLess (column right) (column left) = false := by
    refine ⟨fun left right => ?_⟩
    simp only [sqlLess, decide_eq_false_iff_not, not_lt]
    exact le_total _ _
  have transitive : IsTrans Row fun left right =>
      sqlLess (column right) (column left) = false := by
    refine ⟨fun left middle right => ?_⟩
    simp only [sqlLess, decide_eq_false_iff_not, not_lt]
    exact le_trans
  exact List.pairwise_insertionSort _ rows

/-- The C++ order and the SQL order of two ids agree unless their first
difference mixes a character from U+E000 to U+FFFF with one above U+FFFF. -/
theorem qLess_eq_sqlLess_iff (left right : String) :
    qLess left right = sqlLess left right ↔ OrdersAgree left.toList right.toList := by
  rw [← orders_agree_iff, qLess, sqlLess, decide_eq_decide]

end ShirohaChat
