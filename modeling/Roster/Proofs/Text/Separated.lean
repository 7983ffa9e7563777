import Mathlib.Data.List.Basic

/-!
Rows that are joined with commas, and how they are told apart again.

A row has commas of its own, so that a text cannot be taken apart at all of them. But those stand
in parentheses. A comma outside of all parentheses ends a row, and the number of parentheses that
are open is all that has to be known of the text before it.
-/

namespace Roster.Text

/-- How many parentheses are open after a character. -/
def depthAfter (depth : Nat) (c : Char) : Nat :=
  if c = '(' then depth + 1 else if c = ')' then depth - 1 else depth

/-- Every comma stands in parentheses, and all parentheses are closed at the end. -/
def Whole : Nat → List Char → Prop
  | depth, [] => depth = 0
  | depth, c :: rest => ¬(depth = 0 ∧ c = ',') ∧ Whole (depthAfter depth c) rest

instance decidableWhole : (depth : Nat) → (text : List Char) → Decidable (Whole depth text)
  | depth, [] => inferInstanceAs (Decidable (depth = 0))
  | depth, c :: rest =>
    haveI := decidableWhole (depthAfter depth c) rest
    inferInstanceAs (Decidable (¬(depth = 0 ∧ c = ',') ∧ Whole (depthAfter depth c) rest))

/-- A text that can be told apart from those before and behind it. -/
def IsRow (text : String) : Prop :=
  Whole 0 text.toList

instance (text : String) : Decidable (IsRow text) :=
  inferInstanceAs (Decidable (Whole 0 text.toList))

/-- The pieces of a text between those commas, with a blank behind them, that stand outside of all
parentheses. -/
def pieces : Nat → List Char → List (List Char)
  | 0, ',' :: ' ' :: rest => [] :: pieces 0 rest
  | depth, c :: rest => (pieces (depthAfter depth c) rest).modifyHead (c :: ·)
  | _, [] => [[]]

/-- Takes a text apart into its rows. -/
def rows (text : List Char) : List String :=
  (pieces 0 text).map String.ofList

variable {depth : Nat}

theorem pieces_cons {c : Char} (inside : ¬(depth = 0 ∧ c = ',')) (rest : List Char) :
    pieces depth (c :: rest) = (pieces (depthAfter depth c) rest).modifyHead (c :: ·) := by
  rw [pieces]
  rintro _ rfl rfl _
  exact inside ⟨rfl, rfl⟩

/-- A comma behind a row ends it. -/
theorem Whole.pieces_append {text : List Char} (whole : Whole depth text) (rest : List Char) :
    pieces depth (text ++ ',' :: ' ' :: rest) = text :: pieces 0 rest := by
  induction text generalizing depth with
  | nil =>
    -- At the end of a row no parentheses are open.
    obtain rfl : depth = 0 := whole
    rfl
  | cons c text ih => rw [List.cons_append, pieces_cons whole.1, ih whole.2, List.modifyHead_cons]

theorem Whole.pieces_eq {text : List Char} (whole : Whole depth text) :
    pieces depth text = [text] := by
  induction text generalizing depth with
  | nil => rw [pieces]
  | cons c text ih => rw [pieces_cons whole.1, ih whole.2, List.modifyHead_cons]

theorem pieces_intercalate {texts : List (List Char)} (nonempty : texts ≠ [])
    (whole : ∀ text ∈ texts, Whole 0 text) : pieces 0 ([',', ' '].intercalate texts) = texts := by
  induction texts with
  | nil => exact absurd rfl nonempty
  | cons text rest ih =>
    rw [List.forall_mem_cons] at whole
    cases rest with
    | nil => rw [List.intercalate_singleton, whole.1.pieces_eq]
    | cons next rest =>
      rw [List.intercalate_cons_cons, List.append_assoc, List.cons_append, List.cons_append,
        List.nil_append, whole.1.pieces_append, ih (List.cons_ne_nil next rest) whole.2]

/-- Rows that were joined are found again. -/
theorem rows_intercalate {texts : List String} (nonempty : texts ≠ [])
    (whole : ∀ text ∈ texts, IsRow text) : rows (", ".intercalate texts).toList = texts := by
  have pieces : pieces 0 ([',', ' '].intercalate (texts.map String.toList)) =
      texts.map String.toList :=
    pieces_intercalate (mt List.map_eq_nil_iff.mp nonempty) (List.forall_mem_map.mpr whole)
  have same : ", ".toList = [',', ' '] := rfl
  rw [rows, String.toList_intercalate, same, pieces, List.map_map]
  exact List.map_id'' (fun _ => String.ofList_toList) texts

example : rows "(a, b), ((c), d)".toList = ["(a, b)", "((c), d)"] := by decide +kernel

/-- A text can be joined of rows in one way only. -/
theorem intercalate_rows_inj {first second : List String} (firstNonempty : first ≠ [])
    (secondNonempty : second ≠ []) (firstRows : ∀ text ∈ first, IsRow text)
    (secondRows : ∀ text ∈ second, IsRow text)
    (same : ", ".intercalate first = ", ".intercalate second) : first = second := by
  rw [← rows_intercalate firstNonempty firstRows, same, rows_intercalate secondNonempty secondRows]

end Roster.Text
