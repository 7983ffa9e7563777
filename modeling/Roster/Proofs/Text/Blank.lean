import Roster.Proofs.Text.Tidy

/-!
Blank texts, and texts with white space around them. Trimming leaves nothing of a blank text, and
it does not see what white space was put around a text.
-/

namespace Roster

namespace Text

/-- Without any visible character. -/
def Blank (s : String) : Prop := ∀ c ∈ s.toList, isBlank c = true

instance (s : String) : Decidable (Blank s) :=
  decidable_of_iff (s.toList.all isBlank = true) List.all_eq_true

theorem trim_eq_empty_iff (s : String) : trim s = "" ↔ Blank s := by
  rw [trim, String.ofList_eq_empty_iff, strip_eq, List.rdropWhile_eq_nil_iff]
  constructor
  · intro gone c member
    by_contra visible
    have kept : c ∈ s.toList.dropWhile isBlank := by
      rw [← List.takeWhile_append_dropWhile (p := isBlank) (l := s.toList),
        List.mem_append] at member
      rcases member with cut | kept
      · exact absurd (List.mem_takeWhile_imp cut) visible
      · exact kept
    exact visible (gone c kept)
  · intro blank c kept
    exact blank c ((List.dropWhile_sublist isBlank).subset kept)

/-- The second text is the first one with white space around it. -/
def Padded (s t : String) : Prop :=
  ∃ front back : List Char, (∀ c ∈ front, isBlank c = true) ∧ (∀ c ∈ back, isBlank c = true) ∧
    t.toList = front ++ s.toList ++ back

theorem dropWhile_append_of_blank {front : List Char} (blank : ∀ c ∈ front, isBlank c = true)
    (cs : List Char) : (front ++ cs).dropWhile isBlank = cs.dropWhile isBlank := by
  rw [List.dropWhile_append, List.dropWhile_eq_nil_iff.mpr blank]
  rfl

theorem strip_append {front back : List Char} (blankFront : ∀ c ∈ front, isBlank c = true)
    (blankBack : ∀ c ∈ back, isBlank c = true) (cs : List Char) :
    strip (front ++ cs ++ back) = strip cs := by
  have blankReverse : ∀ c ∈ back.reverse, isBlank c = true :=
    fun c member => blankBack c (List.mem_reverse.mp member)
  rw [strip, List.append_assoc, dropWhile_append_of_blank blankFront, List.dropWhile_append, strip]
  split
  next gone =>
    -- Nothing but white space is left, so that the end is cut off as the beginning was.
    rw [List.isEmpty_iff.mp gone, List.dropWhile_eq_nil_iff.mpr blankBack]
  next => rw [List.reverse_append, dropWhile_append_of_blank blankReverse]

theorem trim_of_padded {s t : String} (padded : Padded s t) : trim t = trim s := by
  obtain ⟨front, back, blankFront, blankBack, same⟩ := padded
  rw [trim, same, strip_append blankFront blankBack, trim]

end Text

theorem nonBlank_eq (reason : Invalid) (s : String) :
    nonBlank reason s = if Text.Blank s then .error reason else .ok (Text.trim s) := by
  simp only [nonBlank, Text.trim_eq_empty_iff]

theorem nonBlank_of_padded {s t : String} (padded : Text.Padded s t) (reason : Invalid) :
    nonBlank reason t = nonBlank reason s := by
  rw [nonBlank, Text.trim_of_padded padded, nonBlank]

end Roster
