import Roster.Proofs.Json.Layout

/-!
A value that nobody asked for is skipped as a whole, whatever it is and however deep it nests. The
walk keeps its open frames in a list, so that the claim is made for any list of them: a value leads
from the place before it to the place behind it, with the same frames open.
-/

namespace Roster.Json

/-! ## One step of the walk -/

section Steps

variable {frames : List Frame} {frame : Frame} {c : Char} {s rest keyed : List Char}

theorem skipFrom_sequence (spaced : skipSpace s = '[' :: rest) :
    skipFrom .value frames s = skipFrom .opened (.sequence :: frames) rest := by
  rw [skipFrom]
  split
  next empty => rw [spaced] at empty; cases empty
  next found => rw [spaced] at found; cases found; rfl

theorem skipFrom_map (spaced : skipSpace s = '\x7b' :: rest) :
    skipFrom .value frames s = skipFrom .opened (.map :: frames) rest := by
  rw [skipFrom]
  split
  next empty => rw [spaced] at empty; cases empty
  next found => rw [spaced] at found; cases found; rfl

theorem skipFrom_scalar (spaced : skipSpace s = c :: rest) (bracket : c ≠ '[') (brace : c ≠ '\x7b')
    {left : List Char} (scalar : skipScalar (c :: rest) = .ok left) :
    skipFrom .value frames s = skipFrom .behind frames left := by
  rw [skipFrom]
  split
  next empty => rw [spaced] at empty; cases empty
  next found =>
    rw [spaced] at found
    cases found
    rw [if_neg bracket, if_neg brace]
    split
    next failed => rw [scalar] at failed; cases failed
    next read => rw [scalar] at read; cases read; rfl

theorem skipFrom_opened_close (spaced : skipSpace s = frame.close :: rest) :
    skipFrom .opened (frame :: frames) s = skipFrom .behind frames rest := by
  rw [skipFrom]
  split
  next empty => rw [spaced] at empty; cases empty
  next found => rw [spaced] at found; cases found; rw [if_pos rfl]

theorem skipFrom_opened_part (spaced : skipSpace s = c :: rest) (open_ : c ≠ frame.close)
    (key : frame.skipKey (c :: rest) = .ok keyed) :
    skipFrom .opened (frame :: frames) s = skipFrom .value (frame :: frames) keyed := by
  conv => lhs; rw [skipFrom]
  split
  next empty => rw [spaced] at empty; cases empty
  next found =>
    rw [spaced] at found
    cases found
    rw [if_neg open_]
    split
    next failed => rw [key] at failed; cases failed
    next read => rw [key] at read; cases read; rfl

theorem skipFrom_behind_close (spaced : skipSpace s = frame.close :: rest) :
    skipFrom .behind (frame :: frames) s = skipFrom .behind frames rest := by
  rw [skipFrom]
  split
  next empty => rw [spaced] at empty; cases empty
  next found => rw [spaced] at found; cases found; rw [if_pos rfl]

theorem skipFrom_behind_part (spaced : skipSpace s = ',' :: rest)
    (key : frame.skipKey rest = .ok keyed) :
    skipFrom .behind (frame :: frames) s = skipFrom .value (frame :: frames) keyed := by
  have open_ : ',' ≠ frame.close := by cases frame <;> decide
  conv => lhs; rw [skipFrom]
  split
  next empty => rw [spaced] at empty; cases empty
  next found =>
    rw [spaced] at found
    cases found
    rw [if_neg open_, if_pos rfl]
    split
    next failed => rw [key] at failed; cases failed
    next read => rw [key] at read; cases read; rfl

end Steps

/-! ## Whole values -/

/-- The value leads from the place before it to the place behind it. -/
def Spelling.Skipped (v : Spelling) : Prop :=
  ∀ (frames : List Frame) (gap : Gap) (rest : List Char), Ends rest →
    skipFrom .value frames (gap.chars ++ (v.chars ++ rest)) = skipFrom .behind frames rest

theorem skipScalar_number (n : Numeral) {rest : List Char} (ends : Ends rest) :
    skipScalar (n.chars ++ rest) = .ok rest := by
  have read := n.literal_append .malformed ends
  obtain ⟨c, cs, spelled, starts⟩ := n.exists_chars
  have other {d : Char} (other : d ≠ '-' ∧ d.isDigit = false) : c ≠ d :=
    ne_of_starts_number starts other
  rw [spelled, List.cons_append] at read ⊢
  rw [skipScalar, if_neg (other (by decide)), if_neg (other (by decide)),
    if_neg (other (by decide)), if_neg (other (by decide)),
    if_pos (by rwa [Bool.or_eq_true, decide_eq_true_eq]), read]
  rfl

theorem skipped_of_scalar {v : Spelling} {c : Char} {cs : List Char} (spelled : v.chars = c :: cs)
    (bracket : c ≠ '[') (brace : c ≠ '\x7b')
    (scalar : ∀ rest, Ends rest → skipScalar (v.chars ++ rest) = .ok rest) : v.Skipped := by
  intro frames gap rest ends
  have spaced := skipSpace_value gap v rest
  have read := scalar rest ends
  rw [spelled, List.cons_append] at spaced read
  rw [spelled, List.cons_append]
  exact skipFrom_scalar spaced bracket brace read

/-- From the items that are left, the walk gets behind the closing bracket. -/
theorem skipFrom_itemsLeft {items : List (Item Spelling)}
    (each : ∀ item ∈ items, item.value.Skipped) (frames : List Frame) (first : Bool) (gap : Gap)
    (rest : List Char) :
    skipFrom (if first then .opened else .behind) (.sequence :: frames)
      (gap.chars ++ itemsLeft first items rest) = skipFrom .behind frames rest := by
  induction items generalizing first gap with
  | nil =>
    have spaced := skipSpace_itemsLeft_nil gap first rest
    cases first with
    | true => exact skipFrom_opened_close spaced
    | false => exact skipFrom_behind_close spaced
  | cons item items ih =>
    have onward (before : Gap) :
        skipFrom .value (.sequence :: frames) (before.chars ++ item.onward items rest) =
          skipFrom .behind frames rest := by
      rw [Item.onward, each item List.mem_cons_self (.sequence :: frames) before _
        (ends_itemsLeft item.after items rest)]
      exact ih (fun other member => each other (List.mem_cons_of_mem _ member)) false item.after
    cases first with
    | true =>
      have spaced := skipSpace_itemsLeft_first gap item items rest
      obtain ⟨c, cs, spelled, opens⟩ := item.value.exists_opens
      have found := onward Gap.none
      change skipFrom .value _ (item.onward items rest) = _ at found
      rw [Item.onward, spelled, List.cons_append] at spaced found
      rw [← found]
      exact skipFrom_opened_part spaced opens.visible.2 rfl
    | false =>
      rw [← onward item.before]
      exact skipFrom_behind_part (skipSpace_itemsLeft_later gap item items rest) rfl

theorem skipKey_onward (before : Gap) (entry : Entry Spelling) (entries : List (Entry Spelling))
    (rest : List Char) :
    Frame.map.skipKey (before.chars ++ '"' :: entry.onward entries rest) =
      .ok (entry.afterColon.chars ++ (entry.value.chars ++
        (entry.after.chars ++ entriesLeft false entries rest))) := by
  have spaced : skipSpace (before.chars ++ '"' :: entry.onward entries rest) =
      '"' :: entry.onward entries rest := by
    rw [skipSpace_gap, skipSpace_cons (by decide)]
  rw [Frame.skipKey, skipKey, spaced]
  simp only [if_true, Entry.onward, skipStringTail_strokes, skipColon_gap]

/-- From the members that are left, the walk gets behind the closing brace. -/
theorem skipFrom_entriesLeft {entries : List (Entry Spelling)}
    (each : ∀ entry ∈ entries, entry.value.Skipped) (frames : List Frame) (first : Bool) (gap : Gap)
    (rest : List Char) :
    skipFrom (if first then .opened else .behind) (.map :: frames)
      (gap.chars ++ entriesLeft first entries rest) = skipFrom .behind frames rest := by
  induction entries generalizing first gap with
  | nil =>
    have spaced := skipSpace_entriesLeft_nil gap first rest
    cases first with
    | true => exact skipFrom_opened_close spaced
    | false => exact skipFrom_behind_close spaced
  | cons entry entries ih =>
    have onward : skipFrom .value (.map :: frames) (entry.afterColon.chars ++
        (entry.value.chars ++ (entry.after.chars ++ entriesLeft false entries rest))) =
          skipFrom .behind frames rest := by
      rw [each entry List.mem_cons_self (.map :: frames) entry.afterColon _
        (ends_entriesLeft entry.after entries rest)]
      exact ih (fun other member => each other (List.mem_cons_of_mem _ member)) false entry.after
    rw [← onward]
    cases first with
    | true =>
      exact skipFrom_opened_part (skipSpace_entriesLeft_first gap entry entries rest) (by decide)
        (skipKey_onward Gap.none entry entries rest)
    | false =>
      exact skipFrom_behind_part (skipSpace_entriesLeft_later gap entry entries rest)
        (skipKey_onward entry.before entry entries rest)

theorem Spelling.skipped (v : Spelling) : v.Skipped := by
  induction v with
  | null =>
    exact skipped_of_scalar chars_null (by decide) (by decide) fun rest _ => by
      rw [chars_null]
      exact letters_append ['u', 'l', 'l'] rest
  | flag value =>
    cases value with
    | true =>
      exact skipped_of_scalar (chars_flag true) (by decide) (by decide) fun rest _ => by
        rw [chars_flag]
        exact letters_append ['r', 'u', 'e'] rest
    | false =>
      exact skipped_of_scalar (chars_flag false) (by decide) (by decide) fun rest _ => by
        rw [chars_flag]
        exact letters_append ['a', 'l', 's', 'e'] rest
  | number n =>
    obtain ⟨c, cs, spelled, starts⟩ := n.exists_chars
    refine skipped_of_scalar ((chars_number n).trans spelled)
      (ne_of_starts_number starts (by decide)) (ne_of_starts_number starts (by decide)) ?_
    intro rest ends
    rw [chars_number]
    exact skipScalar_number n ends
  | text strokes =>
    exact skipped_of_scalar (chars_text strokes) (by decide) (by decide) fun rest _ => by
      rw [chars_text, strokesChars_append]
      exact skipStringTail_strokes strokes rest
  | sequence inner items each =>
    intro frames gap rest _
    have spaced := skipSpace_value gap (.sequence inner items) rest
    rw [chars_sequence] at spaced ⊢
    rw [skipFrom_sequence spaced]
    exact skipFrom_itemsLeft each frames true inner rest
  | map inner entries each =>
    intro frames gap rest _
    have spaced := skipSpace_value gap (.map inner entries) rest
    rw [chars_map] at spaced ⊢
    rw [skipFrom_map spaced]
    exact skipFrom_entriesLeft each frames true inner rest

/-- A value that nobody asked for is skipped up to its end. -/
theorem skipValue_append (gap : Gap) (v : Spelling) {rest : List Char} (ends : Ends rest) :
    skipValue (gap.chars ++ (v.chars ++ rest)) = .ok rest := by
  rw [skipValue, v.skipped [] gap rest ends, skipFrom]

end Roster.Json
