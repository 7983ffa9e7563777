import Roster.Proofs.Json.Lexemes

/-!
How a value is recognised by its first character, and how the readers of sequences and maps get from
one part to the next. The parts that are still to be read are written with a comma before each,
apart from the first part of all.
-/

namespace Roster.Json

/-! ## The first character -/

theorem ne_of_starts_number {c d : Char} (starts : c = '-' ∨ c.isDigit = true)
    (other : d ≠ '-' ∧ d.isDigit = false) : c ≠ d := by
  rintro rfl
  rcases starts with minus | digit
  · exact other.1 minus
  · rw [other.2] at digit
    cases digit

theorem visible_of_starts_number {c : Char} (starts : c = '-' ∨ c.isDigit = true) :
    isSpace c = false := by
  unfold isSpace
  simp only [Bool.or_eq_false_iff, decide_eq_false_iff_not]
  refine ⟨⟨⟨?_, ?_⟩, ?_⟩, ?_⟩ <;> exact ne_of_starts_number starts (by decide)

namespace Spelling

@[simp]
theorem chars_null : Spelling.null.chars = ['n', 'u', 'l', 'l'] := by
  rw [chars]

@[simp]
theorem chars_flag (value : Bool) : (Spelling.flag value).chars = flagChars value := by
  rw [chars]

@[simp]
theorem chars_number (numeral : Numeral) : (Spelling.number numeral).chars = numeral.chars := by
  rw [chars]

@[simp]
theorem chars_text (strokes : List Stroke) :
    (Spelling.text strokes).chars = strokesChars strokes := by
  rw [chars]

/-- The characters that a value of this kind may start with. -/
def Opens : Spelling → Char → Prop
  | .null, c => c = 'n'
  | .flag value, c => c = if value then 't' else 'f'
  | .number _, c => c = '-' ∨ c.isDigit = true
  | .text _, c => c = '"'
  | .sequence _ _, c => c = '['
  | .map _ _, c => c = '\x7b'

theorem exists_opens (v : Spelling) : ∃ c cs, v.chars = c :: cs ∧ v.Opens c := by
  cases v with
  | null => exact ⟨'n', _, chars_null, rfl⟩
  | flag value =>
    cases value with
    | true => exact ⟨'t', _, chars_flag true, rfl⟩
    | false => exact ⟨'f', _, chars_flag false, rfl⟩
  | number numeral =>
    obtain ⟨c, cs, spelled, starts⟩ := numeral.exists_chars
    exact ⟨c, cs, by rw [chars_number, spelled], starts⟩
  | text strokes => exact ⟨'"', _, chars_text strokes, rfl⟩
  | sequence inner items => exact ⟨'[', _, by rw [chars]; rfl, rfl⟩
  | map inner entries => exact ⟨'\x7b', _, by rw [chars]; rfl, rfl⟩

/-- A value starts with a visible character, which does not close a sequence. -/
theorem Opens.visible {v : Spelling} {c : Char} (opens : v.Opens c) :
    isSpace c = false ∧ c ≠ ']' := by
  cases v with
  | null => cases opens; decide
  | flag value => cases opens; cases value <;> decide
  | number numeral =>
    exact ⟨visible_of_starts_number opens, ne_of_starts_number opens (by decide)⟩
  | text strokes => cases opens; decide
  | sequence inner items => cases opens; decide
  | map inner entries => cases opens; decide

end Spelling

theorem skipSpace_value (gap : Gap) (v : Spelling) (rest : List Char) :
    skipSpace (gap.chars ++ (v.chars ++ rest)) = v.chars ++ rest := by
  obtain ⟨c, cs, spelled, opens⟩ := v.exists_opens
  rw [skipSpace_gap, spelled, List.cons_append, skipSpace_cons opens.visible.1]

/-! ## The parts of a sequence or a map -/

theorem separated_cons (separator : Char) (part : List Char) (parts : List (List Char)) :
    separated separator (part :: parts) = part ++ parts.flatMap (separator :: ·) := by
  induction parts generalizing part with
  | nil => rw [separated, List.flatMap_nil, List.append_nil]
  | cons next parts ih =>
    rw [separated, ih, List.flatMap_cons, List.cons_append]
    exact fun empty => nomatch empty

/-- The parts that are still to be read, up to the closing bracket or brace, and what follows. -/
def partsLeft (close : Char) (first : Bool) (parts : List (List Char)) (rest : List Char) :
    List Char :=
  (if first then separated ',' parts else parts.flatMap (',' :: ·)) ++ close :: rest

theorem partsLeft_nil (close : Char) (first : Bool) (rest : List Char) :
    partsLeft close first [] rest = close :: rest := by
  cases first <;> rfl

theorem partsLeft_first (close : Char) (part : List Char) (parts : List (List Char))
    (rest : List Char) :
    partsLeft close true (part :: parts) rest = part ++ partsLeft close false parts rest := by
  rw [partsLeft, if_pos rfl, separated_cons, List.append_assoc]
  rfl

theorem partsLeft_later (close : Char) (part : List Char) (parts : List (List Char))
    (rest : List Char) :
    partsLeft close false (part :: parts) rest =
      ',' :: (part ++ partsLeft close false parts rest) := by
  rw [partsLeft, if_neg Bool.false_ne_true, List.flatMap_cons, List.append_assoc, List.cons_append]
  rfl

/-- Behind a part that is not the last one stands a comma. -/
theorem ends_partsLeft {close : Char} (closes : close = ']' ∨ close = '\x7d')
    (parts : List (List Char)) (rest : List Char) : Ends (partsLeft close false parts rest) := by
  cases parts with
  | nil =>
    rw [partsLeft_nil]
    exact ends_cons (.inr closes) rest
  | cons part parts =>
    rw [partsLeft_later]
    exact ends_cons (.inl rfl) _

/-! ## Sequences -/

def Item.chars (item : Item Spelling) : List Char :=
  item.before.chars ++ item.value.chars ++ item.after.chars

/-- The items that are still to be read. -/
def itemsLeft (first : Bool) (items : List (Item Spelling)) (rest : List Char) : List Char :=
  partsLeft ']' first (items.map Item.chars) rest

theorem Spelling.chars_sequence (inner : Gap) (items : List (Item Spelling)) (rest : List Char) :
    (Spelling.sequence inner items).chars ++ rest =
      '[' :: (inner.chars ++ itemsLeft true items rest) := by
  have written : (fun item : Item Spelling =>
      item.before.chars ++ item.value.chars ++ item.after.chars) = Item.chars := rfl
  rw [chars, itemsLeft, partsLeft, if_pos rfl, written]
  simp only [List.cons_append, List.append_assoc, List.nil_append]

theorem ends_itemsLeft (after : Gap) (items : List (Item Spelling)) (rest : List Char) :
    Ends (after.chars ++ itemsLeft false items rest) :=
  ends_gap after (ends_partsLeft (.inl rfl) _ rest)

theorem skipSpace_itemsLeft_nil (gap : Gap) (first : Bool) (rest : List Char) :
    skipSpace (gap.chars ++ itemsLeft first [] rest) = ']' :: rest := by
  rw [skipSpace_gap, itemsLeft, List.map_nil, partsLeft_nil, skipSpace_cons (by decide)]

/-- What a reader finds at the next item, when the white space and the comma before it are gone. -/
def Item.onward (item : Item Spelling) (items : List (Item Spelling)) (rest : List Char) :
    List Char :=
  item.value.chars ++ (item.after.chars ++ itemsLeft false items rest)

theorem skipSpace_itemsLeft_first (gap : Gap) (item : Item Spelling) (items : List (Item Spelling))
    (rest : List Char) :
    skipSpace (gap.chars ++ itemsLeft true (item :: items) rest) = item.onward items rest := by
  rw [skipSpace_gap, itemsLeft, List.map_cons, partsLeft_first, Item.chars, List.append_assoc,
    List.append_assoc, skipSpace_value]
  rfl

theorem skipSpace_itemsLeft_later (gap : Gap) (item : Item Spelling) (items : List (Item Spelling))
    (rest : List Char) :
    skipSpace (gap.chars ++ itemsLeft false (item :: items) rest) =
      ',' :: (item.before.chars ++ item.onward items rest) := by
  rw [skipSpace_gap, itemsLeft, List.map_cons, partsLeft_later, skipSpace_cons (by decide),
    Item.chars, List.append_assoc, List.append_assoc]
  rfl

theorem skipSpace_onward (gap : Gap) (item : Item Spelling) (items : List (Item Spelling))
    (rest : List Char) :
    skipSpace (gap.chars ++ item.onward items rest) = item.onward items rest :=
  skipSpace_value gap item.value _

namespace Reader

theorem nextItem?_nil (gap : Gap) (first : Bool) (rest : List Char) :
    nextItem? first (gap.chars ++ itemsLeft first [] rest) = .ok none := by
  rw [nextItem?, skipSpace_itemsLeft_nil]
  rfl

theorem nextItem?_cons (gap : Gap) (first : Bool) (item : Item Spelling)
    (items : List (Item Spelling)) (rest : List Char) :
    nextItem? first (gap.chars ++ itemsLeft first (item :: items) rest) =
      .ok (some (item.onward items rest)) := by
  obtain ⟨c, cs, spelled, opens⟩ := item.value.exists_opens
  have starts : item.onward items rest =
      c :: (cs ++ (item.after.chars ++ itemsLeft false items rest)) := by
    rw [Item.onward, spelled, List.cons_append]
  unfold nextItem?
  cases first with
  | true =>
    rw [skipSpace_itemsLeft_first, starts]
    simp only [if_neg opens.visible.2, if_true]
  | false =>
    have spaced := skipSpace_onward item.before item items rest
    rw [starts] at spaced
    rw [skipSpace_itemsLeft_later, starts]
    simp only [spaced, if_neg opens.visible.2]
    rfl

theorem closeSequence_nil (gap : Gap) (first : Bool) (rest : List Char) :
    closeSequence (gap.chars ++ itemsLeft first [] rest) = .ok rest := by
  rw [closeSequence, skipSpace_itemsLeft_nil]
  rfl

/-- A sequence is not closed while there are items left. -/
theorem closeSequence_cons (gap : Gap) (first : Bool) (item : Item Spelling)
    (items : List (Item Spelling)) (rest : List Char) :
    closeSequence (gap.chars ++ itemsLeft first (item :: items) rest) = .error .malformed := by
  obtain ⟨c, cs, spelled, opens⟩ := item.value.exists_opens
  unfold closeSequence
  cases first with
  | true =>
    rw [skipSpace_itemsLeft_first, Item.onward, spelled, List.cons_append]
    exact if_neg opens.visible.2
  | false =>
    rw [skipSpace_itemsLeft_later]
    rfl

end Reader

/-! ## Maps -/

/-- A member from its key on. -/
def Entry.keyed (entry : Entry Spelling) : List Char :=
  strokesChars entry.strokes ++ entry.beforeColon.chars ++
    ':' :: entry.afterColon.chars ++ entry.value.chars ++ entry.after.chars

def Entry.chars (entry : Entry Spelling) : List Char :=
  entry.before.chars ++ entry.keyed

/-- The members that are still to be read. -/
def entriesLeft (first : Bool) (entries : List (Entry Spelling)) (rest : List Char) : List Char :=
  partsLeft '\x7d' first (entries.map Entry.chars) rest

theorem Spelling.chars_map (inner : Gap) (entries : List (Entry Spelling)) (rest : List Char) :
    (Spelling.map inner entries).chars ++ rest =
      '\x7b' :: (inner.chars ++ entriesLeft true entries rest) := by
  have written : (fun entry : Entry Spelling => entry.before.chars ++ strokesChars entry.strokes ++
      entry.beforeColon.chars ++ ':' :: entry.afterColon.chars ++ entry.value.chars ++
        entry.after.chars) = Entry.chars := by
    funext entry
    simp only [Entry.chars, Entry.keyed, List.append_assoc]
  rw [chars, entriesLeft, partsLeft, if_pos rfl, written]
  simp only [List.cons_append, List.append_assoc, List.nil_append]

theorem ends_entriesLeft (after : Gap) (entries : List (Entry Spelling)) (rest : List Char) :
    Ends (after.chars ++ entriesLeft false entries rest) :=
  ends_gap after (ends_partsLeft (.inr rfl) _ rest)

/-- What a reader finds behind the opening quote of a key. -/
def Entry.onward (entry : Entry Spelling) (entries : List (Entry Spelling)) (rest : List Char) :
    List Char :=
  stringLeft entry.strokes (entry.beforeColon.chars ++ ':' :: (entry.afterColon.chars ++
    (entry.value.chars ++ (entry.after.chars ++ entriesLeft false entries rest))))

theorem Entry.keyed_append (entry : Entry Spelling) (entries : List (Entry Spelling))
    (rest : List Char) :
    entry.keyed ++ entriesLeft false entries rest = '"' :: entry.onward entries rest := by
  simp only [keyed, onward, strokesChars, stringLeft, List.append_assoc, List.cons_append,
    List.nil_append]

theorem skipSpace_entriesLeft_nil (gap : Gap) (first : Bool) (rest : List Char) :
    skipSpace (gap.chars ++ entriesLeft first [] rest) = '\x7d' :: rest := by
  rw [skipSpace_gap, entriesLeft, List.map_nil, partsLeft_nil, skipSpace_cons (by decide)]

theorem skipSpace_entriesLeft_first (gap : Gap) (entry : Entry Spelling)
    (entries : List (Entry Spelling)) (rest : List Char) :
    skipSpace (gap.chars ++ entriesLeft true (entry :: entries) rest) =
      '"' :: entry.onward entries rest := by
  rw [skipSpace_gap, entriesLeft, List.map_cons, partsLeft_first, Entry.chars, List.append_assoc,
    skipSpace_gap]
  change skipSpace (entry.keyed ++ entriesLeft false entries rest) = _
  rw [Entry.keyed_append, skipSpace_cons (by decide)]

theorem skipSpace_entriesLeft_later (gap : Gap) (entry : Entry Spelling)
    (entries : List (Entry Spelling)) (rest : List Char) :
    skipSpace (gap.chars ++ entriesLeft false (entry :: entries) rest) =
      ',' :: (entry.before.chars ++ '"' :: entry.onward entries rest) := by
  rw [skipSpace_gap, entriesLeft, List.map_cons, partsLeft_later, skipSpace_cons (by decide),
    Entry.chars, List.append_assoc, ← Entry.keyed_append]
  rfl

theorem nextKey?_nil (gap : Gap) (first : Bool) (rest : List Char) :
    Fields.nextKey? first (gap.chars ++ entriesLeft first [] rest) = .ok none := by
  rw [Fields.nextKey?, skipSpace_entriesLeft_nil]
  rfl

theorem nextKey?_cons (gap : Gap) (first : Bool) (entry : Entry Spelling)
    (entries : List (Entry Spelling)) (rest : List Char) :
    Fields.nextKey? first (gap.chars ++ entriesLeft first (entry :: entries) rest) =
      .ok (some (entry.onward entries rest)) := by
  unfold Fields.nextKey?
  cases first with
  | true =>
    rw [skipSpace_entriesLeft_first]
    rfl
  | false =>
    have quote : skipSpace (entry.before.chars ++ '"' :: entry.onward entries rest) =
        '"' :: entry.onward entries rest := by
      rw [skipSpace_gap, skipSpace_cons (by decide)]
    rw [skipSpace_entriesLeft_later]
    simp only [quote]
    rfl

theorem skipColon_gap (gap : Gap) (rest : List Char) :
    skipColon (gap.chars ++ ':' :: rest) = .ok rest := by
  rw [skipColon, skipSpace_gap, skipSpace_cons (by decide)]
  rfl

end Roster.Json
