import Roster.Proofs.Json.Lawful

/-!
Readers of strings and sequences take nothing but what is spelled as a string or a sequence. What is
read is followed backwards here: from what a reader made of a text to the spelling that stands at
the beginning of the text. Together with what readers make of a spelled value this tells exactly
which documents are decoded, and as what.
-/

namespace Roster.Json

variable {α : Type}

/-! ## White space -/

def Gap.append (first second : Gap) : Gap where
  chars := first.chars ++ second.chars
  spaces := List.forall_mem_append.mpr ⟨first.spaces, second.spaces⟩

theorem exists_gap (s : List Char) : ∃ gap : Gap, s = gap.chars ++ skipSpace s := by
  refine ⟨⟨s.takeWhile isSpace, fun c member => List.mem_takeWhile_imp member⟩, ?_⟩
  exact List.takeWhile_append_dropWhile.symm

/-! ## Strings -/

theorem exists_unit {s rest : List Char} {n : Nat} (read : hexQuad s = .ok (n, rest)) :
    ∃ u : CodeUnit, u.value = n ∧ s = u.chars ++ rest := by
  unfold hexQuad at read
  split at read
  next a b c d _ =>
    split at read
    next first second third fourth =>
      cases read
      exact ⟨⟨⟨a, _, first⟩, ⟨b, _, second⟩, ⟨c, _, third⟩, ⟨d, _, fourth⟩⟩, rfl, rfl⟩
    next => cases read
  next => cases read

/-- These strokes stand for one character, whatever follows them. -/
def StandFor (strokes : List Stroke) (c : Char) : Prop :=
  ∀ more, unite (strokes ++ more) = (unite more).map (c :: ·)

theorem exists_lowSurrogate {u : CodeUnit} (low : ¬u.isLow = true) (high : u.isHigh = true)
    {s rest : List Char} {c : Char} (read : lowSurrogate u.value s = .ok (c, rest)) :
    ∃ v : CodeUnit, s = '\\' :: 'u' :: (v.chars ++ rest) ∧ StandFor [.unit u, .unit v] c := by
  unfold lowSurrogate at read
  split at read
  next => cases read
  next => cases read
  next written =>
    split at read
    next => cases read
    next n _ found =>
      obtain ⟨v, value, rfl⟩ := exists_unit found
      split at read
      next within =>
        obtain ⟨rfl, rfl⟩ := Prod.mk.inj (Except.ok.inj read)
        have second : v.isLow = true := by rw [CodeUnit.isLow, value]; exact within
        refine ⟨v, rfl, fun more => ?_⟩
        rw [List.cons_append, List.cons_append, List.nil_append, unite.eq_def]
        simp only [if_neg low, if_pos high, if_pos second, value]
      next => cases read
  next => cases read

theorem exists_escape {s rest : List Char} {c : Char} (read : escapeTail s = .ok (c, rest)) :
    ∃ strokes : List Stroke, '\\' :: s = strokes.flatMap Stroke.chars ++ rest ∧
      StandFor strokes c := by
  unfold escapeTail at read
  split at read
  next => cases read
  next letter written =>
    split at read
    next hexadecimal =>
      subst hexadecimal
      unfold unicodeEscape at read
      split at read
      next => cases read
      next n _ found =>
        obtain ⟨u, value, rfl⟩ := exists_unit found
        split at read
        next => cases read
        next low =>
          have notLow : ¬u.isLow = true := by rw [CodeUnit.isLow, value]; exact low
          split at read
          next high =>
            have isHigh : u.isHigh = true := by rw [CodeUnit.isHigh, value]; exact high
            rw [← value] at read
            obtain ⟨v, rfl, stands⟩ := exists_lowSurrogate notLow isHigh read
            exact ⟨[.unit u, .unit v], by simp [Stroke.chars], stands⟩
          next high =>
            cases read
            have notHigh : ¬u.isHigh = true := by rw [CodeUnit.isHigh, value]; exact high
            refine ⟨[.unit u], by simp [Stroke.chars], fun more => ?_⟩
            rw [List.cons_append, List.nil_append, unite.eq_def]
            simp only [if_neg notLow, if_neg notHigh, value]
    next =>
      split at read
      next found =>
        cases read
        exact ⟨[.short letter c found], rfl, fun more => by rw [List.cons_append, unite]; rfl⟩
      next => cases read

/-- What is read as a string is spelled by strokes up to a quote. -/
theorem exists_stringLeft {s rest cs : List Char} (read : stringTail s = .ok (cs, rest)) :
    ∃ strokes, s = stringLeft strokes rest ∧ unite strokes = some cs := by
  fun_induction stringTail s generalizing cs rest with
  | case1 => cases read
  | case2 => cases read; exact ⟨[], rfl, rfl⟩
  | case3 => cases read
  | case4 written c _ escape _ ih =>
    obtain ⟨⟨tail, _⟩, found, same⟩ := of_map_eq_ok read
    cases same
    obtain ⟨strokes, rfl, united⟩ := ih found
    obtain ⟨first, spelled, stands⟩ := exists_escape escape
    refine ⟨first ++ strokes, ?_, ?_⟩
    · rw [stringLeft, List.flatMap_append, List.append_assoc, ← stringLeft]
      exact spelled
    · rw [stands, united, Option.map_some]
  | case5 => cases read
  | case6 c written quote backslash visible ih =>
    obtain ⟨⟨tail, _⟩, found, same⟩ := of_map_eq_ok read
    cases same
    obtain ⟨strokes, rfl, united⟩ := ih found
    refine ⟨.plain c quote backslash visible :: strokes, rfl, ?_⟩
    rw [unite, united, Option.map_some]

/-! ## Values -/

namespace Reader

/-- Where the reader succeeds, a value stands at the beginning of what is left of the text, and the
reader makes of it what `meaning` says. -/
def Recognises (r : Reader α) (meaning : Spelling → Option α) : Prop :=
  ∀ (s : List Char) (a : α) (rest : List Char), r.run s = .ok (a, rest) →
    ∃ (gap : Gap) (v : Spelling), s = gap.chars ++ (v.chars ++ rest) ∧ meaning v = some a

theorem recognises_text : text.Recognises textOf := by
  intro s told rest read
  change readText s = _ at read
  obtain ⟨gap, spaced⟩ := exists_gap s
  unfold readText at read
  split at read
  next quoted found =>
    obtain ⟨⟨cs, _⟩, string, same⟩ := of_map_eq_ok read
    cases same
    obtain ⟨strokes, rfl, united⟩ := exists_stringLeft string
    refine ⟨gap, .text strokes, ?_, ?_⟩
    · rw [Spelling.chars_text, strokesChars_append, ← found]
      exact spaced
    · rw [textOf, united, Option.map_some]
  next => cases read

theorem exists_closed {s rest : List Char} (closed : closeSequence s = .ok rest) :
    ∃ gap : Gap, s = gap.chars ++ ']' :: rest := by
  obtain ⟨gap, spaced⟩ := exists_gap s
  unfold closeSequence at closed
  split at closed
  next => cases closed
  next c _ found =>
    split at closed
    next bracket =>
      cases closed
      rw [found, bracket] at spaced
      exact ⟨gap, spaced⟩
    next => cases closed

/-- Before an item that is found there is white space, with a comma in it unless the item is the
first one. -/
theorem exists_before {first : Bool} {s item : List Char}
    (next : nextItem? first s = .ok (some item)) :
    ∃ gap before : Gap,
      s = gap.chars ++ ((if first then [] else [',']) ++ (before.chars ++ item)) := by
  obtain ⟨gap, spaced⟩ := exists_gap s
  unfold nextItem? at next
  split at next
  next => cases next
  next c written found =>
    split at next
    next => cases next
    next =>
      split at next
      next isFirst =>
        cases next
        refine ⟨gap, Gap.none, ?_⟩
        rw [if_pos isFirst]
        exact spaced.trans (by rw [found]; rfl)
      next isLater =>
        split at next
        next comma =>
          obtain ⟨before, more⟩ := exists_gap written
          split at next
          next => cases next
          next d tail start =>
            split at next
            next => cases next
            next =>
              cases next
              refine ⟨gap, before, ?_⟩
              rw [if_neg isLater, ← start, ← more, List.singleton_append, ← comma, ← found]
              exact spaced
        next => cases next

theorem itemsLeft_cons (first : Bool) (item : Item Spelling) (items : List (Item Spelling))
    (rest : List Char) :
    itemsLeft first (item :: items) rest =
      (if first then [] else [',']) ++ (item.chars ++ itemsLeft false items rest) := by
  cases first with
  | true => exact partsLeft_first ']' item.chars (items.map Item.chars) rest
  | false => exact partsLeft_later ']' item.chars (items.map Item.chars) rest

theorem exists_itemsLeft {r : Reader α} {meaning : Spelling → Option α}
    (recognises : r.Recognises meaning) {first : Bool} {s rest : List Char} {told : List α}
    (read : readItems r first s = .ok (told, rest)) :
    ∃ (gap : Gap) (items : List (Item Spelling)), s = gap.chars ++ itemsLeft first items rest ∧
      items.mapM (fun item => meaning item.value) = some told := by
  fun_induction readItems r first s generalizing told rest with
  | case1 => cases read
  | case2 first s =>
    obtain ⟨_, closed, same⟩ := of_map_eq_ok read
    cases same
    obtain ⟨gap, rfl⟩ := exists_closed closed
    exact ⟨gap, [], by rw [itemsLeft, List.map_nil, partsLeft_nil], rfl⟩
  | case3 => cases read
  | case4 first s item next a left found ih =>
    obtain ⟨⟨more, _⟩, later, same⟩ := of_map_eq_ok read
    cases same
    obtain ⟨after, items, rfl, means⟩ := ih later
    obtain ⟨inner, v, rfl, value⟩ := recognises _ _ _ found
    obtain ⟨gap, before, rfl⟩ := exists_before next
    refine ⟨gap, ⟨before.append inner, v, after⟩ :: items, ?_, ?_⟩
    · rw [itemsLeft_cons, Item.chars, Gap.append]
      simp only [List.append_assoc]
    · rw [List.mapM_cons, value, means]
      rfl

theorem Recognises.sequence {r : Reader α} {meaning : Spelling → Option α}
    (recognises : r.Recognises meaning) : (sequence r).Recognises (sequenceOf meaning) := by
  intro s told rest read
  change readSequence r s = _ at read
  obtain ⟨gap, spaced⟩ := exists_gap s
  unfold readSequence at read
  split at read
  next written found =>
    obtain ⟨inner, items, rfl, means⟩ := exists_itemsLeft recognises read
    refine ⟨gap, .sequence inner items, ?_, means⟩
    rw [Spelling.chars_sequence, ← found]
    exact spaced
  next => cases read

end Reader

/-- What is decoded is a document, and every document is decoded as what it says. -/
theorem Codec.decode_eq_ok_iff {c : Codec α} {meaning : Spelling → Option α}
    (means : c.reader.Means meaning) (recognises : c.reader.Recognises meaning) (s : String)
    (a : α) :
    c.decode s = .ok a ↔ ∃ (before : Gap) (v : Spelling) (after : Gap),
      s = Spelling.document before v after ∧ meaning v = some a := by
  constructor
  · intro decoded
    unfold decode at decoded
    split at decoded
    next => cases decoded
    next told rest read =>
      split at decoded
      next blank =>
        cases decoded
        obtain ⟨before, v, spelled, value⟩ := recognises _ _ _ read
        obtain ⟨after, trailing⟩ := exists_gap rest
        rw [List.isEmpty_iff.mp blank, List.append_nil] at trailing
        refine ⟨before, v, after, ?_, value⟩
        rw [Spelling.document, ← trailing, ← spelled, String.ofList_toList]
      next => cases decoded
  · rintro ⟨before, v, after, rfl, value⟩
    rw [← toOption_eq_some, decode_document means.isLocal, means.value?_eq]
    exact value

end Roster.Json
