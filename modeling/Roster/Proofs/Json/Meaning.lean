import Mathlib.Algebra.Group.Nat.Defs
import Roster.Proofs.Json.Layout
import Roster.Proofs.Outcome

/-!
What readers make of a spelled value. A reader is followed over the value with white space before it
and any text behind it that ends the value. Only what the value itself says decides whether the
reader takes it, and what it makes of it. Why a value is refused is left aside.
-/

namespace Roster.Json

variable {α β : Type}

namespace Reader

/-- Wherever a value stands, the reader makes of it what `meaning` says, and stops behind it. -/
def Means (r : Reader α) (meaning : Spelling → Option α) : Prop :=
  ∀ (gap : Gap) (v : Spelling) (rest : List Char), Ends rest →
    (r.run (gap.chars ++ (v.chars ++ rest))).toOption = (meaning v).map (·, rest)

/-- What the reader makes of a value that stands alone. -/
def value? (r : Reader α) (v : Spelling) : Option α :=
  (r.run v.chars).toOption.map Prod.fst

/-- What the reader makes of a value does not depend on what stands around it. -/
def Local (r : Reader α) : Prop :=
  r.Means r.value?

variable {r : Reader α} {meaning : Spelling → Option α}

theorem Means.run_alone (means : r.Means meaning) (v : Spelling) :
    (r.run v.chars).toOption = (meaning v).map (·, []) := by
  have alone := means Gap.none v [] ends_nil
  rwa [List.append_nil] at alone

theorem Means.value?_eq (means : r.Means meaning) (v : Spelling) : r.value? v = meaning v := by
  rw [value?, means.run_alone]
  cases meaning v <;> rfl

theorem Means.isLocal (means : r.Means meaning) : r.Local := by
  rw [Local, funext means.value?_eq]
  exact means

end Reader

/-! ## The first character of a value -/

instance (v : Spelling) (c : Char) : Decidable (v.Opens c) :=
  match v with
  | .null => inferInstanceAs (Decidable (c = 'n'))
  | .flag value => inferInstanceAs (Decidable (c = if value then 't' else 'f'))
  | .number _ => inferInstanceAs (Decidable (c = '-' ∨ c.isDigit = true))
  | .text _ => inferInstanceAs (Decidable (c = '"'))
  | .sequence _ _ => inferInstanceAs (Decidable (c = '['))
  | .map _ _ => inferInstanceAs (Decidable (c = '\x7b'))

theorem Spelling.Opens.ne {v : Spelling} {c d : Char} (opens : v.Opens c)
    (other : decide (v.Opens d) = false) : c ≠ d := by
  rintro rfl
  exact of_decide_eq_false other opens

theorem exists_skipSpace (gap : Gap) (v : Spelling) (rest : List Char) :
    ∃ c cs, skipSpace (gap.chars ++ (v.chars ++ rest)) = c :: cs ∧ v.Opens c := by
  obtain ⟨c, cs, spelled, opens⟩ := v.exists_opens
  exact ⟨c, cs ++ rest, by rw [skipSpace_value, spelled, List.cons_append], opens⟩

/-! ## Texts and flags -/

namespace Reader

/-- What a string says, unless halves of surrogate pairs stand alone in it. -/
def textOf : Spelling → Option String
  | .text strokes => (unite strokes).map String.ofList
  | _ => none

theorem readText_other {s cs : List Char} {c : Char} (spaced : skipSpace s = c :: cs)
    (other : c ≠ '"') : (readText s).toOption = none := by
  unfold readText
  split
  next quote => rw [spaced] at quote; exact absurd (List.cons.inj quote).1 other
  next => rfl

theorem means_text : text.Means textOf := by
  intro gap v rest _
  change (readText _).toOption = _
  obtain ⟨c, cs, spaced, opens⟩ := exists_skipSpace gap v rest
  cases v with
  | text strokes =>
    have read := stringTail_strokes strokes rest
    have quote : skipSpace (gap.chars ++ ((Spelling.text strokes).chars ++ rest)) =
        '"' :: stringLeft strokes rest := by
      rw [skipSpace_value, Spelling.chars_text, strokesChars_append]
    rw [readText, quote]
    change (Except.map _ (stringTail _)).toOption = _
    rw [toOption_map, read, textOf]
    cases unite strokes <;> rfl
  | flag value => cases value <;> exact readText_other spaced (opens.ne rfl)
  | null | number _ | sequence _ _ | map _ _ => exact readText_other spaced (opens.ne rfl)

def flagOf : Spelling → Option Bool
  | .flag value => some value
  | _ => none

theorem readFlag_other {s cs : List Char} {c : Char} (spaced : skipSpace s = c :: cs)
    (other : c ≠ 't' ∧ c ≠ 'f') : (readFlag s).toOption = none := by
  unfold readFlag
  split
  next t => rw [spaced] at t; exact absurd (List.cons.inj t).1 other.1
  next f => rw [spaced] at f; exact absurd (List.cons.inj f).1 other.2
  next => rfl

theorem means_flag : flag.Means flagOf := by
  intro gap v rest _
  change (readFlag _).toOption = _
  obtain ⟨c, cs, spaced, opens⟩ := exists_skipSpace gap v rest
  cases v with
  | flag value =>
    rw [readFlag, skipSpace_value, Spelling.chars_flag]
    cases value with
    | true =>
      change (Except.map _ (letters ['r', 'u', 'e'] (['r', 'u', 'e'] ++ rest))).toOption = _
      rw [letters_append]
      rfl
    | false =>
      change (Except.map _
        (letters ['a', 'l', 's', 'e'] (['a', 'l', 's', 'e'] ++ rest))).toOption = _
      rw [letters_append]
      rfl
  | null | number _ | text _ | sequence _ _ | map _ _ =>
    exact readFlag_other spaced ⟨opens.ne rfl, opens.ne rfl⟩

end Reader

/-! ## Words -/

namespace Numeral

instance (n : Numeral) : Decidable n.IsWhole :=
  decidable_of_iff (n.negative = false ∧ n.fraction = [] ∧ n.exponent = none)
    ⟨fun ⟨positive, fraction, exponent⟩ => ⟨positive, fraction, exponent⟩,
      fun whole => ⟨whole.positive, whole.fraction, whole.exponent⟩⟩

/-- The word that a number stands for, if it is spelled with digits only and fits. -/
def word? (bits : Nat) (n : Numeral) : Option (BitVec bits) :=
  if n.IsWhole ∧ n.wholeValue < 2 ^ bits then some (BitVec.ofNat bits n.wholeValue) else none

theorem IsWhole.chars_eq {n : Numeral} (whole : n.IsWhole) : n.chars = n.whole := by
  rw [chars, whole.positive, fractionChars, whole.fraction, if_pos rfl, exponentChars,
    whole.exponent]
  exact List.append_nil _

/-- Every mark apart from digits shows. -/
theorem isWhole_of_digits {n : Numeral} (digits : ∀ c ∈ n.chars, c.isDigit = true) :
    n.IsWhole := by
  have absent {c : Char} (mark : c.isDigit = false) : c ∉ n.chars := by
    intro member
    have digit := digits c member
    rw [mark] at digit
    cases digit
  simp only [chars, List.mem_append, not_or] at absent
  refine ⟨?_, ?_, ?_⟩
  · by_contra negative
    refine (absent (c := '-') rfl).1 ?_
    rw [if_pos (Bool.not_eq_false _ ▸ negative)]
    exact List.mem_cons_self
  · by_contra fraction
    refine (absent (c := '.') rfl).2.2.1 ?_
    rw [fractionChars, if_neg fraction]
    exact List.mem_cons_self
  · by_contra exponent
    obtain ⟨⟨minus, ds⟩, marked⟩ := Option.ne_none_iff_exists'.mp exponent
    cases capital : n.capital with
    | true =>
      refine (absent (c := 'E') rfl).2.2.2 ?_
      rw [exponentChars, marked, capital]
      exact List.mem_cons_self
    | false =>
      refine (absent (c := 'e') rfl).2.2.2 ?_
      rw [exponentChars, marked, capital]
      exact List.mem_cons_self

theorem le_valueFrom (start : Nat) (digits : List Char) : start ≤ valueFrom start digits := by
  induction digits generalizing start with
  | nil => exact Nat.le_refl start
  | cons c digits ih => exact Nat.le_trans (by omega) (ih (start * 10 + digitValue c))

/-- All digits count if their value fits. -/
theorem appendDigits_of_lt {start : Nat} {digits : List Char}
    (fits : valueFrom start digits < UInt64.size) :
    appendDigits start digits = (valueFrom start digits, digits.length) := by
  induction digits generalizing start with
  | nil => rfl
  | cons c digits ih =>
    have next := le_valueFrom (start * 10 + digitValue c) digits
    have rest : appendDigits (start * 10 + digitValue c) digits =
        (valueFrom (start * 10 + digitValue c) digits, digits.length) := ih fits
    rw [appendDigits, if_pos (Nat.lt_of_le_of_lt next fits), rest]
    rfl

/-- Some digits do not count if their value does not fit. -/
theorem appendDigits_count_lt {start : Nat} {digits : List Char} (fits : start < UInt64.size)
    (exceeds : UInt64.size ≤ valueFrom start digits) :
    (appendDigits start digits).2 < digits.length := by
  induction digits generalizing start with
  | nil => exact absurd fits (Nat.not_lt.mpr exceeds)
  | cons c digits ih =>
    rw [appendDigits]
    split
    next next => exact Nat.succ_lt_succ (ih next exceeds)
    next => exact Nat.succ_pos _

theorem wordOf_negative (bits : Nat) {n : Nat} (positive : 0 < n) :
    (Reader.wordOf bits (.integer (-n))).toOption = none := by
  cases n with
  | zero => cases positive
  | succ n => rfl

theorem wordOf_natural (bits n : Nat) :
    (Reader.wordOf bits (.integer n)).toOption =
      if n < 2 ^ bits then some (BitVec.ofNat bits n) else none := by
  change (if (BitVec.ofNat bits n).toNat = n then _ else _ : Except DecodeError _).toOption = _
  rw [BitVec.toNat_ofNat]
  by_cases fits : n < 2 ^ bits
  · rw [if_pos (Nat.mod_eq_of_lt fits), if_pos fits]
    rfl
  · have below : n % 2 ^ bits < 2 ^ bits := Nat.mod_lt n (Nat.two_pow_pos bits)
    rw [if_neg (by omega), if_neg fits]
    rfl

/-- A number that is taken for a binary floating-point one is no word. -/
theorem wordOf_decimal (bits : Nat) (magnitude : Except DecodeError Float) (sign : Float → Float) :
    ((magnitude.map fun value => Number.decimal (sign value)).bind (Reader.wordOf bits)).toOption =
      none := by
  cases magnitude <;> rfl

/-- A number that does not have digits only, or whose digits do not all count, is a binary
floating-point one or a negative one. -/
theorem number_word_of_not (n : Numeral) (bits : Nat)
    (other : ¬ (n.IsWhole ∧ n.wholeValue < UInt64.size)) :
    (n.number.bind (Reader.wordOf bits)).toOption = none := by
  have decimal := wordOf_decimal bits n.magnitude fun value => if n.negative then -value else value
  unfold Literal.number
  dsimp only
  split
  next whole =>
    simp only [Bool.and_eq_true, decide_eq_true_eq, List.isEmpty_iff, Option.isNone_iff_eq_none]
      at whole
    obtain ⟨⟨all, fraction⟩, exponent⟩ := whole
    split
    next positive =>
      have fits : n.wholeValue < UInt64.size := by
        by_contra exceeds
        have missed : (appendDigits 0 n.whole).2 < n.whole.length :=
          appendDigits_count_lt (by decide) (Nat.not_lt.mp exceeds)
        omega
      exact absurd ⟨⟨by simpa using positive, fraction, exponent⟩, fits⟩ other
    next =>
      split
      next inRange =>
        simp only [Bool.and_eq_true, decide_eq_true_eq] at inRange
        exact wordOf_negative bits inRange.1
      next => exact decimal
  next => exact decimal

theorem number_word (n : Numeral) {bits : Nat} (narrow : bits ≤ 64) :
    (n.number.bind (Reader.wordOf bits)).toOption = n.word? bits := by
  have within : 2 ^ bits ≤ UInt64.size := Nat.pow_le_pow_right (by decide) narrow
  by_cases counts : n.IsWhole ∧ n.wholeValue < UInt64.size
  · obtain ⟨whole, fits⟩ := counts
    have read : n.number = .ok (.integer n.wholeValue) := by
      rw [Literal.number, appendDigits_of_lt fits, whole.fraction, whole.exponent, whole.positive]
      simp
      rfl
    rw [read]
    change (Reader.wordOf bits (.integer n.wholeValue)).toOption = _
    rw [wordOf_natural, word?]
    simp only [whole, true_and]
  · rw [n.number_word_of_not bits counts, word?, if_neg]
    exact fun ⟨whole, fits⟩ => counts ⟨whole, Nat.lt_of_lt_of_le fits within⟩

end Numeral

namespace Reader

def wordOf? (bits : Nat) : Spelling → Option (BitVec bits)
  | .number n => n.word? bits
  | _ => none

theorem readWord_other (bits : Nat) {s cs : List Char} {c : Char} (spaced : skipSpace s = c :: cs)
    (minus : c ≠ '-') (digit : c.isDigit = false) : (readWord bits s).toOption = none := by
  rw [readWord, spaced]
  dsimp only
  rw [if_neg (by simp [minus, digit])]
  rfl

theorem means_word {bits : Nat} (narrow : bits ≤ 64) : (word bits).Means (wordOf? bits) := by
  intro gap v rest ends
  change (readWord bits _).toOption = _
  obtain ⟨c, cs, spaced, opens⟩ := exists_skipSpace gap v rest
  cases v with
  | number n =>
    obtain ⟨c, cs, spelled, starts⟩ := n.exists_chars
    have read := n.literal_append .unexpectedEnd ends
    have spaced := skipSpace_value gap (.number n) rest
    rw [Spelling.chars_number, spelled, List.cons_append] at spaced
    rw [spelled, List.cons_append] at read
    rw [Spelling.chars_number, spelled, List.cons_append, readWord, spaced]
    dsimp only
    rw [if_pos (by simpa using starts), read, wordOf?, ← n.number_word narrow]
    dsimp only
    cases n.number with
    | error => rfl
    | ok number => exact toOption_map _ _
  | flag value =>
    cases value <;> cases opens <;> exact readWord_other bits spaced (by decide) (by decide)
  | null | text _ | sequence _ _ | map _ _ =>
    cases opens
    exact readWord_other bits spaced (by decide) (by decide)

/-- A word is read from digits alone. -/
theorem wordOf?_eq_some_iff {bits : Nat} (v : Spelling) (w : BitVec bits) :
    wordOf? bits v = some w ↔
      (∀ c ∈ v.chars, c.isDigit = true) ∧ valueFrom 0 v.chars = w.toNat := by
  constructor
  · intro read
    cases v with
    | number n =>
      rw [wordOf?, Numeral.word?] at read
      split at read
      next fits =>
        obtain ⟨whole, below⟩ := fits
        rw [Spelling.chars_number, whole.chars_eq, ← Option.some.inj read, BitVec.toNat_ofNat,
          Nat.mod_eq_of_lt below]
        exact ⟨n.whole_digits, rfl⟩
      next => cases read
    | null | flag _ | text _ | sequence _ _ | map _ _ => cases read
  · rintro ⟨digits, value⟩
    obtain ⟨c, cs, spelled, opens⟩ := v.exists_opens
    have digit := digits c (by rw [spelled]; exact List.mem_cons_self)
    cases v with
    | number n =>
      rw [Spelling.chars_number] at digits value
      have whole := Numeral.isWhole_of_digits digits
      rw [whole.chars_eq] at value
      have same : n.wholeValue = w.toNat := value
      rw [wordOf?, Numeral.word?, if_pos ⟨whole, by rw [same]; exact w.isLt⟩, same,
        BitVec.ofNat_toNat, BitVec.setWidth_eq]
    | flag b => cases opens; cases b <;> cases digit
    | null | text _ | sequence _ _ | map _ _ => cases opens; cases digit

/-! ## Values within others -/

theorem value?_map (r : Reader α) (f : α → β) (v : Spelling) :
    (r.map f).value? v = (r.value? v).map f := by
  change ((r.run v.chars).map _).toOption.map Prod.fst = ((r.run v.chars).toOption.map _).map f
  cases r.run v.chars <;> rfl

theorem means_map {r : Reader α} {meaning : Spelling → Option α} (means : r.Means meaning)
    (f : α → β) : (r.map f).Means fun v => (meaning v).map f := by
  intro gap v rest ends
  change ((r.run _).map _).toOption = ((meaning v).map f).map (·, rest)
  rw [toOption_map, means gap v rest ends]
  cases meaning v <;> rfl

def optionalOf (meaning : Spelling → Option α) : Spelling → Option (Option α)
  | .null => some none
  | v => (meaning v).map some

theorem readOptional_other (r : Reader α) {s cs : List Char} {c : Char}
    (spaced : skipSpace s = c :: cs) (other : c ≠ 'n') :
    readOptional r s = (r.run (skipSpace s)).map fun read => (some read.1, read.2) := by
  unfold readOptional
  split
  next n => rw [spaced] at n; exact absurd (List.cons.inj n).1 other
  next => rfl

theorem means_optional {r : Reader α} {meaning : Spelling → Option α} (means : r.Means meaning) :
    (optional r).Means (optionalOf meaning) := by
  intro gap v rest ends
  change (readOptional r _).toOption = _
  obtain ⟨c, cs, spaced, opens⟩ := exists_skipSpace gap v rest
  have present (other : c ≠ 'n') :
      (readOptional r (gap.chars ++ (v.chars ++ rest))).toOption =
        ((meaning v).map some).map (·, rest) := by
    have read := means Gap.none v rest ends
    rw [readOptional_other r spaced other, skipSpace_value, toOption_map]
    change (r.run (v.chars ++ rest)).toOption = _ at read
    rw [read]
    cases meaning v <;> rfl
  cases v with
  | null =>
    rw [readOptional, skipSpace_value, Spelling.chars_null]
    change (Except.map _ (letters ['u', 'l', 'l'] (['u', 'l', 'l'] ++ rest))).toOption = _
    rw [letters_append]
    rfl
  | flag value => cases value <;> exact present (opens.ne rfl)
  | number _ | text _ | sequence _ _ | map _ _ => exact present (opens.ne rfl)

def sequenceOf (meaning : Spelling → Option α) : Spelling → Option (List α)
  | .sequence _ items => items.mapM fun item => meaning item.value
  | _ => none

theorem readItems_of_none {r : Reader α} {first : Bool} {s : List Char}
    (next : nextItem? first s = .ok none) :
    readItems r first s = (closeSequence s).map ([], ·) := by
  rw [readItems]
  split
  next failed => rw [next] at failed; cases failed
  next => rfl
  next found => rw [next] at found; cases found

theorem readItems_of_some {r : Reader α} {first : Bool} {s item : List Char}
    (next : nextItem? first s = .ok (some item)) :
    readItems r first s = (r.run item).bind fun read =>
      (readItems r false read.2).map fun more => (read.1 :: more.1, more.2) := by
  conv => lhs; rw [readItems]
  split
  next failed => rw [next] at failed; cases failed
  next closed => rw [next] at closed; cases closed
  next found =>
    rw [next] at found
    cases found
    split
    next failed => rw [failed]; rfl
    next read => rw [read]; rfl

theorem readItems_itemsLeft {r : Reader α} {meaning : Spelling → Option α} (means : r.Means meaning)
    (items : List (Item Spelling)) (first : Bool) (gap : Gap) (rest : List Char) :
    (readItems r first (gap.chars ++ itemsLeft first items rest)).toOption =
      (items.mapM fun item => meaning item.value).map (·, rest) := by
  induction items generalizing first gap with
  | nil =>
    rw [readItems_of_none (nextItem?_nil gap first rest), closeSequence_nil]
    rfl
  | cons item items ih =>
    have read := means Gap.none item.value _ (ends_itemsLeft item.after items rest)
    change (r.run (item.onward items rest)).toOption = _ at read
    rw [readItems_of_some (nextItem?_cons gap first item items rest), toOption_bind, read,
      List.mapM_cons]
    cases meaning item.value with
    | none => rfl
    | some a =>
      change (Except.map _ (readItems r false _)).toOption = _
      rw [toOption_map, ih false item.after]
      change _ = ((items.mapM fun item => meaning item.value).bind fun more =>
        some (a :: more)).map (·, rest)
      cases items.mapM fun item => meaning item.value <;> rfl

theorem means_sequence {r : Reader α} {meaning : Spelling → Option α} (means : r.Means meaning) :
    (sequence r).Means (sequenceOf meaning) := by
  intro gap v rest ends
  change (readSequence r _).toOption = _
  obtain ⟨c, cs, spaced, opens⟩ := exists_skipSpace gap v rest
  have other (open_ : c ≠ '[') :
      (readSequence r (gap.chars ++ (v.chars ++ rest))).toOption = none := by
    unfold readSequence
    split
    next bracket => rw [spaced] at bracket; exact absurd (List.cons.inj bracket).1 open_
    next => rfl
  cases v with
  | sequence inner items =>
    rw [readSequence, skipSpace_value, Spelling.chars_sequence]
    exact readItems_itemsLeft means items true inner rest
  | flag value => cases value <;> exact other (opens.ne rfl)
  | null | number _ | text _ | map _ _ => exact other (opens.ne rfl)

end Reader

end Roster.Json
