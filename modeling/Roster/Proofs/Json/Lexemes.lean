import Mathlib.Data.List.TakeWhile
import Roster.Proofs.Json.Spelling

/-!
The smallest parts of a document are read as they are spelled: white space, letters, strings and
numbers. Each reader is followed over a spelling with any text after it. Only a number needs to know
something of that text, namely that it does not go on with the number.
-/

namespace Roster.Json

/-! ## White space -/

theorem skipSpace_gap (gap : Gap) (s : List Char) : skipSpace (gap.chars ++ s) = skipSpace s := by
  rw [skipSpace, List.dropWhile_append, List.dropWhile_eq_nil_iff.mpr gap.spaces]
  rfl

theorem skipSpace_cons {c : Char} (visible : isSpace c = false) (rest : List Char) :
    skipSpace (c :: rest) = c :: rest := by
  rw [skipSpace, List.dropWhile_cons, if_neg (by rw [visible]; exact Bool.false_ne_true)]

/-- What may follow a value: white space, a comma, a closing bracket or brace, or nothing. -/
def Ends (rest : List Char) : Prop :=
  ∀ c ∈ rest.head?, isSpace c = true ∨ c = ',' ∨ c = ']' ∨ c = '\x7d'

theorem ends_nil : Ends [] :=
  fun _ member => nomatch member

theorem ends_cons {c : Char} (closes : c = ',' ∨ c = ']' ∨ c = '\x7d') (rest : List Char) :
    Ends (c :: rest) := by
  intro d member
  cases member
  exact .inr closes

theorem ends_gap (gap : Gap) {rest : List Char} (ends : Ends rest) : Ends (gap.chars ++ rest) := by
  obtain ⟨chars, spaces⟩ := gap
  cases chars with
  | nil => exact ends
  | cons c cs =>
    intro d member
    cases member
    exact .inl (spaces c List.mem_cons_self)

/-! ## Letters -/

theorem letters_append (ws rest : List Char) : letters ws (ws ++ rest) = .ok rest := by
  induction ws with
  | nil => rfl
  | cons w ws ih => rw [List.cons_append, letters, if_pos rfl, ih]

/-! ## Strings -/

theorem stringTail_plain {c : Char} (quote : c ≠ '"') (backslash : c ≠ '\\')
    (visible : ¬ c.toNat < 0x20) (rest : List Char) :
    stringTail (c :: rest) = (stringTail rest).map fun read => (c :: read.1, read.2) := by
  rw [stringTail, if_neg quote, if_neg backslash, if_neg visible]

theorem stringTail_escape {c : Char} {written rest : List Char}
    (escape : escapeTail written = .ok (c, rest)) :
    stringTail ('\\' :: written) = (stringTail rest).map fun read => (c :: read.1, read.2) := by
  rw [stringTail, if_neg (by decide), if_pos rfl]
  split
  next failed => rw [escape] at failed; cases failed
  next found => rw [escape] at found; cases found; rfl

theorem stringTail_escape_error {written : List Char} {e : DecodeError}
    (escape : escapeTail written = .error e) : stringTail ('\\' :: written) = .error e := by
  rw [stringTail, if_neg (by decide), if_pos rfl]
  split
  next failed => rw [escape] at failed; cases failed; rfl
  next found => rw [escape] at found; cases found

theorem ne_u_of_short {letter c : Char} (reads : shortEscape? letter = some c) : letter ≠ 'u' := by
  intro same
  rw [same, show shortEscape? 'u' = none by decide] at reads
  cases reads

theorem escapeTail_short {letter c : Char} (reads : shortEscape? letter = some c)
    (rest : List Char) : escapeTail (letter :: rest) = .ok (c, rest) := by
  simp only [escapeTail, if_neg (ne_u_of_short reads), reads]

theorem hexQuad_unit (u : CodeUnit) (rest : List Char) :
    hexQuad (u.chars ++ rest) = .ok (u.value, rest) := by
  simp only [CodeUnit.chars, List.cons_append, List.nil_append, hexQuad, u.first.reads,
    u.second.reads, u.third.reads, u.fourth.reads, CodeUnit.value]

theorem escapeTail_unit (u : CodeUnit) (rest : List Char) :
    escapeTail ('u' :: (u.chars ++ rest)) =
      if u.isLow then .error .malformed
      else if u.isHigh then lowSurrogate u.value rest
      else .ok (Char.ofNat u.value, rest) := by
  simp only [escapeTail, if_true, unicodeEscape, hexQuad_unit]
  rfl

theorem lowSurrogate_unit (high : Nat) (v : CodeUnit) (rest : List Char) :
    lowSurrogate high ('\\' :: 'u' :: (v.chars ++ rest)) =
      if v.isLow then .ok (ofSurrogates high v.value, rest) else .error .malformed := by
  simp only [lowSurrogate, hexQuad_unit]
  rfl

/-- What is left of a string after its opening quote, and what follows it. -/
def stringLeft (strokes : List Stroke) (rest : List Char) : List Char :=
  strokes.flatMap Stroke.chars ++ '"' :: rest

theorem stringLeft_plain {c : Char} (quote : c ≠ '"') (backslash : c ≠ '\\')
    (visible : ¬ c.toNat < 0x20) (tail : List Stroke) (rest : List Char) :
    stringLeft (.plain c quote backslash visible :: tail) rest = c :: stringLeft tail rest :=
  rfl

theorem stringLeft_short {letter c : Char} (reads : shortEscape? letter = some c)
    (tail : List Stroke) (rest : List Char) :
    stringLeft (.short letter c reads :: tail) rest = '\\' :: letter :: stringLeft tail rest :=
  rfl

theorem stringLeft_unit (u : CodeUnit) (tail : List Stroke) (rest : List Char) :
    stringLeft (.unit u :: tail) rest = '\\' :: 'u' :: (u.chars ++ stringLeft tail rest) :=
  rfl

theorem strokesChars_append (strokes : List Stroke) (rest : List Char) :
    strokesChars strokes ++ rest = '"' :: stringLeft strokes rest := by
  rw [strokesChars, List.append_assoc, List.cons_append, List.singleton_append, stringLeft]

/-- Only a stroke for a code unit can be the second half of a pair. -/
theorem lowSurrogate_error (high : Nat) {strokes : List Stroke} (rest : List Char)
    (other : ∀ v tail, strokes ≠ .unit v :: tail) :
    ∃ e, lowSurrogate high (stringLeft strokes rest) = .error e := by
  cases strokes with
  | nil => exact ⟨_, rfl⟩
  | cons stroke tail =>
    cases stroke with
    | plain c quote backslash visible =>
      refine ⟨.malformed, ?_⟩
      rw [stringLeft_plain]
      unfold lowSurrogate
      split
      next empty => cases empty
      next single => exact absurd (List.cons.inj single).1 backslash
      next pair => exact absurd (List.cons.inj pair).1 backslash
      next => rfl
    | short letter c reads =>
      refine ⟨.malformed, ?_⟩
      rw [stringLeft_short]
      unfold lowSurrogate
      split
      next empty => cases empty
      next single => exact absurd (List.cons.inj single).2 (List.cons_ne_nil _ _)
      next pair => exact absurd (List.cons.inj (List.cons.inj pair).2).1 (ne_u_of_short reads)
      next => rfl
    | unit v => exact absurd rfl (other v tail)

/-- A string is read as the characters that its strokes stand for, up to the closing quote. It is
refused if a half of a surrogate pair stands alone. -/
theorem stringTail_strokes (strokes : List Stroke) (rest : List Char) :
    (stringTail (stringLeft strokes rest)).toOption = (unite strokes).map (·, rest) := by
  have onward (c : Char) {outcome : Except DecodeError (List Char × List Char)}
      {meaning : Option (List Char)} (same : outcome.toOption = meaning.map (·, rest)) :
      (outcome.map fun read => (c :: read.1, read.2)).toOption =
        (meaning.map (c :: ·)).map (·, rest) := by
    cases outcome <;> cases meaning <;> simp_all [Except.toOption, Except.map]
  fun_induction unite strokes with
  | case1 =>
    rw [stringLeft, List.flatMap_nil, List.nil_append, stringTail]
    rfl
  | case2 c quote backslash visible tail ih =>
    rw [stringLeft_plain, stringTail_plain quote backslash visible]
    exact onward c ih
  | case3 letter c reads tail ih =>
    rw [stringLeft_short, stringTail_escape (escapeTail_short reads _)]
    exact onward c ih
  | case4 u tail low =>
    rw [stringLeft_unit, stringTail_escape_error (by rw [escapeTail_unit, if_pos low])]
    rfl
  | case5 u low high v tail second ih =>
    have pair : escapeTail ('u' :: (u.chars ++ stringLeft (.unit v :: tail) rest)) =
        .ok (ofSurrogates u.value v.value, stringLeft tail rest) := by
      rw [escapeTail_unit, if_neg low, if_pos high, stringLeft_unit, lowSurrogate_unit,
        if_pos second]
    rw [stringLeft_unit, stringTail_escape pair]
    exact onward _ ih
  | case6 u low high v tail second =>
    have single : escapeTail ('u' :: (u.chars ++ stringLeft (.unit v :: tail) rest)) =
        .error .malformed := by
      rw [escapeTail_unit, if_neg low, if_pos high, stringLeft_unit, lowSurrogate_unit,
        if_neg second]
    rw [stringLeft_unit, stringTail_escape_error single]
    rfl
  | case7 u tail low high other =>
    obtain ⟨e, failed⟩ := lowSurrogate_error u.value rest other
    rw [stringLeft_unit,
      stringTail_escape_error (by rw [escapeTail_unit, if_neg low, if_pos high, failed])]
    rfl
  | case8 u tail low high ih =>
    rw [stringLeft_unit, stringTail_escape (by rw [escapeTail_unit, if_neg low, if_neg high])]
    exact onward _ ih

/-- Where nobody asks what a string says, halves of surrogate pairs may stand alone. -/
theorem skipStringTail_strokes (strokes : List Stroke) (rest : List Char) :
    skipStringTail (stringLeft strokes rest) = .ok rest := by
  have escaped {written tail : List Char} (escape : skipEscapeTail written = .ok tail) :
      skipStringTail ('\\' :: written) = skipStringTail tail := by
    rw [skipStringTail, if_neg (by decide), if_pos rfl]
    split
    next failed => rw [escape] at failed; cases failed
    next found => rw [escape] at found; cases found; rfl
  induction strokes with
  | nil =>
    rw [stringLeft, List.flatMap_nil, List.nil_append, skipStringTail]
    rfl
  | cons stroke tail ih =>
    cases stroke with
    | plain c quote backslash visible =>
      rw [stringLeft_plain, skipStringTail, if_neg quote, if_neg backslash, if_neg visible, ih]
    | short letter c reads =>
      rw [stringLeft_short, escaped, ih]
      simp only [skipEscapeTail, if_neg (ne_u_of_short reads), reads]
      rfl
    | unit u =>
      rw [stringLeft_unit, escaped, ih]
      simp only [skipEscapeTail, if_true, hexQuad_unit]
      rfl

/-! ## Numbers -/

/-- The text does not go on with a character of the given kind. -/
def Stops (p : Char → Bool) (s : List Char) : Prop :=
  ∀ c ∈ s.head?, p c = false

theorem digitRun_append {ds s : List Char} (digits : ∀ c ∈ ds, c.isDigit = true)
    (stops : Stops Char.isDigit s) : digitRun (ds ++ s) = (ds, s) := by
  have taken : s.takeWhile Char.isDigit = [] := by
    cases s with
    | nil => rfl
    | cons c rest => rw [List.takeWhile_cons, stops c rfl]; rfl
  have dropped : s.dropWhile Char.isDigit = s := by
    cases s with
    | nil => rfl
    | cons c rest => rw [List.dropWhile_cons, stops c rfl]; rfl
  rw [digitRun, List.takeWhile_append_of_pos digits, List.dropWhile_append,
    List.dropWhile_eq_nil_iff.mpr digits, taken, dropped, List.append_nil]
  rfl

theorem someDigits_append (short : DecodeError) {ds s : List Char} (nonempty : ds ≠ [])
    (digits : ∀ c ∈ ds, c.isDigit = true) (stops : Stops Char.isDigit s) :
    someDigits short (ds ++ s) = .ok (ds, s) := by
  rw [someDigits, digitRun_append digits stops]
  split
  next nothing => exact absurd (Prod.mk.inj nothing).1 nonempty
  next nothing => exact absurd (Prod.mk.inj nothing).1 nonempty
  next => rfl

namespace Numeral

variable (n : Numeral) (short : DecodeError) {s : List Char}

theorem wholeDigits_append (stops : Stops Char.isDigit s) :
    wholeDigits short (n.whole ++ s) = .ok (n.whole, s) := by
  have read := someDigits_append short n.whole_nonempty n.whole_digits stops
  unfold wholeDigits
  split
  next c rest leading =>
    -- A zero in front is all there is of the number, so that what follows it is no digit.
    obtain ⟨ds, whole⟩ : ∃ ds, n.whole = '0' :: ds := by
      cases whole : n.whole with
      | nil => exact absurd whole n.whole_nonempty
      | cons d ds => rw [whole] at leading; exact ⟨ds, by rw [(List.cons.inj leading).1]⟩
    rw [whole, n.whole_zero ds whole] at leading ⊢
    have after : s = c :: rest := (List.cons.inj leading).2
    rw [if_neg (by rw [stops c (by rw [after]; rfl)]; decide), after]
  next => exact read

theorem fractionDigits_append (stops : Stops (fun c => c.isDigit || c = '.') s) :
    fractionDigits short (n.fractionChars ++ s) = .ok (n.fraction, s) := by
  unfold fractionChars
  split
  next empty =>
    rw [List.nil_append, empty]
    unfold fractionDigits
    split
    next => exact absurd (stops '.' rfl) (by decide)
    next => rfl
  next nonempty =>
    have noDigit : Stops Char.isDigit s :=
      fun c first => (Bool.or_eq_false_iff.mp (stops c first)).1
    exact someDigits_append short nonempty n.fraction_digits noDigit

theorem exponentRun_append {minus : Bool} {digits : List Char}
    (exponent : n.exponent = some (minus, digits)) (stops : Stops Char.isDigit s) :
    exponentRun short minus (digits ++ s) = .ok (n.exponent, s) := by
  obtain ⟨nonempty, all⟩ := n.exponent_digits minus digits exponent
  rw [exponentRun, someDigits_append short nonempty all stops, exponent]
  rfl

theorem signedExponent_append {minus : Bool} {digits : List Char}
    (exponent : n.exponent = some (minus, digits)) (stops : Stops Char.isDigit s) :
    signedExponent short (n.exponentSign minus ++ digits ++ s) = .ok (n.exponent, s) := by
  have run := n.exponentRun_append short exponent stops
  unfold exponentSign
  cases minus with
  | true => exact run
  | false =>
    rw [if_neg Bool.false_ne_true]
    split
    next => exact run
    next =>
      -- Without a sign the digits come first, and a digit is no sign.
      have leading {c : Char} {rest : List Char} (first : digits ++ s = c :: rest) :
          c.isDigit = true := by
        obtain ⟨nonempty, all⟩ := n.exponent_digits false digits exponent
        obtain ⟨d, ds, rfl⟩ := List.exists_cons_of_ne_nil nonempty
        rw [← (List.cons.inj first).1]
        exact all d List.mem_cons_self
      rw [List.nil_append]
      unfold signedExponent
      split
      next sign => exact absurd (leading sign) (by decide)
      next sign => exact absurd (leading sign) (by decide)
      next => exact run

theorem exponentDigits_append
    (stops : Stops (fun c => c.isDigit || c = 'e' || c = 'E') s) :
    exponentDigits short (n.exponentChars ++ s) = .ok (n.exponent, s) := by
  unfold exponentChars
  split
  next none_ =>
    rw [List.nil_append, none_]
    unfold exponentDigits
    split
    next => exact absurd (stops 'e' rfl) (by decide)
    next => exact absurd (stops 'E' rfl) (by decide)
    next => rfl
  next minus digits exponent =>
    have noDigit : Stops Char.isDigit s := fun c first =>
      (Bool.or_eq_false_iff.mp (Bool.or_eq_false_iff.mp (stops c first)).1).1
    have signed := n.signedExponent_append short exponent noDigit
    cases n.capital with
    | true => exact signed
    | false => exact signed

end Numeral

/-- What may follow a value does not go on with a number. -/
theorem Ends.stops {rest : List Char} (ends : Ends rest) :
    Stops (fun c => c.isDigit || c = '.' || c = 'e' || c = 'E') rest := by
  intro c first
  rcases ends c first with space | rfl | rfl | rfl
  · unfold isSpace at space
    simp only [Bool.or_eq_true, decide_eq_true_eq] at space
    rcases space with ((rfl | rfl) | rfl) | rfl <;> decide
  · decide
  · decide
  · decide

theorem Stops.imp {p q : Char → Bool} {s : List Char} (stops : Stops p s)
    (weaker : ∀ c, p c = false → q c = false) : Stops q s :=
  fun c first => weaker c (stops c first)

namespace Numeral

variable (n : Numeral) (short : DecodeError) {rest : List Char}

theorem stops_exponentChars (ends : Ends rest) :
    Stops (fun c => c.isDigit || c = '.') (n.exponentChars ++ rest) := by
  unfold exponentChars
  split
  next => exact ends.stops.imp fun c => by simp +contextual
  next =>
    intro c first
    cases first
    split <;> decide

theorem stops_fractionChars (ends : Ends rest) :
    Stops Char.isDigit (n.fractionChars ++ (n.exponentChars ++ rest)) := by
  unfold fractionChars
  split
  next => exact (n.stops_exponentChars ends).imp fun c => by simp +contextual
  next =>
    intro c first
    cases first
    decide

theorem unsignedLiteral_append (ends : Ends rest) :
    unsignedLiteral short n.negative
      (n.whole ++ (n.fractionChars ++ (n.exponentChars ++ rest))) = .ok (n.toLiteral, rest) := by
  have exponent := n.exponentDigits_append short
    (ends.stops.imp (q := fun c => c.isDigit || c = 'e' || c = 'E') fun c => by simp +contextual)
  simp only [unsignedLiteral, n.wholeDigits_append short (n.stops_fractionChars ends),
    n.fractionDigits_append short (n.stops_exponentChars ends), exponent]

/-- A number is read as it is spelled if the text after it does not go on with it. -/
theorem literal_append (ends : Ends rest) :
    literal short (n.chars ++ rest) = .ok (n.toLiteral, rest) := by
  have read := n.unsignedLiteral_append short ends
  rw [chars, List.append_assoc, List.append_assoc, List.append_assoc]
  cases negative : n.negative with
  | true =>
    rw [negative] at read
    exact read
  | false =>
    rw [negative] at read
    rw [if_neg Bool.false_ne_true, List.nil_append]
    unfold literal
    split
    next minus =>
      obtain ⟨d, ds, whole⟩ := List.exists_cons_of_ne_nil n.whole_nonempty
      rw [whole] at minus
      have digit := n.whole_digits d (by rw [whole]; exact List.mem_cons_self)
      rw [(List.cons.inj minus).1] at digit
      exact absurd digit (by decide)
    next => exact read

/-- A number starts with a minus or a digit. -/
theorem exists_chars : ∃ c cs, n.chars = c :: cs ∧ (c = '-' ∨ c.isDigit = true) := by
  obtain ⟨d, ds, whole⟩ := List.exists_cons_of_ne_nil n.whole_nonempty
  unfold chars
  split
  next => exact ⟨_, _, rfl, .inl rfl⟩
  next =>
    rw [whole]
    exact ⟨d, _, rfl, .inr (n.whole_digits d (by rw [whole]; exact List.mem_cons_self))⟩

end Numeral

end Roster.Json
