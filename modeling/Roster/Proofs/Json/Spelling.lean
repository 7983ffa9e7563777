import Roster.Json.Record

/-!
JSON documents as they may be spelled. A spelling is a value together with every choice that the
grammar leaves to the writer: white space between the parts, escapes within strings, the digits and
signs of numbers, and the order of members. Each choice is part of the data, so that a statement
about all spellings is one about all documents.
-/

namespace Roster.Json

/-! ## White space -/

/-- White space between the parts of a document. -/
structure Gap where
  chars : List Char
  spaces : ∀ c ∈ chars, isSpace c = true

def Gap.none : Gap := ⟨[], fun _ member => nomatch member⟩

/-! ## Strings -/

/-- A hexadecimal digit of either case. -/
structure Hex where
  char : Char
  value : Nat
  reads : hexDigit? char = some value

/-- A code unit of UTF-16 in four digits. -/
structure CodeUnit where
  first : Hex
  second : Hex
  third : Hex
  fourth : Hex

namespace CodeUnit

def value (u : CodeUnit) : Nat :=
  ((u.first.value * 16 + u.second.value) * 16 + u.third.value) * 16 + u.fourth.value

def chars (u : CodeUnit) : List Char :=
  [u.first.char, u.second.char, u.third.char, u.fourth.char]

/-- The first half of a surrogate pair. -/
def isHigh (u : CodeUnit) : Bool :=
  0xD800 ≤ u.value && u.value ≤ 0xDBFF

/-- The second half of a surrogate pair. -/
def isLow (u : CodeUnit) : Bool :=
  0xDC00 ≤ u.value && u.value ≤ 0xDFFF

end CodeUnit

/-- What stands for one code unit of a string, or for one character. -/
inductive Stroke where
  /-- A character that stands for itself. -/
  | plain (c : Char) (quote : c ≠ '"') (backslash : c ≠ '\\') (visible : ¬ c.toNat < 0x20)
  /-- A backslash with one letter. -/
  | short (letter c : Char) (reads : shortEscape? letter = some c)
  | unit (u : CodeUnit)

def Stroke.chars : Stroke → List Char
  | .plain c _ _ _ => [c]
  | .short letter _ _ => ['\\', letter]
  | .unit u => '\\' :: 'u' :: u.chars

/-- The characters that strokes stand for. Halves of surrogate pairs that are not united with each
other stand for none. -/
def unite : List Stroke → Option (List Char)
  | [] => some []
  | .plain c _ _ _ :: rest => (unite rest).map (c :: ·)
  | .short _ c _ :: rest => (unite rest).map (c :: ·)
  | .unit u :: rest =>
    if u.isLow then none
    else if u.isHigh then
      match rest with
      | .unit v :: rest =>
        if v.isLow then (unite rest).map (ofSurrogates u.value v.value :: ·) else none
      | _ => none
    else (unite rest).map (Char.ofNat u.value :: ·)

/-- Strokes between quotes. -/
def strokesChars (strokes : List Stroke) : List Char :=
  '"' :: strokes.flatMap Stroke.chars ++ ['"']

/-! ## Numbers -/

/-- A number, with those marks of an exponent that may be chosen. -/
structure Numeral extends Literal where
  /-- Whether the exponent is marked by a capital letter. -/
  capital : Bool := false
  /-- Whether an exponent without a minus has a plus. -/
  plus : Bool := false
  whole_digits : ∀ c ∈ whole, c.isDigit = true
  whole_nonempty : whole ≠ []
  /-- A zero in front stands alone. -/
  whole_zero : ∀ rest, whole = '0' :: rest → rest = []
  fraction_digits : ∀ c ∈ fraction, c.isDigit = true
  exponent_digits : ∀ minus digits, exponent = some (minus, digits) →
    digits ≠ [] ∧ ∀ c ∈ digits, c.isDigit = true

namespace Numeral

def fractionChars (n : Numeral) : List Char :=
  if n.fraction = [] then [] else '.' :: n.fraction

def exponentSign (n : Numeral) (minus : Bool) : List Char :=
  if minus then ['-'] else if n.plus then ['+'] else []

def exponentChars (n : Numeral) : List Char :=
  match n.exponent with
  | none => []
  | some (minus, digits) => (if n.capital then 'E' else 'e') :: (n.exponentSign minus ++ digits)

def chars (n : Numeral) : List Char :=
  (if n.negative then ['-'] else []) ++ (n.whole ++ (n.fractionChars ++ n.exponentChars))

/-- Spelled with digits only. -/
structure IsWhole (n : Numeral) : Prop where
  positive : n.negative = false
  fraction : n.fraction = []
  exponent : n.exponent = none

end Numeral

/-- The number that the digits stand for when they follow those of `start`. -/
def valueFrom (start : Nat) (digits : List Char) : Nat :=
  digits.foldl (fun value c => value * 10 + digitValue c) start

/-- The number that the digits in front stand for. -/
def Numeral.wholeValue (n : Numeral) : Nat :=
  valueFrom 0 n.whole

/-! ## Values -/

/-- An item of a sequence. -/
structure Item (α : Type) where
  before : Gap
  value : α
  after : Gap

/-- A member of a map. -/
structure Entry (α : Type) where
  before : Gap
  strokes : List Stroke
  beforeColon : Gap
  afterColon : Gap
  value : α
  after : Gap

inductive Spelling where
  | null
  | flag (value : Bool)
  | number (numeral : Numeral)
  | text (strokes : List Stroke)
  | sequence (inner : Gap) (items : List (Item Spelling))
  | map (inner : Gap) (entries : List (Entry Spelling))

def flagChars (value : Bool) : List Char :=
  if value then ['t', 'r', 'u', 'e'] else ['f', 'a', 'l', 's', 'e']

namespace Spelling

def chars : Spelling → List Char
  | .null => ['n', 'u', 'l', 'l']
  | .flag value => flagChars value
  | .number numeral => numeral.chars
  | .text strokes => strokesChars strokes
  | .sequence inner items =>
    '[' :: inner.chars ++ separated ',' (items.map fun item =>
      item.before.chars ++ item.value.chars ++ item.after.chars) ++ [']']
  | .map inner entries =>
    '\x7b' :: inner.chars ++ separated ',' (entries.map fun entry =>
      entry.before.chars ++ strokesChars entry.strokes ++ entry.beforeColon.chars ++
        ':' :: entry.afterColon.chars ++ entry.value.chars ++ entry.after.chars) ++ ['\x7d']
  termination_by v => sizeOf v
  decreasing_by
    · have smaller := List.sizeOf_lt_of_mem ‹_ ∈ _›
      cases item
      simp only [Item.mk.sizeOf_spec, sequence.sizeOf_spec] at *
      omega
    · have smaller := List.sizeOf_lt_of_mem ‹_ ∈ _›
      cases entry
      simp only [Entry.mk.sizeOf_spec, map.sizeOf_spec] at *
      omega

/-- The cases of a proof about all spellings. What holds of the items of a sequence or of the
members of a map may be used for the whole. -/
@[induction_eliminator]
theorem induction {motive : Spelling → Prop} (null : motive .null)
    (flag : ∀ value, motive (.flag value)) (number : ∀ numeral, motive (.number numeral))
    (text : ∀ strokes, motive (.text strokes))
    (sequence : ∀ inner items, (∀ item ∈ items, motive item.value) →
      motive (.sequence inner items))
    (map : ∀ inner entries, (∀ entry ∈ entries, motive entry.value) → motive (.map inner entries))
    (v : Spelling) : motive v :=
  chars.induct motive null flag number text sequence map v

/-- The document that holds the value alone. -/
def written (v : Spelling) : String :=
  String.ofList v.chars

/-- A document that holds the value and white space around it. -/
def document (before : Gap) (v : Spelling) (after : Gap) : String :=
  String.ofList (before.chars ++ (v.chars ++ after.chars))

end Spelling

end Roster.Json
