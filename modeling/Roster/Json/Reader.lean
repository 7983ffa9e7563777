import Roster.Json.Skip

/-!
Readers of JSON values. A reader takes what is left of a text, reads one value of its kind, and
gives back the value with what is left after it, which is always shorter.
-/

namespace Roster.Json

structure Reader (α : Type) where
  run : List Char → Except DecodeError (α × List Char)
  shorter : ∀ {s a r}, run s = .ok (a, r) → r.length < s.length

/-- What is wrong with a value that is not of the expected kind. The value is read as far as its
kind has to be told. -/
def mismatch (expected : Expected) (s : List Char) : DecodeError :=
  let after (found : Found) : Except DecodeError (List Char) → DecodeError
    | .error e => e
    | .ok _ => .wrongKind found expected
  match s with
  | [] => .unexpectedEnd
  | c :: rest =>
    if c = 'n' then after .null (letters ['u', 'l', 'l'] rest)
    else if c = 't' then after (.flag true) (letters ['r', 'u', 'e'] rest)
    else if c = 'f' then after (.flag false) (letters ['a', 'l', 's', 'e'] rest)
    else if c = '"' then
      match stringTail rest with
      | .error e => e
      | .ok (cs, _) => .wrongKind (.text (String.ofList cs)) expected
    else if c = '[' then .wrongKind .sequence expected
    else if c = '{' then .wrongKind .map expected
    else if c = '-' || c.isDigit then
      match literal .unexpectedEnd (c :: rest) with
      | .error e => e
      | .ok (l, _) =>
        match l.number with
        | .error e => e
        | .ok number => .wrongKind number.found expected
    else .malformed

namespace Reader

/-- Reads with `r` and applies `f` to the value. -/
def map {α β : Type} (f : α → β) (r : Reader α) : Reader β where
  run s := (r.run s).map fun read => (f read.1, read.2)
  shorter {s b rest} h := by
    cases read : r.run s with
    | error => simp [read, Except.map] at h
    | ok pair =>
      simp only [read, Except.map, Except.ok.injEq, Prod.mk.injEq] at h
      exact h.2 ▸ r.shorter (a := pair.1) read

def readText (s : List Char) : Except DecodeError (String × List Char) :=
  match skipSpace s with
  | '"' :: rest => (stringTail rest).map fun read => (String.ofList read.1, read.2)
  | s => .error (mismatch .text s)

def text : Reader String where
  run := readText
  shorter {s a r} h := by
    unfold readText at h
    split at h
    · next rest spaced =>
      have := length_lt_of_skipSpace spaced
      cases read : stringTail rest with
      | error => simp [read, Except.map] at h
      | ok pair =>
        simp only [read, Except.map, Except.ok.injEq, Prod.mk.injEq] at h
        have := length_stringTail_lt read
        rw [← h.2]
        omega
    · simp at h

def readFlag (s : List Char) : Except DecodeError (Bool × List Char) :=
  match skipSpace s with
  | 't' :: rest => (letters ['r', 'u', 'e'] rest).map (true, ·)
  | 'f' :: rest => (letters ['a', 'l', 's', 'e'] rest).map (false, ·)
  | s => .error (mismatch .flag s)

theorem length_lettersThen_lt {α : Type} {ws s rest r : List Char} {c : Char} {a b : α}
    (spaced : skipSpace s = c :: rest) (h : (letters ws rest).map (a, ·) = .ok (b, r)) :
    r.length < s.length := by
  have := length_lt_of_skipSpace spaced
  cases read : letters ws rest with
  | error => simp [read, Except.map] at h
  | ok rest' =>
    simp only [read, Except.map, Except.ok.injEq, Prod.mk.injEq] at h
    have := length_letters_le read
    rw [← h.2]
    omega

def flag : Reader Bool where
  run := readFlag
  shorter {s a r} h := by
    unfold readFlag at h
    split at h
    · next spaced => exact length_lettersThen_lt spaced h
    · next spaced => exact length_lettersThen_lt spaced h
    · simp at h

/-- A number counts as a word if it is spelled as a whole number and there is a word that stands
for it. -/
def wordOf (bits : Nat) : Number → Except DecodeError (BitVec bits)
  | .integer (.ofNat n) =>
    let word := BitVec.ofNat bits n
    if word.toNat = n then .ok word else .error (.outOfRange n (.word bits))
  | .integer (.negSucc n) => .error (.outOfRange (.negSucc n) (.word bits))
  | .decimal value => .error (.wrongKind (Number.decimal value).found (.word bits))

def readWord (bits : Nat) (s : List Char) : Except DecodeError (BitVec bits × List Char) :=
  match skipSpace s with
  | [] => .error .unexpectedEnd
  | c :: rest =>
    if c = '-' || c.isDigit then
      match literal .unexpectedEnd (c :: rest) with
      | .error e => .error e
      | .ok (l, rest) =>
        match l.number with
        | .error e => .error e
        | .ok number => (wordOf bits number).map (·, rest)
    else .error (mismatch (.word bits) (c :: rest))

def word (bits : Nat) : Reader (BitVec bits) where
  run := readWord bits
  shorter {s a r} h := by
    unfold readWord at h
    split at h
    · simp at h
    · next c rest spaced =>
      have := length_skipSpace_le s
      rw [spaced] at this
      split at h
      · split at h
        · simp at h
        · next read =>
          have := length_literal_lt read
          split at h
          · simp at h
          · next number _ =>
            cases value : wordOf bits number with
            | error => simp [value, Except.map] at h
            | ok w =>
              simp only [value, Except.map, Except.ok.injEq, Prod.mk.injEq] at h
              rw [← h.2]
              omega
      · simp at h

/-- Reads `null` or a value. -/
def readOptional {α : Type} (r : Reader α) (s : List Char) :
    Except DecodeError (Option α × List Char) :=
  match skipSpace s with
  | 'n' :: rest => (letters ['u', 'l', 'l'] rest).map (none, ·)
  | s => (r.run s).map fun read => (some read.1, read.2)

def optional {α : Type} (r : Reader α) : Reader (Option α) where
  run := readOptional r
  shorter {s a rest} h := by
    unfold readOptional at h
    split at h
    · next spaced => exact length_lettersThen_lt spaced h
    · have := length_skipSpace_le s
      cases read : r.run (skipSpace s) with
      | error => simp [read, Except.map] at h
      | ok pair =>
        simp only [read, Except.map, Except.ok.injEq, Prod.mk.injEq] at h
        have := r.shorter (a := pair.1) read
        rw [← h.2]
        omega

/-- Looks for the next item of a sequence: what it starts with, or nothing at the closing bracket.
Items have commas between them and none after the last. -/
def nextItem? (first : Bool) (s : List Char) : Except DecodeError (Option (List Char)) :=
  match skipSpace s with
  | [] => .error .unexpectedEnd
  | c :: rest =>
    if c = ']' then .ok none
    else if first then .ok (some (c :: rest))
    else if c = ',' then
      match skipSpace rest with
      | [] => .error .unexpectedEnd
      | c :: rest => if c = ']' then .error .malformed else .ok (some (c :: rest))
    else .error .malformed

theorem length_nextItem?_le {first : Bool} {s r : List Char}
    (h : nextItem? first s = .ok (some r)) : r.length ≤ s.length := by
  have spaces := length_skipSpace_le s
  unfold nextItem? at h
  split at h
  · simp at h
  · next c rest spaced =>
    rw [spaced] at spaces
    split at h
    · simp at h
    · split at h
      · simp only [Except.ok.injEq, Option.some.injEq] at h
        exact h ▸ spaces
      · split at h
        · have more := length_skipSpace_le rest
          split at h
          · simp at h
          · next spaced' =>
            rw [spaced'] at more
            split at h
            · simp at h
            · simp only [Except.ok.injEq, Option.some.injEq] at h
              rw [← h]
              exact Nat.le_trans more (Nat.le_trans (Nat.le_succ _) spaces)
        · simp at h

/-- Reads the closing bracket of a sequence. -/
def closeSequence (s : List Char) : Except DecodeError (List Char) :=
  match skipSpace s with
  | [] => .error .unexpectedEnd
  | c :: rest => if c = ']' then .ok rest else .error .malformed

theorem length_closeSequence_lt {s r : List Char} (h : closeSequence s = .ok r) :
    r.length < s.length := by
  unfold closeSequence at h
  split at h
  · simp at h
  · next spaced =>
    split at h
    · simp only [Except.ok.injEq] at h
      exact h ▸ length_lt_of_skipSpace spaced
    · simp at h

/-- Reads the items of a sequence and its closing bracket. -/
def readItems {α : Type} (r : Reader α) (first : Bool) (s : List Char) :
    Except DecodeError (List α × List Char) :=
  match _next : nextItem? first s with
  | .error e => .error e
  | .ok none => (closeSequence s).map ([], ·)
  | .ok (some item) =>
    match _read : r.run item with
    | .error e => .error e
    | .ok (a, rest) => (readItems r false rest).map fun read => (a :: read.1, read.2)
  termination_by s.length
  decreasing_by
    have := length_nextItem?_le _next
    have := r.shorter _read
    omega

theorem length_readItems_lt {α : Type} {r : Reader α} {first : Bool} {s rest : List Char}
    {as : List α} (h : readItems r first s = .ok (as, rest)) : rest.length < s.length := by
  fun_induction readItems r first s generalizing as rest with
  | case1 => simp at h
  | case2 _ s next =>
    cases read : closeSequence s with
    | error => simp [read, Except.map] at h
    | ok rest' =>
      simp only [read, Except.map, Except.ok.injEq, Prod.mk.injEq] at h
      exact h.2 ▸ length_closeSequence_lt read
  | case3 => simp at h
  | case4 _ s item next a rest' found ih =>
    have := length_nextItem?_le next
    have := r.shorter found
    cases read : readItems r false rest' with
    | error => simp [read, Except.map] at h
    | ok pair =>
      simp only [read, Except.map, Except.ok.injEq, Prod.mk.injEq] at h
      have := ih read
      rw [← h.2]
      omega

def readSequence {α : Type} (r : Reader α) (s : List Char) :
    Except DecodeError (List α × List Char) :=
  match skipSpace s with
  | '[' :: rest => readItems r true rest
  | s => .error (mismatch .sequence s)

def sequence {α : Type} (r : Reader α) : Reader (List α) where
  run := readSequence r
  shorter {s a rest} h := by
    unfold readSequence at h
    split at h
    · next spaced =>
      exact Nat.lt_trans (length_readItems_lt h) (length_lt_of_skipSpace spaced)
    · simp at h

end Reader

end Roster.Json
