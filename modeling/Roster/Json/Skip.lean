import Roster.Json.Lexeme
import Roster.Json.Number

/-!
Skipping a value that nobody asked for. It must be JSON, but it may nest to any depth, its numbers
may have any size, and its strings may hold halves of surrogate pairs.

The nesting is kept as a list of the open frames, the innermost one first.
-/

namespace Roster.Json

/-- Skips what follows a backslash. -/
def skipEscapeTail (s : List Char) : Except DecodeError (List Char) :=
  match s with
  | [] => .error .unexpectedEnd
  | c :: rest =>
    if c = 'u' then (hexQuad rest).map (·.2)
    else if (shortEscape? c).isSome then .ok rest
    else .error .malformed

theorem length_skipEscapeTail_lt {s r : List Char} (h : skipEscapeTail s = .ok r) :
    r.length < s.length := by
  unfold skipEscapeTail at h
  split at h
  · simp at h
  · next c rest =>
    split at h
    · cases quad : hexQuad rest with
      | error => simp [quad, Except.map] at h
      | ok pair =>
        simp only [quad, Except.map, Except.ok.injEq] at h
        subst h
        exact Nat.lt_succ_of_lt (length_hexQuad_lt (n := pair.1) quad)
    · split at h
      · simp_all
      · simp at h

/-- Skips a string after its opening quote, up to and with its closing quote. -/
def skipStringTail (s : List Char) : Except DecodeError (List Char) :=
  match s with
  | [] => .error .unexpectedEnd
  | c :: rest =>
    if c = '"' then .ok rest
    else if c = '\\' then
      match _found : skipEscapeTail rest with
      | .error e => .error e
      | .ok rest => skipStringTail rest
    else if c.toNat < 0x20 then .error .malformed
    else skipStringTail rest
  termination_by s.length
  decreasing_by
    · have := length_skipEscapeTail_lt _found
      simp only [List.length_cons]
      omega
    · simp

theorem length_skipStringTail_lt {s r : List Char} (h : skipStringTail s = .ok r) :
    r.length < s.length := by
  fun_induction skipStringTail s with
  | case1 => simp at h
  | case2 => simp_all
  | case3 => simp at h
  | case4 rest rest' found _ ih =>
    have := length_skipEscapeTail_lt found
    have := ih h
    simp only [List.length_cons]
    omega
  | case5 => simp at h
  | case6 c rest _ _ _ ih => exact Nat.lt_succ_of_lt (ih h)

/-- Skips a value that is neither a sequence nor a map. -/
def skipScalar (s : List Char) : Except DecodeError (List Char) :=
  match s with
  | [] => .error .unexpectedEnd
  | c :: rest =>
    if c = 'n' then letters ['u', 'l', 'l'] rest
    else if c = 't' then letters ['r', 'u', 'e'] rest
    else if c = 'f' then letters ['a', 'l', 's', 'e'] rest
    else if c = '"' then skipStringTail rest
    else if c = '-' || c.isDigit then (literal .malformed (c :: rest)).map (·.2)
    else .error .malformed

theorem length_skipScalar_lt {s r : List Char} (h : skipScalar s = .ok r) :
    r.length < s.length := by
  unfold skipScalar at h
  split at h
  · simp at h
  · next c rest =>
    repeat' split at h
    · exact Nat.lt_succ_of_le (length_letters_le h)
    · exact Nat.lt_succ_of_le (length_letters_le h)
    · exact Nat.lt_succ_of_le (length_letters_le h)
    · exact Nat.lt_succ_of_lt (length_skipStringTail_lt h)
    · cases number : literal .malformed (c :: rest) with
      | error => simp [number, Except.map] at h
      | ok pair =>
        simp only [number, Except.map, Except.ok.injEq] at h
        subst h
        exact length_literal_lt (l := pair.1) number
    · simp at h

/-- Skips the colon after a key. -/
def skipColon (s : List Char) : Except DecodeError (List Char) :=
  match skipSpace s with
  | [] => .error .unexpectedEnd
  | c :: rest => if c = ':' then .ok rest else .error .malformed

theorem length_skipColon_lt {s r : List Char} (h : skipColon s = .ok r) : r.length < s.length := by
  unfold skipColon at h
  split at h
  · simp at h
  · next spaced =>
    split at h
    · simp only [Except.ok.injEq] at h
      exact h ▸ length_lt_of_skipSpace spaced
    · simp at h

/-- Skips a key and the colon after it. -/
def skipKey (s : List Char) : Except DecodeError (List Char) :=
  match skipSpace s with
  | [] => .error .unexpectedEnd
  | c :: rest =>
    if c = '"' then
      match skipStringTail rest with
      | .error e => .error e
      | .ok rest => skipColon rest
    else .error .malformed

theorem length_skipKey_lt {s r : List Char} (h : skipKey s = .ok r) : r.length < s.length := by
  unfold skipKey at h
  split at h
  · simp at h
  · next spaced =>
    have := length_lt_of_skipSpace spaced
    split at h
    · split at h
      · simp at h
      · next key =>
        have := length_skipStringTail_lt key
        have := length_skipColon_lt h
        omega
    · simp at h

inductive Frame where
  | sequence
  | map
  deriving DecidableEq

def Frame.close : Frame → Char
  | .sequence => ']'
  | .map => '}'

/-- Skips the key of the next item, where the items of the frame have keys. -/
def Frame.skipKey : Frame → List Char → Except DecodeError (List Char)
  | .sequence, s => .ok s
  | .map, s => Json.skipKey s

theorem Frame.length_skipKey_le {f : Frame} {s r : List Char} (h : f.skipKey s = .ok r) :
    r.length ≤ s.length := by
  cases f with
  | sequence => simp_all [Frame.skipKey]
  | map => exact Nat.le_of_lt (length_skipKey_lt h)

/-- Where the skipping stands. -/
inductive Place where
  /-- A value is next. -/
  | value
  /-- The innermost frame has just been opened. -/
  | opened
  /-- A value has just ended. -/
  | behind

def Place.weight : Place → Nat
  | .opened => 1
  | _ => 0

/-- Skips up to the end of the outermost value. -/
def skipFrom (place : Place) (frames : List Frame) (s : List Char) :
    Except DecodeError (List Char) :=
  match place with
  | .value =>
    match _spaced : skipSpace s with
    | [] => .error .unexpectedEnd
    | c :: rest =>
      if c = '[' then skipFrom .opened (.sequence :: frames) rest
      else if c = '{' then skipFrom .opened (.map :: frames) rest
      else
        match _scalar : skipScalar (c :: rest) with
        | .error e => .error e
        | .ok rest => skipFrom .behind frames rest
  | .opened =>
    match frames with
    | [] => .ok s
    | f :: outer =>
      match _spaced : skipSpace s with
      | [] => .error .unexpectedEnd
      | c :: rest =>
        if c = f.close then skipFrom .behind outer rest
        else
          match _key : f.skipKey (c :: rest) with
          | .error e => .error e
          | .ok rest => skipFrom .value (f :: outer) rest
  | .behind =>
    match frames with
    | [] => .ok s
    | f :: outer =>
      match _spaced : skipSpace s with
      | [] => .error .unexpectedEnd
      | c :: rest =>
        if c = f.close then skipFrom .behind outer rest
        else if c = ',' then
          match _key : f.skipKey rest with
          | .error e => .error e
          | .ok rest => skipFrom .value (f :: outer) rest
        else .error .malformed
  termination_by 2 * s.length + place.weight
  decreasing_by
    all_goals
      have := length_lt_of_skipSpace _spaced
      simp only [Place.weight]
    · omega
    · omega
    · have := length_skipScalar_lt _scalar
      simp only [List.length_cons] at this
      omega
    · omega
    · have := Frame.length_skipKey_le _key
      simp only [List.length_cons] at this
      omega
    · omega
    · have := Frame.length_skipKey_le _key
      omega

/-- Skips one value. -/
def skipValue (s : List Char) : Except DecodeError (List Char) :=
  skipFrom .value [] s

theorem length_skipFrom_le {place : Place} {frames : List Frame} {s r : List Char}
    (h : skipFrom place frames s = .ok r) :
    r.length ≤ s.length ∧ (place = .value → r.length < s.length) := by
  fun_induction skipFrom place frames s with
  | case1 | case4 | case7 | case9 | case12 | case14 | case16 => simp at h
  | case6 | case11 => simp_all
  | case2 _ _ _ spaced ih | case3 _ _ _ spaced _ ih | case8 _ _ _ _ spaced ih
  | case13 _ _ _ _ spaced ih =>
    have := length_lt_of_skipSpace spaced
    have := (ih h).1
    exact ⟨by omega, fun _ => by omega⟩
  | case5 _ _ _ _ spaced _ _ _ scalar ih =>
    have := length_lt_of_skipSpace spaced
    have := length_skipScalar_lt scalar
    have := (ih h).1
    simp only [List.length_cons] at *
    exact ⟨by omega, fun _ => by omega⟩
  | case10 _ _ _ _ _ spaced _ _ key ih =>
    have := length_lt_of_skipSpace spaced
    have := Frame.length_skipKey_le key
    have := (ih h).2 rfl
    simp only [List.length_cons] at *
    exact ⟨by omega, by simp⟩
  | case15 _ _ _ _ _ key spaced _ ih =>
    have := length_lt_of_skipSpace spaced
    have := Frame.length_skipKey_le key
    have := (ih h).2 rfl
    exact ⟨by omega, by simp⟩

theorem length_skipValue_lt {s r : List Char} (h : skipValue s = .ok r) : r.length < s.length :=
  (length_skipFrom_le h).2 rfl

end Roster.Json
