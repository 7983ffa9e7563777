import Roster.Json.Error

/-!
The smallest parts of a JSON document: white space, the words `null`, `true` and `false`, and
strings. Each reader takes what is left of the text and gives back what is left after it.
-/

namespace Roster.Json

def isSpace (c : Char) : Bool :=
  c = ' ' || c = '\t' || c = '\n' || c = '\r'

def skipSpace (s : List Char) : List Char :=
  s.dropWhile isSpace

theorem length_skipSpace_le (s : List Char) : (skipSpace s).length ≤ s.length := by
  induction s with
  | nil => simp [skipSpace]
  | cons c rest ih =>
    simp only [skipSpace, List.dropWhile_cons] at *
    split
    · exact Nat.le_succ_of_le ih
    · exact Nat.le_refl _

theorem length_lt_of_skipSpace {s rest : List Char} {c : Char} (h : skipSpace s = c :: rest) :
    rest.length < s.length := by
  have shorter := length_skipSpace_le s
  rw [h, List.length_cons] at shorter
  omega

/-- Reads the given letters, one after the other. -/
def letters : List Char → List Char → Except DecodeError (List Char)
  | [], s => .ok s
  | _ :: _, [] => .error .unexpectedEnd
  | w :: ws, c :: s => if c = w then letters ws s else .error .malformed

theorem length_letters_le {ws s r : List Char} (h : letters ws s = .ok r) :
    r.length ≤ s.length := by
  induction ws generalizing s with
  | nil => simp_all [letters]
  | cons w ws ih =>
    cases s with
    | nil => simp [letters] at h
    | cons c s =>
      simp only [letters] at h
      split at h
      · exact Nat.le_succ_of_le (ih h)
      · simp at h

def hexDigit? (c : Char) : Option Nat :=
  if '0' ≤ c && c ≤ '9' then some (c.toNat - '0'.toNat)
  else if 'a' ≤ c && c ≤ 'f' then some (c.toNat - 'a'.toNat + 10)
  else if 'A' ≤ c && c ≤ 'F' then some (c.toNat - 'A'.toNat + 10)
  else none

/-- Reads four hexadecimal digits. The text must have four bytes left for them in any case. -/
def hexQuad (s : List Char) : Except DecodeError (Nat × List Char) :=
  match s with
  | a :: b :: c :: d :: rest =>
    match hexDigit? a, hexDigit? b, hexDigit? c, hexDigit? d with
    | some a, some b, some c, some d => .ok (((a * 16 + b) * 16 + c) * 16 + d, rest)
    | _, _, _, _ => .error .malformed
  | s => .error (if (String.ofList s).utf8ByteSize < 4 then .unexpectedEnd else .malformed)

theorem length_hexQuad_lt {s r : List Char} {n : Nat} (h : hexQuad s = .ok (n, r)) :
    r.length < s.length := by
  unfold hexQuad at h
  split at h
  · split at h
    · simp only [Except.ok.injEq, Prod.mk.injEq] at h
      obtain ⟨-, rfl⟩ := h
      simp only [List.length_cons]
      omega
    · simp at h
  · simp at h

/-- The character of a surrogate pair. -/
def ofSurrogates (high low : Nat) : Char :=
  Char.ofNat ((high - 0xD800) * 0x400 + (low - 0xDC00) + 0x10000)

/-- Reads the second half of a surrogate pair, with its `\u` before it. -/
def lowSurrogate (high : Nat) (s : List Char) : Except DecodeError (Char × List Char) :=
  match s with
  | [] => .error .unexpectedEnd
  | ['\\'] => .error .unexpectedEnd
  | '\\' :: 'u' :: rest =>
    match hexQuad rest with
    | .error e => .error e
    | .ok (low, rest) =>
      if 0xDC00 ≤ low && low ≤ 0xDFFF then .ok (ofSurrogates high low, rest)
      else .error .malformed
  | _ => .error .malformed

/-- Reads what follows `\u`. A surrogate must come as a pair. -/
def unicodeEscape (s : List Char) : Except DecodeError (Char × List Char) :=
  match hexQuad s with
  | .error e => .error e
  | .ok (n, rest) =>
    if 0xDC00 ≤ n && n ≤ 0xDFFF then .error .malformed
    else if 0xD800 ≤ n && n ≤ 0xDBFF then lowSurrogate n rest
    else .ok (Char.ofNat n, rest)

/-- The character for a letter after a backslash, apart from `u`. -/
def shortEscape? (c : Char) : Option Char :=
  if c = '"' then some '"'
  else if c = '\\' then some '\\'
  else if c = '/' then some '/'
  else if c = 'b' then some '\x08'
  else if c = 'f' then some '\x0c'
  else if c = 'n' then some '\n'
  else if c = 'r' then some '\r'
  else if c = 't' then some '\t'
  else none

/-- Reads what follows a backslash. -/
def escapeTail (s : List Char) : Except DecodeError (Char × List Char) :=
  match s with
  | [] => .error .unexpectedEnd
  | c :: rest =>
    if c = 'u' then unicodeEscape rest
    else match shortEscape? c with
      | some c => .ok (c, rest)
      | none => .error .malformed

theorem length_lowSurrogate_lt {s r : List Char} {high : Nat} {c : Char}
    (h : lowSurrogate high s = .ok (c, r)) : r.length < s.length := by
  unfold lowSurrogate at h
  split at h
  · simp at h
  · simp at h
  · split at h
    · simp at h
    · next low rest quad =>
      have shorter := length_hexQuad_lt quad
      split at h
      · simp only [Except.ok.injEq, Prod.mk.injEq] at h
        obtain ⟨-, rfl⟩ := h
        simp only [List.length_cons]
        omega
      · simp at h
  · simp at h

theorem length_unicodeEscape_lt {s r : List Char} {c : Char}
    (h : unicodeEscape s = .ok (c, r)) : r.length < s.length := by
  unfold unicodeEscape at h
  split at h
  · simp at h
  · next n rest quad =>
    have shorter := length_hexQuad_lt quad
    split at h
    · simp at h
    · split at h
      · exact Nat.lt_trans (length_lowSurrogate_lt h) shorter
      · simp only [Except.ok.injEq, Prod.mk.injEq] at h
        obtain ⟨-, rfl⟩ := h
        exact shorter

theorem length_escapeTail_lt {s r : List Char} {c : Char} (h : escapeTail s = .ok (c, r)) :
    r.length < s.length := by
  unfold escapeTail at h
  split at h
  · simp at h
  · split at h
    · exact Nat.lt_succ_of_lt (length_unicodeEscape_lt h)
    · split at h
      · simp only [Except.ok.injEq, Prod.mk.injEq] at h
        obtain ⟨-, rfl⟩ := h
        simp
      · simp at h

/-- Reads a string after its opening quote, up to and with its closing quote. -/
def stringTail (s : List Char) : Except DecodeError (List Char × List Char) :=
  match s with
  | [] => .error .unexpectedEnd
  | c :: rest =>
    if c = '"' then .ok ([], rest)
    else if c = '\\' then
      match _found : escapeTail rest with
      | .error e => .error e
      | .ok (c, rest) => (stringTail rest).map fun read => (c :: read.1, read.2)
    else if c.toNat < 0x20 then .error .malformed
    else (stringTail rest).map fun read => (c :: read.1, read.2)
  termination_by s.length
  decreasing_by
    · have := length_escapeTail_lt _found
      simp only [List.length_cons]
      omega
    · simp

theorem length_stringTail_lt {s r cs : List Char} (h : stringTail s = .ok (cs, r)) :
    r.length < s.length := by
  fun_induction stringTail s generalizing cs r with
  | case1 => simp at h
  | case2 => simp_all
  | case3 => simp at h
  | case4 rest c rest' found _ ih =>
    have shorter := length_escapeTail_lt found
    cases read : stringTail rest' with
    | error => simp [read, Except.map] at h
    | ok pair =>
      simp only [read, Except.map, Except.ok.injEq, Prod.mk.injEq] at h
      have := ih read
      obtain ⟨-, rfl⟩ := h
      simp only [List.length_cons]
      omega
  | case5 => simp at h
  | case6 c rest _ _ _ ih =>
    cases read : stringTail rest with
    | error => simp [read, Except.map] at h
    | ok pair =>
      simp only [read, Except.map, Except.ok.injEq, Prod.mk.injEq] at h
      have := ih read
      obtain ⟨-, rfl⟩ := h
      simp only [List.length_cons]
      omega

end Roster.Json
