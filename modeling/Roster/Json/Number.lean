import Roster.Decimal.Shortest
import Roster.Json.Error

/-!
Numbers of a JSON document: their grammar, their values, and the text of a number that is not
whole.

A number without fraction and exponent is whole if it fits 64 bits. Any other number is a binary
floating-point one. Of its digits as many as fit 64 bits count, and a power of ten is then applied
in one multiplication or division. A number too large for that is malformed.
-/

namespace Roster.Json

/-- A number as it is spelled. The digits are in order. -/
structure Literal where
  negative : Bool
  whole : List Char
  fraction : List Char := []
  /-- The sign of the exponent, true for minus, and its digits. -/
  exponent : Option (Bool × List Char) := none

/-- The digits in front, and what follows them. -/
def digitRun (s : List Char) : List Char × List Char :=
  (s.takeWhile Char.isDigit, s.dropWhile Char.isDigit)

/-- Digits of which there must be at least one. `short` is reported where the text ends instead. -/
def someDigits (short : DecodeError) (s : List Char) :
    Except DecodeError (List Char × List Char) :=
  match digitRun s with
  | ([], []) => .error short
  | ([], _ :: _) => .error .malformed
  | run => .ok run

/-- The digits before the point. A zero stands alone. -/
def wholeDigits (short : DecodeError) (s : List Char) :
    Except DecodeError (List Char × List Char) :=
  match s with
  | '0' :: c :: rest => if c.isDigit then .error .malformed else .ok (['0'], c :: rest)
  | s => someDigits short s

def fractionDigits (short : DecodeError) (s : List Char) :
    Except DecodeError (List Char × List Char) :=
  match s with
  | '.' :: rest => someDigits short rest
  | s => .ok ([], s)

def exponentRun (short : DecodeError) (minus : Bool) (s : List Char) :
    Except DecodeError (Option (Bool × List Char) × List Char) :=
  (someDigits short s).map fun run => (some (minus, run.1), run.2)

def signedExponent (short : DecodeError) (s : List Char) :
    Except DecodeError (Option (Bool × List Char) × List Char) :=
  match s with
  | '+' :: rest => exponentRun short false rest
  | '-' :: rest => exponentRun short true rest
  | s => exponentRun short false s

def exponentDigits (short : DecodeError) (s : List Char) :
    Except DecodeError (Option (Bool × List Char) × List Char) :=
  match s with
  | 'e' :: rest => signedExponent short rest
  | 'E' :: rest => signedExponent short rest
  | s => .ok (none, s)

/-- Reads a number without its sign. -/
def unsignedLiteral (short : DecodeError) (negative : Bool) (s : List Char) :
    Except DecodeError (Literal × List Char) :=
  match wholeDigits short s with
  | .error e => .error e
  | .ok (whole, s) =>
    match fractionDigits short s with
    | .error e => .error e
    | .ok (fraction, s) =>
      match exponentDigits short s with
      | .error e => .error e
      | .ok (exponent, s) => .ok ({ negative, whole, fraction, exponent }, s)

/-- Reads a number. Where the text ends too early, `short` is reported. -/
def literal (short : DecodeError) (s : List Char) : Except DecodeError (Literal × List Char) :=
  match s with
  | '-' :: rest => unsignedLiteral short true rest
  | s => unsignedLiteral short false s

theorem length_someDigits_lt {short : DecodeError} {s ds r : List Char}
    (h : someDigits short s = .ok (ds, r)) : r.length < s.length := by
  unfold someDigits at h
  split at h
  · simp at h
  · simp at h
  · next nonempty more =>
    simp only [digitRun, Except.ok.injEq, Prod.mk.injEq] at h nonempty more
    obtain ⟨taken, rfl⟩ := h
    have whole := congrArg List.length
      (List.takeWhile_append_dropWhile (p := Char.isDigit) (l := s))
    rw [List.length_append, taken] at whole
    cases ds with
    | nil =>
      cases rest : s.dropWhile Char.isDigit with
      | nil => exact absurd ⟨taken, rest⟩ nonempty
      | cons c cs => exact absurd ⟨taken, rest⟩ (more c cs)
    | cons d ds => simp only [List.length_cons] at whole; omega

theorem length_wholeDigits_lt {short : DecodeError} {s ds r : List Char}
    (h : wholeDigits short s = .ok (ds, r)) : r.length < s.length := by
  unfold wholeDigits at h
  split at h
  · split at h
    · simp at h
    · simp only [Except.ok.injEq, Prod.mk.injEq] at h
      obtain ⟨-, rfl⟩ := h
      simp
  · exact length_someDigits_lt h

theorem length_fractionDigits_le {short : DecodeError} {s ds r : List Char}
    (h : fractionDigits short s = .ok (ds, r)) : r.length ≤ s.length := by
  unfold fractionDigits at h
  split at h
  · exact Nat.le_of_lt (Nat.lt_succ_of_lt (length_someDigits_lt h))
  · simp_all

theorem length_exponentRun_lt {short : DecodeError} {s r : List Char} {minus : Bool}
    {e : Option (Bool × List Char)} (h : exponentRun short minus s = .ok (e, r)) :
    r.length < s.length := by
  unfold exponentRun at h
  cases run : someDigits short s with
  | error => simp [run, Except.map] at h
  | ok pair =>
    simp only [run, Except.map, Except.ok.injEq, Prod.mk.injEq] at h
    obtain ⟨-, rfl⟩ := h
    exact length_someDigits_lt run

theorem length_signedExponent_lt {short : DecodeError} {s r : List Char}
    {e : Option (Bool × List Char)} (h : signedExponent short s = .ok (e, r)) :
    r.length < s.length := by
  unfold signedExponent at h
  split at h
  · exact Nat.lt_succ_of_lt (length_exponentRun_lt h)
  · exact Nat.lt_succ_of_lt (length_exponentRun_lt h)
  · exact length_exponentRun_lt h

theorem length_exponentDigits_le {short : DecodeError} {s r : List Char}
    {e : Option (Bool × List Char)} (h : exponentDigits short s = .ok (e, r)) :
    r.length ≤ s.length := by
  unfold exponentDigits at h
  split at h
  · exact Nat.le_of_lt (Nat.lt_succ_of_lt (length_signedExponent_lt h))
  · exact Nat.le_of_lt (Nat.lt_succ_of_lt (length_signedExponent_lt h))
  · simp_all

theorem length_unsignedLiteral_lt {short : DecodeError} {negative : Bool} {s r : List Char}
    {l : Literal} (h : unsignedLiteral short negative s = .ok (l, r)) : r.length < s.length := by
  unfold unsignedLiteral at h
  split at h
  · simp at h
  · next whole =>
    have first := length_wholeDigits_lt whole
    split at h
    · simp at h
    · next fraction =>
      have second := length_fractionDigits_le fraction
      split at h
      · simp at h
      · next exponent =>
        have third := length_exponentDigits_le exponent
        simp only [Except.ok.injEq, Prod.mk.injEq] at h
        obtain ⟨-, rfl⟩ := h
        omega

theorem length_literal_lt {short : DecodeError} {s r : List Char} {l : Literal}
    (h : literal short s = .ok (l, r)) : r.length < s.length := by
  unfold literal at h
  split at h
  · exact Nat.lt_succ_of_lt (length_unsignedLiteral_lt h)
  · exact length_unsignedLiteral_lt h

inductive Number where
  | integer (value : Int)
  | decimal (value : Float)

def digitValue (c : Char) : Nat :=
  c.toNat - '0'.toNat

/-- Appends digits to `n` while the result fits 64 bits. The second part counts them. -/
def appendDigits (n : Nat) : List Char → Nat × Nat
  | [] => (n, 0)
  | c :: rest =>
    let next := n * 10 + digitValue c
    if next < UInt64.size then
      let (n, count) := appendDigits next rest
      (n, count + 1)
    else (n, 0)

/-- Powers of ten up to this one are exact enough to be applied in one step. -/
def greatestPower : Nat := 308

/-- Applies a power of ten to a number that is not negative. -/
def scale (value : Float) (exponent : Int) : Except DecodeError Float :=
  if exponent.natAbs ≤ greatestPower then
    let power := Float.ofScientific 1 false exponent.natAbs
    if 0 ≤ exponent then
      let scaled := value * power
      if scaled.isInf then .error .malformed else .ok scaled
    else .ok (value / power)
  else if value == 0 then .ok value
  else if 0 ≤ exponent then .error .malformed
  else scale (value / Float.ofScientific 1 false greatestPower) (exponent + greatestPower)
  termination_by exponent.natAbs
  decreasing_by simp only [greatestPower] at *; omega

/-- Exponents count up to here. A larger one is too large or stands for zero. -/
def greatestExponent : Nat := 2147483647

/-- An exponent kept within 32 bits. -/
def clampExponent (e : Int) : Int :=
  max (-2147483648) (min e greatestExponent)

/-- The magnitude of a number that has a fraction, an exponent or too many digits. -/
def Literal.magnitude (l : Literal) : Except DecodeError Float :=
  let (n, kept) := appendDigits 0 l.whole
  let (n, places) := appendDigits n l.fraction
  let start : Int := (l.whole.length - kept : Nat) - (places : Int)
  let significand := (UInt64.ofNat n).toFloat
  match l.exponent with
  | none => scale significand start
  | some (minus, digits) =>
    let e := digits.foldl (fun e c => e * 10 + digitValue c) 0
    if greatestExponent < e then
      if n ≠ 0 && !minus then .error .malformed else .ok 0
    else scale significand (clampExponent (if minus then start - e else start + e))

def Literal.number (l : Literal) : Except DecodeError Number :=
  let (n, kept) := appendDigits 0 l.whole
  let decimal := l.magnitude.map fun value => Number.decimal (if l.negative then -value else value)
  if kept = l.whole.length && l.fraction.isEmpty && l.exponent.isNone then
    if !l.negative then .ok (.integer n)
    else if 0 < n && n ≤ UInt64.size / 2 then .ok (.integer (-n))
    else decimal
  else decimal

/-- Where a power of ten from `10 ^ -5` to `10 ^ 15` leads the number, it is written out with the
point in its place and at least one digit on either side. Otherwise the first digit stands before
the point and the power follows with its sign. -/
def decimalText (digits : Decimal.Digits) : List Char :=
  let ds := digits.digits
  if -5 ≤ digits.exponent && digits.exponent ≤ 15 then
    if digits.exponent < 0 then
      '0' :: '.' :: List.replicate (-digits.exponent - 1).toNat '0' ++ ds
    else
      let before := digits.exponent.toNat + 1
      let fraction := ds.drop before
      ds.take before ++ List.replicate (before - ds.length) '0' ++
        '.' :: (if fraction.isEmpty then ['0'] else fraction)
  else
    let mark := if digits.exponent < 0 then '-' else '+'
    let power := 'e' :: mark :: Nat.toDigits 10 digits.exponent.natAbs
    match ds with
    | first :: second :: rest => first :: '.' :: second :: rest ++ power
    | ds => ds ++ power

/-- A finite floating-point number in the fewest digits that read back as it. -/
def floatText (value : Float) : String :=
  let bits := value.toBits
  let magnitude := bits &&& 0x7FFFFFFFFFFFFFFF
  let text := if magnitude = 0 then ['0', '.', '0']
    else decimalText (Decimal.Binary.ofBits magnitude).digits
  String.ofList (if magnitude = bits then text else '-' :: text)

def Number.found : Number → Found
  | .integer value => .integer value
  | .decimal value => .decimal (floatText value)

end Roster.Json
