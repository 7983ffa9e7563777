/-!
Instants and the text of a creation time, such as `Jan 02 2006 15:04:05`.

Days are counted in the proleptic Gregorian calendar. For the counting a year starts on March 1, so
that the leap day comes last, and a day number splits into cycles of 400, 100, 4 and 1 years, the
last cycle of each kind being one day longer or shorter than the others.
-/

namespace Roster

/-- A day of the calendar. The months run from 1 to 12. -/
structure CivilDate where
  year : Int
  month : Int
  day : Int
  deriving DecidableEq

/-- The date of a day that is `days` after 1970-01-01. -/
def CivilDate.ofDays (days : Int) : CivilDate :=
  let days := days + 719468
  let era := days / 146097
  let inEra := days % 146097
  let century := min (inEra / 36524) 3
  let inCentury := inEra - 36524 * century
  let quad := inCentury / 1461
  let inQuad := inCentury % 1461
  let single := min (inQuad / 365) 3
  let inYear := inQuad - 365 * single
  let fromMarch := (5 * inYear + 2) / 153
  let month := if fromMarch < 10 then fromMarch + 3 else fromMarch - 9
  { year := 400 * era + 100 * century + 4 * quad + single + (if month ≤ 2 then 1 else 0)
    month
    day := inYear - (153 * fromMarch + 2) / 5 + 1 }

/-- An instant counted from 1970-01-01 00:00:00 UTC. Only the last second of a minute may be
followed by a leap second, which counts as more than a thousand million nanoseconds. -/
structure Instant where
  seconds : Int
  nanos : Nat
  /-- The years run from -262143 to 262142. -/
  inRange : -8334601228800 ≤ seconds ∧ seconds ≤ 8210266876799
  nanos_lt : nanos < 2000000000
  leap : 1000000000 ≤ nanos → seconds % 60 = 59

namespace Instant

def epoch : Instant where
  seconds := 0
  nanos := 0
  inRange := by decide
  nanos_lt := by decide
  leap := by decide

def ofUnix? (seconds : Int) (nanos : Nat) : Option Instant :=
  if h : (-8334601228800 ≤ seconds ∧ seconds ≤ 8210266876799) ∧ nanos < 2000000000 ∧
      (1000000000 ≤ nanos → seconds % 60 = 59) then
    some ⟨seconds, nanos, h.1, h.2.1, h.2.2⟩
  else none

/-- The digits of a number, with zeros before them up to the given width. -/
def padded (width n : Nat) : String :=
  let digits := Nat.toDigits 10 n
  String.ofList (List.replicate (width - digits.length) '0' ++ digits)

def monthName (month : Int) : String :=
  ["Jan", "Feb", "Mar", "Apr", "May", "Jun", "Jul", "Aug", "Sep", "Oct", "Nov", "Dec"].getD
    (month.toNat - 1) ""

/-- Years have at least four digits. One outside of 0 to 9999 carries its sign. -/
def yearText (year : Int) : String :=
  if year < 0 then "-" ++ padded 4 year.natAbs
  else if year ≤ 9999 then padded 4 year.natAbs
  else "+" ++ padded 4 year.natAbs

/-- The creation time that a cluster gets at this instant. Fractions of a second are left out, and
a leap second is second 60. -/
def stamp (now : Instant) : String :=
  let date := CivilDate.ofDays (now.seconds / 86400)
  let ofDay := (now.seconds % 86400).toNat
  let second := ofDay % 60 + now.nanos / 1000000000
  monthName date.month ++ " " ++ padded 2 date.day.toNat ++ " " ++ yearText date.year ++ " " ++
    padded 2 (ofDay / 3600) ++ ":" ++ padded 2 (ofDay / 60 % 60) ++ ":" ++ padded 2 second

end Instant

end Roster
