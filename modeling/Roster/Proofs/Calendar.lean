import Mathlib.Algebra.Order.Group.Int
import Mathlib.Order.Monotone.Basic
import Mathlib.Tactic.IntervalCases
import Roster.Calendar

/-!
What a creation time tells of an instant.

The dates of the days are those of the Gregorian calendar, in which each day but the last of a month
or of a year is followed by the next number. So later days have later dates. A text of a date and a
time of day can be taken apart again, although the year has no fixed width, so that the text is that
of one second only.
-/

namespace Roster

attribute [ext] CivilDate

namespace CivilDate

/-! ## The calendar -/

/-- The year has a leap day. -/
def IsLeap (year : Int) : Prop :=
  year % 4 = 0 ∧ (year % 100 ≠ 0 ∨ year % 400 = 0)

instance (year : Int) : Decidable (IsLeap year) :=
  inferInstanceAs (Decidable (_ ∧ _))

def monthLength (year month : Int) : Int :=
  if month = 2 then if IsLeap year then 29 else 28
  else if month = 4 ∨ month = 6 ∨ month = 9 ∨ month = 11 then 30
  else 31

/-- The day after a date. -/
def next (date : CivilDate) : CivilDate :=
  if date.day < monthLength date.year date.month then { date with day := date.day + 1 }
  else if date.month < 12 then { date with month := date.month + 1, day := 1 }
  else { year := date.year + 1, month := 1, day := 1 }

/-! ## Years that start on March 1 -/

/-- The days of such a year that have passed before a month, by the number of months since March. -/
def monthStart (fromMarch : Int) : Int :=
  (153 * fromMarch + 2) / 5

/-- The days of a month. The last one of a year that starts in March is the February of the next
year. -/
def monthSpan (year fromMarch : Int) : Int :=
  if fromMarch < 11 then monthStart (fromMarch + 1) - monthStart fromMarch
  else if IsLeap (year + 1) then 29 else 28

/-- A date by the number of months since March and the number of days of the month that have
passed. -/
def ofMonthDay (year fromMarch passed : Int) : CivilDate :=
  let month := if fromMarch < 10 then fromMarch + 3 else fromMarch - 9
  { year := year + (if month ≤ 2 then 1 else 0), month, day := passed + 1 }

/-- A date by the number of days of the year that have passed. -/
def ofYearDay (year passed : Int) : CivilDate :=
  let fromMarch := (5 * passed + 2) / 153
  ofMonthDay year fromMarch (passed - monthStart fromMarch)

theorem monthLength_ofMonthDay (year passed : Int) {fromMarch : Int} (low : 0 ≤ fromMarch)
    (high : fromMarch ≤ 11) :
    monthLength (ofMonthDay year fromMarch passed).year (ofMonthDay year fromMarch passed).month =
      monthSpan year fromMarch := by
  interval_cases fromMarch <;> rfl

theorem next_ofMonthDay (year passed : Int) {fromMarch : Int} (low : 0 ≤ fromMarch)
    (high : fromMarch ≤ 11) :
    (ofMonthDay year fromMarch passed).next =
      if passed + 1 < monthSpan year fromMarch then ofMonthDay year fromMarch (passed + 1)
      else if fromMarch < 11 then ofMonthDay year (fromMarch + 1) 0
      else ofMonthDay (year + 1) 0 0 := by
  rw [next, monthLength_ofMonthDay year passed low high]
  change ite (passed + 1 < _) _ _ = _
  split
  next => rfl
  next => interval_cases fromMarch <;> simp [ofMonthDay]

/-- The number of the last day of a year, from 0. -/
def lastDay (year : Int) : Int :=
  if IsLeap (year + 1) then 365 else 364

theorem lastDay_le (year : Int) : lastDay year ≤ 365 := by
  unfold lastDay
  split <;> decide

theorem lastDay_pos (year : Int) : 0 < lastDay year := by
  unfold lastDay
  split <;> decide

theorem next_ofYearDay {year passed : Int} (start : 0 ≤ passed) (more : passed < lastDay year) :
    (ofYearDay year passed).next = ofYearDay year (passed + 1) := by
  have bound := lastDay_le year
  have low : 0 ≤ (5 * passed + 2) / 153 := by omega
  have high : (5 * passed + 2) / 153 ≤ 11 := by omega
  have step : (5 * (passed + 1) + 2) / 153 = (5 * passed + 2) / 153 ∨
    (5 * (passed + 1) + 2) / 153 = (5 * passed + 2) / 153 + 1 := by omega
  dsimp only [ofYearDay]
  rw [next_ofMonthDay _ _ low high]
  generalize month : (5 * passed + 2) / 153 = fromMarch at step ⊢
  rcases step with same | later
  · have inside : passed - monthStart fromMarch + 1 < monthSpan year fromMarch := by
      unfold lastDay at more
      unfold monthSpan monthStart
      split
      · omega
      · split at more <;> simp only [if_pos, *] <;> omega
    rw [if_pos inside, same, sub_add_eq_add_sub]
  · have first : monthStart (fromMarch + 1) = passed + 1 := by
      unfold monthStart
      omega
    have inside : fromMarch < 11 := by omega
    have full : ¬passed - monthStart fromMarch + 1 < monthSpan year fromMarch := by
      rw [monthSpan, if_pos inside, first]
      omega
    rw [if_neg full, if_pos inside, later, first, sub_self]

theorem next_ofYearDay_last (year : Int) :
    (ofYearDay year (lastDay year)).next = ofYearDay (year + 1) 0 := by
  dsimp only [ofYearDay]
  have eleven : (5 * lastDay year + 2) / 153 = 11 := by unfold lastDay; split <;> rfl
  have full : ¬lastDay year - monthStart 11 + 1 < monthSpan year 11 := by
    unfold lastDay monthSpan
    split <;> simp [monthStart, *]
  rw [eleven, next_ofMonthDay _ _ (by decide) (by decide), if_neg full]
  rfl

/-! ## Counting the days -/

/-- The days before such a year, from the year 0 on. -/
def daysBefore (year : Int) : Int :=
  365 * year + year / 4 - year / 100 + year / 400

theorem daysBefore_parts {era century quad single : Int} (centuries : 0 ≤ century ∧ century ≤ 3)
    (quads : 0 ≤ quad ∧ quad ≤ 24) (singles : 0 ≤ single ∧ single ≤ 3) :
    daysBefore (400 * era + 100 * century + 4 * quad + single) =
      146097 * era + 36524 * century + 1461 * quad + 365 * single := by
  have fours : (400 * era + 100 * century + 4 * quad + single) / 4 =
    100 * era + 25 * century + quad := by omega
  have hundreds : (400 * era + 100 * century + 4 * quad + single) / 100 =
    4 * era + century := by omega
  have eras : (400 * era + 100 * century + 4 * quad + single) / 400 = era := by omega
  rw [daysBefore, fours, hundreds, eras]
  omega

theorem daysBefore_succ (year : Int) :
    daysBefore (year + 1) = daysBefore year + lastDay year + 1 := by
  unfold daysBefore lastDay
  split
  next leap => unfold IsLeap at leap; omega
  next common => unfold IsLeap at common; omega

/-- The years follow each other without a gap, so that a day is in one of them only. -/
theorem daysBefore_add_lastDay_lt {year later : Int} (before : year < later) :
    daysBefore year + lastDay year < daysBefore later := by
  unfold daysBefore lastDay
  split
  next leap => unfold IsLeap at leap; omega
  next common => unfold IsLeap at common; omega

/-- The day with this number is that day of that year, which starts on March 1. -/
structure At (days year passed : Int) : Prop where
  count : days + 719468 = daysBefore year + passed
  start : 0 ≤ passed
  stop : passed ≤ lastDay year
  date : ofDays days = ofYearDay year passed

/-- The last year of a cycle may be longer than a year that is counted off by division, and this is
so in leap years only. -/
theorem exists_at (days : Int) : ∃ year passed, At days year passed := by
  let era := (days + 719468) / 146097
  let inEra := (days + 719468) % 146097
  let century := min (inEra / 36524) 3
  let inCentury := inEra - 36524 * century
  let quad := inCentury / 1461
  let inQuad := inCentury % 1461
  let single := min (inQuad / 365) 3
  have centuries : 0 ≤ century ∧ century ≤ 3 := by omega
  have quads : 0 ≤ quad ∧ quad ≤ 24 := by omega
  have singles : 0 ≤ single ∧ single ≤ 3 := by omega
  refine ⟨400 * era + 100 * century + 4 * quad + single, inQuad - 365 * single, ?_, ?_, ?_, rfl⟩
  · rw [daysBefore_parts centuries quads singles]
    omega
  · omega
  · unfold lastDay
    split
    next => omega
    next common => unfold IsLeap at common; omega

theorem At.unique {days year passed other counted : Int} (here : At days year passed)
    (count : days + 719468 = daysBefore other + counted) (start : 0 ≤ counted)
    (stop : counted ≤ lastDay other) : year = other ∧ passed = counted := by
  have := here.count
  have := here.start
  have := here.stop
  have same : year = other := by
    rcases lt_trichotomy year other with before | same | after
    · have := daysBefore_add_lastDay_lt before
      omega
    · exact same
    · have := daysBefore_add_lastDay_lt after
      omega
  subst same
  exact ⟨rfl, by omega⟩

/-- Day numbers follow the calendar. -/
theorem ofDays_succ (days : Int) : ofDays (days + 1) = (ofDays days).next := by
  obtain ⟨year, passed, here⟩ := exists_at days
  obtain ⟨other, counted, after⟩ := exists_at (days + 1)
  have start := here.start
  have numbers := here.count
  have laterNumbers := after.count
  rw [here.date, after.date]
  rcases here.stop.lt_or_eq with more | rfl
  · obtain ⟨rfl, rfl⟩ : other = year ∧ counted = passed + 1 :=
      after.unique (by omega) (by omega) more
    rw [next_ofYearDay start more]
  · have next := daysBefore_succ year
    obtain ⟨rfl, rfl⟩ : other = year + 1 ∧ counted = 0 :=
      after.unique (by omega) le_rfl (lastDay_pos _).le
    rw [next_ofYearDay_last]

example : ofDays 0 = ⟨1970, 1, 1⟩ := by decide

/-! ## Distinct days -/

/-- The month and the day are those of a calendar. -/
structure Proper (date : CivilDate) : Prop where
  month_pos : 1 ≤ date.month
  month_le : date.month ≤ 12
  day_pos : 1 ≤ date.day
  day_le : date.day ≤ 31

theorem proper_ofYearDay {year passed : Int} (start : 0 ≤ passed) (stop : passed ≤ lastDay year) :
    Proper (ofYearDay year passed) := by
  have bound := lastDay_le year
  have low : 0 ≤ (5 * passed + 2) / 153 := by omega
  have high : (5 * passed + 2) / 153 ≤ 11 := by omega
  unfold ofYearDay ofMonthDay monthStart
  constructor <;> dsimp only
  · split <;> omega
  · split <;> omega
  · omega
  · omega

theorem proper_ofDays (days : Int) : Proper (ofDays days) := by
  obtain ⟨year, passed, here⟩ := exists_at days
  rw [here.date]
  exact proper_ofYearDay here.start here.stop

/-- The place of a date among those of a calendar in which each month has 31 days. -/
def rank (date : CivilDate) : Int :=
  372 * date.year + 31 * date.month + date.day

theorem rank_lt_rank_next {date : CivilDate} (proper : Proper date) :
    date.rank < date.next.rank := by
  have := proper.month_le
  have := proper.day_le
  unfold next rank
  split
  · dsimp only
    omega
  · split <;> dsimp only <;> omega

theorem rank_ofDays_lt {day later : Int} (before : day < later) :
    (ofDays day).rank < (ofDays later).rank := by
  have step (day : Int) : (ofDays day).rank < (ofDays (day + 1)).rank := by
    rw [ofDays_succ]
    exact rank_lt_rank_next (proper_ofDays day)
  exact strictMono_int_of_lt_succ step before

theorem ofDays_injective : Function.Injective ofDays := by
  intro day other same
  have ranks := congrArg rank same
  rcases lt_trichotomy day other with before | equal | after
  · exact absurd ranks (rank_ofDays_lt before).ne
  · exact equal
  · exact absurd ranks (rank_ofDays_lt after).ne'

end CivilDate

namespace Text

theorem append_inj {s t u v : String} (same : s ++ t = u ++ v) (lengths : s.length = u.length) :
    s = u ∧ t = v := by
  have lists := congrArg String.toList same
  rw [String.toList_append, String.toList_append] at lists
  have both := List.append_inj lists lengths
  exact ⟨String.toList_inj.mp both.1, String.toList_inj.mp both.2⟩

theorem append_inj_of_back {s t u v : String} (same : s ++ t = u ++ v)
    (lengths : t.length = v.length) : s = u ∧ t = v := by
  refine append_inj same ?_
  have both := congrArg String.length same
  rw [String.length_append, String.length_append] at both
  omega

end Text

namespace Instant

/-! ## Numbers and names in a text -/

theorem length_padded {width n : Nat} (wide : 0 < width) (fits : n < 10 ^ width) :
    (padded width n).length = width := by
  have short : (Nat.toDigits 10 n).length ≤ width :=
    (Nat.length_toDigits_le_iff (by decide) wide).mpr fits
  simp [padded, Nat.sub_add_cancel short]

/-- The number that the digits of a text stand for. -/
def numeral (s : String) : Nat :=
  Nat.ofDigitChars 10 (s.toList.filter Char.isDigit) 0

theorem toList_padded_filter (width n : Nat) :
    (padded width n).toList.filter Char.isDigit = (padded width n).toList := by
  rw [List.filter_eq_self]
  intro c there
  rw [padded, String.toList_ofList, List.mem_append, List.mem_replicate] at there
  rcases there with ⟨-, rfl⟩ | digit
  · rfl
  · exact Nat.isDigit_of_mem_toDigits (by decide) (by decide) digit

theorem numeral_padded (width n : Nat) : numeral (padded width n) = n := by
  rw [numeral, toList_padded_filter, padded, String.toList_ofList, Nat.ofDigitChars_append,
    Nat.ofDigitChars_replicate_zero, Nat.mul_zero, Nat.ofDigitChars_ten_toDigits]

theorem padded_injective (width : Nat) : Function.Injective (padded width) :=
  Function.LeftInverse.injective (numeral_padded width)

theorem numeral_append {s : String} (plain : s.toList.filter Char.isDigit = []) (t : String) :
    numeral (s ++ t) = numeral t := by
  rw [numeral, String.toList_append, List.filter_append, plain, List.nil_append, numeral]

/-- The year that a text stands for. -/
def yearOf (s : String) : Int :=
  if '-' ∈ s.toList then -numeral s else numeral s

theorem minus_not_mem_padded (width n : Nat) : '-' ∉ (padded width n).toList := by
  rw [← toList_padded_filter]
  simp

theorem yearOf_yearText (year : Int) : yearOf (yearText year) = year := by
  have unsigned := minus_not_mem_padded 4 year.natAbs
  unfold yearText
  split
  · have minus : '-' ∈ ("-" ++ padded 4 year.natAbs).toList := by simp
    rw [yearOf, if_pos minus, numeral_append rfl, numeral_padded]
    omega
  · split
    · rw [yearOf, if_neg unsigned, numeral_padded]
      omega
    · have plus : '-' ∉ ("+" ++ padded 4 year.natAbs).toList := by simpa using unsigned
      rw [yearOf, if_neg plus, numeral_append rfl, numeral_padded]
      omega

theorem yearText_injective : Function.Injective yearText :=
  Function.LeftInverse.injective yearOf_yearText

theorem length_monthName {month : Int} (low : 1 ≤ month) (high : month ≤ 12) :
    (monthName month).length = 3 := by
  interval_cases month <;> rfl

/-- The month that a text names. -/
def monthOf (name : String) : Int :=
  ((List.range 12).map fun passed : Nat => monthName (passed + 1)).idxOf name + 1

theorem monthOf_monthName {month : Int} (low : 1 ≤ month) (high : month ≤ 12) :
    monthOf (monthName month) = month := by
  interval_cases month <;> decide

theorem append_padded_inj {s t : String} {m n : Nat} (small : m < 100) (other_small : n < 100)
    (same : s ++ padded 2 m = t ++ padded 2 n) : s = t ∧ m = n := by
  have parts := Text.append_inj_of_back same (by
    rw [length_padded (by decide) small, length_padded (by decide) other_small])
  exact ⟨parts.1, padded_injective 2 parts.2⟩

/-! ## What a creation time tells of an instant -/

@[ext]
structure Reading where
  date : CivilDate
  hour : Nat
  minute : Nat
  second : Nat

def reading (now : Instant) : Reading where
  date := CivilDate.ofDays (now.seconds / 86400)
  hour := (now.seconds % 86400).toNat / 3600
  minute := (now.seconds % 86400).toNat / 60 % 60
  second := (now.seconds % 86400).toNat % 60 + now.nanos / 1000000000

def Reading.text (r : Reading) : String :=
  monthName r.date.month ++ " " ++ padded 2 r.date.day.toNat ++ " " ++ yearText r.date.year ++
    " " ++ padded 2 r.hour ++ ":" ++ padded 2 r.minute ++ ":" ++ padded 2 r.second

theorem stamp_eq (now : Instant) : now.stamp = now.reading.text := rfl

/-- A reading that an instant can have. -/
structure Reading.Proper (r : Reading) : Prop where
  date : r.date.Proper
  hour_lt : r.hour < 24
  minute_lt : r.minute < 60
  second_le : r.second ≤ 60

theorem proper_reading (now : Instant) : now.reading.Proper where
  date := CivilDate.proper_ofDays _
  hour_lt := by
    dsimp only [reading]
    omega
  minute_lt := Nat.mod_lt _ (by decide)
  second_le := by
    have := now.nanos_lt
    dsimp only [reading]
    omega

theorem Reading.Proper.day_small {r : Reading} (proper : r.Proper) : r.date.day.toNat < 100 := by
  have := proper.date.day_le
  omega

theorem Reading.Proper.length_front {r : Reading} (proper : r.Proper) :
    (monthName r.date.month ++ " " ++ padded 2 r.date.day.toNat ++ " ").length = 7 := by
  rw [String.length_append, String.length_append, String.length_append,
    length_monthName proper.date.month_pos proper.date.month_le,
    length_padded (by decide) proper.day_small]
  rfl

/-- The year is the only part whose width varies, so that the parts after it are found from the back
and those before it from the front. -/
theorem Reading.text_inj {r other : Reading} (proper : r.Proper) (other_proper : other.Proper)
    (same : r.text = other.text) : r = other := by
  obtain ⟨same, second⟩ := append_padded_inj (proper.second_le.trans_lt (by decide))
    (other_proper.second_le.trans_lt (by decide)) same
  obtain ⟨same, minute⟩ := append_padded_inj (proper.minute_lt.trans (by decide))
    (other_proper.minute_lt.trans (by decide)) (Text.append_inj_of_back same rfl).1
  obtain ⟨same, hour⟩ := append_padded_inj (proper.hour_lt.trans (by decide))
    (other_proper.hour_lt.trans (by decide)) (Text.append_inj_of_back same rfl).1
  obtain ⟨same, year⟩ := Text.append_inj (Text.append_inj_of_back same rfl).1
    (proper.length_front.trans other_proper.length_front.symm)
  obtain ⟨same, day⟩ := append_padded_inj proper.day_small other_proper.day_small
    (Text.append_inj_of_back same rfl).1
  have month := congrArg monthOf (Text.append_inj_of_back same rfl).1
  rw [monthOf_monthName proper.date.month_pos proper.date.month_le,
    monthOf_monthName other_proper.date.month_pos other_proper.date.month_le] at month
  have day : r.date.day = other.date.day := by
    have := proper.date.day_pos
    have := other_proper.date.day_pos
    omega
  have date : r.date = other.date := CivilDate.ext (yearText_injective year) month day
  exact Reading.ext date hour minute second

/-! ## Equal creation times -/

/-- Two instants are in the same second. A leap second is not the second that it follows. -/
structure SameSecond (first second : Instant) : Prop where
  seconds : first.seconds = second.seconds
  leap : 1000000000 ≤ first.nanos ↔ 1000000000 ≤ second.nanos

/-- The second of the minute decides whether it is a leap second, as it is over 59 just then. -/
theorem reading_eq_iff {first second : Instant} :
    first.reading = second.reading ↔ SameSecond first second := by
  have first_nanos := first.nanos_lt
  have second_nanos := second.nanos_lt
  constructor
  · intro same
    have day := CivilDate.ofDays_injective (congrArg Reading.date same)
    have hour := congrArg Reading.hour same
    have minute := congrArg Reading.minute same
    have inMinute := congrArg Reading.second same
    dsimp only [reading] at hour minute inMinute
    have first_leap := first.leap
    have second_leap := second.leap
    constructor <;> omega
  · rintro ⟨seconds, leap⟩
    have fraction : first.nanos / 1000000000 = second.nanos / 1000000000 := by omega
    rw [reading, reading, seconds, fraction]

theorem stamp_eq_iff {first second : Instant} :
    first.stamp = second.stamp ↔ SameSecond first second := by
  rw [← reading_eq_iff, stamp_eq, stamp_eq]
  exact ⟨Reading.text_inj (proper_reading first) (proper_reading second), congrArg Reading.text⟩

end Instant
end Roster
