import Roster.Settings

/-!
How long a connection waits for a lock, by the span that the settings were given.

A span of more than 64 bits of milliseconds is cut to the greatest number of 64 bits. The database
takes no more than 31 bits, and what is beyond them it takes for no waiting at all. So a longer span
is waited for at least as long while it fits into 31 bits, and not at all from there on.
-/

namespace Roster

namespace Span

/-- The length of a span. -/
def nanoseconds (span : Span) : Nat :=
  span.seconds * 1000000000 + span.nanos

/-- Spans are compared by their lengths. -/
instance : LE Span := ⟨fun shorter longer => shorter.nanoseconds ≤ longer.nanoseconds⟩

instance (shorter longer : Span) : Decidable (shorter ≤ longer) :=
  inferInstanceAs (Decidable (shorter.nanoseconds ≤ longer.nanoseconds))

def millisecond : Span := ⟨0, 1000000⟩

theorem milliseconds_eq (span : Span) : span.milliseconds = span.nanoseconds / 1000000 := by
  unfold milliseconds nanoseconds
  omega

theorem milliseconds_le {shorter longer : Span} (ordered : shorter ≤ longer) :
    shorter.milliseconds ≤ longer.milliseconds := by
  rw [milliseconds_eq, milliseconds_eq]
  exact Nat.div_le_div_right ordered

theorem millisecond_le_iff (span : Span) : millisecond ≤ span ↔ span.milliseconds ≠ 0 := by
  rw [milliseconds_eq]
  change 1000000 ≤ span.nanoseconds ↔ _
  omega

end Span

namespace Settings

/-- How long a connection waits if the settings were given this span. -/
def waits (settings : Settings) (span : Span) : Nat :=
  (settings.withBusyTimeout span).busyTimeoutInForce

theorem busyTimeoutMs_withBusyTimeout (settings : Settings) (span : Span) :
    (settings.withBusyTimeout span).busyTimeoutMs.toNat =
      min span.milliseconds (UInt64.size - 1) := by
  have fits : min span.milliseconds (UInt64.size - 1) < UInt64.size :=
    Nat.lt_of_le_of_lt (Nat.min_le_right _ _) (by decide)
  exact UInt64.toNat_ofNat_of_lt' fits

/-- The 64 bits of the settings are never what matters. -/
theorem waits_eq (settings : Settings) (span : Span) :
    settings.waits span =
      if span.milliseconds ≤ greatestTimeout then span.milliseconds else 0 := by
  have below : greatestTimeout < UInt64.size - 1 := by decide
  rw [waits, busyTimeoutInForce, busyTimeoutMs_withBusyTimeout]
  split
  next fits => rw [if_pos (by omega), Nat.min_eq_left (by omega)]
  next great => rw [if_neg (by omega)]

theorem waits_of_le (settings : Settings) {span : Span}
    (fits : span.milliseconds ≤ greatestTimeout) : settings.waits span = span.milliseconds := by
  rw [waits_eq, if_pos fits]

theorem waits_eq_zero_iff (settings : Settings) (span : Span) :
    settings.waits span = 0 ↔ span.milliseconds = 0 ∨ greatestTimeout < span.milliseconds := by
  rw [waits_eq]
  split
  next fits => exact (or_iff_left (Nat.not_lt.mpr fits)).symm
  next great => exact iff_of_true rfl (.inr (Nat.lt_of_not_le great))

/-- What is waited for a span, and for one that is not longer. -/
structure Waiting (settings : Settings) (shorter longer : Span) : Prop where
  inForce : settings.waits longer =
    if longer.milliseconds ≤ greatestTimeout then longer.milliseconds else 0
  ordered : settings.waits shorter ≤ settings.waits longer ↔
    longer.milliseconds ≤ greatestTimeout ∨ settings.waits shorter = 0
  positive : Span.millisecond ≤ longer →
    (settings.waits longer ≠ 0 ↔ longer.milliseconds ≤ greatestTimeout)

theorem waiting_by_length (settings : Settings) {shorter longer : Span}
    (ordered : shorter ≤ longer) : Waiting settings shorter longer where
  inForce := waits_eq settings longer
  ordered := by
    have lengths := Span.milliseconds_le ordered
    by_cases fits : longer.milliseconds ≤ greatestTimeout
    · have whole : settings.waits shorter ≤ settings.waits longer := calc
        settings.waits shorter
        _ = shorter.milliseconds := waits_of_le settings (Nat.le_trans lengths fits)
        _ ≤ longer.milliseconds := lengths
        _ = settings.waits longer := (waits_of_le settings fits).symm
      exact iff_of_true whole (.inl fits)
    · have none_left : settings.waits longer = 0 := by rw [waits_eq, if_neg fits]
      rw [none_left, Nat.le_zero, or_iff_right fits]
  positive some_length := by
    have counted := (Span.millisecond_le_iff longer).mp some_length
    rw [Ne, waits_eq_zero_iff, or_iff_right counted, Nat.not_lt]

/-- Up to the last millisecond that fits. -/
theorem longest_span_waited :
    let seconds : Span := ⟨5, 0⟩
    let longest : Span := ⟨2147483, 647999999⟩
    seconds ≤ longest ∧ ({} : Settings).waits seconds = 5000 ∧
      ({} : Settings).waits longest = 2147483647 ∧
      ({} : Settings).waits seconds ≤ ({} : Settings).waits longest := by
  intro seconds longest
  have ordered : seconds ≤ longest := by decide
  have waiting := waiting_by_length {} ordered
  exact ⟨ordered, by decide, waiting.inForce.trans (by decide),
    waiting.ordered.mpr (.inl (by decide))⟩

/-- Who asks for a month waits less than who asks for a week, and does not wait at all. -/
theorem month_not_waited :
    let week : Span := ⟨604800, 0⟩
    let month : Span := ⟨2592000, 0⟩
    week ≤ month ∧ ¬({} : Settings).waits week ≤ ({} : Settings).waits month ∧
      Span.millisecond ≤ month ∧ ({} : Settings).waits month = 0 := by
  decide

end Settings

end Roster
