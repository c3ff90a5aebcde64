import BearerTokens.Time.Instant

/-! # Sums that stay within the calendar

A span is added to an instant, or taken from it, only when the sum lies within the calendar.  With a span that is not
negative it can lie beyond one end alone.
-/

namespace BearerTokens.Instant

variable {i j : Instant} {d : Duration}

theorem after?_eq_some_iff : i.after? d = some j ↔ j = ⟨i.nanos + d.nanos⟩ ∧ j.Representable := by
  simp only [after?]
  constructor
  · intro h
    split at h
    next hr => cases h; exact ⟨rfl, hr⟩
    next => cases h
  · rintro ⟨rfl, hr⟩
    exact if_pos hr

theorem after?_eq_none_iff : i.after? d = none ↔ ¬ Representable ⟨i.nanos + d.nanos⟩ := by
  simp [after?]

/-- To take a span away is to add its opposite. -/
theorem before?_eq_after? (i : Instant) (d : Duration) : i.before? d = i.after? ⟨-d.nanos⟩ := rfl

theorem before?_eq_some_iff : i.before? d = some j ↔ j = ⟨i.nanos - d.nanos⟩ ∧ j.Representable :=
  before?_eq_after? i d ▸ after?_eq_some_iff

theorem after?_eq_none_iff_last_lt (hi : first ≤ i) (hd : 0 ≤ d.nanos) :
    i.after? d = none ↔ last.nanos < i.nanos + d.nanos := by
  rw [le_iff] at hi
  rw [after?_eq_none_iff]
  simp only [Representable, le_iff]
  omega

theorem before?_eq_none_iff_lt_first (hi : i ≤ last) (hd : 0 ≤ d.nanos) :
    i.before? d = none ↔ i.nanos - d.nanos < first.nanos := by
  rw [le_iff] at hi
  rw [before?_eq_after?, after?_eq_none_iff]
  simp only [Representable, le_iff]
  omega

/-- No time is left out of the calendar by waiting for none. -/
theorem after?_zero (hi : i.Representable) : i.after? .zero = some i :=
  after?_eq_some_iff.mpr ⟨by simp [Duration.zero], hi⟩

end BearerTokens.Instant
