/-! # Signed spans of time

A span is a whole number of nanoseconds.  Its written form is a pair of whole seconds and
remaining nanoseconds that never disagree in sign; the second count fits a signed 64-bit word.
-/

namespace BearerTokens

structure Duration where
  nanos : Int
deriving DecidableEq, Inhabited

namespace Duration

abbrev nanosPerSecond : Int := 1000000000

def zero : Duration := ⟨0⟩

def ofSeconds (s : Int) : Duration := ⟨s * nanosPerSecond⟩

def ofMillis (ms : Int) : Duration := ⟨ms * 1000000⟩

/-- The longest span that has a written form. -/
def longest : Int := 9223372036854775807 * nanosPerSecond + 999999999

def shortest : Int := -9223372036854775808 * nanosPerSecond - 999999999

/-- The span of `s` seconds and `ns` nanoseconds, whose signs may differ; nothing when it has no
written form. -/
def ofParts? (s ns : Int) : Option Duration :=
  let total := s * nanosPerSecond + ns
  if shortest ≤ total ∧ total ≤ longest then some ⟨total⟩ else none

def seconds (d : Duration) : Int := d.nanos.tdiv nanosPerSecond

def subsecond (d : Duration) : Int := d.nanos.tmod nanosPerSecond

def clamp (d : Duration) : Duration := ⟨max d.nanos 0⟩

/-- Whole milliseconds of the span's size, rounded up. -/
def sizeMillis (d : Duration) : Nat := (d.nanos.natAbs + 999999) / 1000000

theorem clamp_nanos_nonneg (d : Duration) : 0 ≤ d.clamp.nanos := by
  simp only [clamp]; omega

end Duration

end BearerTokens
