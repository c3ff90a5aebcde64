import BearerTokens.Time.Calendar
import BearerTokens.Time.Duration

/-! # Instants and time stamps

An instant counts nanoseconds from the start of 1970.  Arithmetic on instants stays within the
years -9999 to 9999 and answers nothing beyond them.  A time stamp is an instant as seen in a
place with a fixed offset from universal time.
-/

namespace BearerTokens

structure Instant where
  nanos : Int
deriving DecidableEq, Inhabited

namespace Instant

instance : LE Instant := ⟨fun a b => a.nanos ≤ b.nanos⟩
instance : LT Instant := ⟨fun a b => a.nanos < b.nanos⟩
instance (a b : Instant) : Decidable (a ≤ b) := inferInstanceAs (Decidable (a.nanos ≤ b.nanos))
instance (a b : Instant) : Decidable (a < b) := inferInstanceAs (Decidable (a.nanos < b.nanos))

theorem le_iff {a b : Instant} : a ≤ b ↔ a.nanos ≤ b.nanos := Iff.rfl
theorem lt_iff {a b : Instant} : a < b ↔ a.nanos < b.nanos := Iff.rfl

theorem not_le {a b : Instant} : ¬ a ≤ b ↔ b < a := Int.not_le

/-- The first nanosecond of the year -9999. -/
def first : Instant := ⟨-377705116800000000000⟩

/-- The last nanosecond of the year 9999. -/
def last : Instant := ⟨253402300799999999999⟩

def Representable (i : Instant) : Prop := first ≤ i ∧ i ≤ last

instance (i : Instant) : Decidable i.Representable := inferInstanceAs (Decidable (_ ∧ _))

def after? (i : Instant) (d : Duration) : Option Instant :=
  let j : Instant := ⟨i.nanos + d.nanos⟩
  if j.Representable then some j else none

def before? (i : Instant) (d : Duration) : Option Instant :=
  let j : Instant := ⟨i.nanos - d.nanos⟩
  if j.Representable then some j else none

def ofNanos? (n : Int) : Option Instant :=
  if (⟨n⟩ : Instant).Representable then some ⟨n⟩ else none

end Instant

/-- Difference from universal time, in seconds. -/
abbrev Offset := Int

/-- An instant as written in a place with a fixed offset. -/
structure Timestamp where
  instant : Instant
  offset : Offset := 0
deriving DecidableEq, Inhabited

namespace Timestamp

structure Reading where
  /-- Day counted from 1 January of year 0. -/
  day : Int
  hour : Int
  minute : Int
  second : Int
  nanosecond : Int

def reading (t : Timestamp) : Reading :=
  let total := t.instant.nanos + t.offset * Duration.nanosPerSecond
  let seconds := total.fdiv Duration.nanosPerSecond
  let inDay := seconds.fmod 86400
  { day := seconds.fdiv 86400 + Calendar.epoch
    hour := inDay / 3600
    minute := inDay / 60 % 60
    second := inDay % 60
    nanosecond := total.fmod Duration.nanosPerSecond }

/-- Hours, minutes and seconds of the offset, none of another sign than the offset itself. -/
def offsetParts (t : Timestamp) : Int × Int × Int :=
  (t.offset.tdiv 3600, (t.offset.tdiv 60).tmod 60, t.offset.tmod 60)

/-- The nine integers of a written time stamp: year, day of the year, hour, minute, second,
nanosecond, and the three parts of the offset. -/
def parts (t : Timestamp) : List Int :=
  let r := t.reading
  let (y, ordinal) := Calendar.ordinalDate r.day
  let (oh, om, os) := t.offsetParts
  [y, ordinal, r.hour, r.minute, r.second, r.nanosecond, oh, om, os]

/-- The offset of three written parts.  The most significant one that is not zero gives its sign
to those below it. -/
def offsetOfParts (h m s : Int) : Offset :=
  let lead := if h ≠ 0 then h else if m ≠ 0 then m else s
  let sign : Int := if lead < 0 then -1 else 1
  sign * ((h.natAbs : Int) * 3600 + (m.natAbs : Int) * 60 + (s.natAbs : Int))

def partsInRange : List Int → Bool
  | [y, d, h, m, s, ns, oh, om, os] =>
    -9999 ≤ y && y ≤ 9999 && 1 ≤ d && d ≤ Calendar.daysIn y && 0 ≤ h && h ≤ 23 &&
      0 ≤ m && m ≤ 59 && 0 ≤ s && s ≤ 59 && 0 ≤ ns && ns ≤ 999999999 &&
      -25 ≤ oh && oh ≤ 25 && -59 ≤ om && om ≤ 59 && -59 ≤ os && os ≤ 59
  | _ => false

def ofParts? (ps : List Int) : Option Timestamp :=
  match ps with
  | [y, d, h, m, s, ns, oh, om, os] =>
    if partsInRange ps then
      let offset := offsetOfParts oh om os
      let day := Calendar.daysBefore y + d - 1 - Calendar.epoch
      let seconds := day * 86400 + h * 3600 + m * 60 + s - offset
      some ⟨⟨seconds * Duration.nanosPerSecond + ns⟩, offset⟩
    else none
  | _ => none

def padded (width : Nat) (n : Nat) : String :=
  let digits := toString n
  "".pushn '0' (width - digits.length) ++ digits

/-- Fraction of a second: nine digits without the zeros at the end, but never empty. -/
def fractionText (nanosecond : Nat) : String :=
  let digits := ((padded 9 nanosecond).toList.reverse.dropWhile (· == '0')).reverse
  if digits.isEmpty then "0" else String.ofList digits

/-- Reads as `2025-01-01 0:05:00.0 +00:00:00`. -/
def text (t : Timestamp) : String :=
  let r := t.reading
  let (y, m, d) := Calendar.civilDate r.day
  let (oh, om, os) := t.offsetParts
  let year := (if y < 0 then "-" else "") ++ padded 4 y.natAbs
  let sign := if t.offset < 0 then "-" else "+"
  year ++ "-" ++ padded 2 m.toNat ++ "-" ++ padded 2 d.toNat ++ " " ++
    toString r.hour.toNat ++ ":" ++ padded 2 r.minute.toNat ++ ":" ++ padded 2 r.second.toNat ++
    "." ++ fractionText r.nanosecond.toNat ++ " " ++ sign ++
    padded 2 oh.natAbs ++ ":" ++ padded 2 om.natAbs ++ ":" ++ padded 2 os.natAbs

end Timestamp

end BearerTokens
