import BearerTokens.Proofs.Json.Record
import BearerTokens.Timing

/-! # Which settings there are

Settings begin as the defaults or as what a text says, and then either span may be set, any number of times.  A span
that was ever set is not negative.  Neither is a default one, so only a text can bring a negative span, and it lasts
until the span is set.
-/

namespace BearerTokens.Timing

open Json

variable {t : Timing} {v : Json} {d : Duration} {text : String}

inductive Edit where
  | lead (d : Duration)
  | retry (d : Duration)

def Edit.apply : Edit → Timing → Timing
  | .lead d, t => t.withLead d
  | .retry d, t => t.withRetry d

def revise (t : Timing) (edits : List Edit) : Timing := edits.foldl (fun t e => e.apply t) t

@[simp] theorem revise_nil (t : Timing) : t.revise [] = t := rfl

@[simp] theorem revise_cons (t : Timing) (e : Edit) (edits : List Edit) :
    t.revise (e :: edits) = (e.apply t).revise edits := rfl

/-- A span is not negative when it was not so at first, or when it was ever set. -/
theorem lead_revise_nonneg_iff (t : Timing) (edits : List Edit) :
    0 ≤ (t.revise edits).lead.nanos ↔ 0 ≤ t.lead.nanos ∨ ∃ d, .lead d ∈ edits := by
  induction edits generalizing t with
  | nil => simp
  | cons e edits ih =>
    rw [revise_cons, ih]
    cases e with
    | lead d => exact iff_of_true (.inl d.clamp_nanos_nonneg) (.inr ⟨d, List.mem_cons_self⟩)
    | retry d => simp [Edit.apply, withRetry]

theorem retry_revise_nonneg_iff (t : Timing) (edits : List Edit) :
    0 ≤ (t.revise edits).retry.nanos ↔ 0 ≤ t.retry.nanos ∨ ∃ d, .retry d ∈ edits := by
  induction edits generalizing t with
  | nil => simp
  | cons e edits ih =>
    rw [revise_cons, ih]
    cases e with
    | lead d => simp [Edit.apply, withLead]
    | retry d => exact iff_of_true (.inl d.clamp_nanos_nonneg) (.inr ⟨d, List.mem_cons_self⟩)

def Nonneg (t : Timing) : Prop := 0 ≤ t.lead.nanos ∧ 0 ≤ t.retry.nanos

theorem nonneg_default : Nonneg {} := by
  constructor <;> decide

theorem Nonneg.revise (ht : t.Nonneg) (edits : List Edit) : (t.revise edits).Nonneg :=
  ⟨(lead_revise_nonneg_iff t edits).mpr (.inl ht.1), (retry_revise_nonneg_iff t edits).mpr (.inl ht.2)⟩

/-! ## Settings from a text -/

/-- The value is an array of whole seconds and nanoseconds that add up to the span.  Their signs may differ, and both
may be negative. -/
def IsSpan (v : Json) (d : Duration) : Prop := ∃ seconds nanos s ns,
  v = .array [seconds, nanos] ∧ seconds.int? = some s ∧ nanos.int? = some ns ∧
    Int64.minValue.toInt ≤ s ∧ s ≤ Int64.maxValue.toInt ∧ -999999999 ≤ ns ∧ ns ≤ 999999999 ∧
      d = ⟨s * Duration.nanosPerSecond + ns⟩

/-- Such seconds and nanoseconds always add up to a span that has a written form. -/
theorem ofParts?_eq_some {s ns : Int} (hs : Int64.minValue.toInt ≤ s ∧ s ≤ Int64.maxValue.toInt)
    (hns : -999999999 ≤ ns ∧ ns ≤ 999999999) :
    Duration.ofParts? s ns = some ⟨s * Duration.nanosPerSecond + ns⟩ := by
  have hmin : Int64.minValue.toInt = -9223372036854775808 := rfl
  have hmax : Int64.maxValue.toInt = 9223372036854775807 := rfl
  refine if_pos ?_
  simp only [Duration.shortest, Duration.longest, Duration.nanosPerSecond]
  omega

theorem mapM_int?_eq_some_iff {items : List Json} {ns : List Int} :
    items.mapM int? = some ns ↔ List.Forall₂ (fun a n => a.int? = some n) items ns :=
  mapM_eq_some_iff fun _ _ => Iff.rfl

theorem duration?_eq_some_iff : duration? v = some d ↔ IsSpan v d := by
  constructor
  · intro h
    obtain ⟨items, hitems, h⟩ := Option.bind_eq_some_iff.mp h
    obtain ⟨row, hrow, h⟩ := Option.bind_eq_some_iff.mp h
    have hparts := mapM_int?_eq_some_iff.mp hrow
    split at h
    next s ns =>
      split at h
      next hrange =>
        obtain ⟨hs, hs', hns, hns'⟩ := hrange
        rw [ofParts?_eq_some ⟨hs, hs'⟩ ⟨hns, hns'⟩] at h
        cases h
        cases v with
        | array vs =>
          cases hitems
          cases hparts with
          | @cons seconds _ _ _ hseconds hrest =>
            cases hrest with
            | @cons nanos _ _ _ hnanos hnil =>
              cases hnil
              exact ⟨seconds, nanos, s, ns, rfl, hseconds, hnanos, hs, hs', hns, hns', rfl⟩
        | null | bool | number | string | object => cases hitems
      next => cases h
    next => cases h
  · rintro ⟨seconds, nanos, s, ns, rfl, hseconds, hnanos, hs, hs', hns, hns', rfl⟩
    have hrow : [seconds, nanos].mapM int? = some [s, ns] :=
      mapM_int?_eq_some_iff.mpr (.cons hseconds (.cons hnanos .nil))
    simp only [duration?, items?, bind, Option.bind, hrow]
    rw [if_pos ⟨hs, hs', hns, hns'⟩]
    exact ofParts?_eq_some ⟨hs, hs'⟩ ⟨hns, hns'⟩

def Records (t : Timing) (v : Json) : Prop := ∃ lead retry,
  Fields fieldNames v [some lead, some retry] ∧ IsSpan lead t.lead ∧ IsSpan retry t.retry

theorem ofJson?_eq_some_iff : ofJson? v = some t ↔ Records t v := by
  constructor
  · intro h
    obtain ⟨fields, hfields, h⟩ := Option.bind_eq_some_iff.mp h
    split at h
    next lead retry =>
      obtain ⟨lead', hlead, h⟩ := Option.bind_eq_some_iff.mp h
      obtain ⟨retry', hretry, h⟩ := Option.bind_eq_some_iff.mp h
      cases h
      exact ⟨lead, retry, fields?_eq_some_iff.mp hfields, duration?_eq_some_iff.mp hlead,
        duration?_eq_some_iff.mp hretry⟩
    next => cases h
  · rintro ⟨lead, retry, hfields, hlead, hretry⟩
    simp [ofJson?, fields?_eq_some_iff.mpr hfields, duration?_eq_some_iff.mpr hlead,
      duration?_eq_some_iff.mpr hretry]

theorem read?_eq_some_iff : read? text = some t ↔ ∃ v, Json.read? text = some v ∧ Records t v := by
  simp only [read?, Option.bind_eq_some_iff, ofJson?_eq_some_iff]

end BearerTokens.Timing
