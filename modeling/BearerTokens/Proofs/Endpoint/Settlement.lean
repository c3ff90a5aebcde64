import BearerTokens.Proofs.Endpoint.Bodies
import BearerTokens.Proofs.Endpoint.Content
import BearerTokens.Proofs.Time.Instant

/-! # How a delivery settles

A delivery settles in one way: the first stage of the exchange that fails gives the fault, and a token is issued when
none does.  Its lifetime is a count of seconds that fits a signed word, and its expiry is within the calendar.
-/

namespace BearerTokens

/-- Whole seconds that fit a signed word have a written form. -/
theorem Duration.ofParts?_seconds {e : Nat} (he : e < 2 ^ 63) :
    Duration.ofParts? e 0 = some (.ofSeconds e) := by
  have hrange : Duration.shortest ≤ e * nanosPerSecond + 0 ∧
      e * nanosPerSecond + 0 ≤ Duration.longest := by
    simp only [Duration.shortest, Duration.longest, nanosPerSecond]
    omega
  rw [ofParts?, if_pos hrange, Int.add_zero]
  rfl

namespace Endpoint

variable {r : Http.Response} {now : Instant} {d : Http.Delivery} {a : Answer} {token : String}
  {lifetime : Option Nat} {e : Nat}

def Mistyped (r : Http.Response) (value : String) : Prop :=
  r.headers.first? "content-type" = some value ∧
    ¬ (Http.isReadable value = true ∧ jsonType.toList <+: value.toLower.toList)

structure Replies (r : Http.Response) (token : String) (lifetime : Option Nat) : Prop where
  status : r.status = 200
  typed : ∀ value, ¬ Mistyped r value
  filled : r.body ≠ ""
  grants : Grants r.body token lifetime

def lapse (now : Instant) (seconds : Nat) : Instant :=
  ⟨now.nanos + seconds * Duration.nanosPerSecond⟩

/-- The answer for a delivery, by the first stage that fails. -/
inductive Settles (now : Instant) : Http.Delivery → Answer → Prop where
  | undelivered (fault : TransportFault) : Settles now (.error fault) (.error (.transport fault))
  | unexplained {r : Http.Response} (hs : r.status ≠ 200) (hb : r.body = "") :
      Settles now (.ok r) (.error (.unexpected "server returned empty error response"))
  | refused {r : Http.Response} {reason : String} (hs : r.status ≠ 200) (hb : r.body ≠ "")
      (hr : Refuses r.body reason) : Settles now (.ok r) (.error (.rejected reason))
  | refusalGarbled {r : Http.Response} (hs : r.status ≠ 200) (hb : r.body ≠ "")
      (hr : ∀ reason, ¬ Refuses r.body reason) : Settles now (.ok r) (.error .malformed)
  | mistyped {r : Http.Response} {value : String} (hs : r.status = 200) (ht : Mistyped r value) :
      Settles now (.ok r) (.error (.unexpected ("unexpected response Content-Type: " ++
        shownValue value ++ ", should be `" ++ jsonType ++ "`")))
  | empty {r : Http.Response} (hs : r.status = 200) (ht : ∀ value, ¬ Mistyped r value)
      (hb : r.body = "") :
      Settles now (.ok r) (.error (.unexpected "server returned empty response body"))
  | garbled {r : Http.Response} (hs : r.status = 200) (ht : ∀ value, ¬ Mistyped r value)
      (hb : r.body ≠ "") (hg : ∀ token lifetime, ¬ Grants r.body token lifetime) :
      Settles now (.ok r) (.error .malformed)
  | unlimited {r : Http.Response} {token : String} (hr : Replies r token none) :
      Settles now (.ok r) (.error (.config .lifetimeMissing))
  | overlong {r : Http.Response} {token : String} {e : Nat} (hr : Replies r token (some e))
      (he : 2 ^ 63 ≤ e) : Settles now (.ok r) (.error (.config .lifetimeTooLong))
  | beyond {r : Http.Response} {token : String} {e : Nat} (hr : Replies r token (some e))
      (he : 1 ≤ e) (hx : ¬ (lapse now e).Representable) :
      Settles now (.ok r) (.error (.config .lifetimeTooLong))
  | momentary {r : Http.Response} {token : String} (hr : Replies r token (some 0)) :
      Settles now (.ok r) (.error (.config .lifetimeNotPositive))
  | issued {r : Http.Response} {token : String} {e : Nat} (hr : Replies r token (some e))
      (he : 1 ≤ e) (hm : e < 2 ^ 63) (hx : (lapse now e).Representable) :
      Settles now (.ok r) (.ok (Token.ofText token (lapse now e)))

theorem wrongType?_eq_some_iff {value : String} : wrongType? r = some value ↔ Mistyped r value := by
  unfold wrongType? Mistyped
  cases r.headers.first? "content-type" with
  | none => simp
  | some v =>
    simp only [Bool.and_eq_true, List.isPrefixOf_iff_prefix, Option.some.injEq]
    constructor
    · intro h
      split at h
      next => cases h
      next hn => cases h; exact ⟨rfl, hn⟩
    · rintro ⟨rfl, hn⟩
      exact if_neg hn

theorem wrongType?_eq_none_iff : wrongType? r = none ↔ ∀ value, ¬ Mistyped r value := by
  simp only [← wrongType?_eq_some_iff, Option.eq_none_iff_forall_ne_some, ne_eq]

theorem tokenAt_settles (hr : Replies r token lifetime) :
    Settles now (.ok r) (tokenAt ⟨token, lifetime⟩ now) := by
  cases lifetime with
  | none => exact .unlimited hr
  | some e =>
    simp only [tokenAt]
    split
    next hlong => exact .overlong hr hlong
    next hlong =>
      split
      next hzero =>
        subst hzero
        exact .momentary hr
      next hzero =>
        have hpos : 1 ≤ e := Nat.one_le_iff_ne_zero.mpr hzero
        split
        next expiry hafter =>
          obtain ⟨rfl, hrep⟩ := Instant.after?_eq_some_iff.mp hafter
          exact .issued hr hpos (Nat.not_le.mp hlong) hrep
        next hafter => exact .beyond hr hpos (Instant.after?_eq_none_iff.mp hafter)

theorem answer_settles (d : Http.Delivery) (now : Instant) : Settles now d (answer d now) := by
  cases d with
  | error fault => exact .undelivered fault
  | ok r =>
    simp only [answer, answerOf]
    split
    next hs =>
      split
      next hb => exact .unexplained hs (by simpa using hb)
      next hb =>
        have hb : r.body ≠ "" := by simpa using hb
        split
        next reason hr => exact .refused hs hb (refusal?_eq_some_iff.mp hr)
        next hr =>
          refine .refusalGarbled hs hb fun reason hn => ?_
          rw [refusal?_eq_some_iff.mpr hn] at hr
          cases hr
    next hs =>
      have hs : r.status = 200 := by omega
      split
      next value ht => exact .mistyped hs (wrongType?_eq_some_iff.mp ht)
      next ht =>
        have ht := wrongType?_eq_none_iff.mp ht
        split
        next hb => exact .empty hs ht (by simpa using hb)
        next hb =>
          have hb : r.body ≠ "" := by simpa using hb
          split
          next g hg => exact tokenAt_settles ⟨hs, ht, hb, grant?_eq_some_iff.mp hg⟩
          next hg =>
            refine .garbled hs ht hb fun token lifetime hn => ?_
            rw [grant?_eq_some_iff (g := ⟨token, lifetime⟩).mpr hn] at hg
            cases hg

theorem Replies.answerOf_eq (hr : Replies r token lifetime) :
    answerOf r now = tokenAt ⟨token, lifetime⟩ now := by
  have hgrant := grant?_eq_some_iff (g := ⟨token, lifetime⟩).mpr hr.grants
  simp [answerOf, hr.status, wrongType?_eq_none_iff.mpr hr.typed, hr.filled, hgrant]

/-- No two stages claim one delivery. -/
theorem Settles.eq_answer (h : Settles now d a) : answer d now = a := by
  cases h with
  | undelivered fault => rfl
  | unexplained hs hb => simp [answer, answerOf, hs, hb]
  | refused hs hb hr => simp [answer, answerOf, hs, hb, refusal?_eq_some_iff.mpr hr]
  | refusalGarbled hs hb hr =>
    have hnone := Option.eq_none_iff_forall_ne_some.mpr fun s h => hr s (refusal?_eq_some_iff.mp h)
    simp [answer, answerOf, hs, hb, hnone]
  | mistyped hs ht => simp [answer, answerOf, hs, wrongType?_eq_some_iff.mpr ht]
  | empty hs ht hb => simp [answer, answerOf, hs, hb, wrongType?_eq_none_iff.mpr ht]
  | garbled hs ht hb hg =>
    have hnone := Option.eq_none_iff_forall_ne_some.mpr
      fun g h => hg g.token g.lifetime (grant?_eq_some_iff.mp h)
    simp [answer, answerOf, hs, hb, wrongType?_eq_none_iff.mpr ht, hnone]
  | unlimited hr => exact hr.answerOf_eq
  | overlong hr he => exact hr.answerOf_eq.trans (if_pos he)
  | @beyond r token e hr he hx =>
    apply hr.answerOf_eq.trans
    have hafter : now.after? (.ofSeconds e) = none := Instant.after?_eq_none_iff.mpr hx
    simp [tokenAt, hafter, Nat.ne_of_gt he]
  | momentary hr => exact hr.answerOf_eq
  | @issued r token e hr he hm hx =>
    apply hr.answerOf_eq.trans
    have hafter : now.after? (.ofSeconds e) = some (lapse now e) :=
      Instant.after?_eq_some_iff.mpr ⟨rfl, hx⟩
    have hlong : ¬ UInt64.size / 2 ≤ e := Nat.not_le.mpr hm
    simp [tokenAt, hafter, Nat.ne_of_gt he, hlong]

theorem answer_eq_iff : answer d now = a ↔ Settles now d a := by
  constructor
  · rintro rfl
    exact answer_settles d now
  · exact Settles.eq_answer

theorem lt_lapse (he : 1 ≤ e) : now < lapse now e := by
  rw [Instant.lt_iff]
  simp only [lapse, Duration.nanosPerSecond]
  omega

theorem Grants.lt_size {body : String} (h : Grants body token (some e)) : e < 2 ^ 64 := by
  obtain ⟨_, _, _, _, _, _, _, -, -, -, -, ⟨-, hlifetime⟩, -, -⟩ := h
  cases hlifetime with
  | value _ hword =>
    obtain ⟨_, -, -, -, -, hsize⟩ := hword
    exact hsize

/-- A reply whose members are out of order and of which one is unknown, with more behind it. -/
def bearerReply : Http.Response where
  headers := [("content-type", "Application/JSON; charset=utf-8")]
  body := " \x7b\"expires_in\":3600,\"ext\":[1],\"token_type\":\"b\",\"access_token\":\"t k\"\x7d?"

end Endpoint

end BearerTokens
