import BearerTokens.Endpoint.Reply
import BearerTokens.Proofs.Json.Record

/-! # Bodies of token and error replies

What a body says is described without its reader.  It is that of the value the body begins with, whatever
follows; a token reply is an object, an error reply may also be an array.
-/

namespace BearerTokens.Endpoint

open Json (Field Fields IsText Maybe)

variable {body token reason : String} {lifetime : Option Nat} {v : Json} {n : Nat}

/-- The value is a natural number that fits a word, written without sign, fraction and exponent. -/
def IsWord (v : Json) (n : Nat) : Prop := ∃ written : Numeral, v = .number written ∧
  written.plain = true ∧ written.negative = false ∧ written.digits = n ∧ n < UInt64.size

theorem word?_number (w : Numeral) : word? (.number w) =
    if w.plain = true ∧ w.negative = false ∧ w.digits < UInt64.size then some w.digits else none := by
  obtain ⟨negative, digits, places, exponent, plain⟩ := w
  cases plain with
  | false => simp [word?, Json.int?, Numeral.int?]
  | true =>
    cases negative with
    | false => by_cases hd : digits < UInt64.size <;> simp [word?, Json.int?, Numeral.int?, hd]
    | true =>
      -- The negative of a count that is not zero is no natural number.
      by_cases hd : 0 < digits ∧ digits ≤ UInt64.size / 2
      · simp [word?, Json.int?, Numeral.int?, hd, Nat.ne_of_gt hd.1]
      · simp [word?, Json.int?, Numeral.int?, hd]

theorem word?_eq_some_iff : word? v = some n ↔ IsWord v n := by
  cases v with
  | number w =>
    rw [word?_number]
    constructor
    · intro h
      split at h
      next hw =>
        cases h
        exact ⟨w, rfl, hw.1, hw.2.1, rfl, hw.2.2⟩
      next => cases h
    · rintro ⟨_, ⟨⟩, hplain, hsign, rfl, hsize⟩
      exact if_pos ⟨hplain, hsign, hsize⟩
  | null | bool | string | array | object => simp [word?, Json.int?, IsWord]

def Grants (body token : String) (lifetime : Option Nat) : Prop :=
  ∃ members kind expiresIn refresh scope, ∃ refresh' scope' : Option String,
    Json.readFirst? body = some (.object members) ∧
    (Json.object members).isSound Json.maxDepth = true ∧
    Field "access_token" members (some (.text token)) ∧
    Field "token_type" members (some (.text kind)) ∧
    (Field "expires_in" members expiresIn ∧ Maybe IsWord expiresIn lifetime) ∧
    (Field "refresh_token" members refresh ∧ Maybe IsText refresh refresh') ∧
    (Field "scope" members scope ∧ Maybe IsText scope scope')

def Refuses (body reason : String) : Prop :=
  ∃ v code description uri, ∃ description' uri' : Option String,
    Json.readFirst? body = some v ∧
    Fields ["error", "error_description", "error_uri"] v [some (.text code), description, uri] ∧
    Maybe IsText description description' ∧ Maybe IsText uri uri' ∧
    reason = code ++ (description'.map fun d => " (" ++ d ++ ")").getD ""

theorem members_named {depth : Nat} {members : List (Option String × Json)}
    (hs : Json.membersSound depth members = true) : ∀ m ∈ members, m.1 ≠ none := by
  induction members with
  | nil => simp
  | cons m members ih =>
    obtain ⟨name, v⟩ := m
    simp only [Json.membersSound, Bool.and_eq_true] at hs
    intro m hm
    rcases List.mem_cons.mp hm with rfl | hm
    · exact Option.isSome_iff_ne_none.mp hs.1.1
    · exact ih hs.2 m hm

theorem grant?_eq_some_iff {g : Grant} : grant? body = some g ↔ Grants body g.token g.lifetime := by
  constructor
  · intro h
    obtain ⟨v, hread, h⟩ := Option.bind_eq_some_iff.mp h
    split at h
    next => cases h
    next hsound =>
      split at h
      next members =>
        obtain ⟨fields, hfields, h⟩ := Option.bind_eq_some_iff.mp h
        split at h
        next token kind expiresIn refresh scope =>
          obtain ⟨token', htoken, h⟩ := Option.bind_eq_some_iff.mp h
          obtain ⟨kind', hkind, h⟩ := Option.bind_eq_some_iff.mp h
          obtain ⟨lifetime, hlifetime, h⟩ := Option.bind_eq_some_iff.mp h
          obtain ⟨refresh', hrefresh, h⟩ := Option.bind_eq_some_iff.mp h
          obtain ⟨scope', hscope, h⟩ := Option.bind_eq_some_iff.mp h
          cases h
          obtain rfl := Json.text?_eq_some_iff.mp htoken
          obtain rfl := Json.text?_eq_some_iff.mp hkind
          obtain ⟨ftoken, hf⟩ := List.forall₂_cons.mp (Json.objectFields?_eq_some_iff.mp hfields).2
          obtain ⟨fkind, hf⟩ := List.forall₂_cons.mp hf
          obtain ⟨fexpires, hf⟩ := List.forall₂_cons.mp hf
          obtain ⟨frefresh, hf⟩ := List.forall₂_cons.mp hf
          obtain ⟨fscope, -⟩ := List.forall₂_cons.mp hf
          refine ⟨members, kind', expiresIn, refresh, scope, refresh', scope', hread, by simpa using hsound,
            ftoken, fkind, ⟨fexpires, ?_⟩, ⟨frefresh, ?_⟩, ⟨fscope, ?_⟩⟩
          · exact (Json.optional?_eq_some_iff fun _ _ => word?_eq_some_iff).mp hlifetime
          · exact Json.optionalText?_eq_some_iff.mp hrefresh
          · exact Json.optionalText?_eq_some_iff.mp hscope
        next => cases h
      next => cases h
  · rintro ⟨members, kind, expiresIn, refresh, scope, refresh', scope', hread, hsound, ftoken, fkind,
      ⟨fexpires, hlifetime⟩, ⟨frefresh, hrefresh⟩, ⟨fscope, hscope⟩⟩
    have hnamed : ∀ m ∈ members, m.1 ≠ none := by
      rw [Json.isSound, Bool.and_eq_true] at hsound
      exact members_named hsound.2
    have hfields := Json.objectFields?_eq_some_iff.mpr ⟨hnamed,
      .cons ftoken (.cons fkind (.cons fexpires (.cons frefresh (.cons fscope .nil))))⟩
    have hword := (Json.optional?_eq_some_iff fun _ _ => word?_eq_some_iff).mpr hlifetime
    simp [grant?, hread, hsound, hfields, Json.text?, Json.text, hword,
      Json.optionalText?_eq_some_iff.mpr hrefresh, Json.optionalText?_eq_some_iff.mpr hscope]

theorem refusal?_eq_some_iff : refusal? body = some reason ↔ Refuses body reason := by
  constructor
  · intro h
    obtain ⟨v, hread, h⟩ := Option.bind_eq_some_iff.mp h
    obtain ⟨fields, hfields, h⟩ := Option.bind_eq_some_iff.mp h
    split at h
    next code description uri =>
      obtain ⟨code', hcode, h⟩ := Option.bind_eq_some_iff.mp h
      obtain ⟨description', hdescription, h⟩ := Option.bind_eq_some_iff.mp h
      obtain ⟨uri', huri, h⟩ := Option.bind_eq_some_iff.mp h
      obtain rfl := Json.text?_eq_some_iff.mp hcode
      refine ⟨v, code', description, uri, description', uri', hread, Json.fields?_eq_some_iff.mp hfields,
        Json.optionalText?_eq_some_iff.mp hdescription, Json.optionalText?_eq_some_iff.mp huri, ?_⟩
      cases description' with
      | none => simpa using (Option.some.inj h).symm
      | some d => simpa [String.append_assoc] using (Option.some.inj h).symm
    next => cases h
  · rintro ⟨v, code, description, uri, description', uri', hread, hfields, hdescription, huri, rfl⟩
    simp only [refusal?, hread, Json.fields?_eq_some_iff.mpr hfields, Json.text?, Json.text,
      Json.optionalText?_eq_some_iff.mpr hdescription, Json.optionalText?_eq_some_iff.mpr huri,
      Option.bind_eq_bind, Option.bind_some]
    cases description' with
    | none => simp
    | some d => simp [String.append_assoc]

end BearerTokens.Endpoint
