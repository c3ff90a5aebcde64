import BearerTokens.Context.Codec
import BearerTokens.Proofs.Json.Record
import BearerTokens.Proofs.Json.Writing

/-! # Contexts through their text

What a text holds of a context is said without its reader: the scopes stand in a record, and either of the
other fields is absent, null or a text.  A written context is such a text, so it comes back with each of its fields.
-/

namespace BearerTokens.Context

open Json

variable {c d : Context} {v : Json} {s : String}

def Records (c : Context) (v : Json) : Prop := ∃ claims correlation,
  Fields fieldNames v [some (.array (c.scopes.map .text)), claims, correlation] ∧
    Maybe IsText claims c.claims ∧ Maybe IsText correlation c.correlation

theorem ofJson?_eq_some_iff : ofJson? v = some c ↔ Records c v := by
  constructor
  · intro h
    obtain ⟨fields, hfields, h⟩ := Option.bind_eq_some_iff.mp h
    split at h
    next scopes claims correlation =>
      obtain ⟨texts, htexts, h⟩ := Option.bind_eq_some_iff.mp h
      obtain ⟨claims', hclaims, h⟩ := Option.bind_eq_some_iff.mp h
      obtain ⟨correlation', hcorrelation, h⟩ := Option.bind_eq_some_iff.mp h
      cases h
      rw [texts?_eq_some_iff.mp htexts] at hfields
      refine ⟨claims, correlation, fields?_eq_some_iff.mp hfields, ?_, ?_⟩
      · exact optionalText?_eq_some_iff.mp hclaims
      · exact optionalText?_eq_some_iff.mp hcorrelation
    next => cases h
  · rintro ⟨claims, correlation, hfields, hclaims, hcorrelation⟩
    have htexts := texts?_eq_some_iff (v := .array (c.scopes.map .text)).mpr rfl
    simp [ofJson?, fields?_eq_some_iff.mpr hfields, htexts, optionalText?_eq_some_iff.mpr hclaims,
      optionalText?_eq_some_iff.mpr hcorrelation]

theorem read?_eq_some_iff : read? s = some c ↔ ∃ v, Json.read? s = some v ∧ Records c v := by
  simp only [read?, Option.bind_eq_some_iff, ofJson?_eq_some_iff]

/-! ## Written contexts -/

theorem toJson_textual (c : Context) : c.toJson.Textual := by
  have hscopes : Textual (.array (c.scopes.map .text)) := by
    apply Textual.array
    intro v hv
    obtain ⟨s, -, rfl⟩ := List.mem_map.mp hv
    exact .string s
  have hoptional : ∀ name s, ∀ f ∈ optionalField name s, f.2.Textual := by
    intro name s f hf
    cases s with
    | none => cases hf
    | some s =>
      obtain rfl := List.mem_singleton.mp hf
      exact .string s
  apply Textual.object
  · intro m hm
    obtain ⟨f, -, rfl⟩ := List.mem_map.mp hm
    exact Option.some_ne_none f.1
  · intro m hm
    obtain ⟨f, hf, rfl⟩ := List.mem_map.mp hm
    rcases List.mem_cons.mp hf with rfl | hf
    · exact hscopes
    rcases List.mem_append.mp hf with hf | hf
    · exact hoptional _ _ f hf
    · exact hoptional _ _ f hf

/-- Of a written context, an absent field is absent and a present one is its text. -/
theorem fields_toJson (c : Context) : Fields fieldNames c.toJson
    [some (.array (c.scopes.map .text)), c.claims.map .text, c.correlation.map .text] := by
  apply fields?_eq_some_iff.mp
  rcases c with ⟨scopes, claims | claims, correlation | correlation⟩ <;>
    simp [fieldNames, toJson, ofFields, optionalField, fields?, objectFields?, find]

theorem maybe_map_text (s : Option String) : Maybe IsText (s.map .text) s := by
  cases s with
  | none => exact .absent
  | some s => exact .value (by simp [text]) rfl

theorem records_toJson (c : Context) : Records c c.toJson :=
  ⟨_, _, fields_toJson c, maybe_map_text c.claims, maybe_map_text c.correlation⟩

theorem read?_write (c : Context) : read? c.write = some c :=
  read?_eq_some_iff.mpr ⟨c.toJson, (toJson_textual c).read?_write, records_toJson c⟩

theorem write_inj : c.write = d.write ↔ c = d := by
  constructor
  · intro h
    have hread := read?_write c
    rw [h, read?_write d] at hread
    exact (Option.some.inj hread).symm
  · rintro rfl
    rfl

theorem names_toJson (c : Context) : ∃ members, c.toJson = .object members ∧
    (members.map Prod.fst).Sublist (fieldNames.map some) := by
  refine ⟨_, rfl, ?_⟩
  rcases c with ⟨scopes, claims | claims, correlation | correlation⟩ <;>
    simp [fieldNames, optionalField]

/-- A context comes back from its text with each of its fields, the correlation id among them, and only the text of
an equal context is its text.  The text is an object without the absent fields, where an empty text is a text.
Whatever text is read, it is the text of a record, and its context comes back from the text written of it. -/
theorem text_round_trip :
    (∀ c : Context, read? c.write = some c) ∧ (∀ c d : Context, c.write = d.write ↔ c = d) ∧
    (∀ c : Context, ∃ members, Json.read? c.write = some (.object members) ∧
      (members.map Prod.fst).Sublist (fieldNames.map some) ∧
      Field "scopes" members (some (.array (c.scopes.map .text))) ∧
      Field "claims" members (c.claims.map .text) ∧
      Field "correlation_id" members (c.correlation.map .text)) ∧
    (∀ (s : String) (c : Context), read? s = some c ↔ ∃ v, Json.read? s = some v ∧ Records c v) ∧
    ∀ s : String, (read? s).bind (fun c => read? c.write) = read? s := by
  refine ⟨read?_write, fun _ _ => write_inj, ?_, fun _ _ => read?_eq_some_iff, ?_⟩
  · intro c
    obtain ⟨members, hobject, hnames⟩ := names_toJson c
    have hread := (toJson_textual c).read?_write
    have hfields := fields_toJson c
    rw [hobject] at hfields hread
    cases hfields with
    | object _ hf =>
      obtain ⟨hscopes, hf⟩ := List.forall₂_cons.mp hf
      obtain ⟨hclaims, hf⟩ := List.forall₂_cons.mp hf
      obtain ⟨hcorrelation, -⟩ := List.forall₂_cons.mp hf
      exact ⟨members, by rwa [write, hobject], hnames, hscopes, hclaims, hcorrelation⟩
  · intro s
    cases read? s with
    | none => rfl
    | some c => exact read?_write c

example : (read? "[[\"b\",\"a\"],null,\"\"]").map write =
    some "\x7b\"scopes\":[\"b\",\"a\"],\"correlation_id\":\"\"\x7d" := by decide +kernel

end BearerTokens.Context
