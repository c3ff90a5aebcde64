import BearerTokens.Json.Decode
import Mathlib.Data.List.Forall2

/-! # Which values are records

A field of an object is absent or stands once.  The fields of a record are those of an object, or the items of
an array in order, of which the last may be missing.
-/

namespace BearerTokens.Json

variable {α β : Type} {name s : String} {v : Json} {members : List (Option String × Json)}
  {names : List String} {fields : List (Option Json)} {field : Option Json}

/-- What an object has under a name that may stand in it once. -/
inductive Field (name : String) (members : List (Option String × Json)) : Option Json → Prop where
  | absent (hn : ∀ m ∈ members, m.1 ≠ some name) : Field name members none
  | once {before after : List (Option String × Json)} {v : Json}
      (hm : members = before ++ (some name, v) :: after) (hb : ∀ m ∈ before, m.1 ≠ some name)
      (ha : ∀ m ∈ after, m.1 ≠ some name) : Field name members (some v)

inductive Fields (names : List String) : Json → List (Option Json) → Prop where
  | object {members : List (Option String × Json)} {fields : List (Option Json)}
      (ht : ∀ m ∈ members, m.1 ≠ none) (hf : List.Forall₂ (Field · members) names fields) :
      Fields names (.object members) fields
  | array {items : List Json} {missing : Nat} (hl : items.length + missing = names.length) :
      Fields names (.array items) (items.map some ++ List.replicate missing none)

inductive Maybe (P : Json → α → Prop) : Option Json → Option α → Prop where
  | absent : Maybe P none none
  | null : Maybe P (some .null) none
  | value {v : Json} {a : α} (hv : v ≠ .null) (ha : P v a) : Maybe P (some v) (some a)

def IsText (v : Json) (s : String) : Prop := v = .text s

/-- A row is read when each of its parts is. -/
theorem mapM_eq_some_iff {read : α → Option β} {P : α → β → Prop}
    (hr : ∀ a b, read a = some b ↔ P a b) {as : List α} {bs : List β} :
    as.mapM read = some bs ↔ List.Forall₂ P as bs := by
  induction as generalizing bs with
  | nil => cases bs <;> simp
  | cons a as ih =>
    rw [List.mapM_cons]
    constructor
    · intro h
      obtain ⟨b, hb, h⟩ := Option.bind_eq_some_iff.mp h
      obtain ⟨rest, hrest, h⟩ := Option.bind_eq_some_iff.mp h
      cases h
      exact .cons ((hr a b).mp hb) (ih.mp hrest)
    · intro h
      cases h with
      | @cons _ b _ rest hb hrest => simp [(hr a b).mpr hb, ih.mpr hrest]

/-! ## Objects -/

theorem find_eq_absent_iff : find name members = .absent ↔ ∀ m ∈ members, m.1 ≠ some name := by
  have hnil : find name members = .absent ↔ members.filter (·.1 == some name) = [] := by
    unfold find
    cases members.filter (·.1 == some name) with
    | nil => simp
    | cons m rest => cases rest <;> simp
  simp [hnil, List.filter_eq_nil_iff]

theorem find_eq_once_iff : find name members = .once v ↔ ∃ before after,
    members = before ++ (some name, v) :: after ∧ (∀ m ∈ before, m.1 ≠ some name) ∧
      ∀ m ∈ after, m.1 ≠ some name := by
  have hone : find name members = .once v ↔ ∃ n, members.filter (·.1 == some name) = [(n, v)] := by
    unfold find
    cases members.filter (·.1 == some name) with
    | nil => simp
    | cons m rest => cases rest <;> simp [Prod.ext_iff]
  rw [hone]
  constructor
  · rintro ⟨n, h⟩
    obtain ⟨before, after, hm, hb, hn, ha⟩ := List.filter_eq_cons_iff.mp h
    obtain rfl : n = some name := by simpa using hn
    refine ⟨before, after, hm, ?_, ?_⟩
    · intro m hmem
      simpa using hb m hmem
    · intro m hmem
      simpa using List.filter_eq_nil_iff.mp ha m hmem
  · rintro ⟨before, after, hm, hb, ha⟩
    refine ⟨some name, List.filter_eq_cons_iff.mpr ⟨before, after, hm, ?_, by simp, ?_⟩⟩
    · intro m hmem
      simpa using hb m hmem
    · apply List.filter_eq_nil_iff.mpr
      intro m hmem
      simpa using ha m hmem

def fieldOf (name : String) (members : List (Option String × Json)) : Option (Option Json) :=
  match find name members with
  | .absent => some none
  | .once v => some (some v)
  | .repeated => none

theorem fieldOf_eq_some_iff : fieldOf name members = some field ↔ Field name members field := by
  unfold fieldOf
  constructor
  · intro h
    split at h
    next hf => cases h; exact .absent (find_eq_absent_iff.mp hf)
    next v hf =>
      cases h
      obtain ⟨before, after, hm, hb, ha⟩ := find_eq_once_iff.mp hf
      exact .once hm hb ha
    next => cases h
  · intro h
    cases h with
    | absent hn => rw [find_eq_absent_iff.mpr hn]
    | once hm hb ha => rw [find_eq_once_iff.mpr ⟨_, _, hm, hb, ha⟩]

theorem objectFields?_eq_some_iff : objectFields? names members = some fields ↔
    (∀ m ∈ members, m.1 ≠ none) ∧ List.Forall₂ (Field · members) names fields := by
  have hall : members.all (·.1.isSome) = true ↔ ∀ m ∈ members, m.1 ≠ none := by
    simp [Option.isSome_iff_ne_none]
  have hmapM : names.mapM (fieldOf · members) = some fields ↔
      List.Forall₂ (Field · members) names fields :=
    mapM_eq_some_iff fun _ _ => fieldOf_eq_some_iff
  rw [← hmapM, ← hall]
  unfold objectFields?
  split
  next h =>
    rw [and_iff_right h]
    rfl
  next h => simp [h]

/-! ## Records -/

theorem fields?_eq_some_iff : v.fields? names = some fields ↔ Fields names v fields := by
  constructor
  · intro h
    cases v with
    | object members =>
      obtain ⟨ht, hf⟩ := objectFields?_eq_some_iff.mp h
      exact .object ht hf
    | array items =>
      simp only [fields?] at h
      split at h
      next hl =>
        cases h
        exact .array (Nat.add_sub_cancel' hl)
      next => cases h
    | null | bool | number | string => cases h
  · intro h
    cases h with
    | object ht hf => exact objectFields?_eq_some_iff.mpr ⟨ht, hf⟩
    | @array items missing hl =>
      have hle : items.length ≤ names.length := by omega
      obtain rfl : missing = names.length - items.length := by omega
      simp [fields?, hle]

theorem text?_eq_some_iff : v.text? = some s ↔ IsText v s := by
  cases v <;> simp [text?, IsText, text]

theorem texts?_eq_some_iff {texts : List String} :
    v.texts? = some texts ↔ v = .array (texts.map .text) := by
  have hmap : ∀ items : List Json, List.Forall₂ IsText items texts ↔ items = texts.map .text := by
    intro items
    rw [← List.forall₂_eq_eq_eq, List.forall₂_map_right_iff]
    rfl
  cases v with
  | array items =>
    have hmapM : items.mapM text? = some texts ↔ List.Forall₂ IsText items texts :=
      mapM_eq_some_iff fun _ _ => text?_eq_some_iff
    simpa [texts?, items?, hmap] using hmapM
  | null | bool | number | string | object => simp [texts?, items?]

theorem optional?_eq_some_iff {read : Json → Option α} {P : Json → α → Prop}
    (hr : ∀ v a, read v = some a ↔ P v a) {a : Option α} :
    optional? read field = some a ↔ Maybe P field a := by
  constructor
  · intro h
    unfold optional? at h
    split at h
    next => cases h; exact .absent
    next => cases h; exact .null
    next v hn =>
      obtain ⟨b, hb, rfl⟩ := Option.map_eq_some_iff.mp h
      exact .value hn ((hr v b).mp hb)
  · intro h
    cases h with
    | absent | null => rfl
    | @value v b hn hb =>
      have hread := (hr v b).mpr hb
      cases v with
      | null => exact absurd rfl hn
      | bool | number | string | array | object => simp [optional?, hread]

/-- Texts that may be absent or null. -/
theorem optionalText?_eq_some_iff {a : Option String} :
    optional? text? field = some a ↔ Maybe IsText field a :=
  optional?_eq_some_iff fun _ _ => text?_eq_some_iff

end BearerTokens.Json
