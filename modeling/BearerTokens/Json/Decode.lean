import BearerTokens.Json.Reader

/-! # Records in JSON

A record is written as an object, or as an array of its fields in order.  In an object the order is
free, unknown names are skipped and a known name may stand once.  In an array the last fields may
be missing and nothing may follow the last one.
-/

namespace BearerTokens.Json

inductive Found where
  | absent
  | once (v : Json)
  | repeated

def find (name : String) (members : List (Option String × Json)) : Found :=
  match members.filter (·.1 == some name) with
  | [] => .absent
  | [(_, v)] => .once v
  | _ => .repeated

/-- Values of the named fields, absent ones included. -/
def objectFields? (names : List String) (members : List (Option String × Json)) :
    Option (List (Option Json)) :=
  if members.all (·.1.isSome) then
    names.mapM fun name =>
      match find name members with
      | .absent => some none
      | .once v => some (some v)
      | .repeated => none
  else none

def fields? (names : List String) : Json → Option (List (Option Json))
  | .object members => objectFields? names members
  | .array items =>
    if items.length ≤ names.length then
      some (items.map some ++ List.replicate (names.length - items.length) none)
    else none
  | _ => none

def text? : Json → Option String
  | .string s => s
  | _ => none

def int? : Json → Option Int
  | .number n => n.int?
  | _ => none

def items? : Json → Option (List Json)
  | .array items => some items
  | _ => none

def texts? (v : Json) : Option (List String) := do (← v.items?).mapM text?

def optional? {α : Type} (read : Json → Option α) : Option Json → Option (Option α)
  | none => some none
  | some .null => some none
  | some v => (read v).map some

end BearerTokens.Json
