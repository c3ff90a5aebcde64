import BearerTokens.Json.Lexeme

/-! # Reading JSON values

The reader is a pushdown machine over lexemes: it keeps the arrays and objects that are still open
and what may come next.  It ends at the first complete value, so what follows the value is in the
hands of the caller.
-/

namespace BearerTokens.Json

/-- An array or object that is still open, its parts in reverse order. -/
inductive Open where
  | items (done : List Json)
  | members (done : List (Option String × Json)) (name : Option String)

inductive Expect where
  | value
  /-- A value, or the end of an array that has just been opened. -/
  | firstItem
  /-- A name, or the end of an object that has just been opened. -/
  | firstName
  | name
  | colon
  /-- A comma or the end of the innermost open value. -/
  | follow
deriving DecidableEq

/-- State after a complete value: the value itself when nothing is open. -/
def deliver (v : Json) : List Open → Json ⊕ List Open
  | [] => .inl v
  | .items done :: rest => .inr (.items (v :: done) :: rest)
  | .members done name :: rest => .inr (.members ((name, v) :: done) none :: rest)

def readFrom : List Lexeme → Expect → List Open → Option (Json × List Lexeme)
  | [], _, _ => none
  | l :: ls, expect, stack =>
    let complete (v : Json) (open' : List Open) : Option (Json × List Lexeme) :=
      match deliver v open' with
      | .inl whole => some (whole, ls)
      | .inr open' => readFrom ls .follow open'
    match expect, l, stack with
    | .value, .scalar v, stack => complete v stack
    | .firstItem, .scalar v, stack => complete v stack
    | .value, .openArray, stack => readFrom ls .firstItem (.items [] :: stack)
    | .firstItem, .openArray, stack => readFrom ls .firstItem (.items [] :: stack)
    | .value, .openObject, stack => readFrom ls .firstName (.members [] none :: stack)
    | .firstItem, .openObject, stack => readFrom ls .firstName (.members [] none :: stack)
    | .firstItem, .closeArray, .items done :: rest => complete (.array done.reverse) rest
    | .firstName, .closeObject, .members done _ :: rest => complete (.object done.reverse) rest
    | .firstName, .scalar (.string s), .members done _ :: rest =>
      readFrom ls .colon (.members done s :: rest)
    | .name, .scalar (.string s), .members done _ :: rest =>
      readFrom ls .colon (.members done s :: rest)
    | .colon, .colon, stack => readFrom ls .value stack
    | .follow, .comma, .items done :: rest => readFrom ls .value (.items done :: rest)
    | .follow, .closeArray, .items done :: rest => complete (.array done.reverse) rest
    | .follow, .comma, .members done name :: rest => readFrom ls .name (.members done name :: rest)
    | .follow, .closeObject, .members done _ :: rest => complete (.object done.reverse) rest
    | _, _, _ => none

def readFirst? (s : String) : Option Json :=
  (readFrom (lexemes s.toList) .value []).map Prod.fst

def read? (s : String) : Option Json :=
  match readFrom (lexemes s.toList) .value [] with
  | some (v, []) => some v
  | _ => none

mutual

/-- Every string stands for a text, every number is finite, and at most `depth` values are open at
a time. -/
def isSound (depth : Nat) : Json → Bool
  | .null => true
  | .bool _ => true
  | .number n => n.isFinite
  | .string s => s.isSome
  | .array items => depth != 0 && areSound (depth - 1) items
  | .object members => depth != 0 && membersSound (depth - 1) members

def areSound (depth : Nat) : List Json → Bool
  | [] => true
  | v :: rest => isSound depth v && areSound depth rest

def membersSound (depth : Nat) : List (Option String × Json) → Bool
  | [] => true
  | (name, v) :: rest => name.isSome && isSound depth v && membersSound depth rest

end

/-- The largest number of values that may be open at a time where a whole value is kept. -/
abbrev maxDepth : Nat := 127

end BearerTokens.Json
