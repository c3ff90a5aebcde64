import BearerTokens.Text.Blank

/-! # Header fields

A header is a row of fields in the order in which they were added.  Names are kept in lower case;
a name may stand several times.  A value is a text; values whose bytes are no UTF-8 are not among
those that are described here.
-/

namespace BearerTokens.Http

/-- Characters of a token: letters, digits and fifteen signs. -/
def isTokenChar (c : Char) : Bool :=
  c.isAlphanum || "!#$%&'*+-.^_`|~".toList.contains c

def isToken (s : String) : Bool := !s.isEmpty && s.toList.all isTokenChar

def fieldName? (s : String) : Option String := if isToken s then some s.toLower else none

def isValueChar (c : Char) : Bool := c == '\t' || (' ' ≤ c && c != '\x7f')

def isFieldValue (s : String) : Bool := s.toList.all isValueChar

/-- A value whose characters all lie in ASCII can be read as text. -/
def isReadable (s : String) : Bool := s.toList.all fun c => c == '\t' || (' ' ≤ c && c ≤ '~')

abbrev Headers := List (String × String)

namespace Headers

def valuesOf (h : Headers) (name : String) : List String :=
  (h.filter (·.1 == name)).map (·.2)

def first? (h : Headers) (name : String) : Option String := (h.valuesOf name).head?

def has (h : Headers) (name : String) : Bool := h.any (·.1 == name)

def replace (h : Headers) (name value : String) : Headers :=
  h.filter (·.1 != name) ++ [(name, value)]

/-- Fields by name; the values of a name keep their order. -/
def sorted (h : Headers) : Headers := h.mergeSort fun a b => a.1 ≤ b.1

/-- The value of a name as text: the first one, if it can be read. -/
def firstReadable? (h : Headers) (name : String) : Option String :=
  (h.first? name).filter isReadable

def readable (h : Headers) (name : String) : List String := (h.valuesOf name).filter isReadable

theorem valuesOf_replace (h : Headers) (name value : String) :
    (h.replace name value).valuesOf name = [value] := by
  simp [replace, valuesOf, List.filter_append, List.filter_filter]

end Headers

end BearerTokens.Http
