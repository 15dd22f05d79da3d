import HttpSuite.Table
import HttpSuite.Text.Position

/-!
# Header tables

The headers of a configuration or a request. Header names are compared without regard to the case
of ASCII letters. A later declaration of a name takes the place of an earlier one, spelling and
place in the source included.
-/

namespace HttpSuite

/-- A declared header; the span is that of its name. -/
structure Header where
  name : String
  value : String
  span : Span := {}
  deriving DecidableEq, Repr, Inhabited

/-- What headers are compared by: the name in lower case. -/
def Header.key (h : Header) : String := h.name.toLower

/-- A header table in the order in which the names were first declared. -/
structure Headers where
  entries : List Header := []
  deriving DecidableEq, Repr, Inhabited

namespace Headers

/-- Declares a header. -/
def insert (t : Headers) (h : Header) : Headers := ⟨Table.put Header.key h t.entries⟩

/-- The header of that name, in any case. -/
def get? (t : Headers) (name : String) : Option Header :=
  Table.find? Header.key name.toLower t.entries

/-- The number of headers. -/
def size (t : Headers) : Nat := t.entries.length

end Headers

end HttpSuite
