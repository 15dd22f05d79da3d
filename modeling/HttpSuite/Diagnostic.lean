import HttpSuite.Text.Position

/-!
# Diagnostics

What a user is told about a problem: a message, and where they help a code, a hint and labelled
places in the source. Every kind of error and warning has one function that words it.
-/

namespace HttpSuite

/-- A remark on a place in the source. -/
structure Label where
  text : String
  span : Span
  deriving DecidableEq, Repr

/-- A problem as it is shown to the user. -/
structure Diagnostic where
  message : String
  code : Option String := none
  help : Option String := none
  labels : List Label := []
  deriving DecidableEq, Repr

/-- The words for a place in a message. -/
def Position.words (p : Position) : String := s!"line {p.line}, column {p.column}"

end HttpSuite
