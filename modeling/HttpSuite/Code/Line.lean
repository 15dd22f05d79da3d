/-!
# Lines of code

Generated code is a list of indented lines. An empty line is not indented.
-/

namespace HttpSuite.Code

/-- A line of code at a depth of indentation. -/
structure Line where
  depth : Nat
  text : String
  deriving DecidableEq, Repr

/-- A line that is indented by `depth` levels. -/
def line (depth : Nat) (text : String) : Line := ⟨depth, text⟩

/-- An empty line. -/
def blankLine : Line := ⟨0, ""⟩

/-- A line as text, newline included. A level is four spaces. -/
def Line.render (l : Line) : String :=
  if l.text = "" then "\n" else String.ofList (List.replicate (4 * l.depth) ' ') ++ l.text ++ "\n"

/-- Lines as one text. -/
def render (lines : List Line) : String := String.join (lines.map Line.render)

end HttpSuite.Code
