import HttpSuite.Table

/-!
# Variable tables

The variables of a suite, in the order of declaration. A name that is declared again keeps its place
and takes the later value.
-/

namespace HttpSuite

/-- A declared variable. -/
structure Variable where
  name : String
  value : String
  deriving DecidableEq, Repr, Inhabited

/-- A variable table. -/
structure Variables where
  entries : List Variable := []
  deriving DecidableEq, Repr, Inhabited

namespace Variables

/-- Declares a variable. -/
def insert (t : Variables) (name value : String) : Variables :=
  ⟨Table.put Variable.name ⟨name, value⟩ t.entries⟩

/-- The value of a variable, if it is declared. -/
def get? (t : Variables) (name : String) : Option String :=
  (Table.find? Variable.name name t.entries).map Variable.value

/-- The number of variables. -/
def size (t : Variables) : Nat := t.entries.length

end Variables

end HttpSuite
