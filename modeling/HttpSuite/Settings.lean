/-!
# Settings of the generated tests

Timeouts, and the tests that compare response bodies without regard to whitespace.
-/

namespace HttpSuite

/-- The tests that compare bodies with all whitespace removed. -/
inductive NormalizeBody where
  /-- All tests or none. -/
  | all (on : Bool)
  /-- The tests of these names. -/
  | tests (names : List String)
  deriving DecidableEq, Repr

namespace NormalizeBody

instance : Inhabited NormalizeBody := ⟨tests []⟩

/-- Does the test of that name compare bodies without whitespace? -/
def appliesTo (n : NormalizeBody) (test : String) : Bool :=
  match n with
  | all on => on
  | tests names => names.contains test

/-- Adds tests by name. -/
def extend (n : NormalizeBody) (more : List String) : NormalizeBody :=
  match n with
  | all true => all true
  | all false => tests more
  | tests names => tests (names ++ more)

theorem appliesTo_extend (n : NormalizeBody) (more : List String) (test : String) :
    (n.extend more).appliesTo test = (n.appliesTo test || more.contains test) := by
  match n with
  | all true => simp [extend, appliesTo]
  | all false => simp [extend, appliesTo]
  | tests names => simp [extend, appliesTo]

end NormalizeBody

/-- The settings of the generated tests. Timeouts are whole seconds that fit 64 bits. -/
structure Settings where
  connectTimeout : Nat := 5
  requestTimeout : Nat := 10
  normalizeBody : NormalizeBody := .tests []
  deriving DecidableEq, Repr, Inhabited

end HttpSuite
