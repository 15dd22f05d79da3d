import HttpSuite.Token.Front
import HttpSuite.Variables

/-!
# Substitution of variables

A text is read once from left to right. A `$` takes the longest run of name characters after it as
a name; a declared name is replaced by its value, and any other reference stays as it is. Values are
not read again.
-/

namespace HttpSuite

/-- What a `$` and the name after it stand for. -/
def Variables.resolve (t : Variables) (name : List Char) : List Char :=
  if name.isEmpty then ['$']
  else
    match t.get? (String.ofList name) with
    | some value => value.toList
    | none => '$' :: name

/-- Replaces the references in a text, character by character. -/
def Variables.expand (t : Variables) : List Char → List Char
  | [] => []
  | c :: cs =>
    if c = '$' then
      t.resolve (cs.takeWhile isNameChar) ++ expand t (cs.dropWhile isNameChar)
    else c :: expand t cs
termination_by cs => cs.length
decreasing_by
  · exact Nat.lt_succ_of_le (List.dropWhile_suffix _).length_le
  · exact Nat.lt_succ_self _

/-- Replaces every reference to a declared variable by its value. -/
def Variables.substitute (t : Variables) (text : String) : String :=
  String.ofList (t.expand text.toList)

end HttpSuite
