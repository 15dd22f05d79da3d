/-!
# Splitting texts
-/

namespace HttpSuite.Text

/-- The parts of a text between the separators. There is always at least one part. -/
def splitOn (sep : Char) : List Char → List (List Char)
  | [] => [[]]
  | c :: cs =>
    if c = sep then [] :: splitOn sep cs
    else
      match splitOn sep cs with
      | part :: parts => (c :: part) :: parts
      | [] => [[c]]

theorem splitOn_ne_nil (sep : Char) (cs : List Char) : splitOn sep cs ≠ [] := by
  fun_induction splitOn sep cs <;> simp_all

end HttpSuite.Text
