import HttpSuite.Text.Alphabetic
import HttpSuite.Text.Blank
import HttpSuite.Text.Quoted
import HttpSuite.Warning

/-!
# What a text begins with

One step of lexing, without positions: a text is over, or it begins with a blank or a comment, a
character that is passed over, a lexeme, or a quote that is never closed.

* `Front.of`: the front of a text.
* `Front.rest_length_lt`: what follows a front is shorter than the text, so lexing ends.
-/

namespace HttpSuite

open Text

/-- A character that a name may begin with. -/
def isNameStart (c : Char) : Bool := isAlphabetic c || c == '_'

/-- A character that may stand in a name: a letter, an ASCII digit or an underscore. -/
def isNameChar (c : Char) : Bool := isAlphabetic c || c.isDigit || c == '_'

/-- What stands at the front of a text. The characters taken up are the `slice`; the text is the
slice followed by the `rest`. -/
inductive Front where
  /-- The text is over. -/
  | finish
  /-- A blank character or a comment. -/
  | blank (slice rest : List Char)
  /-- A character that is passed over with a warning. -/
  | stray (cause : Warning.Cause) (c : Char) (rest : List Char)
  /-- A token. -/
  | lexeme (kind : Token.Kind) (text slice rest : List Char)
  /-- A quote that is never closed. -/
  | unclosed
  deriving DecidableEq, Repr

namespace Front

/-- A quoted text, after its opening quote. -/
def quoted (cs : List Char) : Front :=
  match Quoted.read cs with
  | some q => .lexeme .str q.content ('"' :: q.slice) q.rest
  | none => .unclosed

/-- A reference, after its `$`: the longest run of name characters is its name. -/
def reference (cs : List Char) : Front :=
  match cs.takeWhile isNameChar with
  | [] => .stray .bareDollar '$' cs
  | name => .lexeme .varRef name ('$' :: name) (cs.dropWhile isNameChar)

/-- A keyword or a name: the longest run of name characters. -/
def word (cs : List Char) : Front :=
  let text := cs.takeWhile isNameChar
  .lexeme (.ofWord (String.ofList text)) text text (cs.dropWhile isNameChar)

/-- A number: the longest run of ASCII digits. -/
def number (cs : List Char) : Front :=
  let digits := cs.takeWhile Char.isDigit
  .lexeme .number digits digits (cs.dropWhile Char.isDigit)

/-- A comment runs up to the next newline, which is not part of it. -/
def comment (cs : List Char) : Front :=
  .blank (cs.takeWhile (· != '\n')) (cs.dropWhile (· != '\n'))

/-- A punctuation mark, or else a character that no token starts with. -/
def mark (c : Char) (cs : List Char) : Front :=
  match Token.Kind.punctuation? c with
  | some kind => .lexeme kind [c] [c] cs
  | none => .stray (.unknownChar c) c cs

/-- The front of a text. -/
def of : List Char → Front
  | [] => .finish
  | c :: cs =>
    if isBlank c then .blank [c] cs
    else if c == '/' && cs.head? == some '/' then comment (c :: cs)
    else if c == '"' then quoted cs
    else if c == '$' then reference cs
    else if isNameStart c then word (c :: cs)
    else if c.isDigit then number (c :: cs)
    else mark c cs

/-- What follows the front. -/
def rest : Front → List Char
  | finish => []
  | blank _ rest => rest
  | stray _ _ rest => rest
  | lexeme _ _ _ rest => rest
  | unclosed => []

theorem length_dropWhile_lt {p : Char → Bool} {c : Char} (cs : List Char) (h : p c = true) :
    ((c :: cs).dropWhile p).length < (c :: cs).length := by
  rw [List.dropWhile_cons_of_pos h]
  exact Nat.lt_succ_of_le (List.dropWhile_suffix p).length_le

theorem isNameChar_of_isNameStart {c : Char} (h : isNameStart c = true) : isNameChar c = true := by
  simp only [isNameStart, isNameChar, Bool.or_eq_true] at h ⊢
  rcases h with h | h
  · exact Or.inl (Or.inl h)
  · exact Or.inr h

/-- **What follows a front is shorter than the text.** -/
theorem rest_length_lt {cs : List Char} (h : of cs ≠ .finish) : (of cs).rest.length < cs.length := by
  match cs with
  | [] => exact absurd rfl h
  | c :: cs =>
    simp only [of]
    split
    · simp [rest]
    split
    · rename_i hc
      have : c = '/' := by simp at hc; exact hc.1
      exact length_dropWhile_lt (p := (· != '\n')) cs (by subst this; decide)
    split
    · unfold quoted
      split
      · rename_i q hq
        exact Quoted.length_rest_lt hq
      · simp [rest]
    split
    · unfold reference
      split
      · simp [rest]
      · exact Nat.lt_succ_of_le (List.dropWhile_suffix _).length_le
    split
    · rename_i hc
      exact length_dropWhile_lt cs (isNameChar_of_isNameStart hc)
    split
    · rename_i hc
      exact length_dropWhile_lt cs hc
    · unfold mark
      split <;> simp [rest]

end Front

end HttpSuite
