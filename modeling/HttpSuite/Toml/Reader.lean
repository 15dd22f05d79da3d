/-!
# Readers

Readers take characters from the front of a text and may fail. They are the parts that the reader of
TOML documents is made of. A limit on the rounds of every loop comes with the text: it is the length
of the whole document, which no loop exceeds because each round takes a character.
-/

namespace HttpSuite.Toml

/-- A reader of the characters that are left, given the limit of its loops. -/
abbrev Reader (α : Type) := ReaderT Nat (StateT (List Char) Option) α

namespace Reader

variable {α : Type}

/-- A reader without loops. -/
def ofStep (step : List Char → Option (α × List Char)) : Reader α := fun _ => step

/-- The next character, which is not taken. -/
def peek? : Reader (Option Char) := return (← get).head?

/-- Takes the text `s`, or fails. -/
def text (s : String) : Reader Unit := ofStep fun cs =>
  if s.toList.isPrefixOf cs then some ((), cs.drop s.toList.length) else none

/-- Takes the text `s` if it comes next, and says whether it did. -/
def text? (s : String) : Reader Bool := ofStep fun cs =>
  if s.toList.isPrefixOf cs then some (true, cs.drop s.toList.length) else some (false, cs)

/-- Takes the longest run of characters that satisfy `p`. -/
def run (p : Char → Bool) : Reader (List Char) := ofStep fun cs =>
  some (cs.takeWhile p, cs.dropWhile p)

/-- Repeats `item` until it gives nothing, in as many rounds at most. -/
def repeatStep (item : List Char → Option (Option α × List Char)) :
    (rounds : Nat) → List Char → Option (List α × List Char)
  | 0, cs => some ([], cs)
  | rounds + 1, cs =>
    match item cs with
    | none => none
    | some (none, rest) => some ([], rest)
    | some (some a, rest) =>
      (repeatStep item rounds rest).map fun (as, rest) => (a :: as, rest)

/-- Repeats `item` until it gives nothing. -/
def many (item : Reader (Option α)) : Reader (List α) := fun limit =>
  repeatStep (item limit) limit

/-- The value of a reader that takes the whole text. -/
def complete (r : Reader α) (cs : List Char) : Option α :=
  match r (cs.length + 1) cs with
  | some (a, []) => some a
  | _ => none

/-- Spaces and tabs. -/
def blanks : Reader Unit := do
  let _ ← run fun c => c == ' ' || c == '\t'

/-- A character of a comment, a literal or a quoted text: a tab, or any that is not a control
character of ASCII. -/
def isPrintable (c : Char) : Bool := c == '\t' || (32 ≤ c.toNat && c.toNat != 127)

/-- A comment, if one comes next. It ends before the line does. -/
def comment? : Reader Bool := do
  if (← peek?) == some '#' then
    let _ ← run isPrintable
    return true
  else return false

/-- A line break, if one comes next. -/
def newline? : Reader Bool := do
  if ← text? "\n" then return true else text? "\r\n"

/-- Blanks, comments and line breaks in any order. -/
def filler : Reader Unit := do
  blanks
  let _ ← many do
    if ← (do if ← newline? then return true else comment?) then
      blanks
      return some ()
    else return none

/-- Items between commas up to the text `stop`, with filler around them. A comma may follow the last
item. -/
def commaList (item : Reader α) (stop : String) : Reader (List α) := do
  filler
  if ← text? stop then return []
  let first ← item
  filler
  let others ← many do
    if ← text? "," then
      filler
      if (← get).head? == stop.toList.head? then return none
      let a ← item
      filler
      return some a
    else return none
  text stop
  return first :: others

end Reader

end HttpSuite.Toml
