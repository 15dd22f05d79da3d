import HttpSuite.Text.Percent
import HttpSuite.Toml.Reader

/-!
# Quoted texts in TOML

Basic texts stand between double quotes and have escapes; literal texts stand between single quotes
and have none. Between three quotes either kind may run over several lines, the first line break is
dropped, and up to two quotes may stand next to the closing ones.
-/

namespace HttpSuite.Toml.Quoted

open Reader Text

/-- The character with the code point that hexadecimal digits give. -/
def ofHex? (digits : List Char) : Option Char := do
  let n ← digits.foldlM (fun n c => (hexValue? c).map fun d => 16 * n + d) 0
  if n < 0xD800 ∨ (0xDFFF < n ∧ n < 0x110000) then some (Char.ofNat n) else none

/-- The character that an escape stands for, after the backslash. -/
def escape : List Char → Option (Char × List Char)
  | 'b' :: cs => some ('\x08', cs)
  | 't' :: cs => some ('\t', cs)
  | 'n' :: cs => some ('\n', cs)
  | 'f' :: cs => some ('\x0c', cs)
  | 'r' :: cs => some ('\r', cs)
  | 'e' :: cs => some ('\x1b', cs)
  | '"' :: cs => some ('"', cs)
  | '\\' :: cs => some ('\\', cs)
  | 'x' :: cs => hex 2 cs
  | 'u' :: cs => hex 4 cs
  | 'U' :: cs => hex 8 cs
  | _ => none
where
  /-- A code point of so many hexadecimal digits. -/
  hex (n : Nat) (cs : List Char) : Option (Char × List Char) :=
    if (cs.take n).length = n then (ofHex? (cs.take n)).map fun c => (c, cs.drop n) else none

/-- A backslash that ends a line hides the break and the blanks around it. The text is what follows
the backslash. -/
def hiddenBreak? (cs : List Char) : Option (List Char) :=
  let isGap (c : Char) := c == ' ' || c == '\t'
  match cs.dropWhile isGap with
  | '\n' :: rest => some (skipBreaks rest)
  | '\r' :: '\n' :: rest => some (skipBreaks rest)
  | _ => none
where
  /-- Drops blanks and line breaks. -/
  skipBreaks : List Char → List Char
    | '\r' :: '\n' :: rest => skipBreaks rest
    | c :: rest => if c == ' ' || c == '\t' || c == '\n' then skipBreaks rest else c :: rest
    | [] => []

/-- The next part of a text on one line up to the quote `q`; nothing at the quote. -/
def linePart (q : Char) : List Char → Option (Option (List Char) × List Char)
  | [] => none
  | c :: cs =>
    if c = q then some (none, cs)
    else if c = '\\' && q == '"' then (escape cs).map fun (e, rest) => (some [e], rest)
    else if isPrintable c then some (some [c], cs)
    else none

/-- The next part of a text over several lines that has no closing quotes before it. -/
def blockPart (q : Char) : List Char → Option (List Char × List Char)
  | [] => none
  | '\r' :: '\n' :: cs => some (['\r', '\n'], cs)
  | c :: cs =>
    if c = '\\' && q == '"' then
      match hiddenBreak? cs with
      | some rest => some ([], rest)
      | none => (escape cs).map fun (e, rest) => ([e], rest)
    else if c = '\n' || isPrintable c then some ([c], cs)
    else none

/-- Takes three closing quotes with the up to two quotes of the text before them. -/
def closing? (q : Char) (cs : List Char) : Option (List Char × List Char) :=
  let quotes := (cs.takeWhile (· == q)).length
  if quotes < 3 then none
  else
    let extra := min (quotes - 3) 2
    some (List.replicate extra q, cs.drop (extra + 3))

/-- The text up to three closing quotes. -/
def block (q : Char) : Reader (List Char) := do
  let _ ← newline?
  let parts ← many <| ofStep fun cs =>
    match closing? q cs with
    | some _ => some (none, cs)
    | none => (blockPart q cs).map fun (part, rest) => (some part, rest)
  let last ← ofStep (closing? q)
  return parts.flatten ++ last

/-- The text of a single line up to its closing quote. -/
def line (q : Char) : Reader (List Char) := do return (← many (ofStep (linePart q))).flatten

/-- A quoted text that begins with the quote `q` and may run over several lines. -/
def anyQuoted (q : Char) : Reader String := do
  if ← text? (String.ofList [q, q, q]) then return String.ofList (← block q)
  else
    text (String.singleton q)
    return String.ofList (← line q)

/-- A quoted text on one line. -/
def lineQuoted (q : Char) : Reader String := do
  text (String.singleton q)
  return String.ofList (← line q)

end HttpSuite.Toml.Quoted
