import HttpSuite.Toml.Quoted
import HttpSuite.Toml.Scalar
import HttpSuite.Toml.Tree

/-!
# TOML documents

A document is a list of lines, each with a header, a key and its value, or neither.

* `Toml.parse`: the table of a document.
-/

namespace HttpSuite.Toml

open Reader

/-- A line of a document. -/
inductive Line where
  | empty
  | header (array : Bool) (keys : List String)
  | entry (keys : List String) (v : Value)

/-- A character of a key without quotes. -/
def isKeyChar (c : Char) : Bool := c.isAlphanum || c == '_' || c == '-'

/-- A key between dots. -/
def simpleKey : Reader String := do
  match ← peek? with
  | some '"' => Quoted.lineQuoted '"'
  | some '\'' => Quoted.lineQuoted '\''
  | _ =>
    let key ← run isKeyChar
    if key.isEmpty then failure else return String.ofList key

/-- Dots may divide a key into this many parts. -/
def maxParts : Nat := 80

/-- A key, which may have dots. -/
def key : Reader (List String) := do
  let first ← simpleKey
  blanks
  let others ← many do
    if ← text? "." then
      blanks
      let k ← simpleKey
      blanks
      return some k
    else return none
  if others.length < maxParts then return first :: others else failure

/-- A key, an equals sign and a value, which `value` reads. -/
def entryWith (value : Reader Value) : Reader (List String × Value) := do
  let keys ← key
  text "="
  blanks
  return (keys, ← value)

/-- The table of keys and values between braces. -/
def inlineTable (entries : List (List String × Value)) : Option Value := do
  let filled ← entries.foldlM (fun es (keys, v) => Tree.assignIn keys v .header es) []
  return .table (Tree.entryValues filled)

/-- A value whose brackets and braces are nested at most `depth` deep. -/
def value (depth : Nat) : Reader Value := do
  match depth, ← peek? with
  | _, some '"' => return .string (← Quoted.anyQuoted '"')
  | _, some '\'' => return .string (← Quoted.anyQuoted '\'')
  | depth + 1, some '[' =>
    text "["
    return .array (← commaList (value depth) "]")
  | depth + 1, some '\x7b' =>
    text "\x7b"
    inlineTable (← commaList (entryWith (value depth)) "\x7d")
  | _, _ => ofStep Scalar.take

/-- Brackets and braces may be nested this deep. -/
def maxDepth : Nat := 80

/-- A header. -/
def header : Reader Line := do
  let array ← text? "[["
  if !array then text "["
  blanks
  let keys ← key
  text (if array then "]]" else "]")
  return .header array keys

/-- A key and its value. -/
def entry : Reader Line := do
  let (keys, v) ← entryWith (value maxDepth)
  return .entry keys v

/-- A line without its break. -/
def line : Reader Line := do
  blanks
  let content ← match ← peek? with
    | none | some '\n' | some '\r' | some '#' => pure .empty
    | some '[' => header
    | some _ => entry
  blanks
  let _ ← comment?
  return content

/-- The lines of a document. -/
def lines : Reader (List Line) := do
  let _ ← text? "\ufeff"
  let first ← line
  let others ← many do
    if ← newline? then return some (← line) else return none
  return first :: others

/-- The state of a document that is read: the table of the last header, and all entries. -/
abbrev Reading := List String × Tree.Entries

/-- Reads a line into a document. -/
def readLine (r : Reading) : Line → Option Reading
  | .empty => some r
  | .header array keys => (Tree.open? array keys r.2).map fun root => (keys, root)
  | .entry keys v => (Tree.assign? r.1 keys v r.2).map fun root => (r.1, root)

/-- The table of a document, if the text is one. -/
def parse (source : String) : Option (List (String × Value)) := do
  let all ← complete lines source.toList
  let (_, root) ← all.foldlM readLine ([], [])
  return Tree.entryValues root

end HttpSuite.Toml
