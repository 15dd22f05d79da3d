/-!
# JSON

JSON values with natural numbers, and their indented text: two spaces a level, one member or
element a line, and nothing between the brackets of an empty list or object.
-/

namespace HttpSuite

/-- A JSON value. Members keep their order. -/
inductive Json where
  | null
  | num (n : Nat)
  | str (s : String)
  | arr (elements : List Json)
  | obj (members : List (String × Json))
  deriving Repr, Inhabited

namespace Json

/-- A hexadecimal digit in lower case. -/
def hexDigit (n : Nat) : Char := if n < 10 then Char.ofNat (48 + n) else Char.ofNat (87 + n)

/-- A character inside a JSON string. Only quotes, backslashes and control characters below the
space are escaped. -/
def escapeChar (c : Char) : String :=
  if c = '"' then "\\\""
  else if c = '\\' then "\\\\"
  else if c = '\n' then "\\n"
  else if c = '\r' then "\\r"
  else if c = '\t' then "\\t"
  else if c.toNat = 8 then "\\b"
  else if c.toNat = 12 then "\\f"
  else if c.toNat < 32 then
    "\\u00" ++ String.ofList [hexDigit (c.toNat / 16), hexDigit (c.toNat % 16)]
  else String.singleton c

/-- A JSON string with its quotes. -/
def quote (s : String) : String := "\"" ++ String.join (s.toList.map escapeChar) ++ "\""

/-- A line break and the indentation of a level. -/
def newline (level : Nat) : String := "\n" ++ String.ofList (List.replicate (2 * level) ' ')

mutual

/-- The indented text of a value that stands at a level. -/
def prettyAt (level : Nat) : Json → String
  | null => "null"
  | num n => toString n
  | str s => quote s
  | arr [] => "[]"
  | arr (e :: es) =>
    "[" ++ newline (level + 1) ++ prettyAt (level + 1) e ++ prettyElements (level + 1) es
      ++ newline level ++ "]"
  | obj [] => "\x7b\x7d"
  | obj ((k, v) :: ms) =>
    "\x7b" ++ newline (level + 1) ++ quote k ++ ": " ++ prettyAt (level + 1) v
      ++ prettyMembers (level + 1) ms ++ newline level ++ "\x7d"

/-- The elements of a list after the first. -/
def prettyElements (level : Nat) : List Json → String
  | [] => ""
  | e :: es => "," ++ newline level ++ prettyAt level e ++ prettyElements level es

/-- The members of an object after the first. -/
def prettyMembers (level : Nat) : List (String × Json) → String
  | [] => ""
  | (k, v) :: ms =>
    "," ++ newline level ++ quote k ++ ": " ++ prettyAt level v ++ prettyMembers level ms

end

/-- The indented text of a value. -/
def pretty (j : Json) : String := prettyAt 0 j

end Json

end HttpSuite
