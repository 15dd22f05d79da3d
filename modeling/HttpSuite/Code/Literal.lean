/-!
# String literals

A text as a Rust string literal: backslash, double quote, newline, carriage return and tab are
escaped, every other character stands for itself.
-/

namespace HttpSuite.Code

/-- A character inside a string literal. -/
def escapeChar : Char → List Char
  | '\\' => ['\\', '\\']
  | '"' => ['\\', '"']
  | '\n' => ['\\', 'n']
  | '\r' => ['\\', 'r']
  | '\t' => ['\\', 't']
  | c => [c]

/-- A text inside a string literal. -/
def escape (text : String) : String := String.ofList (text.toList.flatMap escapeChar)

/-- The string literal of a text. -/
def literal (text : String) : String := "\"" ++ escape text ++ "\""

end HttpSuite.Code
