import HttpSuite.Text.Position

/-!
# What HTTP lets through

The names and values that header fields may have, and the numbers that are status codes.
-/

namespace HttpSuite

/-- A character of a field name: an ASCII letter or digit, or one of fifteen signs. -/
def isFieldNameChar (c : Char) : Bool :=
  c.isAlphanum || "!#$%&'*+-.^_`|~".toList.contains c

/-- A field name has 1 to 65535 bytes, each of them a name character. -/
def isFieldName (name : String) : Bool :=
  let cs := name.toList
  !cs.isEmpty && cs.all isFieldNameChar && byteLength cs ≤ 65535

/-- A character of a field value: a tab, or any that is not a control character of ASCII. -/
def isFieldValueChar (c : Char) : Bool := c == '\t' || (32 ≤ c.toNat && c.toNat != 127)

/-- A field value has value characters only; it may be empty. -/
def isFieldValue (value : String) : Bool := value.toList.all isFieldValueChar

/-- Status codes have three digits. -/
def isStatusCode (code : Nat) : Bool := 100 ≤ code && code ≤ 999

end HttpSuite
