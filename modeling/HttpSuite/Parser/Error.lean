import HttpSuite.Token.Lexer

/-!
# Parse errors

What a parser may have expected where it found another token, and the errors that it reports.
-/

namespace HttpSuite

/-- What would have been accepted in the place of an unexpected token. -/
inductive Expected where
  /-- One kind of token. -/
  | kind (k : Token.Kind)
  /-- A declaration, a test or the end, before the first test. -/
  | declaration
  /-- A test or the end, after the first test. -/
  | test
  /-- An item of the configuration or its end. -/
  | configItem
  /-- The value of a variable. -/
  | value
  /-- A request or the end of a test. -/
  | statement
  | method
  /-- What an assertion is about. -/
  | subject
  /-- How an assertion compares a header. -/
  | comparison
  deriving DecidableEq, Repr

namespace Expected

/-- The words of an expectation. -/
def describe : Expected → String
  | kind k => k.describe
  | declaration => "`let`, `test` or end of input"
  | test => "`test` or end of input"
  | configItem => "`base_url`, `header` or `\x7d`"
  | value => "string or number"
  | statement => "HTTP method or `\x7d`"
  | method => "HTTP method"
  | subject => "`status`, `header` or `body`"
  | comparison => "`=` or `contains`"

/-- The four methods as kinds of token. -/
def methodKinds : List Token.Kind := [.method .get, .method .post, .method .put, .method .delete]

/-- The kinds of token that an expectation names. -/
def kinds : Expected → List Token.Kind
  | kind k => [k]
  | declaration => [.letVar, .test, .eof]
  | test => [.test, .eof]
  | configItem => [.baseUrl, .header, .rightBrace]
  | value => [.str, .number]
  | statement => methodKinds ++ [.rightBrace]
  | method => methodKinds
  | subject => [.status, .header, .body]
  | comparison => [.equals, .contains]

end Expected

/-- Why a text is not a test description. -/
inductive ParseError where
  /-- The text could not be divided into tokens. -/
  | lexical (e : LexError)
  /-- The token `found` cannot continue the text before it. -/
  | unexpected (expected : Expected) (found : Token)
  /-- The number of a status assertion does not fit 16 bits. -/
  | statusOutOfRange (number : Token)
  /-- A token was asked for after the last one. No parse of a text ends so. -/
  | exhausted
  deriving DecidableEq, Repr

/-- A parse error as it is shown to the user. -/
def ParseError.diagnostic : ParseError → Diagnostic
  | lexical e => e.diagnostic
  | unexpected expected found =>
    { message := s!"expected {expected.describe}, found {found.kind.describe} (`{found.text}`) at "
        ++ found.pos.words
      code := some "testlang::parse::unexpected_token"
      labels := [⟨"unexpected " ++ found.kind.describe, found.span⟩] }
  | statusOutOfRange number =>
    { message := s!"status code `{number.text}` at {number.pos.words} is out of range"
      code := some "testlang::parse::status_out_of_range"
      help := some "status codes are three digit numbers such as 200 or 404"
      labels := [⟨"not a status code", number.span⟩] }
  | exhausted => { message := "no token is left to read" }

end HttpSuite
