import HttpSuite.Diagnostic
import HttpSuite.Method

/-!
# Tokens

The words of a test description: keywords, names, quoted texts, numbers, `$` references and
punctuation, each with its place in the source. A finished text ends in one `eof` token.
-/

namespace HttpSuite

/-- What a token is. -/
inductive Token.Kind where
  | config
  | baseUrl
  | header
  | letVar
  | test
  | method (m : Method)
  | expect
  | status
  | body
  | contains
  | ident
  | str
  | number
  | varRef
  | equals
  | semicolon
  | leftBrace
  | rightBrace
  | leftParen
  | rightParen
  | eof
  deriving DecidableEq, Repr, Inhabited

namespace Token.Kind

/-- The kind as error messages name it. -/
def describe : Kind → String
  | config => "`config`"
  | baseUrl => "`base_url`"
  | header => "`header`"
  | letVar => "`let`"
  | test => "`test`"
  | method .get => "`GET`"
  | method .post => "`POST`"
  | method .put => "`PUT`"
  | method .delete => "`DELETE`"
  | expect => "`expect`"
  | status => "`status`"
  | body => "`body`"
  | contains => "`contains`"
  | ident => "identifier"
  | str => "string"
  | number => "number"
  | varRef => "variable reference"
  | equals => "`=`"
  | semicolon => "`;`"
  | leftBrace => "`\x7b`"
  | rightBrace => "`\x7d`"
  | leftParen => "`(`"
  | rightParen => "`)`"
  | eof => "end of input"

/-- The reserved words. They are case-sensitive. -/
def keywords : List (String × Kind) :=
  [("config", config), ("base_url", baseUrl), ("header", header), ("let", letVar), ("test", test),
   ("GET", method .get), ("POST", method .post), ("PUT", method .put),
   ("DELETE", method .delete), ("expect", expect), ("status", status), ("body", body),
   ("contains", contains)]

/-- The kind of a word: a keyword, or else a name. -/
def ofWord (word : String) : Kind := (keywords.lookup word).getD ident

/-- The kind of a character that is a token by itself. -/
def punctuation? : Char → Option Kind
  | '=' => some equals
  | ';' => some semicolon
  | '{' => some leftBrace
  | '}' => some rightBrace
  | '(' => some leftParen
  | ')' => some rightParen
  | _ => none

end Token.Kind

/-- A token: its kind, its text, where it starts and the byte offset where it ends. The text is the
word of a keyword or name, the decoded content of a quoted text, the digits of a number, the name
of a `$` reference, or the punctuation mark. -/
structure Token where
  kind : Token.Kind
  text : String
  pos : Position
  stop : Nat
  deriving DecidableEq, Repr, Inhabited

/-- The bytes of a token in the source. -/
def Token.span (t : Token) : Span := ⟨t.pos.offset, t.stop⟩

/-- The end of a text whose last token ends at `p`. -/
def Token.endOfInput (p : Position) : Token := ⟨.eof, "", p, p.offset⟩

end HttpSuite
