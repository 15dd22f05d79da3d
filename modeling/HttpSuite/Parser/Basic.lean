import HttpSuite.Parser.Error
import HttpSuite.Token.Source

/-!
# Parsers

A parser reads tokens from a source with one token of lookahead. Its state survives an error, so
that the warnings found before it can be reported and parsing can go on from the current token.

* `Parser.advance`: takes the current token; the one after it is fetched first.
* `Parser.many`: repeats a parser as long as the current token begins another item. An item takes at
  least one token, so the loop ends by what is left in the source.
-/

namespace HttpSuite

open Token (Kind)

/-- The state of a parser: the source, the current token, which is already taken from the source,
and the warnings that the parser itself raised. -/
structure Parser.State (σ : Type) where
  source : σ
  current : Token
  /-- The warnings that the parser raised, the last one first. -/
  raised : List Warning := []

/-- A parser over the token source `σ`. -/
abbrev Parser (σ α : Type) := EStateM ParseError (Parser.State σ) α

namespace Parser

variable {σ α : Type} [TokenSource σ]

/-- The warnings that the parser raised, in the order in which it did. -/
def State.warnings (s : State σ) : List Warning := s.raised.reverse

/-- A bound on the tokens after the current one. -/
def State.remaining (s : State σ) : Nat := TokenSource.remaining s.source

/-- The kind of the current token. -/
def kind : Parser σ Kind := return (← get).current.kind

/-- Reports that the current token is not what is expected. -/
def unexpected (expected : Expected) : Parser σ α := do
  throw (.unexpected expected (← get).current)

/-- Raises a warning. -/
def warn (w : Warning) : Parser σ Unit := modify fun s => { s with raised := w :: s.raised }

/-- Takes the current token and fetches the next one. The end of the text is never passed. -/
def advance : Parser σ Token := fun s =>
  if s.current.kind = .eof then .ok s.current s
  else
    match TokenSource.next s.source with
    | (some (.ok t), source) => .ok s.current { s with source := source, current := t }
    | (some (.error e), source) => .error (.lexical e) { s with source := source }
    | (none, source) => .error .exhausted { s with source := source }

/-- Takes a token of a kind. -/
def expect (k : Kind) : Parser σ Token := do
  if (← kind) = k then advance else unexpected (.kind k)

/-- Takes a token of a kind that ends a list, where other items could have stood too. -/
def close (k : Kind) (expected : Expected) : Parser σ Token := do
  if (← kind) = k then advance else unexpected expected

/-- Repeats `item` as long as the current token satisfies `more`. -/
def many (more : Kind → Bool) (item : Parser σ α) : Parser σ (List α) := fun s =>
  if more s.current.kind then
    match item s with
    | .error e s' => .error e s'
    | .ok a s' =>
      if s'.remaining < s.remaining then
        match many more item s' with
        | .ok as s'' => .ok (a :: as) s''
        | .error e s'' => .error e s''
      else .ok [a] s'
  else .ok [] s
termination_by s => s.remaining

/-- The number of open braces after a token of that kind. -/
def depthAfter (depth : Nat) : Kind → Nat
  | .leftBrace => depth + 1
  | .rightBrace => depth - 1
  | _ => depth

/-- Takes tokens up to the one that closes the last of `depth` open braces, and gives the offset
where it ends. Braces that open on the way are closed first. -/
def closeBraces (depth : Nat) : Parser σ Nat := fun s =>
  if s.current.kind = .eof then .error (.unexpected (.kind .rightBrace) s.current) s
  else
    match advance s with
    | .error e s' => .error e s'
    | .ok t s' =>
      if depthAfter depth t.kind = 0 then .ok t.stop s'
      else if s'.remaining < s.remaining then closeBraces (depthAfter depth t.kind) s'
      else .ok t.stop s'
termination_by s => s.remaining

end Parser

end HttpSuite
