import HttpSuite.Parser.Basic
import HttpSuite.Suite

/-!
# The parser of test descriptions

A suite is an optional configuration, then variables, then tests, up to the end of the text. In a
request block, items that are neither headers nor bodies are passed over with a warning.

* `Suite.parse`: parses a source text.
* `Suite.resume`: calls the parser again and again, each call going on where the last one stopped.
-/

namespace HttpSuite

open Token (Kind)

/-- The number that a run of decimal digits stands for. -/
def decimal (digits : List Char) : Nat :=
  digits.foldl (fun n c => 10 * n + (c.toNat - '0'.toNat)) 0

/-- The method that a request begins with. -/
def Token.Kind.method? : Kind → Option Method
  | .method m => some m
  | _ => none

/-- A token that does not end a skipped item: none of `;`, `{`, `}` and the end of the text. -/
def Token.Kind.isPlain : Kind → Bool
  | .semicolon | .leftBrace | .rightBrace | .eof => false
  | _ => true

/-- An item of the configuration. -/
inductive Config.Item where
  | baseUrl (url : BaseUrl)
  | header (h : Header)
  deriving DecidableEq, Repr

/-- Adds an item to a configuration. The last base URL counts. -/
def Config.add (c : Config) : Config.Item → Config
  | .baseUrl url => { c with baseUrl := some url }
  | .header h => { c with headers := c.headers.insert h }

/-- An item of a request block. -/
inductive Request.Item where
  | header (h : Header)
  | body (text : String)
  | skipped
  deriving DecidableEq, Repr

/-- Adds an item to a request. The last body counts. -/
def Request.add (r : Request) : Request.Item → Request
  | .header h => { r with headers := r.headers.insert h }
  | .body text => { r with body := some text }
  | .skipped => r

namespace Parser

variable {σ : Type} [TokenSource σ]

/-- A header declaration. -/
def header : Parser σ Header := do
  let _ ← expect .header
  let name ← expect .str
  let _ ← expect .equals
  let value ← expect .str
  let _ ← expect .semicolon
  return { name := name.text, value := value.text, span := name.span }

/-- An item of the configuration. -/
def configItem : Parser σ Config.Item := do
  if (← kind) = .baseUrl then
    let _ ← advance
    let _ ← expect .equals
    let url ← expect .str
    let _ ← expect .semicolon
    return .baseUrl { value := url.text, span := url.span }
  else
    return .header (← header)

/-- The configuration. -/
def config : Parser σ Config := do
  let _ ← expect .config
  let _ ← expect .leftBrace
  let items ← many (fun k => k = .baseUrl ∨ k = .header) configItem
  let _ ← close .rightBrace .configItem
  return items.foldl Config.add {}

/-- A variable with its value, a quoted text or a number. -/
def variableDecl : Parser σ Variable := do
  let _ ← expect .letVar
  let name ← expect .ident
  let _ ← expect .equals
  let k ← kind
  let value ← if k = .str ∨ k = .number then advance else unexpected .value
  let _ ← expect .semicolon
  return { name := name.text, value := value.text }

/-- The body of a request. It is kept, with a warning, if the method sends none. -/
def body (m : Method) : Parser σ String := do
  let keyword ← expect .body
  let _ ← expect .equals
  let value ← expect .str
  let _ ← expect .semicolon
  if !m.sendsBody then
    warn ⟨.unsentBody m, keyword.pos, keyword.stop⟩
  return value.text

/-- The end of a skipped item whose plain tokens end at `stop`, and the offset where it ends: a `;`,
or a group in braces and an optional `;`, or nothing before the brace that closes the block. -/
def skipEnd (stop : Nat) : Parser σ Nat := do
  match ← kind with
  | .semicolon => return (← advance).stop
  | .leftBrace => do
    let stop ← closeBraces 0
    if (← kind) = .semicolon then return (← advance).stop else return stop
  | .rightBrace => return stop
  | _ => unexpected (.kind .rightBrace)

/-- Passes over an item of a request block, with a warning. -/
def skipItem : Parser σ Unit := do
  let first := (← get).current
  let passed ← many Kind.isPlain advance
  let stop ← skipEnd (passed.getLast?.getD first).stop
  warn ⟨.skippedItem first.kind first.text, first.pos, stop⟩

/-- An item of a request block. -/
def blockItem (m : Method) : Parser σ Request.Item := do
  match ← kind with
  | .header => return .header (← header)
  | .body => return .body (← body m)
  | _ => do
    skipItem
    return .skipped

/-- The block of a request, if it has one. -/
def block (m : Method) : Parser σ (List Request.Item) := do
  if (← kind) = .leftBrace then
    let _ ← advance
    let items ← many (fun k => k ≠ .rightBrace ∧ k ≠ .eof) (blockItem m)
    let _ ← expect .rightBrace
    return items
  else return []

/-- A request: a method, a path, and optionally a block and a `;`. -/
def request : Parser σ Request := do
  match (← kind).method? with
  | none => unexpected .method
  | some m => do
    let keyword ← advance
    let path ← expect .str
    let items ← block m
    if (← kind) = .semicolon then
      let _ ← advance
    return items.foldl Request.add { method := m, path := path.text, span := keyword.span }

/-- The number of a status assertion. The token after it is fetched before it is judged. -/
def statusCode : Parser σ Assertion := do
  let number ← expect .number
  let code := decimal number.text.toList
  if code < 65536 then return .status code number.span else throw (.statusOutOfRange number)

/-- The comparison of a header. -/
def headerCheck : Parser σ Assertion := do
  let name ← expect .str
  match ← kind with
  | .equals => do
    let _ ← advance
    return .headerEquals name.text (← expect .str).text name.span
  | .contains => do
    let _ ← advance
    return .headerContains name.text (← expect .str).text name.span
  | _ => unexpected .comparison

/-- What an assertion expects. -/
def expectation : Parser σ Assertion := do
  match ← kind with
  | .status => do
    let _ ← advance
    let _ ← expect .equals
    statusCode
  | .header => do
    let _ ← advance
    headerCheck
  | .body => do
    let _ ← advance
    let _ ← expect .contains
    return .bodyContains (← expect .str).text
  | _ => unexpected .subject

/-- An assertion. -/
def assertion : Parser σ Assertion := do
  let _ ← expect .expect
  let result ← expectation
  let _ ← expect .semicolon
  return result

/-- A request and the assertions on its response. -/
def statement : Parser σ Statement := do
  let r ← request
  let assertions ← many (· = .expect) assertion
  return .of r assertions

/-- A test. -/
def test : Parser σ Test := do
  let _ ← expect .test
  let name ← expect .ident
  let _ ← expect .leftBrace
  let statements ← many (fun k => k.method?.isSome) statement
  let _ ← close .rightBrace .statement
  return { name := name.text, span := name.span, statements := statements }

/-- The configuration, if there is one. -/
def config? : Parser σ (Option Config) := do
  if (← kind) = .config then return some (← config) else return none

/-- A test description up to the end of the text. -/
def suite : Parser σ Suite := do
  let config ← config?
  let vars ← many (· = .letVar) variableDecl
  let tests ← many (· = .test) test
  let _ ← close .eof (if tests.isEmpty then .declaration else .test)
  return {
    config := config
    vars := vars.foldl (fun t v => t.insert v.name v.value) {}
    tests := tests }

/-- A parser at the first token of a source. -/
def start (source : σ) : Except ParseError (State σ) × σ :=
  match TokenSource.next source with
  | (some (.ok t), source) => (.ok { source := source, current := t }, source)
  | (some (.error e), source) => (.error (.lexical e), source)
  | (none, source) => (.error .exhausted, source)

/-- All warnings of a parser over a lexer, by their place in the source. -/
def State.allWarnings (s : State Lexer) : List Warning :=
  (s.source.warnings ++ s.warnings).mergeSort fun a b => a.pos.offset ≤ b.pos.offset

end Parser

/-- What parsing a text gives: the suite or the error, and the warnings found on the way. -/
structure Parsed where
  result : Except ParseError Suite
  warnings : List Warning

/-- Parses a source text. -/
def Suite.parse (source : String) : Parsed :=
  match Parser.start (Lexer.ofString source) with
  | (.error e, lexer) => ⟨.error e, lexer.warnings⟩
  | (.ok s, _) =>
    match Parser.suite s with
    | .ok suite s' => ⟨.ok suite, s'.allWarnings⟩
    | .error e s' => ⟨.error e, s'.allWarnings⟩

/-- Is the text beyond repair, so that no token follows? -/
def ParseError.isFatal : ParseError → Bool
  | .lexical _ | .exhausted => true
  | .unexpected .. | .statusOutOfRange _ => false

/-- Calls the parser up to `calls` times on one state and gives the answers with the last state. A
lexical error is the last answer. -/
def Parser.resume {σ : Type} [TokenSource σ] :
    Nat → Parser.State σ → List (Except ParseError Suite) × Parser.State σ
  | 0, s => ([], s)
  | calls + 1, s =>
    match Parser.suite s with
    | .ok suite s' =>
      let (answers, last) := resume calls s'
      (.ok suite :: answers, last)
    | .error e s' =>
      if e.isFatal then ([.error e], s')
      else
        let (answers, last) := resume calls s'
        (.error e :: answers, last)

/-- Parses a source text again and again from where the last call stopped, up to `calls` times, and
gives the answers and all warnings. -/
def Suite.resume (source : String) (calls : Nat) :
    List (Except ParseError Suite) × List Warning :=
  match Parser.start (Lexer.ofString source) with
  | (.error e, lexer) => ([.error e], lexer.warnings)
  | (.ok s, _) =>
    let (answers, last) := Parser.resume calls s
    (answers, last.allWarnings)

end HttpSuite
