import HttpSuite.Headers
import HttpSuite.Method
import HttpSuite.Variables

/-!
# Test suites

The tree of a test description: a configuration, variables, and tests that send requests and state
what is expected of the responses. Nodes that a later error may point at keep their span.
-/

namespace HttpSuite

/-- What is expected of a response. -/
inductive Check where
  | status (code : Nat)
  | headerEquals (name value : String)
  | headerContains (name substring : String)
  | bodyContains (substring : String)
  deriving DecidableEq, Repr, Inhabited

/-- An expectation in the source. The span is that of the status code or of the header name. -/
inductive Assertion where
  | status (code : Nat) (span : Span)
  | headerEquals (name value : String) (span : Span)
  | headerContains (name substring : String) (span : Span)
  | bodyContains (substring : String)
  deriving DecidableEq, Repr, Inhabited

/-- What an assertion expects, wherever it stands. -/
def Assertion.check : Assertion → Check
  | status code _ => .status code
  | headerEquals name value _ => .headerEquals name value
  | headerContains name substring _ => .headerContains name substring
  | bodyContains substring => .bodyContains substring

/-- A request. Its path is appended to the base URL unless it is an absolute URL; its span is that
of the method. -/
structure Request where
  method : Method
  path : String
  headers : Headers := {}
  body : Option String := none
  span : Span := {}
  deriving DecidableEq, Repr, Inhabited

/-- A step of a test: a request alone, or one whose response is checked. -/
inductive Statement where
  | request (request : Request)
  | checked (request : Request) (assertions : List Assertion)
  deriving DecidableEq, Repr, Inhabited

/-- The request of a statement. -/
def Statement.sent : Statement → Request
  | request r => r
  | checked r _ => r

/-- The assertions on the response of a statement. -/
def Statement.assertions : Statement → List Assertion
  | request _ => []
  | checked _ as => as

/-- A request with its assertions, none of them being a request alone. -/
def Statement.of (r : Request) : List Assertion → Statement
  | [] => request r
  | as => checked r as

/-- A test; its span is that of its name. -/
structure Test where
  name : String
  span : Span := {}
  statements : List Statement := []
  deriving DecidableEq, Repr, Inhabited

/-- The number of requests that a test sends. -/
def Test.requestCount (t : Test) : Nat := t.statements.length

/-- The number of assertions over all requests of a test. -/
def Test.assertionCount (t : Test) : Nat := (t.statements.flatMap Statement.assertions).length

/-- A base URL with the span of its literal. -/
structure BaseUrl where
  value : String
  span : Span := {}
  deriving DecidableEq, Repr, Inhabited

/-- The configuration of a suite. -/
structure Config where
  baseUrl : Option BaseUrl := none
  headers : Headers := {}
  deriving DecidableEq, Repr, Inhabited

/-- A test description. -/
structure Suite where
  config : Option Config := none
  vars : Variables := {}
  tests : List Test := []
  deriving DecidableEq, Repr, Inhabited

/-- The base URL of a suite, if its configuration sets one. -/
def Suite.baseUrl? (s : Suite) : Option String :=
  s.config.bind fun c => c.baseUrl.map BaseUrl.value

/-- The headers that every request of a suite is sent with. -/
def Suite.defaultHeaders (s : Suite) : List Header :=
  (s.config.map fun c => c.headers.entries).getD []

@[simp]
theorem Statement.assertions_of (r : Request) (as : List Assertion) : (of r as).assertions = as := by
  cases as <;> rfl

@[simp]
theorem Statement.sent_of (r : Request) (as : List Assertion) : (of r as).sent = r := by
  cases as <;> rfl

end HttpSuite
