import HttpSuite.Substitution
import HttpSuite.Suite

/-!
# Plans

What a suite will do once its variables are in place: the headers that every request is sent with,
and for each test the requests in full and the checks on their responses. Places in the source, the
variables and bodies that are not sent are gone.
-/

namespace HttpSuite

/-- A header that is sent. -/
structure Field where
  name : String
  value : String
  deriving DecidableEq, Repr, Inhabited

/-- A request in full and the checks on its response. -/
structure Exchange where
  method : Method
  url : String
  fields : List Field
  body : Option String
  checks : List Check
  deriving DecidableEq, Repr, Inhabited

/-- What a test does. -/
structure Plan.Test where
  name : String
  exchanges : List Exchange
  deriving DecidableEq, Repr, Inhabited

/-- What a suite does. -/
structure Plan where
  defaults : List Field
  tests : List Plan.Test
  deriving DecidableEq, Repr, Inhabited

/-- The base URL of a suite that sets none. -/
def defaultBaseUrl : String := "http://localhost:8080"

/-- Is a path a URL of its own? -/
def isAbsoluteUrl (path : String) : Bool :=
  "http://".toList.isPrefixOf path.toList || "https://".toList.isPrefixOf path.toList

/-- The URL that a request with this path goes to. -/
def resolveUrl (base : Option String) (path : String) (t : Variables) : String :=
  let path := t.substitute path
  if isAbsoluteUrl path then path else base.getD defaultBaseUrl ++ path

/-- The header as it is declared. -/
def Header.field (h : Header) : Field := ⟨h.name, h.value⟩

/-- The header with the variables of its value in place. -/
def Header.fieldWith (t : Variables) (h : Header) : Field := ⟨h.name, t.substitute h.value⟩

/-- The body that a request is sent with. -/
def Request.sentBody (t : Variables) (r : Request) : Option String :=
  if r.method.sendsBody then r.body.map t.substitute else none

/-- What a statement does. -/
def Statement.plan (base : Option String) (t : Variables) (s : Statement) : Exchange where
  method := s.sent.method
  url := resolveUrl base s.sent.path t
  fields := s.sent.headers.entries.map (Header.fieldWith t)
  body := s.sent.sentBody t
  checks := s.assertions.map Assertion.check

/-- What a test does. -/
def Test.plan (base : Option String) (t : Variables) (test : Test) : Plan.Test :=
  ⟨test.name, test.statements.map (Statement.plan base t)⟩

/-- What a suite does. -/
def Suite.plan (s : Suite) : Plan where
  defaults := s.defaultHeaders.map Header.field
  tests := s.tests.map (Test.plan s.baseUrl? s.vars)

end HttpSuite
