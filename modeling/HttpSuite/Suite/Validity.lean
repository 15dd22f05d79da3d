import HttpSuite.Diagnostic
import HttpSuite.Field
import HttpSuite.Substitution
import HttpSuite.Suite
import HttpSuite.Url

/-!
# Validity of suites

What the grammar cannot say: the base URL is absolute, header names and values are ones that can be
sent, tests have different names, send a request and carry at least two assertions, and status codes
have three digits. The first problem found is reported.

* `Suite.validate`: checks a suite.
* `Test.validate`: checks a test by itself.
-/

namespace HttpSuite

/-- Why a suite cannot be compiled. -/
inductive ValidationError where
  | invalidBaseUrl (url : BaseUrl) (reason : UrlError)
  | invalidHeaderName (name : String) (span : Span)
  | invalidHeaderValue (name : String) (span : Span)
  | duplicateTest (test : Test) (first : Test)
  | missingRequest (test : Test)
  | tooFewAssertions (test : Test)
  | statusOutOfRange (code : Nat) (span : Span)
  deriving DecidableEq, Repr

/-- A validation error as it is shown to the user. -/
def ValidationError.diagnostic : ValidationError → Diagnostic
  | invalidBaseUrl url reason =>
    { message := s!"Invalid base URL `{url.value}`: {reason.message}"
      code := some "testlang::validate::base_url"
      labels := [⟨"invalid value here", url.span⟩] }
  | invalidHeaderName name span =>
    { message := s!"Invalid header name `{name}`: invalid HTTP header name"
      code := some "testlang::validate::header_name"
      labels := [⟨"invalid value here", span⟩] }
  | invalidHeaderValue name span =>
    { message := s!"Invalid value for header `{name}`: failed to parse header value"
      code := some "testlang::validate::header_value"
      help := some "header values can't contain control characters such as newlines"
      labels := [⟨"invalid value here", span⟩] }
  | duplicateTest test first =>
    { message := s!"Test `{test.name}` is declared more than once"
      code := some "testlang::validate::duplicate_test"
      help := some "each test becomes a function in the generated file"
      labels := [⟨"redeclared here", test.span⟩, ⟨"first declared here", first.span⟩] }
  | missingRequest test =>
    { message := s!"Test `{test.name}` must have at least one HTTP request"
      code := some "testlang::validate::missing_request"
      labels := [⟨"this test sends nothing", test.span⟩] }
  | tooFewAssertions test =>
    { message := s!"Test `{test.name}` must have at least 2 assertions, found "
        ++ toString test.assertionCount
      code := some "testlang::validate::too_few_assertions"
      labels := [⟨"declared here", test.span⟩] }
  | statusOutOfRange code span =>
    { message := s!"Status code {code} is not between 100 and 999"
      code := some "testlang::validate::status"
      labels := [⟨"invalid value here", span⟩] }

/-- The outcome of a check: success, or the first problem. -/
abbrev Verdict := Except ValidationError Unit

/-- Every test needs this many assertions over all its requests. -/
def minAssertions : Nat := 2

/-- Checks the name of a header that the source gives at `span`. -/
def checkHeaderName (name : String) (span : Span) : Verdict :=
  if isFieldName name then .ok () else .error (.invalidHeaderName name span)

/-- Checks the value that a header is sent with. -/
def Header.checkValue (h : Header) (value : String) : Verdict :=
  if isFieldValue value then .ok () else .error (.invalidHeaderValue h.name h.span)

/-- Checks a header table: all names, then all values as `sent` gives them. -/
def Headers.validate (t : Headers) (sent : String → String) : Verdict := do
  t.entries.forM fun h => checkHeaderName h.name h.span
  t.entries.forM fun h => h.checkValue (sent h.value)

/-- Checks a base URL. -/
def BaseUrl.validate (u : BaseUrl) : Verdict := (Url.check u.value).mapError (.invalidBaseUrl u)

/-- Checks the configuration. Its header values are sent as they are declared. -/
def Config.validate (c : Config) : Verdict := do
  c.baseUrl.forM BaseUrl.validate
  c.headers.validate id

/-- Checks an assertion. -/
def Assertion.validate : Assertion → Verdict
  | status code span =>
    if isStatusCode code then .ok () else .error (.statusOutOfRange code span)
  | headerEquals name _ span => checkHeaderName name span
  | headerContains name _ span => checkHeaderName name span
  | bodyContains _ => .ok ()

/-- Checks a statement. Header values are sent with the variables in place. -/
def Statement.validate (t : Variables) (s : Statement) : Verdict := do
  s.sent.headers.validate t.substitute
  s.assertions.forM Assertion.validate

/-- Checks a test by itself. -/
def Test.validate (t : Variables) (test : Test) : Verdict := do
  if test.requestCount = 0 then throw (.missingRequest test)
  if test.assertionCount < minAssertions then throw (.tooFewAssertions test)
  test.statements.forM (Statement.validate t)

/-- Checks that a test has a name of its own among the tests before it. -/
def Test.checkName (before : List Test) (test : Test) : Verdict :=
  match before.find? fun first => first.name = test.name with
  | some first => .error (.duplicateTest test first)
  | none => .ok ()

/-- Checks tests in order, each one against those before it. -/
def validateTests (t : Variables) (before : List Test) : List Test → Verdict
  | [] => .ok ()
  | test :: tests => do
    test.checkName before
    test.validate t
    validateTests t (before ++ [test]) tests

/-- Checks a suite. -/
def Suite.validate (s : Suite) : Verdict := do
  s.config.forM Config.validate
  validateTests s.vars [] s.tests

end HttpSuite
