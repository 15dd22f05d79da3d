import HttpSuite.Code.Check
import HttpSuite.Code.Line
import HttpSuite.Plan
import HttpSuite.Settings

/-!
# The code of a suite

A plan as a file of integration tests: a comment that names the source, the client with its
timeouts, the default headers, helper functions, and one asynchronous function for each test.

* `Plan.code`: the file of a plan.
* `Suite.generate`: the file of a suite, by its plan.
-/

namespace HttpSuite

open Code

namespace Code

/-- The comment on the first line. -/
def banner (source : String) : Line :=
  line 0 ("// Generated by testlang from `" ++ source ++ "`. Do not edit.")

/-- What follows the first line and is the same for every suite. -/
def preamble : List Line :=
  [line 0 "//",
   line 0 "// Requires the dev-dependencies `reqwest` and `tokio` (features",
   line 0 "// `macros` and `rt`).",
   line 0 "#![allow(non_snake_case, unused_mut, unused_variables, dead_code)]",
   blankLine,
   line 0 "use std::time::Duration;",
   blankLine,
   line 0 "use reqwest::Client;",
   line 0 "use reqwest::Method;",
   line 0 "use reqwest::header::HeaderMap;",
   line 0 "use reqwest::header::HeaderName;",
   line 0 "use reqwest::header::HeaderValue;",
   blankLine]

/-- The end of a function. -/
def functionEnd : List Line := [line 0 "\x7d", blankLine]

/-- The function that builds the client. -/
def clientFunction (settings : Settings) : List Line :=
  [line 0 "fn client() -> Client \x7b",
   line 1 "Client::builder()",
   line 2 s!".connect_timeout(Duration::from_secs({settings.connectTimeout}))",
   line 2 s!".timeout(Duration::from_secs({settings.requestTimeout}))",
   line 2 ".build()",
   line 2 ".expect(\"failed to build HTTP client\")"]
    ++ functionEnd

/-- The statement that sets a header. -/
def insertField (f : Field) : Line :=
  line 1 ("headers.insert(header_name(" ++ literal f.name ++ "), header_value("
    ++ literal f.value ++ "));")

/-- The function that builds the default headers. -/
def defaultsFunction (defaults : List Field) : List Line :=
  [line 0 "fn default_headers() -> HeaderMap \x7b", line 1 "let mut headers = HeaderMap::new();"]
    ++ defaults.map insertField ++ [line 1 "headers"] ++ functionEnd

/-- The functions that read and build headers. -/
def headerFunctions : List Line :=
  [line 0 "fn header_name(name: &str) -> HeaderName \x7b",
   line 1 "HeaderName::from_bytes(name.as_bytes()).expect(\"invalid header name\")"]
    ++ functionEnd
    ++ [line 0 "fn header_value(value: &str) -> HeaderValue \x7b",
        line 1 "HeaderValue::from_str(value).expect(\"invalid header value\")"]
    ++ functionEnd
    ++ [line 0 "fn response_header(headers: &HeaderMap, name: &str) -> String \x7b",
        line 1 "headers",
        line 2 ".get(name)",
        line 2 ".and_then(|value| value.to_str().ok())",
        line 2 ".unwrap_or_default()",
        line 2 ".to_string()"]
    ++ functionEnd

/-- The function that removes whitespace. -/
def normalizeFunction : List Line :=
  [line 0 "fn normalize_ws(text: &str) -> String \x7b",
   line 1 "text.chars().filter(|c| !c.is_whitespace()).collect()"]
    ++ functionEnd

end Code

/-- The statements of an exchange: headers, request, response and checks. -/
def Exchange.code (normalize : Bool) (e : Exchange) : List Line :=
  [blankLine, line 1 "let mut headers = default_headers();"]
    ++ e.fields.map insertField
    ++ [line 1 "let resp = client",
        line 2 (".request(Method::" ++ e.method.name ++ ", " ++ literal e.url ++ ")"),
        line 2 ".headers(headers)"]
    ++ (e.body.map fun body => line 2 (".body(" ++ literal body ++ ")")).toList
    ++ [line 2 ".send()",
        line 2 ".await",
        line 2 (".expect(" ++ literal (e.method.name ++ " " ++ e.url ++ " failed") ++ ");"),
        line 1 "let status = resp.status().as_u16();",
        line 1 "let resp_headers = resp.headers().clone();",
        line 1 "let body = resp.text().await.expect(\"failed to read response body\");"]
    ++ e.checks.map fun c => line 1 (c.code normalize)

/-- The name of the function that runs a test. -/
def Plan.Test.functionName (t : Plan.Test) : String := "test_" ++ t.name

/-- The function of a test. -/
def Plan.Test.code (normalize : NormalizeBody) (t : Plan.Test) : List Line :=
  [line 0 "#[tokio::test]",
   line 0 ("async fn " ++ t.functionName ++ "() \x7b"),
   line 1 "let client = client();"]
    ++ t.exchanges.flatMap (Exchange.code (normalize.appliesTo t.name))
    ++ functionEnd

/-- Does some test of a plan compare bodies without whitespace? -/
def Plan.normalizes (p : Plan) (normalize : NormalizeBody) : Bool :=
  p.tests.any fun t => normalize.appliesTo t.name

/-- The lines after the first one. -/
def Plan.lines (settings : Settings) (p : Plan) : List Line :=
  preamble ++ clientFunction settings ++ defaultsFunction p.defaults ++ headerFunctions
    ++ (if p.normalizes settings.normalizeBody then normalizeFunction else [])
    ++ p.tests.flatMap (Plan.Test.code settings.normalizeBody)

/-- The test file of a plan, with the name of its source in the comment on top. -/
def Plan.code (settings : Settings) (source : String) (p : Plan) : String :=
  render (banner source :: p.lines settings)

/-- The test file of a suite. -/
def Suite.generate (settings : Settings) (source : String) (s : Suite) : String :=
  s.plan.code settings source

end HttpSuite
