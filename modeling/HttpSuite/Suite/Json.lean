import HttpSuite.Json
import HttpSuite.Suite

/-!
# Suites as JSON

The tree of a suite as a JSON value. Variants carry their name in the member `kind`.
-/

namespace HttpSuite

/-- A text, or `null` when there is none. -/
def Json.ofText? : Option String → Json
  | none => .null
  | some s => .str s

def Span.toJson (s : Span) : Json := .obj [("start", .num s.start), ("end", .num s.stop)]

def Header.toJson (h : Header) : Json :=
  .obj [("name", .str h.name), ("value", .str h.value), ("span", h.span.toJson)]

def Headers.toJson (t : Headers) : Json := .arr (t.entries.map Header.toJson)

def Variable.toJson (v : Variable) : Json := .obj [("name", .str v.name), ("value", .str v.value)]

def Variables.toJson (t : Variables) : Json := .arr (t.entries.map Variable.toJson)

def Assertion.toJson : Assertion → Json
  | status code span => .obj [("kind", .str "Status"), ("code", .num code), ("span", span.toJson)]
  | headerEquals name value span =>
    .obj [("kind", .str "HeaderEquals"), ("name", .str name), ("value", .str value),
      ("span", span.toJson)]
  | headerContains name substring span =>
    .obj [("kind", .str "HeaderContains"), ("name", .str name), ("substring", .str substring),
      ("span", span.toJson)]
  | bodyContains substring => .obj [("kind", .str "BodyContains"), ("substring", .str substring)]

/-- The members of a request, which a bare request shares with its statement. -/
def Request.jsonMembers (r : Request) : List (String × Json) :=
  [("method", .str r.method.name), ("path", .str r.path), ("headers", r.headers.toJson),
   ("body", .ofText? r.body), ("span", r.span.toJson)]

def Statement.toJson : Statement → Json
  | request r => .obj (("kind", .str "Request") :: r.jsonMembers)
  | checked r as =>
    .obj [("kind", .str "Checked"), ("request", .obj r.jsonMembers),
      ("assertions", .arr (as.map Assertion.toJson))]

def Test.toJson (t : Test) : Json :=
  .obj [("name", .str t.name), ("span", t.span.toJson),
    ("statements", .arr (t.statements.map Statement.toJson))]

def BaseUrl.toJson (u : BaseUrl) : Json :=
  .obj [("value", .str u.value), ("span", u.span.toJson)]

def Config.toJson (c : Config) : Json :=
  .obj [("base_url", (c.baseUrl.map BaseUrl.toJson).getD .null), ("headers", c.headers.toJson)]

/-- The tree of a suite. -/
def Suite.toJson (s : Suite) : Json :=
  .obj [("config", (s.config.map Config.toJson).getD .null), ("variables", s.vars.toJson),
    ("tests", .arr (s.tests.map Test.toJson))]

end HttpSuite
