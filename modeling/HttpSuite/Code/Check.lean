import HttpSuite.Code.Literal
import HttpSuite.Suite

/-!
# The code of checks

A check is one assertion statement over the bindings `status`, `resp_headers` and `body` that stand
after every request. A response header that is absent compares as the empty text. A body check that
is normalized removes whitespace on both sides before it compares.
-/

namespace HttpSuite

open Code

/-- What a failing check reports. -/
def Check.message : Check → String
  | status code => s!"Status code should be {code}"
  | headerEquals name value => s!"Header {name} should equal {value}"
  | headerContains name substring => s!"Header {name} should contain {substring}"
  | bodyContains substring => s!"Body should contain {substring}"

/-- The end of a check: the format and the report, and the closing of the statement. -/
def Check.report (c : Check) : String := ", \"\x7b\x7d\", " ++ literal c.message ++ ");"

/-- The condition of a check with the opening of its statement. -/
def Check.condition (normalize : Bool) : Check → String
  | status code => s!"assert_eq!(status, {code}"
  | headerEquals name value =>
    "assert_eq!(response_header(&resp_headers, " ++ literal name ++ "), " ++ literal value
  | headerContains name substring =>
    "assert!(response_header(&resp_headers, " ++ literal name ++ ").contains("
      ++ literal substring ++ ")"
  | bodyContains substring =>
    if normalize then
      "assert!(normalize_ws(&body).contains(&normalize_ws(" ++ literal substring ++ "))"
    else "assert!(body.contains(" ++ literal substring ++ ")"

/-- The statement of a check. -/
def Check.code (normalize : Bool) (c : Check) : String := c.condition normalize ++ c.report

end HttpSuite
