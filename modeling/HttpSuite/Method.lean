/-!
# Request methods
-/

namespace HttpSuite

/-- The method of an HTTP request. -/
inductive Method where
  | get
  | post
  | put
  | delete
  deriving DecidableEq, Repr, Inhabited

/-- The method as it is written in a request. -/
def Method.name : Method → String
  | .get => "GET"
  | .post => "POST"
  | .put => "PUT"
  | .delete => "DELETE"

/-- Only POST and PUT carry a request body. -/
def Method.sendsBody : Method → Bool
  | .post | .put => true
  | .get | .delete => false

theorem Method.name_injective {a b : Method} (h : a.name = b.name) : a = b := by
  cases a <;> cases b <;> simp_all [name]

end HttpSuite
