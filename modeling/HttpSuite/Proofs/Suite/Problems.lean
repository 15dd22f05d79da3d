import HttpSuite.Proofs.Suite.Validity

/-!
# The problems of a suite

All problems of a suite in the order in which they count: those of the configuration, then those of
each test, its name first. A check stops at the first problem, so checking is looking whether there
is one. If there is none, the tests are valid one by one, and only their names tie them together.

* `Suite.problems`: the list.
* `Suite.validate_eq`: a suite is valid if the list is empty, and otherwise its first problem is
  reported.
* `testsProblems_eq`: the problems of tests, each by its place.
* `Suite.validate_head?`: what checking a suite reports.
-/

namespace HttpSuite

variable {α : Type}

/-- The verdict on a list of problems: the first one counts. -/
def Verdict.of : List ValidationError → Verdict
  | [] => .ok ()
  | e :: _ => .error e

namespace Verdict

/-- A verdict passes if there are no problems. -/
theorem of_eq_ok {es : List ValidationError} : of es = .ok () ↔ es = [] := by
  cases es <;> simp [of]

/-- A verdict that does not pass is about the first problem. -/
theorem of_eq_error {es : List ValidationError} {e : ValidationError} :
    of es = .error e ↔ es.head? = some e := by
  cases es <;> simp [of]

/-- Two verdicts one after another are one on all the problems. -/
theorem of_bind_of (es fs : List ValidationError) :
    (of es >>= fun _ => of fs) = of (es ++ fs) := by
  cases es <;> rfl

/-- Checking each item in turn is a verdict on the problems of all. -/
theorem forM_of (f : α → List ValidationError) (as : List α) :
    as.forM (fun a => of (f a)) = of (as.flatMap f) := by
  induction as with
  | nil => rfl
  | cons a as ih =>
    change (of (f a) >>= fun _ => as.forM fun a => of (f a)) = _
    rw [ih, of_bind_of, List.flatMap_cons]

/-- The same of an item that may be missing. -/
theorem option_forM_of (f : α → List ValidationError) (o : Option α) :
    o.forM (fun a => of (f a)) = of (o.toList.flatMap f) := by
  cases o with
  | none => rfl
  | some a => simp

theorem of_ite (c : Bool) (e : ValidationError) :
    of (if c then [] else [e]) = if c then .ok () else .error e := by
  cases c <;> rfl

end Verdict

/-! ### From the leaves up -/

/-- The problem of a header name that the source gives at `span`. -/
def headerNameProblems (name : String) (span : Span) : List ValidationError :=
  if isFieldName name then [] else [.invalidHeaderName name span]

/-- The problem of the value that a header is sent with. -/
def Header.valueProblems (h : Header) (value : String) : List ValidationError :=
  if isFieldValue value then [] else [.invalidHeaderValue h.name h.span]

/-- The problems of a header table: those of the names, then those of the values. -/
def Headers.problems (t : Headers) (sent : String → String) : List ValidationError :=
  t.entries.flatMap (fun h => headerNameProblems h.name h.span) ++
    t.entries.flatMap fun h => h.valueProblems (sent h.value)

/-- The problem of a base URL. -/
def BaseUrl.problems (u : BaseUrl) : List ValidationError :=
  match Url.check u.value with
  | .ok _ => []
  | .error reason => [.invalidBaseUrl u reason]

/-- The problems of the configuration. -/
def Config.problems (c : Config) : List ValidationError :=
  c.baseUrl.toList.flatMap BaseUrl.problems ++ c.headers.problems id

/-- The problem of an assertion. -/
def Assertion.problems : Assertion → List ValidationError
  | status code span => if isStatusCode code then [] else [.statusOutOfRange code span]
  | headerEquals name _ span => headerNameProblems name span
  | headerContains name _ span => headerNameProblems name span
  | bodyContains _ => []

/-- The problems of a statement. -/
def Statement.problems (t : Variables) (s : Statement) : List ValidationError :=
  s.sent.headers.problems t.substitute ++ s.assertions.flatMap Assertion.problems

/-- The problems of a test by itself. -/
def Test.problems (t : Variables) (test : Test) : List ValidationError :=
  (if test.requestCount = 0 then [.missingRequest test] else []) ++
    ((if test.assertionCount < minAssertions then [.tooFewAssertions test] else []) ++
      test.statements.flatMap (Statement.problems t))

/-- The problem of the name of a test after the tests `before`. -/
def Test.nameProblems (before : List Test) (test : Test) : List ValidationError :=
  ((before.find? fun first => first.name = test.name).map (.duplicateTest test)).toList

/-- The problems of tests that follow the tests `before`. -/
def testsProblems (t : Variables) (before : List Test) : List Test → List ValidationError
  | [] => []
  | test :: tests =>
    test.nameProblems before ++ (test.problems t ++ testsProblems t (before ++ [test]) tests)

/-- **The problems of a suite**, in the order in which they count. -/
def Suite.problems (s : Suite) : List ValidationError :=
  s.config.toList.flatMap Config.problems ++ testsProblems s.vars [] s.tests

/-- Checking a header name reports its one problem. -/
theorem checkHeaderName_eq (name : String) (span : Span) :
    checkHeaderName name span = Verdict.of (headerNameProblems name span) := by
  rw [headerNameProblems, Verdict.of_ite]
  rfl

/-- A table is checked in two passes, the names before the values. -/
theorem Headers.validate_eq (t : Headers) (sent : String → String) :
    t.validate sent = Verdict.of (t.problems sent) := by
  have hvalue : ∀ h : Header, h.checkValue (sent h.value) = .of (h.valueProblems (sent h.value)) :=
    fun h => by rw [Header.valueProblems, Verdict.of_ite]; rfl
  unfold validate problems
  simp only [checkHeaderName_eq, hvalue, Verdict.forM_of, Verdict.of_bind_of]

theorem BaseUrl.validate_eq (u : BaseUrl) : u.validate = Verdict.of u.problems := by
  unfold validate problems
  cases Url.check u.value <;> rfl

/-- The base URL is checked before the default headers. -/
theorem Config.validate_eq (c : Config) : c.validate = Verdict.of c.problems := by
  have hbase : BaseUrl.validate = fun u => Verdict.of u.problems := funext BaseUrl.validate_eq
  unfold validate problems
  rw [hbase, Verdict.option_forM_of, Headers.validate_eq, Verdict.of_bind_of]

/-- An assertion has one problem at most. -/
theorem Assertion.validate_eq (a : Assertion) : a.validate = Verdict.of a.problems := by
  cases a with
  | status code span =>
    rw [problems, Verdict.of_ite]
    rfl
  | headerEquals name value span => exact checkHeaderName_eq name span
  | headerContains name substring span => exact checkHeaderName_eq name span
  | bodyContains => rfl

/-- A statement is checked from its request to its assertions. -/
theorem Statement.validate_eq (t : Variables) (s : Statement) :
    s.validate t = Verdict.of (s.problems t) := by
  have hassert : Assertion.validate = fun a => Verdict.of a.problems := funext Assertion.validate_eq
  unfold validate problems
  rw [hassert, Headers.validate_eq, Verdict.forM_of, Verdict.of_bind_of]

/-- A test must have a request, then assertions enough, then statements that pass. -/
theorem Test.validate_eq (t : Variables) (test : Test) :
    test.validate t = Verdict.of (test.problems t) := by
  have hstatement : Statement.validate t = fun s => Verdict.of (s.problems t) :=
    funext (Statement.validate_eq t)
  unfold validate problems
  rw [hstatement, Verdict.forM_of]
  by_cases hr : test.requestCount = 0
  · simp [hr, Verdict.of, throw, throwThe, MonadExceptOf.throw, bind, Except.bind]
  · by_cases ha : test.assertionCount < minAssertions
    · simp [hr, ha, Verdict.of, throw, throwThe, MonadExceptOf.throw, bind, Except.bind]
    · simp [hr, ha]

/-- A name is compared with those of the tests before. -/
theorem Test.checkName_eq (before : List Test) (test : Test) :
    test.checkName before = Verdict.of (test.nameProblems before) := by
  unfold checkName nameProblems
  cases before.find? fun first => first.name = test.name <;> rfl

/-- Tests are checked one by one, each name before the test itself. -/
theorem validateTests_eq (t : Variables) (before tests : List Test) :
    validateTests t before tests = Verdict.of (testsProblems t before tests) := by
  induction tests generalizing before with
  | nil => rfl
  | cons test tests ih =>
    unfold validateTests testsProblems
    rw [Test.checkName_eq, Test.validate_eq, ih, Verdict.of_bind_of, Verdict.of_bind_of]

/-- A suite is judged by its list of problems. -/
theorem Suite.validate_eq (s : Suite) : s.validate = Verdict.of s.problems := by
  have hconfig : Config.validate = fun c => Verdict.of c.problems := funext Config.validate_eq
  unfold validate problems
  rw [hconfig, Verdict.option_forM_of, validateTests_eq, Verdict.of_bind_of]

/-- What is reported is a problem of the suite. -/
theorem Suite.mem_problems_of_validate {s : Suite} {e : ValidationError}
    (h : s.validate = .error e) : e ∈ s.problems := by
  rw [Suite.validate_eq, Verdict.of_eq_error] at h
  exact List.mem_of_head? h

/-- **The problems of tests, each by its place**: that of its name after the tests in front of it,
and those of the test by itself. -/
theorem testsProblems_eq (t : Variables) (before tests : List Test) :
    testsProblems t before tests = (tests.mapIdx fun i test =>
      test.nameProblems (before ++ tests.take i) ++ test.problems t).flatten := by
  induction tests generalizing before with
  | nil => rfl
  | cons test tests ih =>
    unfold testsProblems
    rw [ih, List.mapIdx_cons, List.flatten_cons, List.take_zero, List.append_nil,
      List.append_assoc]
    simp only [List.take_succ_cons, List.append_assoc, List.singleton_append]

/-- **The first problem is reported.** A suite has its problems in this order: those of the
configuration, that is its base URL, the names of its headers and their values as they are declared;
and for each test that of its name, if a test in front of it has the same, which is reported with
the first such test, then those of the test by itself. The list is empty just when the suite is
found valid: its configuration is, its tests have names of their own, and each of them is valid by
itself. -/
theorem Suite.validate_head? (s : Suite) :
    (∀ e, s.validate = .error e ↔ s.problems.head? = some e) ∧
      (s.validate = .ok () ↔ s.problems = []) ∧
      s.problems = s.config.toList.flatMap Config.problems ++ (s.tests.mapIdx fun i test =>
        test.nameProblems (s.tests.take i) ++ test.problems s.vars).flatten ∧
      (s.validate = .ok () ↔ (∀ c ∈ s.config, c.validate = .ok ()) ∧
        s.tests.Pairwise (fun a b => a.name ≠ b.name) ∧
        ∀ test ∈ s.tests, test.validate s.vars = .ok ()) := by
  have hverdict := Suite.validate_eq s
  refine ⟨fun e => ?_, ?_, ?_, Suite.validate_eq_ok⟩
  · rw [hverdict, Verdict.of_eq_error]
  · rw [hverdict, Verdict.of_eq_ok]
  · rw [Suite.problems, testsProblems_eq]
    simp only [List.nil_append]

end HttpSuite
