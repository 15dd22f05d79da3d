import HttpSuite.Suite.Validity

/-!
# What a valid suite satisfies

A check that passes says that all of its parts pass. From the leaves up, a suite that is found valid
has only headers that can be sent, status codes of three digits and tests with names of their own.

* `Headers.validate_eq_ok`: the names and the values of a table.
* `Statement.validate_eq_ok`: a request and its assertions.
* `Suite.validate_eq_ok`: a suite and its tests.
* `Suite.statement_of_validate`: every statement of a valid suite.
* `Suite.names_of_validate`: the names of its tests.
-/

namespace HttpSuite

variable {α : Type}

namespace Verdict

theorem bind_eq_ok {v : Verdict} {f : Unit → Verdict} :
    (v >>= f) = .ok () ↔ v = .ok () ∧ f () = .ok () := by
  cases v with
  | ok u => simp [bind, Except.bind]
  | error e => simp [bind, Except.bind]

theorem forM_eq_ok {f : α → Verdict} {as : List α} :
    as.forM f = .ok () ↔ ∀ a ∈ as, f a = .ok () := by
  induction as with
  | nil => simp [pure, Except.pure]
  | cons a as ih =>
    change (f a >>= fun _ => as.forM f) = .ok () ↔ _
    rw [bind_eq_ok, ih, List.forall_mem_cons]

theorem option_forM_eq_ok {f : α → Verdict} {o : Option α} :
    o.forM f = .ok () ↔ ∀ a ∈ o, f a = .ok () := by
  cases o with
  | none => simp [pure, Except.pure]
  | some a => simp

theorem ite_eq_ok {c : Bool} {e : ValidationError} :
    (if c then .ok () else .error e : Verdict) = .ok () ↔ c = true := by
  cases c <;> simp

end Verdict

theorem Headers.validate_eq_ok {t : Headers} {sent : String → String} :
    t.validate sent = .ok () ↔
      ∀ h ∈ t.entries, isFieldName h.name = true ∧ isFieldValue (sent h.value) = true := by
  unfold validate
  rw [Verdict.bind_eq_ok, Verdict.forM_eq_ok, Verdict.forM_eq_ok]
  simp only [checkHeaderName, Header.checkValue, Verdict.ite_eq_ok]
  constructor
  · rintro ⟨hnames, hvalues⟩ hd hm
    exact ⟨hnames hd hm, hvalues hd hm⟩
  · intro h
    exact ⟨fun hd hm => (h hd hm).1, fun hd hm => (h hd hm).2⟩

theorem Config.headers_of_validate {c : Config} (h : c.validate = .ok ()) :
    ∀ hd ∈ c.headers.entries, isFieldName hd.name = true ∧ isFieldValue hd.value = true :=
  Headers.validate_eq_ok.1 (Verdict.bind_eq_ok.1 h).2

theorem Statement.validate_eq_ok {t : Variables} {s : Statement} :
    s.validate t = .ok () ↔
      (∀ h ∈ s.sent.headers.entries,
        isFieldName h.name = true ∧ isFieldValue (t.substitute h.value) = true) ∧
      ∀ a ∈ s.assertions, a.validate = .ok () := by
  unfold validate
  rw [Verdict.bind_eq_ok, Verdict.forM_eq_ok, Headers.validate_eq_ok]

theorem Test.statements_of_validate {t : Variables} {test : Test} (h : test.validate t = .ok ()) :
    ∀ s ∈ test.statements, s.validate t = .ok () := by
  unfold validate at h
  -- a test with too few requests or assertions is refused before its statements are looked at
  by_cases hr : test.requestCount = 0
  · simp [hr, throw, throwThe, MonadExceptOf.throw, bind, Except.bind] at h
  · by_cases ha : test.assertionCount < minAssertions
    · simp [hr, ha, throw, throwThe, MonadExceptOf.throw, bind, Except.bind] at h
    · simp only [hr, ha, if_false] at h
      exact Verdict.forM_eq_ok.1 h

theorem Test.checkName_eq_ok {before : List Test} {test : Test} :
    test.checkName before = .ok () ↔ ∀ first ∈ before, first.name ≠ test.name := by
  unfold checkName
  split
  · rename_i first hfound
    have hname := List.find?_some hfound
    refine iff_of_false (by simp) fun h => h first (List.mem_of_find?_eq_some hfound) ?_
    simpa using hname
  · rename_i hnone
    simpa using hnone

/-- **Tests that are checked in order** pass if each one passes by itself and has a name of its own,
also among the tests before them. -/
theorem validateTests_eq_ok {t : Variables} {before tests : List Test} :
    validateTests t before tests = .ok () ↔
      (∀ first ∈ before, ∀ test ∈ tests, first.name ≠ test.name) ∧
      tests.Pairwise (fun a b => a.name ≠ b.name) ∧ ∀ test ∈ tests, test.validate t = .ok () := by
  induction tests generalizing before with
  | nil => simp [validateTests]
  | cons test tests ih =>
    unfold validateTests
    rw [Verdict.bind_eq_ok, Verdict.bind_eq_ok, Test.checkName_eq_ok, ih, List.pairwise_cons,
      List.forall_mem_cons]
    constructor
    · rintro ⟨hname, htest, hbefore, hpairs, htests⟩
      refine ⟨fun first hfirst => ?_, ⟨hbefore test (by simp), hpairs⟩, htest, htests⟩
      exact List.forall_mem_cons.2 ⟨hname first hfirst, hbefore first (by simp [hfirst])⟩
    · rintro ⟨hbefore, ⟨htest, hpairs⟩, hvalid, htests⟩
      refine ⟨fun first hfirst => hbefore first hfirst test (by simp), hvalid, ?_, hpairs, htests⟩
      intro first hfirst
      rcases List.mem_append.1 hfirst with hfirst | hfirst
      · exact fun u hu => hbefore first hfirst u (by simp [hu])
      · obtain rfl := List.mem_singleton.1 hfirst
        exact htest

namespace Suite

variable {s : Suite}

/-- **A suite is valid** if its configuration is, its tests have names of their own, and each test
is valid by itself. -/
theorem validate_eq_ok : s.validate = .ok () ↔
    (∀ c ∈ s.config, c.validate = .ok ()) ∧ s.tests.Pairwise (fun a b => a.name ≠ b.name) ∧
      ∀ test ∈ s.tests, test.validate s.vars = .ok () := by
  unfold validate
  rw [Verdict.bind_eq_ok, Verdict.option_forM_eq_ok, validateTests_eq_ok]
  simp

/-- The default headers of a valid suite can be sent as they are declared. -/
theorem defaultHeaders_of_validate (h : s.validate = .ok ()) :
    ∀ hd ∈ s.defaultHeaders, isFieldName hd.name = true ∧ isFieldValue hd.value = true := by
  have hc := (validate_eq_ok.1 h).1
  unfold defaultHeaders
  cases hconfig : s.config with
  | none => simp
  | some c => exact Config.headers_of_validate (hc c (by simp [hconfig]))

/-- **Every statement of a valid suite** passes its checks with the variables of the suite. -/
theorem statement_of_validate (h : s.validate = .ok ()) :
    ∀ test ∈ s.tests, ∀ st ∈ test.statements, st.validate s.vars = .ok () := by
  intro test ht
  exact Test.statements_of_validate ((validate_eq_ok.1 h).2.2 test ht)

/-- The tests of a valid suite have names of their own. -/
theorem names_of_validate (h : s.validate = .ok ()) :
    s.tests.Pairwise fun a b => a.name ≠ b.name :=
  (validate_eq_ok.1 h).2.1

end Suite

end HttpSuite
