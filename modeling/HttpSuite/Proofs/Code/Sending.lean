import HttpSuite.Proofs.Code.Functions
import HttpSuite.Proofs.Suite.Validity

/-!
# What is sent is what was checked

A suite is checked as a tree and sent from generated code, by two walks that know nothing of each
other. Here the code is read back as text: what it hands to its helpers and compares statuses with
is, in order, what the suite declares, and a valid suite declares only what those accept.

* `Suite.arguments`: what a suite sends and compares.
* `Suite.valid_arguments`: what a valid suite sends and compares is valid.
* `Suite.valid_of_mem_handed`: so is whatever its code hands on.
-/

namespace HttpSuite

open Code

/-- Can it be sent, or be the status of a response? -/
def Code.Argument.valid : Argument → Bool
  | fieldName name => isFieldName name
  | fieldValue value => isFieldValue value
  | responseName name => isFieldName name
  | status code => isStatusCode code

/-- A declared header as it is sent. -/
def Header.arguments (sent : String → String) (h : Header) : List Argument :=
  [.fieldName h.name, .fieldValue (sent h.value)]

/-- What an assertion compares. -/
def Assertion.arguments : Assertion → List Argument
  | status code _ => [.status code]
  | headerEquals name _ _ => [.responseName name]
  | headerContains name _ _ => [.responseName name]
  | bodyContains _ => []

/-- What a statement sends and compares, with the variables in place. -/
def Statement.arguments (t : Variables) (s : Statement) : List Argument :=
  s.sent.headers.entries.flatMap (Header.arguments t.substitute) ++
    s.assertions.flatMap Assertion.arguments

/-- What a suite sends and compares: the default headers as they are written, then every statement
of every test. -/
def Suite.arguments (s : Suite) : List Argument :=
  s.defaultHeaders.flatMap (Header.arguments id) ++
    s.tests.flatMap fun test => test.statements.flatMap (Statement.arguments s.vars)

theorem Statement.arguments_plan (base : Option String) (t : Variables) (s : Statement) :
    (s.plan base t).arguments = s.arguments t := by
  have hcheck : ∀ a : Assertion, a.check.arguments = a.arguments := by
    intro a
    cases a <;> rfl
  have hfield : ∀ h : Header, (h.fieldWith t).arguments = h.arguments t.substitute := by
    intro h
    rfl
  simp only [Exchange.arguments, Statement.plan, Statement.arguments, List.flatMap_map, hcheck,
    hfield]

theorem Suite.arguments_plan (s : Suite) : s.plan.arguments = s.arguments := by
  have hfield : ∀ h : Header, h.field.arguments = h.arguments id := by
    intro h
    rfl
  simp only [Plan.arguments, Suite.plan, Suite.arguments, List.flatMap_map, Plan.Test.arguments,
    Test.plan, Statement.arguments_plan, hfield]

theorem Assertion.valid_of_validate {a : Assertion} (h : a.validate = .ok ()) :
    ∀ x ∈ a.arguments, x.valid = true := by
  cases a with
  | status code span => simpa [arguments, Argument.valid] using Verdict.ite_eq_ok.1 h
  | headerEquals name value span =>
    simpa [arguments, Argument.valid] using Verdict.ite_eq_ok.1 h
  | headerContains name substring span =>
    simpa [arguments, Argument.valid] using Verdict.ite_eq_ok.1 h
  | bodyContains substring => simp [arguments]

theorem Header.valid_arguments (sent : String → String) {hs : List Header}
    (h : ∀ hd ∈ hs, isFieldName hd.name = true ∧ isFieldValue (sent hd.value) = true) :
    ∀ x ∈ hs.flatMap (Header.arguments sent), x.valid = true := by
  intro x hx
  obtain ⟨hd, hm, hx⟩ := List.mem_flatMap.1 hx
  simp only [arguments, List.mem_cons, List.not_mem_nil, or_false] at hx
  rcases hx with rfl | rfl
  · exact (h hd hm).1
  · exact (h hd hm).2

/-- Whatever a valid suite sends and compares is valid. -/
theorem Suite.valid_arguments {s : Suite} (h : s.validate = .ok ()) :
    ∀ x ∈ s.arguments, x.valid = true := by
  intro x hx
  rcases List.mem_append.1 hx with hx | hx
  · exact Header.valid_arguments id (Suite.defaultHeaders_of_validate h) x hx
  · obtain ⟨test, ht, hx⟩ := List.mem_flatMap.1 hx
    obtain ⟨st, hst, hx⟩ := List.mem_flatMap.1 hx
    obtain ⟨hheaders, hassertions⟩ :=
      Statement.validate_eq_ok.1 (Suite.statement_of_validate h test ht st hst)
    rcases List.mem_append.1 hx with hx | hx
    · exact Header.valid_arguments _ hheaders x hx
    · obtain ⟨a, ha, hx⟩ := List.mem_flatMap.1 hx
      exact Assertion.valid_of_validate (hassertions a ha) x hx

/-- **What is sent is what was checked.** Take the code of a valid suite apart after its first line,
literal by literal: the names and values of header fields, the names looked up in a response and the
status codes are those of the suite, default headers as they are written and the headers of requests
with the variables in place, and all of them are valid. The first line has the name of the source in
it; if that has no line break, the whole code hands on the same. -/
theorem Suite.valid_of_mem_handed {source : String} {s : Suite}
    (hp : (Suite.parse source).result = .ok s) (hv : s.validate = .ok ()) (settings : Settings)
    (name : String) :
    s.generate settings name = (banner name).render ++ render (s.plan.lines settings) ∧
      handed (render (s.plan.lines settings)) = s.arguments ∧
      (∀ x ∈ handed (render (s.plan.lines settings)), x.valid = true) ∧
      ('\n' ∉ name.toList → handed (s.generate settings name) = s.arguments) := by
  have hdoes := Plan.does_lines (Suite.named_plan_tests hp) settings
  obtain ⟨hhanded, hbanner⟩ := hdoes.handed_render name
  rw [Plan.arguments_events, Suite.arguments_plan] at hhanded hbanner
  refine ⟨s.generate_eq settings name, hhanded, ?_, hbanner⟩
  rw [hhanded]
  exact Suite.valid_arguments hv

/-- A variable in a default header stays as it is written, one in the header of a request does not,
and its quote is read back. -/
theorem Suite.valid_of_mem_handed_variable :
    ∃ s : Suite,
      (Suite.parse ("config \x7b header \"A\" = \"$v\"; \x7d let v = \"\\\"1\"; " ++
        "test t \x7b GET \"/\" \x7b header \"B\" = \"$v\"; \x7d " ++
        "expect status = 200; expect header \"C\" contains \"q\"; \x7d")).result = .ok s ∧
      s.validate = .ok () ∧
      handed (render (s.plan.lines {})) = [.fieldName "A", .fieldValue "$v", .fieldName "B",
        .fieldValue "\"1", .status 200, .responseName "C"] ∧
      (∀ x ∈ handed (render (s.plan.lines {})), x.valid = true) ∧
      handed (s.generate {} "t.test") = s.arguments := by
  obtain ⟨s, hp, hv, ha⟩ : ∃ s : Suite,
      (Suite.parse ("config \x7b header \"A\" = \"$v\"; \x7d let v = \"\\\"1\"; " ++
        "test t \x7b GET \"/\" \x7b header \"B\" = \"$v\"; \x7d " ++
        "expect status = 200; expect header \"C\" contains \"q\"; \x7d")).result = .ok s ∧
      s.validate = .ok () ∧
      s.arguments = [.fieldName "A", .fieldValue "$v", .fieldName "B", .fieldValue "\"1",
        .status 200, .responseName "C"] :=
    ⟨{ config := some { headers := ⟨[⟨"A", "$v", ⟨16, 19⟩⟩]⟩ }
       vars := ⟨[⟨"v", "\"1"⟩]⟩
       tests := [⟨"t", ⟨50, 51⟩, [.checked ⟨.get, "/", ⟨[⟨"B", "$v", ⟨71, 74⟩⟩]⟩, none, ⟨54, 57⟩⟩
         [.status 200 ⟨101, 104⟩, .headerContains "C" "q" ⟨120, 123⟩]]⟩] },
      by cbv, by cbv, by decide +kernel⟩
  obtain ⟨-, hh, hvalid, hall⟩ := Suite.valid_of_mem_handed hp hv {} "t.test"
  exact ⟨s, hp, hv, hh.trans ha, hvalid, hall (by decide)⟩

end HttpSuite
