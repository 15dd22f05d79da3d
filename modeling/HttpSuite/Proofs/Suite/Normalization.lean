import HttpSuite.Proofs.Code.Functions
import HttpSuite.Proofs.Code.SourceName

/-!
# Which tests compare bodies without whitespace

The setting says it for all tests, for none, or for those in a list, and lists that are merged into
it later add to it. The code of a suite is read as text: the checks of bodies in the function of a
test are of the kind that the setting gives for that test, and the function they call is defined
where one of them needs it.

* `NormalizeBody.appliesTo_foldl_extend`: the setting after lists were merged into it.
* `Plan.lines_congr`: the code depends on what the setting says of each test only.
* `Suite.normalization_per_test`: the checks in the code, and the function that they call.
-/

namespace HttpSuite

open Code

namespace NormalizeBody

variable {n : NormalizeBody} {merged : List (List String)} {test : String}

/-- The test of that name is to compare without whitespace: all are, or the setting names it, or a
list that is merged into the setting names it. -/
def Covers (n : NormalizeBody) (merged : List (List String)) (test : String) : Prop :=
  n = all true ∨ (∃ names, n = tests names ∧ test ∈ names) ∨ ∃ more ∈ merged, test ∈ more

theorem appliesTo_iff : n.appliesTo test = true ↔
    n = all true ∨ ∃ names, n = tests names ∧ test ∈ names := by
  cases n with
  | all on => simp [appliesTo]
  | tests names => simp [appliesTo]

/-- **The setting after lists were merged into it.** -/
theorem appliesTo_foldl_extend :
    (merged.foldl extend n).appliesTo test = true ↔ n.Covers merged test := by
  have hmerged : (merged.foldl extend n).appliesTo test = true ↔
      n.appliesTo test = true ∨ ∃ more ∈ merged, test ∈ more := by
    induction merged generalizing n with
    | nil => simp
    | cons more merged ih =>
      rw [List.foldl_cons, ih, appliesTo_extend, Bool.or_eq_true, List.contains_iff_mem, or_assoc,
        List.exists_mem_cons_iff]
  rw [hmerged, appliesTo_iff, or_assoc, Covers]

instance (n : NormalizeBody) (merged : List (List String)) : DecidablePred (n.Covers merged) :=
  fun _ => decidable_of_iff _ appliesTo_foldl_extend

theorem appliesTo_foldl_extend_eq (n : NormalizeBody) (merged : List (List String))
    (test : String) :
    (merged.foldl extend n).appliesTo test = decide (n.Covers merged test) := by
  rw [Bool.eq_iff_iff, appliesTo_foldl_extend, decide_eq_true_eq]

end NormalizeBody

/-- **The code depends on what the setting says of each test only.** -/
theorem Plan.lines_congr (p : Plan) (settings : Settings) (n : NormalizeBody)
    (h : ∀ t ∈ p.tests, n.appliesTo t.name = settings.normalizeBody.appliesTo t.name) :
    p.lines { settings with normalizeBody := n } = p.lines settings := by
  have hany : p.normalizes n = p.normalizes settings.normalizeBody := by
    rw [Bool.eq_iff_iff, normalizes, normalizes, List.any_eq_true, List.any_eq_true]
    exact exists_congr fun t => and_congr_right fun ht => by rw [h t ht]
  have htests : p.tests.flatMap (Test.code n) =
      p.tests.flatMap (Test.code settings.normalizeBody) := by
    refine List.flatMap_congr fun t ht => ?_
    rw [Test.code, Test.code, h t ht]
  unfold Plan.lines
  rw [hany, htests]
  rfl

/-- What the code of a test is to tell, with whitespace removed from bodies or not. -/
def Test.remarks (normalized : Bool) (t : Test) : List Remark :=
  .function ("test_" ++ t.name) ::
    (t.statements.flatMap Statement.assertions).map fun a => a.check.remark normalized

theorem Test.remarks_plan (n : NormalizeBody) (base : Option String) (vars : Variables) (t : Test) :
    (t.plan base vars).remarks n = t.remarks (n.appliesTo t.name) := by
  have hchecks : ((t.statements.map (Statement.plan base vars)).flatMap Exchange.checks) =
      (t.statements.flatMap Statement.assertions).map Assertion.check := by
    rw [List.flatMap_map, List.map_flatMap]
    rfl
  rw [Plan.Test.remarks, Test.remarks, Test.plan, hchecks, List.map_map]
  rfl

/-- Checks of bodies without whitespace are made where they are to be. -/
theorem Check.normalized_of_remark {c : Check} {normalized : Bool} {text message : String}
    (h : c.remark normalized = .bodyCheck true text message) : normalized = true := by
  cases c with
  | bodyContains substring =>
    cases h
    rfl
  | _ => cases h

namespace Suite

/-- How the code of a suite, after its first line, compares bodies, when the tests of `covered` are
to do it without whitespace. -/
structure NormalizesIn (s : Suite) (covered : String → Prop) [DecidablePred covered]
    (body : List Char) : Prop where
  /-- The functions, and in that of each test its checks, of one kind for all its bodies. -/
  remarks_eq : Code.remarks body = Plan.helpers ++
    (if ∃ t ∈ s.tests, covered t.name then [.function "normalize_ws"] else []) ++
      s.tests.flatMap fun t => t.remarks (covered t.name)
  /-- The function that removes whitespace is there when a test needs it. -/
  defined_iff : .function "normalize_ws" ∈ Code.remarks body ↔ ∃ t ∈ s.tests, covered t.name
  /-- A line that names it defines it or is a check of a body that calls it. -/
  named : ∀ l ∈ Text.splitOn '\n' body, mentionsNormalize l = true →
    remark? l = some (.function "normalize_ws") ∨
      ∃ text message, remark? l = some (.bodyCheck true text message)
  /-- It is not named without being defined. -/
  defined_of_named : ∀ l ∈ Text.splitOn '\n' body, mentionsNormalize l = true →
    .function "normalize_ws" ∈ Code.remarks body

theorem normalizes_plan (s : Suite) (n : NormalizeBody) (merged : List (List String)) :
    s.plan.normalizes (merged.foldl NormalizeBody.extend n) ↔
      ∃ t ∈ s.tests, n.Covers merged t.name := by
  simp [Plan.normalizes, Suite.plan, Test.plan, NormalizeBody.appliesTo_foldl_extend]

theorem remarks_plan (s : Suite) (n : NormalizeBody) (merged : List (List String)) :
    s.plan.tests.flatMap (Plan.Test.remarks (merged.foldl NormalizeBody.extend n)) =
      s.tests.flatMap fun t => t.remarks (n.Covers merged t.name) := by
  rw [Suite.plan, List.flatMap_map]
  refine List.flatMap_congr fun t _ => ?_
  rw [Test.remarks_plan, NormalizeBody.appliesTo_foldl_extend_eq]

theorem NormalizesIn.of_does {s : Suite} {covered : String → Prop} [DecidablePred covered]
    {ls : List Line} {es : List Event} (h : Does ls es)
    (hes : es.filterMap Event.remark? = Plan.helpers ++
      (if ∃ t ∈ s.tests, covered t.name then [.function "normalize_ws"] else []) ++
        s.tests.flatMap fun t => t.remarks (covered t.name)) : s.NormalizesIn covered (chars ls) := by
  have hremarks := h.remarks_chars.trans hes
  have hdefined : .function "normalize_ws" ∈ Code.remarks (chars ls) ↔
      ∃ t ∈ s.tests, covered t.name := by
    rw [hremarks, List.mem_append, List.mem_append]
    constructor
    · rintro ((hm | hm) | hm)
      · exact absurd hm (by decide)
      · by_contra hnone
        rw [if_neg hnone] at hm
        cases hm
      · -- the function of a test has another name
        obtain ⟨t, -, hm⟩ := List.mem_flatMap.1 hm
        rcases List.mem_cons.1 hm with hm | hm
        · have hname : "normalize_ws" = "test_" ++ t.name := by injection hm
          have hfirst := congrArg (fun name => name.toList.head?) hname
          simp at hfirst
        · obtain ⟨a, -, ha⟩ := List.mem_map.1 hm
          cases a <;> cases ha
    · intro hany
      rw [if_pos hany]
      exact .inl (.inr List.mem_cons_self)
  have hnamed : ∀ l ∈ Text.splitOn '\n' (chars ls), mentionsNormalize l = true →
      remark? l = some (.function "normalize_ws") ∨
        ∃ text message, remark? l = some (.bodyCheck true text message) := by
    intro l hl hm
    have hany := h.normalizes_chars l hl hm
    cases hr : remark? l with
    | none =>
      rw [hr] at hany
      cases hany
    | some r =>
      rw [hr] at hany
      cases r with
      | function name =>
        have hname : name = "normalize_ws" := by simpa [Remark.normalizes] using hany
        exact .inl (by rw [hname])
      | bodyCheck normalized text message =>
        have hnormalized : normalized = true := hany
        exact .inr ⟨text, message, by rw [hnormalized]⟩
      | check statement => cases hany
  refine ⟨hremarks, hdefined, hnamed, fun l hl hm => ?_⟩
  rcases hnamed l hl hm with hr | ⟨text, message, hr⟩
  · exact List.mem_filterMap.2 ⟨l, hl, hr⟩
  · -- a test with such a check is covered
    have hmem : .bodyCheck true text message ∈ Code.remarks (chars ls) :=
      List.mem_filterMap.2 ⟨l, hl, hr⟩
    rw [hremarks, List.mem_append, List.mem_append] at hmem
    refine hdefined.2 ?_
    rcases hmem with (hmem | hmem) | hmem
    · simp [Plan.helpers] at hmem
    · split at hmem <;> simp at hmem
    · obtain ⟨t, ht, hmem⟩ := List.mem_flatMap.1 hmem
      rcases List.mem_cons.1 hmem with hmem | hmem
      · cases hmem
      · obtain ⟨a, -, ha⟩ := List.mem_map.1 hmem
        exact ⟨t, ht, of_decide_eq_true (Check.normalized_of_remark ha)⟩

/-- **Bodies are compared without whitespace test by test.** In the code of a text that parses,
after its first line, all checks of bodies of a test call the function that removes whitespace if
the setting covers the test, and none does otherwise, while the other checks are the same. The
function is defined if a test is covered, and it is named nowhere else. The order of the names that
were merged into the setting does not matter, nor how often they come. -/
theorem normalization_per_test {source : String} {s : Suite}
    (h : (Suite.parse source).result = .ok s) (settings : Settings)
    (merged : List (List String)) :
    let code := fun merged : List (List String) => s.generate
      { settings with normalizeBody := merged.foldl NormalizeBody.extend settings.normalizeBody }
    (∃ body : List Char,
      (∀ name, (code merged name).toList = (banner name).chars ++ body) ∧
      s.NormalizesIn (settings.normalizeBody.Covers merged) body) ∧
    ∀ others : List (List String), (∀ x, x ∈ others.flatten ↔ x ∈ merged.flatten) →
      code others = code merged := by
  intro code
  refine ⟨⟨chars (s.plan.lines { settings with
    normalizeBody := merged.foldl NormalizeBody.extend settings.normalizeBody }),
    fun name => ?_, ?_⟩, fun others hsame => ?_⟩
  · rw [← chars_cons, ← toList_render]
    rfl
  · refine .of_does (Plan.does_lines (Suite.named_plan_tests h) _) ?_
    rw [Plan.remarks_events]
    simp only [normalizes_plan, remarks_plan]
  · funext name
    have hcovers : ∀ t, settings.normalizeBody.Covers others t ↔
        settings.normalizeBody.Covers merged t := by
      intro t
      have ht := hsame t
      rw [List.mem_flatten, List.mem_flatten] at ht
      rw [NormalizeBody.Covers, NormalizeBody.Covers, ht]
    have hlines := s.plan.lines_congr { settings with
      normalizeBody := merged.foldl NormalizeBody.extend settings.normalizeBody }
      (others.foldl NormalizeBody.extend settings.normalizeBody) fun t _ => by
        simp only [NormalizeBody.appliesTo_foldl_extend_eq, hcovers]
    exact congrArg (fun ls => render (banner name :: ls)) hlines

/-- Two tests, of which one is named by lists that are merged into a setting that covers none. -/
theorem normalization_per_test_merged :
    ∃ (source : String) (s : Suite) (a b : Test) (body : List Char),
      source = "test a \x7b GET \"/\"; expect body contains \"x y\"; expect status = 200; \x7d " ++
        "test b \x7b GET \"/\"; expect body contains \"x y\"; \x7d" ∧
      (Suite.parse source).result = .ok s ∧ s.tests = [a, b] ∧
      (s.generate { normalizeBody := ((NormalizeBody.all false).extend ["b"]).extend ["c", "b"] }
        "ab.test").toList = (banner "ab.test").chars ++ body ∧
      Code.remarks body =
        Plan.helpers ++ [.function "normalize_ws"] ++ (a.remarks false ++ b.remarks true) := by
  let a : Test := ⟨"a", ⟨5, 6⟩, [.checked ⟨.get, "/", {}, none, ⟨9, 12⟩⟩
    [.bodyContains "x y", .status 200 ⟨62, 65⟩]]⟩
  let b : Test := ⟨"b", ⟨74, 75⟩, [.checked ⟨.get, "/", {}, none, ⟨78, 81⟩⟩ [.bodyContains "x y"]]⟩
  have hp : (Suite.parse ("test a \x7b GET \"/\"; expect body contains \"x y\"; " ++
      "expect status = 200; \x7d test b \x7b GET \"/\"; expect body contains \"x y\"; \x7d")).result =
        .ok { tests := [a, b] } := by
    cbv
  obtain ⟨⟨body, hbody, hin⟩, -⟩ :=
    normalization_per_test hp { normalizeBody := .all false } [["b"], ["c", "b"]]
  have ha : ¬ (NormalizeBody.all false).Covers [["b"], ["c", "b"]] a.name := by decide
  have hb : (NormalizeBody.all false).Covers [["b"], ["c", "b"]] b.name := by decide
  have hremarks := hin.remarks_eq
  rw [if_pos ⟨b, by simp, hb⟩, List.flatMap_cons, List.flatMap_cons, List.flatMap_nil,
    List.append_nil, decide_eq_false ha, decide_eq_true hb] at hremarks
  exact ⟨_, _, a, b, body, rfl, hp, rfl, hbody "ab.test", hremarks⟩

end Suite

end HttpSuite
