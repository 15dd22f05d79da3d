import HttpSuite.Proofs.Code.Writing
import HttpSuite.Proofs.Suite.Validity
import HttpSuite.Proofs.Text.Composition
import HttpSuite.Proofs.Text.Continue

/-!
# The names of test functions

Each test becomes a function that is named after it. Names of tests are compared as they are written,
and identifiers by their composed forms; a name may hold any letter, and an identifier not quite. So
the functions of a valid suite have names that are written differently, but these may be one
identifier, or none.

* `Code.isIdentifier`, `Code.sameIdentifier`: what identifiers are, and when they are the same.
* `Suite.functionNames_identifiers`: the names of the functions of a valid suite.
* `Suite.functionNames_clash`: a valid suite whose functions cannot stand side by side.
-/

namespace HttpSuite

open Text

namespace Code

/-- Is a text that begins with a letter an identifier? -/
def isIdentifier (text : String) : Bool := text.toList.all isContinue

/-- Are two identifiers the same? Those are that have one composed form. -/
def sameIdentifier (a b : String) : Bool := compose a.toList == compose b.toList

end Code

open Code

namespace Plan.Test

theorem toList_functionName (t : Plan.Test) :
    t.functionName.toList = "test".toList ++ '_' :: t.name.toList := by
  simp [functionName]

/-- The function of a test is named by an identifier unless the name holds a letter symbol. -/
theorem isIdentifier_functionName {t : Plan.Test} (h : t.Named) :
    isIdentifier t.functionName = true ↔ t.name.toList.any isLetterSymbol = false := by
  have hfront : "test_".toList.all isContinue = true := by decide +kernel
  unfold isIdentifier functionName
  rw [String.toList_append, List.all_append, hfront, Bool.true_and, List.all_eq_true,
    List.any_eq_false]
  exact forall₂_congr fun c hc => (isContinue_iff (h c hc)).trans Bool.eq_false_iff

theorem functionName_inj {t u : Plan.Test} : t.functionName = u.functionName ↔ t.name = u.name := by
  simp [functionName]

/-- The functions of two tests are named by the same identifier if the names of the tests have one
composed form. -/
theorem sameIdentifier_functionName (t u : Plan.Test) :
    sameIdentifier t.functionName u.functionName = true ↔
      compose t.name.toList = compose u.name.toList := by
  have hall : ("test".toList.all fun c => c.toNat < 0xC0) = true := by decide
  have hfront : ∀ c ∈ "test".toList, c.toNat < 0xC0 := fun c hc =>
    of_decide_eq_true (List.all_eq_true.1 hall c hc)
  rw [sameIdentifier, beq_iff_eq, toList_functionName, toList_functionName,
    compose_append_underscore hfront, compose_append_underscore hfront]
  simp

end Plan.Test

namespace Suite

/-- **The names of the functions of a valid suite.** Each is an identifier unless the name of its test
holds a letter symbol. Any two are written differently, and they are the same identifier if and only
if the names of the tests have one composed form. -/
theorem functionNames_identifiers {source : String} {s : Suite}
    (hparse : (Suite.parse source).result = .ok s) (hvalid : s.validate = .ok ()) :
    (∀ t ∈ s.plan.tests, isIdentifier t.functionName = true ↔
      t.name.toList.any isLetterSymbol = false) ∧
    s.plan.tests.Pairwise fun t u => t.functionName ≠ u.functionName ∧
      (sameIdentifier t.functionName u.functionName = true ↔
        compose t.name.toList = compose u.name.toList) := by
  refine ⟨fun t ht => Plan.Test.isIdentifier_functionName (named_plan_tests hparse t ht), ?_⟩
  refine List.pairwise_map.2 ((names_of_validate hvalid).imp fun {a b} hne => ⟨?_, ?_⟩)
  · exact fun h => hne (Plan.Test.functionName_inj.1 h)
  · exact Plan.Test.sameIdentifier_functionName _ _

/-- The names of the functions that a source text is compiled to, if it is valid. -/
def functionNames? (source : String) : Option (List String) :=
  (Suite.parse source).result.toOption.bind fun s =>
    s.validate.toOption.map fun _ => s.plan.tests.map Plan.Test.functionName

theorem exists_of_functionNames? {source : String} {names : List String}
    (h : functionNames? source = some names) :
    ∃ s, (Suite.parse source).result = .ok s ∧ s.validate = .ok () ∧
      s.plan.tests.map Plan.Test.functionName = names := by
  unfold functionNames? at h
  cases hparse : (Suite.parse source).result with
  | error e => simp [hparse, Except.toOption] at h
  | ok s =>
    cases hvalid : s.validate with
    | error e => simp [hparse, hvalid, Except.toOption] at h
    | ok u => exact ⟨s, rfl, hvalid, by simpa [hparse, hvalid, Except.toOption] using h⟩

/-- Two tests whose names differ in an accent. -/
theorem functionNames_identifiers_accent :
    ∃ source s, (Suite.parse source).result = .ok s ∧ s.validate = .ok () ∧
      s.plan.tests.map Plan.Test.functionName = ["test_caf\u00E9", "test_cafe"] ∧
      (∀ t ∈ s.plan.tests, isIdentifier t.functionName = true) ∧
      s.plan.tests.Pairwise fun t u => sameIdentifier t.functionName u.functionName = false := by
  obtain ⟨source, hsource⟩ : ∃ source, functionNames? source = some ["test_caf\u00E9", "test_cafe"] :=
    ⟨"test caf\u00E9 \x7bGET\"\";expect status=200;expect status=200;\x7d " ++
      "test cafe \x7bGET\"\";expect status=200;expect status=200;\x7d",
      by decide +kernel⟩
  obtain ⟨s, hparse, hvalid, hnames⟩ := exists_of_functionNames? hsource
  obtain ⟨hident, hpairs⟩ := functionNames_identifiers hparse hvalid
  obtain ⟨t, us, htests, ht, hus⟩ := List.map_eq_cons_iff.1 hnames
  obtain ⟨u, us, rfl, hu, hnil⟩ := List.map_eq_cons_iff.1 hus
  obtain rfl := List.map_eq_nil_iff.1 hnil
  have ht : t.name = "caf\u00E9" :=
    (Plan.Test.functionName_inj (u := ⟨"caf\u00E9", []⟩)).1 (ht.trans (by decide))
  have hu : u.name = "cafe" :=
    (Plan.Test.functionName_inj (u := ⟨"cafe", []⟩)).1 (hu.trans (by decide))
  refine ⟨source, s, hparse, hvalid, hnames, ?_, ?_⟩
  · rw [htests] at hident ⊢
    refine List.forall_mem_cons.2 ⟨(hident t (by simp)).2 ?_, List.forall_mem_singleton.2
      ((hident u (by simp)).2 ?_)⟩
    · rw [ht]
      decide +kernel
    · rw [hu]
      decide +kernel
  · rw [htests] at hpairs ⊢
    have hpair := (List.pairwise_pair.1 hpairs).2
    rw [ht, hu] at hpair
    refine List.pairwise_pair.2 (Bool.eq_false_iff.2 fun hsame => ?_)
    exact absurd (hpair.1 hsame) (by decide +kernel)

/-- **Valid suites whose functions cannot stand side by side, or not at all.** A letter and the sign
for a unit that looks like it are two names and one identifier. A letter in a circle is a name and no
identifier. -/
theorem functionNames_clash :
    functionNames? (
      "test \u00C5 \x7bGET\"\";expect status=200;expect status=200;\x7d " ++
      "test \u212B \x7bGET\"\";expect status=200;expect status=200;\x7d") =
        some ["test_\u00C5", "test_\u212B"] ∧
      sameIdentifier "test_\u00C5" "test_\u212B" = true ∧
    functionNames? "test \u24B6 \x7bGET\"\";expect status=200;expect status=200;\x7d" =
        some ["test_\u24B6"] ∧
      isIdentifier "test_\u24B6" = false :=
  ⟨by decide +kernel, by decide +kernel, by decide +kernel, by decide +kernel⟩

end Suite

end HttpSuite
