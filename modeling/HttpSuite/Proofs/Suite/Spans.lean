import Mathlib
import HttpSuite.Proofs.Parser.Exactness
import HttpSuite.Proofs.Suite.Problems
import HttpSuite.Proofs.Table
import HttpSuite.Proofs.Token.Spelling

/-!
# Spans point at what they are about

Every span in the tree of a suite is that of a token, and the bytes of a token are its written form.
So the span of a test selects its name in the source, that of a request its method, that of a header
the quoted text of its name, and that of a status its digits. A validation error takes its labels
from the tree, so they point at the same texts.

* `Suite.SpansHold`: what the spans of a suite select.
* `ValidationError.LabelsHold`: what the labels of an error select.
* `Suite.spans_and_labels`: both hold of every text that parses.
-/

namespace HttpSuite

open Token (Kind)
open Grammar

/-- At `s` stands a quoted text, from its opening to its closing quote, that lexes to `text`. -/
def LiteralAt (source : String) (s : Span) (text : String) : Prop :=
  ∃ slice, s.Selects source.toList slice ∧
    Lexing.ofString (String.ofList slice) =
      { tokens := [⟨.str, text, {}, byteLength slice⟩, .endOfInput (Position.advance {} slice)] }

/-- At `s` stands the name `name`. -/
def NameAt (source : String) (s : Span) (name : String) : Prop :=
  s.Selects source.toList name.toList

/-- At `s` stand digits of the number `code`. -/
def DigitsAt (source : String) (s : Span) (code : Nat) : Prop :=
  ∃ digits, s.Selects source.toList digits ∧ digits ≠ [] ∧ (∀ c ∈ digits, c.isDigit = true) ∧
    decimal digits = code

/-- What the span of an assertion selects. -/
def Assertion.SpanHolds (source : String) : Assertion → Prop
  | status code span => DigitsAt source span code
  | headerEquals name _ span => LiteralAt source span name
  | headerContains name _ span => LiteralAt source span name
  | bodyContains _ => True

/-- What the spans of a request and its headers select. -/
structure Request.SpansHold (source : String) (r : Request) : Prop where
  method : NameAt source r.span r.method.name
  headers : ∀ h ∈ r.headers.entries, LiteralAt source h.span h.name

/-- What the spans of a test select. -/
structure Test.SpansHold (source : String) (t : Test) : Prop where
  name : NameAt source t.span t.name
  requests : ∀ st ∈ t.statements, st.sent.SpansHold source
  assertions : ∀ st ∈ t.statements, ∀ a ∈ st.assertions, a.SpanHolds source

/-- **What the spans of a suite select.** -/
structure Suite.SpansHold (source : String) (f : Suite) : Prop where
  baseUrl : ∀ c ∈ f.config, ∀ url ∈ c.baseUrl, LiteralAt source url.span url.value
  defaults : ∀ h ∈ f.defaultHeaders, LiteralAt source h.span h.name
  tests : ∀ t ∈ f.tests, t.SpansHold source

/-- The suite has the header `h` and sends it with `value`. -/
def Suite.Sends (f : Suite) (h : Header) (value : String) : Prop :=
  h ∈ f.defaultHeaders ∧ value = h.value ∨
    ∃ t ∈ f.tests, ∃ st ∈ t.statements, h ∈ st.sent.headers.entries ∧
      value = f.vars.substitute h.value

/-- **What the labels of a validation error select**: the base URL, the name of the offending
header, the digits of the offending status, or the name of the test. Of a test that is declared
twice both names are labelled, the later one first. -/
def ValidationError.LabelsHold (source : String) (f : Suite) (e : ValidationError) : Prop :=
  match e, e.diagnostic.labels.map Label.span with
  | .invalidBaseUrl url reason, [s] =>
    LiteralAt source s url.value ∧ Url.check url.value = .error reason
  | .invalidHeaderName name _, [s] => LiteralAt source s name ∧ isFieldName name = false
  | .invalidHeaderValue name _, [s] =>
    LiteralAt source s name ∧
      ∃ h value, f.Sends h value ∧ h.name = name ∧ h.span = s ∧ isFieldValue value = false
  | .duplicateTest test first, [s, r] =>
    NameAt source s test.name ∧ NameAt source r test.name ∧ first.name = test.name ∧
      r.stop ≤ s.start
  | .missingRequest test, [s] => NameAt source s test.name ∧ test.requestCount = 0
  | .tooFewAssertions test, [s] => NameAt source s test.name ∧ test.assertionCount < minAssertions
  | .statusOutOfRange code _, [s] => DigitsAt source s code ∧ isStatusCode code = false
  | _, _ => False

/-! ### Tokens -/

namespace Lexing

variable {source : String} {t : Token}

/-- A token is the lexing of its own bytes. -/
theorem ofString_of_written {k : Kind} {text slice : List Char} (h : Written k text slice) :
    ofString (String.ofList slice) =
      { tokens := [⟨k, String.ofList text, {}, byteLength slice⟩,
          .endOfInput (Position.advance {} slice)] } := by
  have hd := Divided.token (p := {}) h (fun c hc => by simp at hc) Divided.finish
  rw [List.append_nil, ← String.toList_ofList (l := slice)] at hd
  rw [← Lexing.divided_iff.1 hd]
  simp

/-- The span of a token selects what it is written as. -/
theorem written_of_mem (h : t ∈ (ofString source).tokens) (hk : t.kind ≠ .eof) :
    ∃ slice, t.span.Selects source.toList slice ∧ Written t.kind t.text.toList slice := by
  obtain ⟨slice, hs, ⟨he, -⟩ | hw⟩ := (standsIn_of_mem h).selects
  · exact absurd he hk
  · exact ⟨slice, hs, hw⟩

/-- The span of a quoted text selects a literal that reads back to it. -/
theorem literalAt (h : t ∈ (ofString source).tokens) (hk : t.kind = .str) :
    LiteralAt source t.span t.text := by
  obtain ⟨slice, hs, hw⟩ := written_of_mem h (by rw [hk]; decide)
  refine ⟨slice, hs, ?_⟩
  rw [hk] at hw
  simpa using ofString_of_written hw

/-- The bytes of a keyword, a name, a number or a punctuation mark are its text. -/
theorem selects_text (h : t ∈ (ofString source).tokens) (he : t.kind ≠ .eof) (hs : t.kind ≠ .str)
    (hv : t.kind ≠ .varRef) : t.span.Selects source.toList t.text.toList := by
  obtain ⟨slice, hsel, hw⟩ := written_of_mem h he
  generalize hk : t.kind = k at hw he hs hv
  generalize t.text.toList = text at hw ⊢
  cases hw with
  | quoted => exact absurd rfl hs
  | reference => exact absurd rfl hv
  | word | number | mark => exact hsel

/-- The span of a number selects digits that stand for it. -/
theorem digitsAt (h : t ∈ (ofString source).tokens) (hk : t.kind = .number) :
    DigitsAt source t.span (decimal t.text.toList) := by
  have hsel := selects_text h (by rw [hk]; decide) (by rw [hk]; decide) (by rw [hk]; decide)
  have hlex := word_isLexable h (by rw [hk]; decide)
  obtain ⟨hne, hall⟩ : t.text.toList ≠ [] ∧ ∀ c ∈ t.text.toList, c.isDigit = true := by
    simpa [Token.word, Word.isLexable, hk] using hlex
  exact ⟨_, hsel, hne, hall, rfl⟩

end Lexing

/-! ### The tree -/

namespace Grammar

variable {source : String} {ts : List Token}

theorem HeaderDecl.literalAt {h : Header} (hD : HeaderDecl ts h)
    (hts : ts ⊆ (Lexing.ofString source).tokens) : LiteralAt source h.span h.name := by
  obtain ⟨hk⟩ := hD
  simp only [kinds_cons_eq_cons, kinds_nil] at hk
  exact Lexing.literalAt (hts (by simp)) hk.2.1

/-- The span of an item of the configuration selects its text or name. -/
theorem ConfigItem.literalAt {item : Config.Item} (hD : ConfigItem ts item)
    (hts : ts ⊆ (Lexing.ofString source).tokens) :
    (∀ h, item.header? = some h → LiteralAt source h.span h.name) ∧
      ∀ url, item.baseUrl? = some url → LiteralAt source url.span url.value := by
  cases hD with
  | baseUrl hk =>
    simp only [kinds_cons_eq_cons, kinds_nil] at hk
    refine ⟨fun h hh => ?_, fun url hu => ?_⟩
    · cases hh
    · cases hu
      exact Lexing.literalAt (hts (by simp)) hk.2.2.1
  | header hH =>
    refine ⟨fun h hh => ?_, fun url hu => ?_⟩
    · cases hh
      exact hH.literalAt hts
    · cases hu

theorem ConfigBlock.spansHold {c : Config} (hD : ConfigBlock ts c)
    (hts : ts ⊆ (Lexing.ofString source).tokens) :
    (∀ url ∈ c.baseUrl, LiteralAt source url.span url.value) ∧
      ∀ h ∈ c.headers.entries, LiteralAt source h.span h.name := by
  obtain @⟨kw, left, right, us, items, hk, hi⟩ := hD
  have hitem : ∀ item ∈ items, (∀ h, item.header? = some h → LiteralAt source h.span h.name) ∧
      ∀ url, item.baseUrl? = some url → LiteralAt source url.span url.value := by
    intro item hm
    obtain ⟨vs, hsub, hv⟩ := hi.exists_of_mem hm
    exact hv.literalAt fun t ht => hts (by simp [hsub ht])
  constructor
  · intro url hu
    obtain ⟨item, hm, hitem'⟩ := List.mem_filterMap.1 (List.mem_of_getLast? hu)
    exact (hitem item hm).2 url hitem'
  · intro h hh
    obtain ⟨item, hm, hitem'⟩ := List.mem_filterMap.1 (Headers.mem_of_mem_ofList hh)
    exact (hitem item hm).1 h hitem'

/-- The span of a header in a block selects its name, whatever is skipped before. -/
theorem BlockItems.literalAt {items : List Request.Item} (hD : BlockItems ts items)
    (hts : ts ⊆ (Lexing.ofString source).tokens) {h : Header} (hm : .header h ∈ items) :
    LiteralAt source h.span h.name := by
  induction hD with
  | nil => cases hm
  | header hH _ ih =>
    obtain ⟨hl, hr⟩ := List.append_subset.1 hts
    rcases List.mem_cons.1 hm with heq | hm
    · cases heq
      exact hH.literalAt hl
    · exact ih hr hm
  | body _ _ ih =>
    obtain ⟨-, hr⟩ := List.append_subset.1 hts
    rcases List.mem_cons.1 hm with heq | hm
    · cases heq
    · exact ih hr hm
  | skipped _ _ _ ih => exact ih (List.append_subset.1 hts).2 hm
  | unended => cases hm

/-- The span of a request selects its method, those of its headers their names. -/
theorem RequestDecl.spansHold {r : Request} (hD : RequestDecl ts r)
    (hts : ts ⊆ (Lexing.ofString source).tokens) : r.SpansHold source := by
  obtain @⟨m, kw, path, block, semi, items, hk, hb, hs⟩ := hD
  simp only [kinds_cons_eq_cons, kinds_nil] at hk
  have hkw : kw ∈ (Lexing.ofString source).tokens := hts (by simp)
  constructor
  · have hsel := Lexing.selects_text hkw (by rw [hk.1]; simp) (by rw [hk.1]; simp)
      (by rw [hk.1]; simp)
    have hlex := Lexing.word_isLexable hkw (by rw [hk.1]; simp)
    -- the keyword of a method is spelled as its name
    have htext : m.name = kw.text := by
      simpa [Token.word, Word.isLexable, hk.1, Kind.fixedText?] using hlex
    rw [← htext] at hsel
    exact hsel
  · intro h hh
    -- a header of the table was declared in the block, whose items come from its tokens
    obtain ⟨item, hm, hitem⟩ := List.mem_filterMap.1 (Headers.mem_of_mem_ofList hh)
    cases hb with
    | none => cases hm
    | @some left right us items hl hi hr =>
      have hus : us ⊆ (Lexing.ofString source).tokens := fun t ht => hts (by simp [ht])
      cases item with
      | header h' =>
        cases hitem
        exact hi.literalAt hus hm
      | body | skipped => cases hitem

/-- The span of an assertion selects the digits of a status or the name of a header. -/
theorem AssertionDecl.spanHolds {a : Assertion} (hD : AssertionDecl ts a)
    (hts : ts ⊆ (Lexing.ofString source).tokens) : a.SpanHolds source := by
  cases hD with
  | status hk =>
    simp only [kinds_cons_eq_cons, kinds_nil] at hk
    exact Lexing.digitsAt (hts (by simp)) hk.2.2.2.1
  | headerEquals hk | headerContains hk =>
    simp only [kinds_cons_eq_cons, kinds_nil] at hk
    exact Lexing.literalAt (hts (by simp)) hk.2.2.1
  | bodyContains => trivial

theorem StatementDecl.spansHold {st : Statement} (hD : StatementDecl ts st)
    (hts : ts ⊆ (Lexing.ofString source).tokens) :
    st.sent.SpansHold source ∧ ∀ a ∈ st.assertions, a.SpanHolds source := by
  cases hD with
  | request h => exact ⟨h.spansHold hts, by simp [Statement.assertions]⟩
  | checked h ha hne =>
    obtain ⟨hl, hr⟩ := List.append_subset.1 hts
    refine ⟨h.spansHold hl, fun a hm => ?_⟩
    obtain ⟨vs, hsub, hv⟩ := ha.exists_of_mem hm
    exact hv.spanHolds (List.Subset.trans hsub hr)

theorem TestDecl.spansHold {t : Test} (hD : TestDecl ts t)
    (hts : ts ⊆ (Lexing.ofString source).tokens) : t.SpansHold source := by
  obtain @⟨kw, name, left, right, us, statements, hk, hs⟩ := hD
  simp only [kinds_cons_eq_cons, kinds_nil] at hk
  have hstatement : ∀ st ∈ statements, st.sent.SpansHold source ∧
      ∀ a ∈ st.assertions, a.SpanHolds source := by
    intro st hm
    obtain ⟨vs, hsub, hv⟩ := hs.exists_of_mem hm
    exact hv.spansHold fun t ht => hts (by simp [hsub ht])
  refine ⟨?_, fun st hm => (hstatement st hm).1, fun st hm => (hstatement st hm).2⟩
  exact Lexing.selects_text (hts (by simp)) (by rw [hk.2.1]; decide) (by rw [hk.2.1]; decide)
    (by rw [hk.2.1]; decide)

/-- The name of a test is one of its tokens. -/
theorem TestDecl.span_mem {t : Test} (hD : TestDecl ts t) : t.span ∈ ts.map Token.span := by
  obtain ⟨-, -⟩ := hD
  simp

/-- Tests stand in the source in the order of the suite. -/
theorem Many.tests_inOrder {tests : List Test} (hD : Many TestDecl ts tests)
    (h : (ts.map Token.span).Pairwise fun a b => a.stop ≤ b.start) :
    tests.Pairwise fun a b => a.span.stop ≤ b.span.start := by
  induction hD with
  | nil => exact .nil
  | @cons us vs t tests ht hts ih =>
    rw [List.map_append, List.pairwise_append] at h
    refine List.pairwise_cons.2 ⟨fun b hb => ?_, ih h.2.1⟩
    obtain ⟨ws, hsub, hw⟩ := hts.exists_of_mem hb
    exact h.2.2 _ ht.span_mem _ (List.map_subset _ hsub hw.span_mem)

/-- **The spans of a test description** select what they are about. -/
theorem File.spansHold {f : Suite} (hD : File ts f)
    (hts : ts ⊆ (Lexing.ofString source).tokens) : f.SpansHold source := by
  obtain @⟨cs, vs, us, eof, config, vars, tests, hc, hv, ht, he⟩ := hD
  have hcs : cs ⊆ (Lexing.ofString source).tokens := fun t hm => hts (by simp [hm])
  refine ⟨?_, ?_, ?_⟩
  · intro c hm
    cases hc with
    | none => cases hm
    | some hb =>
      cases hm
      exact (hb.spansHold hcs).1
  · cases hc with
    | none => simp [Suite.defaultHeaders]
    | some hb => exact (hb.spansHold hcs).2
  · intro t hm
    obtain ⟨ws, hsub, hw⟩ := ht.exists_of_mem hm
    exact hw.spansHold fun t hm => hts (by simp [hsub hm])

/-- The names of tests stand one after another. -/
theorem File.tests_inOrder {f : Suite} (hD : File ts f)
    (h : (ts.map Token.span).Pairwise fun a b => a.stop ≤ b.start) :
    f.tests.Pairwise fun a b => a.span.stop ≤ b.span.start := by
  obtain ⟨-, -, ht, -⟩ := hD
  simp only [List.map_append, List.pairwise_append] at h
  exact ht.tests_inOrder h.1.2.1

end Grammar

namespace Suite

variable {source : String} {f : Suite}

theorem spansHold (h : (Suite.parse source).result = .ok f) : f.SpansHold source :=
  (Suite.file_of_parse h).spansHold (List.Subset.refl _)

theorem tests_inOrder (h : (Suite.parse source).result = .ok f) :
    f.tests.Pairwise fun a b => a.span.stop ≤ b.span.start :=
  (Suite.file_of_parse h).tests_inOrder (Lexing.tokens_inOrder source).2

end Suite

/-! ### Labels -/

section Labels

variable {source : String} {f : Suite} {e : ValidationError}

/-- The label on a name that no header can have. -/
theorem labelsHold_of_headerName {name : String} {span : Span} (hspan : LiteralAt source span name)
    (he : e ∈ headerNameProblems name span) : e.LabelsHold source f := by
  unfold headerNameProblems at he
  split at he
  · cases he
  · rename_i hname
    obtain rfl := List.mem_singleton.1 he
    exact ⟨hspan, by simpa using hname⟩

theorem Headers.labelsHold {t : Headers} {sent : String → String}
    (hspans : ∀ h ∈ t.entries, LiteralAt source h.span h.name)
    (hsends : ∀ h ∈ t.entries, f.Sends h (sent h.value)) (he : e ∈ t.problems sent) :
    e.LabelsHold source f := by
  rcases List.mem_append.1 he with he | he
  · obtain ⟨h, hm, he⟩ := List.mem_flatMap.1 he
    exact labelsHold_of_headerName (hspans h hm) he
  · obtain ⟨h, hm, he⟩ := List.mem_flatMap.1 he
    unfold Header.valueProblems at he
    split at he
    · cases he
    · rename_i hvalue
      obtain rfl := List.mem_singleton.1 he
      exact ⟨hspans h hm, h, _, hsends h hm, rfl, rfl, by simpa using hvalue⟩

theorem Config.labelsHold {c : Config} (hf : f.SpansHold source) (hc : f.config = some c)
    (he : e ∈ c.problems) : e.LabelsHold source f := by
  rcases List.mem_append.1 he with he | he
  · obtain ⟨url, hm, he⟩ := List.mem_flatMap.1 he
    have hspan := hf.baseUrl c hc url (Option.mem_toList.1 hm)
    unfold BaseUrl.problems at he
    split at he
    · cases he
    · rename_i reason hcheck
      obtain rfl := List.mem_singleton.1 he
      exact ⟨hspan, hcheck⟩
  · have hdefaults : f.defaultHeaders = c.headers.entries := by simp [Suite.defaultHeaders, hc]
    refine Headers.labelsHold (fun h hm => hf.defaults h (hdefaults ▸ hm)) (fun h hm => ?_) he
    exact .inl ⟨hdefaults ▸ hm, rfl⟩

theorem Assertion.labelsHold {a : Assertion} (ha : a.SpanHolds source) (he : e ∈ a.problems) :
    e.LabelsHold source f := by
  cases a with
  | status code span =>
    simp only [Assertion.problems] at he
    split at he
    · cases he
    · rename_i hcode
      obtain rfl := List.mem_singleton.1 he
      exact ⟨ha, by simpa using hcode⟩
  | headerEquals name value span => exact labelsHold_of_headerName ha he
  | headerContains name substring span => exact labelsHold_of_headerName ha he
  | bodyContains substring => cases he

/-- The labels on a test by itself: on its name, and on what its statements declare. -/
theorem Test.labelsHold {test : Test} (ht : test ∈ f.tests) (hspans : test.SpansHold source)
    (he : e ∈ test.problems f.vars) : e.LabelsHold source f := by
  simp only [Test.problems, List.mem_append] at he
  rcases he with he | he | he
  · split at he
    · rename_i hr
      obtain rfl := List.mem_singleton.1 he
      exact ⟨hspans.name, hr⟩
    · cases he
  · split at he
    · rename_i ha
      obtain rfl := List.mem_singleton.1 he
      exact ⟨hspans.name, ha⟩
    · cases he
  · obtain ⟨st, hst, he⟩ := List.mem_flatMap.1 he
    rcases List.mem_append.1 he with he | he
    · refine Headers.labelsHold (hspans.requests st hst).headers (fun h hm => ?_) he
      exact .inr ⟨test, ht, st, hst, hm, rfl⟩
    · obtain ⟨a, ha, he⟩ := List.mem_flatMap.1 he
      exact Assertion.labelsHold (hspans.assertions st hst a ha) he

/-- A problem of a list of tests is one of a test by itself, or of its name among those before. -/
theorem mem_testsProblems {t : Variables} {before tests : List Test}
    (he : e ∈ testsProblems t before tests) :
    (∃ test ∈ tests, e ∈ test.problems t) ∨
      ∃ front test back, tests = front ++ test :: back ∧
        e ∈ test.nameProblems (before ++ front) := by
  induction tests generalizing before with
  | nil => cases he
  | cons test tests ih =>
    simp only [testsProblems, List.mem_append] at he
    rcases he with he | he | he
    · exact .inr ⟨[], test, tests, rfl, by simpa using he⟩
    · exact .inl ⟨test, List.mem_cons_self, he⟩
    · rcases ih he with ⟨test', hm, hp⟩ | ⟨front, test', back, rfl, hp⟩
      · exact .inl ⟨test', List.mem_cons_of_mem test hm, hp⟩
      · exact .inr ⟨test :: front, test', back, rfl, by simpa using hp⟩

/-- The test that had the name first stands before the one that is reported. -/
theorem Test.labelsHold_of_name {front back : List Test} {test : Test} (hf : f.SpansHold source)
    (horder : f.tests.Pairwise fun a b => a.span.stop ≤ b.span.start)
    (htests : f.tests = front ++ test :: back) (he : e ∈ test.nameProblems front) :
    e.LabelsHold source f := by
  obtain ⟨first, hfind, rfl⟩ := Option.map_eq_some_iff.1 (Option.mem_toList.1 he)
  have hname : first.name = test.name := by simpa using List.find?_some hfind
  have hmem : first ∈ front := List.mem_of_find?_eq_some hfind
  rw [htests] at horder
  have hbefore := (List.pairwise_append.1 horder).2.2 first hmem test List.mem_cons_self
  have hfirst := (hf.tests first (by rw [htests]; simp [hmem])).name
  rw [hname] at hfirst
  exact ⟨(hf.tests test (by rw [htests]; simp)).name, hfirst, hname, hbefore⟩

/-- **The labels of every problem** point at the text that they are about. -/
theorem Suite.labelsHold (hf : f.SpansHold source)
    (horder : f.tests.Pairwise fun a b => a.span.stop ≤ b.span.start) (he : e ∈ f.problems) :
    e.LabelsHold source f := by
  rcases List.mem_append.1 he with he | he
  · obtain ⟨c, hm, he⟩ := List.mem_flatMap.1 he
    exact Config.labelsHold hf (Option.mem_toList.1 hm) he
  · rcases mem_testsProblems he with ⟨test, hm, he⟩ | ⟨front, test, back, htests, he⟩
    · exact Test.labelsHold hm (hf.tests test hm) he
    · exact Test.labelsHold_of_name hf horder htests he

end Labels

/-- **Spans and labels point at the text they are about.** In the tree of a text that parses, every
span selects the name, method, quoted text or digits of its node, and where the tree is not valid,
so does every label of the error. -/
theorem Suite.spans_and_labels {source : String} {f : Suite}
    (h : (Suite.parse source).result = .ok f) :
    f.SpansHold source ∧ ∀ e, f.validate = .error e → e.LabelsHold source f := by
  refine ⟨Suite.spansHold h, fun e he => ?_⟩
  exact Suite.labelsHold (Suite.spansHold h) (Suite.tests_inOrder h)
    (Suite.mem_problems_of_validate he)

/-- A name that is declared twice, the second time after a character of two bytes. -/
theorem Suite.spans_and_labels_twice :
    ∃ (source : String) (f : Suite) (e : ValidationError),
      source = "config \x7b header \"A\" = \"\"; \x7d test t \x7b PUT \"/\"; " ++
        "expect status = 0200; expect body contains \"é\"; \x7d test t \x7b \x7d" ∧
      (Suite.parse source).result = .ok f ∧ f.validate = .error e ∧
      e.diagnostic.labels.map Label.span = [⟨102, 103⟩, ⟨33, 34⟩] ∧
      f.SpansHold source ∧ e.LabelsHold source f := by
  let first : Test := ⟨"t", ⟨33, 34⟩, [.checked ⟨.put, "/", {}, none, ⟨37, 40⟩⟩
    [.status 200 ⟨62, 66⟩, .bodyContains "é"]]⟩
  let second : Test := ⟨"t", ⟨102, 103⟩, []⟩
  let f : Suite :=
    { config := some { headers := ⟨[⟨"A", "", ⟨16, 19⟩⟩]⟩ }, tests := [first, second] }
  have hp : (Suite.parse ("config \x7b header \"A\" = \"\"; \x7d test t \x7b PUT \"/\"; " ++
      "expect status = 0200; expect body contains \"é\"; \x7d test t \x7b \x7d")).result =
        .ok f := by
    cbv
  have hv : f.validate = .error (.duplicateTest second first) := by cbv
  obtain ⟨hspans, hlabels⟩ := Suite.spans_and_labels hp
  exact ⟨_, f, _, rfl, hp, hv, rfl, hspans, hlabels _ hv⟩

end HttpSuite
