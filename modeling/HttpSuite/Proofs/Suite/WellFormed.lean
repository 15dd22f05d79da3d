import HttpSuite.Proofs.Parser.Exactness
import HttpSuite.Proofs.Table
import HttpSuite.Proofs.Token.Spelling

/-!
# Well-formed suites

The places of its nodes apart, a suite that is the parse of some text has names that can be written,
tables without two entries for one name, assertions wherever it says that there are some, and status
codes of 16 bits.

* `Suite.erase`: a suite without places.
* `Suite.WellFormed`: what holds of every parsed suite.
* `Suite.wellFormed_of_parse`: it does.
-/

namespace HttpSuite

open Token (Kind)
open Grammar

/-! ### Places -/

/-- A header without its place. -/
def Header.erase (h : Header) : Header := { h with span := {} }

/-- The headers of a table without their places. -/
def Headers.erase (t : Headers) : Headers := ⟨t.entries.map Header.erase⟩

/-- A base URL without its place. -/
def BaseUrl.erase (url : BaseUrl) : BaseUrl := { url with span := {} }

/-- A configuration without the places in it. -/
def Config.erase (c : Config) : Config :=
  { baseUrl := c.baseUrl.map BaseUrl.erase, headers := c.headers.erase }

/-- An assertion without its place. -/
def Assertion.erase : Assertion → Assertion
  | .status code _ => .status code {}
  | .headerEquals name value _ => .headerEquals name value {}
  | .headerContains name substring _ => .headerContains name substring {}
  | .bodyContains substring => .bodyContains substring

/-- A request without the places in it. -/
def Request.erase (r : Request) : Request := { r with headers := r.headers.erase, span := {} }

/-- A statement without the places in it. -/
def Statement.erase : Statement → Statement
  | .request r => .request r.erase
  | .checked r as => .checked r.erase (as.map Assertion.erase)

/-- A test without the places in it. -/
def Test.erase (t : Test) : Test :=
  { t with span := {}, statements := t.statements.map Statement.erase }

/-- **A suite without places.** -/
def Suite.erase (f : Suite) : Suite :=
  { f with config := f.config.map Config.erase, tests := f.tests.map Test.erase }

/-! ### Well-formedness -/

/-- No two headers have the same name, upper and lower case being the same. -/
def Headers.Distinct (t : Headers) : Prop := (t.entries.map Header.key).Nodup

/-- A status code has 16 bits. -/
def Assertion.Fits : Assertion → Prop
  | .status code _ => code ≤ 65535
  | _ => True

/-- A statement that is said to be checked has assertions. -/
def Statement.IsChecked : Statement → Prop
  | .request _ => True
  | .checked _ as => as ≠ []

/-- A statement that can be written: its header names are distinct, its status codes fit, and it has
assertions if it is said to be checked. -/
structure Statement.WellFormed (st : Statement) : Prop where
  headers : st.sent.headers.Distinct
  checked : st.IsChecked
  fits : ∀ a ∈ st.assertions, a.Fits

/-- A test that can be written, since its name and its statements can. -/
structure Test.WellFormed (t : Test) : Prop where
  name : isName t.name = true
  statements : ∀ st ∈ t.statements, st.WellFormed

/-- **A well-formed suite.** Texts other than names may be anything. -/
structure Suite.WellFormed (f : Suite) : Prop where
  config : ∀ c, f.config = some c → c.headers.Distinct
  distinct : (f.vars.entries.map Variable.name).Nodup
  names : ∀ v ∈ f.vars.entries, isName v.name = true
  tests : ∀ t ∈ f.tests, t.WellFormed

theorem Headers.distinct_erase {t : Headers} : t.erase.Distinct ↔ t.Distinct := by
  unfold Distinct erase
  rw [List.map_map]
  rfl

theorem Assertion.fits_erase {a : Assertion} : a.erase.Fits ↔ a.Fits := by
  cases a <;> rfl

theorem Statement.wellFormed_erase {st : Statement} : st.erase.WellFormed ↔ st.WellFormed := by
  have hh : st.erase.sent.headers.Distinct ↔ st.sent.headers.Distinct := by
    cases st <;> exact Headers.distinct_erase
  have hc : st.erase.IsChecked ↔ st.IsChecked := by
    cases st <;> simp [erase, IsChecked]
  have hf : (∀ a ∈ st.erase.assertions, a.Fits) ↔ ∀ a ∈ st.assertions, a.Fits := by
    cases st <;> simp [erase, assertions, Assertion.fits_erase]
  exact ⟨fun h => ⟨hh.1 h.headers, hc.1 h.checked, hf.1 h.fits⟩,
    fun h => ⟨hh.2 h.headers, hc.2 h.checked, hf.2 h.fits⟩⟩

theorem Test.wellFormed_erase {t : Test} : t.erase.WellFormed ↔ t.WellFormed := by
  have hs : (∀ st ∈ t.erase.statements, st.WellFormed) ↔ ∀ st ∈ t.statements, st.WellFormed := by
    simp [erase, Statement.wellFormed_erase]
  exact ⟨fun h => ⟨h.name, hs.1 h.statements⟩, fun h => ⟨h.name, hs.2 h.statements⟩⟩

/-- Well-formedness does not depend on places. -/
theorem Suite.wellFormed_erase {f : Suite} : f.erase.WellFormed ↔ f.WellFormed := by
  have hc : (∀ c, f.erase.config = some c → c.headers.Distinct) ↔
      ∀ c, f.config = some c → c.headers.Distinct := by
    cases hf : f.config <;> simp [erase, hf, Config.erase, Headers.distinct_erase]
  have ht : (∀ t ∈ f.erase.tests, t.WellFormed) ↔ ∀ t ∈ f.tests, t.WellFormed := by
    simp [erase, Test.wellFormed_erase]
  exact ⟨fun h => ⟨hc.1 h.config, h.distinct, h.names, ht.1 h.tests⟩,
    fun h => ⟨hc.2 h.config, h.distinct, h.names, ht.2 h.tests⟩⟩

/-! ### Parsed suites -/

/-- A table that is filled one by one has each name once. -/
theorem Headers.distinct_ofList (hs : List Header) : (Headers.ofList hs).Distinct := by
  unfold Distinct
  rw [entries_ofList]
  exact Table.nodup_putAll (by simp)

namespace Grammar

variable {source : String} {ts : List Token}

/-- A name that is declared in a text is one. -/
theorem isName_of_ident {t : Token} (ht : t ∈ (Lexing.ofString source).tokens)
    (hk : t.kind = .ident) : isName t.text = true := by
  have hl := Lexing.word_isLexable ht (by rw [hk]; decide)
  simpa [Token.word, Word.isLexable, hk] using hl

theorem ConfigBlock.distinct {c : Config} (hD : ConfigBlock ts c) : c.headers.Distinct := by
  obtain ⟨-, -⟩ := hD
  exact Headers.distinct_ofList _

/-- The name of a variable is the text of a token, so it is one. -/
theorem VariableDecl.isName {v : Variable} (hD : VariableDecl ts v)
    (hts : ts ⊆ (Lexing.ofString source).tokens) : isName v.name = true := by
  obtain @⟨kw, name, eq, value, semi, hk, -⟩ := hD
  simp only [kinds_cons_eq_cons, kinds_nil, and_true] at hk
  exact isName_of_ident (hts (by simp)) hk.2.1

theorem RequestDecl.distinct {r : Request} (hD : RequestDecl ts r) : r.headers.Distinct := by
  obtain ⟨-, -, -⟩ := hD
  exact Headers.distinct_ofList _

/-- The number of a status that was read fits. -/
theorem AssertionDecl.fits {a : Assertion} (hD : AssertionDecl ts a) : a.Fits := by
  cases hD with
  | status _ hc => exact hc
  | headerEquals | headerContains | bodyContains => trivial

/-- A statement that was read can be written. -/
theorem StatementDecl.wellFormed {st : Statement} (hD : StatementDecl ts st) : st.WellFormed := by
  cases hD with
  | request h => exact ⟨h.distinct, trivial, by simp [Statement.assertions]⟩
  | checked h ha hne =>
    refine ⟨h.distinct, hne, fun a hm => ?_⟩
    obtain ⟨us, -, hD⟩ := ha.exists_of_mem hm
    exact hD.fits

/-- A test that was read can be written. -/
theorem TestDecl.wellFormed {t : Test} (hD : TestDecl ts t)
    (hts : ts ⊆ (Lexing.ofString source).tokens) : t.WellFormed := by
  obtain @⟨kw, name, left, right, us, statements, hk, hs⟩ := hD
  simp only [kinds_cons_eq_cons, kinds_nil, and_true] at hk
  refine ⟨isName_of_ident (hts (by simp)) hk.2.1, fun st hst => ?_⟩
  obtain ⟨vs, -, hD⟩ := hs.exists_of_mem hst
  exact hD.wellFormed

end Grammar

/-- **A parsed suite is well-formed.** -/
theorem Suite.wellFormed_of_parse {source : String} {f : Suite}
    (h : (Suite.parse source).result = .ok f) : f.WellFormed := by
  have hf := Suite.file_of_parse h
  generalize hts : (Lexing.ofString source).tokens = ts at hf
  obtain @⟨cs, vs, us, eof, config, vars, tests, hc, hv, ht, -⟩ := hf
  refine ⟨fun c hconfig => ?_, ?_, fun v hmem => ?_, fun t hmem => ?_⟩
  · cases hc with
    | none => cases hconfig
    | some hblock => cases hconfig; exact hblock.distinct
  · rw [Variables.entries_ofList]
    exact Table.nodup_putAll (by simp)
  · obtain ⟨ws, hsub, hD⟩ := hv.exists_of_mem (Variables.mem_of_mem_ofList hmem)
    exact hD.isName fun t hm => by rw [hts]; simp [hsub hm]
  · obtain ⟨ws, hsub, hD⟩ := ht.exists_of_mem hmem
    exact hD.wellFormed fun t hm => by rw [hts]; simp [hsub hm]

end HttpSuite
