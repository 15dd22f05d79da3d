import HttpSuite.Proofs.Parser.Completeness
import HttpSuite.Proofs.Token.Lexing

/-!
# The parser is exact

A source text parses to a suite if and only if its tokens are a test description of that suite. A
text that cannot be divided into tokens has no end among them, so it is none.

* `Suite.parse_eq_ok_iff`: parsing is derivation in the grammar.
* `Suite.test_name_chars`: what that says of the names of tests.
-/

namespace HttpSuite

open Grammar

theorem Grammar.File.ne_nil {ts : List Token} {suite : Suite} (h : File ts suite) : ts ≠ [] := by
  obtain ⟨⟩ := h
  simp

variable {source : String} {suite : Suite} {l : Lexer}

/-- Parsing starts at the first token. -/
theorem Suite.parse_of_next_ok {t : Token}
    (h : TokenSource.next (Lexer.ofString source) = (some (.ok t), l)) :
    (Suite.parse source).result = .ok suite ↔
      ∃ s', Parser.suite ({ source := l, current := t } : Parser.State Lexer) = .ok suite s' := by
  unfold Suite.parse Parser.start
  rw [h]
  cases hp : Parser.suite ({ source := l, current := t } : Parser.State Lexer) <;> simp [hp]

theorem Suite.parse_of_next_error {e : LexError}
    (h : TokenSource.next (Lexer.ofString source) = (some (.error e), l)) :
    (Suite.parse source).result = .error (.lexical e) := by
  unfold Suite.parse Parser.start
  rw [h]

/-- The tokens of a text that parses are a test description. -/
theorem Suite.file_of_parse (h : (Suite.parse source).result = .ok suite) :
    File (Lexing.ofString source).tokens suite := by
  rcases Lexer.run_supplies (l := Lexer.ofString source) rfl with
    ⟨t, ts, l, hn, hts, hsup⟩ | ⟨e, l, hn, -, -⟩
  · have hs : Parser.State.Sees { source := l, current := t } (Lexing.ofString source).tokens _ :=
      ⟨ts, hts, hsup⟩
    obtain ⟨s', hs'⟩ := (Suite.parse_of_next_ok hn).1 h
    exact Parser.suite_sound hs hs'
  · rw [Suite.parse_of_next_error hn] at h
    cases h

/-- A text whose tokens are a test description parses. -/
theorem Suite.parse_of_file (h : File (Lexing.ofString source).tokens suite) :
    (Suite.parse source).result = .ok suite := by
  rcases Lexer.run_supplies (l := Lexer.ofString source) rfl with
    ⟨t, ts, l, hn, hts, hsup⟩ | ⟨e, l, -, hts, -⟩
  · have hs : Parser.State.Sees { source := l, current := t } (Lexing.ofString source).tokens _ :=
      ⟨ts, hts, hsup⟩
    obtain ⟨vs, hr⟩ := Parser.runs_suite (σ := Lexer) h
    obtain ⟨s', hs', -, -⟩ := hr hs
    exact (Suite.parse_of_next_ok hn).2 ⟨s', hs'⟩
  · exact absurd hts h.ne_nil

/-- Whatever a list describes, a part of its tokens describes. -/
theorem Grammar.Many.exists_of_mem {α : Type} {D : List Token → α → Prop} {ts : List Token}
    {as : List α} {a : α} (h : Many D ts as) (ha : a ∈ as) : ∃ us, us ⊆ ts ∧ D us a := by
  induction h with
  | nil => simp at ha
  | @cons us vs b bs hb hbs ih =>
    rcases List.mem_cons.1 ha with rfl | ha
    · exact ⟨us, List.subset_append_left us vs, hb⟩
    · obtain ⟨ws, hsub, hw⟩ := ih ha
      exact ⟨ws, List.subset_append_of_subset_right us hsub, hw⟩

/-- The name of a test has name characters only. -/
theorem Suite.test_name_chars {test : Test} (h : (Suite.parse source).result = .ok suite)
    (ht : test ∈ suite.tests) : ∀ c ∈ test.name.toList, isNameChar c = true := by
  have hf := Suite.file_of_parse h
  generalize hts : (Lexing.ofString source).tokens = ts at hf
  obtain ⟨-, -, hm, -⟩ := hf
  obtain ⟨us, hsub, hd⟩ := hm.exists_of_mem ht
  cases hd with
  | @intro kw name left right us statements hk hs =>
    have hname : name ∈ (Lexing.ofString source).tokens := by
      rw [hts]
      exact List.mem_append_left _ (List.mem_append_right _ (hsub (by simp)))
    simp only [kinds_cons_eq_cons, kinds_nil] at hk
    exact Lexing.ident_text hname hk.2.1

/-- **The parser is exact.** A text parses to a suite just when its tokens describe that suite. -/
theorem Suite.parse_eq_ok_iff (source : String) (suite : Suite) :
    (Suite.parse source).result = .ok suite ↔ File (Lexing.ofString source).tokens suite :=
  ⟨Suite.file_of_parse, Suite.parse_of_file⟩

end HttpSuite
