import HttpSuite.Proofs.Parser.Errors
import HttpSuite.Proofs.Parser.Invariant

/-!
# Lexing on demand and lexing first

The parser asks a lexer for one token at a time and may fail before the text is lexed to its end.
Its answer is that of the same productions over the tokens of the complete lexing, the error of the
lexer coming after the last of them. Which of two errors is reported is decided by which token the
parser looks at first.

* `Parser.suite_error_of_front`: a syntax error does not depend on what comes after it.
* `Parser.result_eq_of_sees`: the answer of a run depends on its tokens and the error after them
  only.
* `Suite.parse_eq_ofTokens`: lexing on demand and lexing first give the same.
-/

namespace HttpSuite

open Token (Kind)
open Grammar

namespace Parser

variable {σ τ α : Type} [TokenSource σ] [TokenSource τ] {s s' : State σ} {r : State τ}
  {ts rs us vs ws ys : List Token} {e e' : Option LexError} {err : ParseError}

/-- A front of tokens is covered by tokens that begin with the same. -/
theorem Covers.of_front (h : us ++ vs <+: rs) (hne : vs ≠ []) : Covers us vs rs e' := by
  refine ⟨?_, fun hnil => absurd hnil hne⟩
  have hfront : us ++ vs.take 1 <+: rs :=
    ((List.prefix_append_right_inj us).2 (List.take_prefix 1 vs)).trans h
  exact hfront.map _

/-- Two fronts of one list with the same words are the same. -/
theorem eq_of_words_eq (h : us <+: rs) (h' : ws <+: rs) (hw : words ws = words us) : ws = us := by
  have hlen : ws.length = us.length := by simpa [words] using congrArg List.length hw
  exact (List.prefix_of_prefix_length_le h' h (by omega)).eq_of_length hlen

/-- The number that is refused is the last token that was taken. -/
theorem eq_concat_of_status {n : Token} (hstop : StopsAt ts e (.statusOutOfRange n) s)
    (hts : ts = us ++ vs) (hs : s.Sees vs e) : ∃ us', us = us' ++ [n] := by
  obtain ⟨us', vs', heq, hs'⟩ := hstop
  obtain rfl := (hs.unique hs').1
  have hsplit : us ++ vs = us' ++ [n] ++ vs := by
    rw [← hts, heq, List.append_assoc, List.singleton_append]
  exact ⟨us', List.append_cancel_right hsplit⟩

/-- **A syntax error does not depend on what comes after it.** -/
theorem suite_error_of_front (hs : s.Sees ts e) (hr : r.Sees rs e') (hpre : ts <+: rs)
    (herr : suite s = .error err s') (hf : err.isFatal = false) :
    ∃ r', suite r = .error err r' := by
  obtain ⟨us, vs, rfl, hleaves, hrep⟩ := repeats_suite (τ := τ) s hs
  have hstop := suite_stops hs
  rw [herr] at hleaves hrep hstop
  have hsees : s'.Sees vs e := by
    cases err with
    | unexpected x t => exact hleaves.1
    | statusOutOfRange n => exact hleaves
    | lexical l => cases hf
    | exhausted => cases hf
  obtain ⟨halike, ws, ys, rfl, hw, hleaves'⟩ := hrep hr (.of_front hpre hsees.ne_nil)
  obtain ⟨err', r', hsuite, halike⟩ := halike.of_error
  have hstop' := suite_stops hr
  rw [hsuite] at hleaves' hstop'
  -- both runs took the same tokens, so that they also stand at the same one
  obtain rfl : ws = us := eq_of_words_eq ((List.prefix_append us vs).trans hpre)
    (List.prefix_append ws ys) hw
  have hrest : vs <+: ys := (List.prefix_append_right_inj ws).1 hpre
  refine ⟨r', hsuite.trans ?_⟩
  cases halike with
  | @unexpected x t u _ =>
    obtain ⟨⟨vs', rfl, -⟩, rfl⟩ := hleaves
    obtain ⟨⟨ys', rfl, -⟩, rfl⟩ := hleaves'
    rw [(List.cons_prefix_cons.1 hrest).1]
  | @statusOutOfRange n n' _ =>
    obtain ⟨xs, hxs⟩ := eq_concat_of_status hstop rfl hsees
    obtain ⟨zs, hzs⟩ := eq_concat_of_status hstop' rfl hleaves'
    have hlast : [n] = [n'] := (List.append_inj' (hxs.symm.trans hzs) rfl).2
    rw [List.singleton_inj.1 hlast]
  | lexical => cases hf

/-- **The answer of a run** depends on its tokens and on the error after them only. -/
theorem result_eq_of_sees (hs : s.Sees ts e) (hr : r.Sees ts e) :
    Outcome.result (suite s) = Outcome.result (suite r) := by
  have hstop := suite_stops hs
  have hstop' := suite_stops hr
  cases h : suite s with
  | ok f s' =>
    obtain ⟨_, hruns⟩ := runs_suite (σ := τ) (suite_sound hs h)
    obtain ⟨r', hr', -⟩ := hruns hr
    rw [hr']
    rfl
  | error err s' =>
    rw [h] at hstop
    cases hf : err.isFatal with
    | false =>
      obtain ⟨r', hr'⟩ := suite_error_of_front hs hr (List.prefix_refl _) h hf
      rw [hr']
      rfl
    | true =>
      -- the other run can neither succeed nor fail in another way, for then this one would too
      cases h' : suite r with
      | ok f r' =>
        obtain ⟨_, hruns⟩ := runs_suite (σ := σ) (suite_sound hr h')
        obtain ⟨s'', hs'', -⟩ := hruns hs
        rw [h] at hs''
        cases hs''
      | error err' r' =>
        rw [h'] at hstop'
        cases hf' : err'.isFatal with
        | false =>
          obtain ⟨s'', hs''⟩ := suite_error_of_front hr hs (List.prefix_refl _) h' hf'
          rw [h] at hs''
          cases hs''
          rw [hf] at hf'
          cases hf'
        | true =>
          cases err with
          | lexical l =>
            cases err' with
            | lexical l' =>
              obtain ⟨-, rfl⟩ := hstop
              obtain ⟨-, hl⟩ := hstop'
              cases hl
              rfl
            | exhausted => exact hstop'.elim
            | unexpected => cases hf'
            | statusOutOfRange => cases hf'
          | exhausted => exact hstop.elim
          | unexpected => cases hf
          | statusOutOfRange => cases hf

end Parser

/-! ### Tokens that were read before -/

/-- Parses tokens that were all read before. -/
def Suite.ofTokens (tokens : Replay) : Except ParseError Suite :=
  match Parser.start tokens with
  | (.error e, _) => .error e
  | (.ok s, _) => Parser.Outcome.result (Parser.suite s)

section

variable {σ : Type} [TokenSource σ] {src : σ} {c : Token} {ts front : List Token}

theorem Supplies.replay {e : Option LexError} (h : Supplies src c ts e) :
    Supplies (⟨ts, e⟩ : Replay) c ts e := by
  induction h with
  | finish hk => exact .finish hk
  | fail hk _ => exact .fail hk rfl
  | step hk _ _ ih => exact .step hk rfl ih

/-- A front of the tokens, with another error after it. -/
theorem Supplies.replay_front {e : Option LexError} (h : Supplies src c ts e)
    (hpre : front <+: ts) (l : LexError) :
    ∃ e', Supplies (⟨front, some l⟩ : Replay) c front e' := by
  induction h generalizing front with
  | finish hk =>
    obtain rfl := List.prefix_nil.1 hpre
    exact ⟨none, .finish hk⟩
  | fail hk _ =>
    obtain rfl := List.prefix_nil.1 hpre
    exact ⟨some l, .fail hk rfl⟩
  | step hk _ _ ih =>
    cases front with
    | nil => exact ⟨some l, .fail hk rfl⟩
    | cons t front =>
      obtain ⟨rfl, hrest⟩ := List.cons_prefix_cons.1 hpre
      obtain ⟨e', hs⟩ := ih hrest
      exact ⟨e', .step hk rfl hs⟩

/-- One more token in the place of an error. -/
theorem Supplies.replay_concat {l : LexError} (h : Supplies src c ts (some l)) (t : Token)
    (l' : LexError) : ∃ e', Supplies (⟨ts ++ [t], some l'⟩ : Replay) c (ts ++ [t]) e' := by
  generalize he : some l = e at h
  induction h with
  | finish => cases he
  | fail hk _ =>
    by_cases ht : t.kind = .eof
    · exact ⟨none, .step hk rfl (.finish ht)⟩
    · exact ⟨some l', .step hk rfl (.fail ht rfl)⟩
  | step hk _ _ ih =>
    obtain ⟨e', hs⟩ := ih he
    exact ⟨e', .step hk rfl hs⟩

/-- No token ends the text if an error does. -/
theorem Supplies.ne_eof_of_error {l : LexError} (h : Supplies src c ts (some l)) :
    ∀ u ∈ c :: ts, u.kind ≠ .eof := by
  generalize he : some l = e at h
  induction h with
  | finish => cases he
  | fail hk _ => simpa using hk
  | step hk _ _ ih => exact List.forall_mem_cons.2 ⟨hk, ih he⟩

theorem Suite.ofTokens_of_supplies {e : Option LexError} {f : Option LexError}
    (h : Supplies (⟨ts, f⟩ : Replay) c ts e) :
    ∃ s : Parser.State Replay, s.Sees (c :: ts) e ∧
      Suite.ofTokens ⟨c :: ts, f⟩ = Parser.Outcome.result (Parser.suite s) :=
  ⟨{ source := ⟨ts, f⟩, current := c }, ⟨ts, rfl, h⟩, rfl⟩

end

/-- A parse as a run over tokens, with the same run over the tokens read before. -/
theorem Suite.parse_runs (source : String) :
    (∃ s : Parser.State Lexer,
      s.Sees (Lexing.ofString source).tokens (Lexing.ofString source).failure ∧
        (Suite.parse source).result = Parser.Outcome.result (Parser.suite s)) ∨
    ∃ l, (Lexing.ofString source).tokens = [] ∧ (Lexing.ofString source).failure = some l ∧
      (Suite.parse source).result = .error (.lexical l) := by
  rcases Suite.parse_cases source with hrun | ⟨hnil, -⟩
  · exact .inl hrun
  · rcases Lexer.run_supplies (l := Lexer.ofString source) rfl with
      ⟨t, ts, l, -, hts, -⟩ | ⟨err, l, hn, hts, hfail⟩
    · rw [Lexing.ofString, hts] at hnil
      cases hnil
    · exact .inr ⟨err, hts, hfail, Suite.parse_of_next_error hn⟩

theorem Grammar.File.exists_eof {ts : List Token} {suite : Suite} (h : File ts suite) :
    ∃ t ∈ ts, t.kind = .eof := by
  obtain ⟨-, -, -, he⟩ := h
  exact ⟨_, by simp, he⟩

section

variable {source : String} {l l' : LexError}

theorem Suite.result_eq_ofTokens (source : String) :
    (Suite.parse source).result = Suite.ofTokens (.ofLexing (Lexing.ofString source)) := by
  rcases Suite.parse_runs source with ⟨s, hs, hres⟩ | ⟨l, hts, hl, hres⟩
  · obtain ⟨ts, hts, hsup⟩ := id hs
    obtain ⟨r, hr, hres'⟩ := Suite.ofTokens_of_supplies hsup.replay
    rw [hres, Replay.ofLexing, hts, hres']
    rw [← hts] at hr
    exact Parser.result_eq_of_sees hs hr
  · rw [hres, Replay.ofLexing, hts, hl]
    rfl

/-- A text that cannot be lexed to its end does not parse. -/
theorem Suite.parse_ne_ok_of_failure (h : (Lexing.ofString source).failure = some l) (f : Suite) :
    (Suite.parse source).result ≠ .ok f := by
  intro hok
  obtain ⟨t, ht, hk⟩ := (Suite.file_of_parse hok).exists_eof
  rcases Suite.parse_runs source with ⟨s, ⟨ts, hts, hsup⟩, -⟩ | ⟨-, hts, -⟩
  · rw [h] at hsup
    rw [hts] at ht
    exact hsup.ne_eof_of_error t ht hk
  · rw [hts] at ht
    cases ht

/-- A syntax error in a front of the tokens is reported, whatever comes after. -/
theorem Suite.parse_of_front {front : List Token} {err : ParseError}
    (hpre : front <+: (Lexing.ofString source).tokens)
    (herr : Suite.ofTokens ⟨front, some l⟩ = .error err) (hf : err.isFatal = false) :
    (Suite.parse source).result = .error err := by
  cases front with
  | nil =>
    cases herr
    cases hf
  | cons c front =>
    rcases Suite.parse_runs source with ⟨s, ⟨ts, hts, hsup⟩, hres⟩ | ⟨-, hts, -⟩
    · rw [hts] at hpre
      obtain ⟨rfl, hrest⟩ := List.cons_prefix_cons.1 hpre
      obtain ⟨e', hfront⟩ := hsup.replay_front hrest l
      obtain ⟨r, hr, hres'⟩ := Suite.ofTokens_of_supplies hfront
      rw [herr] at hres'
      -- the parser of the replayed front stopped inside it, so the other one stops there too
      cases hsuite : Parser.suite r with
      | ok f r' => rw [hsuite] at hres'; cases hres'
      | error err' r' =>
        rw [hsuite] at hres'
        cases hres'
        obtain ⟨s', hs'⟩ := Parser.suite_error_of_front hr ⟨ts, rfl, hsup⟩ hpre hsuite hf
        rw [hres, hs']
        rfl
    · rw [hts] at hpre
      simp at hpre

/-- A number that is the last token of a text is not refused: the token after it is fetched
first. -/
theorem Suite.parse_of_number_last {before : List Token} {n t : Token}
    (hts : (Lexing.ofString source).tokens = before ++ [n])
    (hl : (Lexing.ofString source).failure = some l)
    (herr : Suite.ofTokens ⟨before ++ [n, t], some l'⟩ = .error (.statusOutOfRange n)) :
    (Suite.parse source).result = .error (.lexical l) := by
  rcases Suite.parse_runs source with ⟨s, hs, hres⟩ | ⟨-, hnil, -⟩
  · obtain ⟨ts, hc, hsup⟩ := id hs
    rw [hl] at hsup
    obtain ⟨e', hmore⟩ := hsup.replay_concat t l'
    obtain ⟨r, hr, hres'⟩ := Suite.ofTokens_of_supplies hmore
    have htokens : s.current :: (ts ++ [t]) = before ++ [n, t] := by
      rw [← List.cons_append, ← hc, hts]
      simp
    rw [htokens, herr] at hres'
    rw [htokens] at hr
    have hstop := Parser.suite_stops hs
    cases hsuite : Parser.suite s with
    | ok f s' =>
      rw [hsuite] at hres
      exact absurd hres (Suite.parse_ne_ok_of_failure hl f)
    | error err s' =>
      rw [hsuite] at hres hstop
      cases hf : err.isFatal with
      | false =>
        -- the run with one more token fails in the same way, at a number that is not the last
        have hpre : (Lexing.ofString source).tokens <+: before ++ [n, t] := ⟨[t], by simp [hts]⟩
        obtain ⟨r', hr'⟩ := Parser.suite_error_of_front hs hr hpre hsuite hf
        rw [hr'] at hres'
        cases hres'
        obtain ⟨us, vs, heq, hsees⟩ := hstop
        obtain rfl := Lexing.before_unique hts heq
        rw [hts] at heq
        obtain rfl : vs = [] := by simpa using heq
        exact absurd rfl hsees.ne_nil
      | true =>
        cases err with
        | lexical l'' =>
          obtain ⟨-, he⟩ := hstop
          rw [hl] at he
          cases he
          exact hres
        | exhausted => exact hstop.elim
        | unexpected => cases hf
        | statusOutOfRange => cases hf
  · rw [hnil] at hts
    simp at hts

end

/-- **Lexing on demand and lexing first give the same**: the same suite with its spans, or the same
error. So a text that cannot be lexed to its end does not parse; a syntax error is reported whatever
comes after the front of the tokens in which it is found; and where a number would be refused if one
more token followed it, a quote that is never closed in the place of that token is reported. -/
theorem Suite.parse_eq_ofTokens (source : String) :
    (Suite.parse source).result = Suite.ofTokens (.ofLexing (Lexing.ofString source)) ∧
      ((Lexing.ofString source).failure ≠ none → ∀ f, (Suite.parse source).result ≠ .ok f) ∧
      (∀ front l err, front <+: (Lexing.ofString source).tokens →
        Suite.ofTokens ⟨front, some l⟩ = .error err → err.isFatal = false →
          (Suite.parse source).result = .error err) ∧
      ∀ before n t l l', (Lexing.ofString source).tokens = before ++ [n] →
        (Lexing.ofString source).failure = some l →
          Suite.ofTokens ⟨before ++ [n, t], some l'⟩ = .error (.statusOutOfRange n) →
            (Suite.parse source).result = .error (.lexical l) := by
  refine ⟨Suite.result_eq_ofTokens source, fun hne f => ?_, ?_, ?_⟩
  · obtain ⟨l, hl⟩ := Option.ne_none_iff_exists'.1 hne
    exact Suite.parse_ne_ok_of_failure hl f
  · intro front l err hpre herr hf
    exact Suite.parse_of_front hpre herr hf
  · intro before n t l l' hts hl herr
    exact Suite.parse_of_number_last hts hl herr

-- a number that no status has, before a `;` and before a quote that is never closed
example :
    (Suite.parse "test t \x7b GET \"/\" expect status = 99999;").result =
        .error (.statusOutOfRange ⟨.number, "99999", ⟨33, 1, 34⟩, 38⟩) ∧
      (Suite.parse "test t \x7b GET \"/\" expect status = 99999\"").result =
        .error (.lexical (.unterminated ⟨38, 1, 39⟩)) := by
  constructor <;> cbv

end HttpSuite
