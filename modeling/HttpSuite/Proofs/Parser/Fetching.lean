import HttpSuite.Proofs.Parser.Replay

/-!
# How often a token is fetched

A source can be made to count how often it is asked. The parser over it gives the same answers, call
after call, since they depend on the tokens only, and it asks at most once for each token and once
more for the end of the text or for the error that ends it.

* `Counted`: a source that counts.
* `Parser.resume_eq_of_sees`: answers depend on the tokens only, also call after call.
* `Suite.resumeCounted_spec`: over a source that counts, the same answers, and the bound.
-/

namespace HttpSuite

open Token (Kind)

/-- A source that counts how often it was asked. -/
structure Counted (σ : Type) where
  source : σ
  fetches : Nat := 0

instance {σ : Type} [TokenSource σ] : TokenSource (Counted σ) where
  next c := ((TokenSource.next c.source).1, ⟨(TokenSource.next c.source).2, c.fetches + 1⟩)
  remaining c := TokenSource.remaining c.source
  remaining_lt := by
    intro c c' r h
    obtain ⟨hr, rfl⟩ := Prod.mk.inj h
    exact TokenSource.remaining_lt (Prod.ext hr rfl)

namespace Parser

variable {σ τ : Type} [TokenSource σ] [TokenSource τ] {s : State σ} {r : State τ}
  {ts : List Token} {e : Option LexError}

/-! ### Answers call after call -/

/-- **Two runs over the same tokens** give the same answer and have the same tokens left. -/
theorem leaves_of_sees (hs : s.Sees ts e) (hr : r.Sees ts e) :
    ∃ us vs, ts = us ++ vs ∧ Outcome.Leaves s e us vs (suite s) ∧
      Outcome.Leaves r e us vs (suite r) := by
  obtain ⟨us, vs, rfl, hleaves, hrep⟩ := repeats_suite (τ := τ) s hs
  have hcovers : Covers us vs (us ++ vs) e := by
    refine ⟨((List.prefix_append_right_inj us).2 (List.take_prefix 1 vs)).map _, ?_⟩
    rintro rfl
    refine ⟨by rw [List.append_nil], ?_⟩
    -- all tokens are taken only if an error comes after them
    match suite s, hleaves with
    | .ok _ _, hleaves => exact absurd rfl hleaves.1.ne_nil
    | .error (.unexpected _ _) _, hleaves => exact absurd rfl hleaves.1.ne_nil
    | .error (.statusOutOfRange _) _, hleaves => exact absurd rfl (State.Sees.ne_nil hleaves)
    | .error (.lexical _) _, hleaves => rw [hleaves.2]; rfl
    | .error .exhausted _, hleaves => exact hleaves.elim
  obtain ⟨-, ws, ys, hts, hw, hleaves'⟩ := hrep hr hcovers
  obtain rfl : ws = us := eq_of_words_eq (List.prefix_append us vs)
    (hts ▸ List.prefix_append ws ys) hw
  obtain rfl := List.append_cancel_left hts
  exact ⟨ws, vs, rfl, hleaves, hleaves'⟩

/-- **Answers depend on the tokens only**, also call after call. -/
theorem resume_eq_of_sees (hs : s.Sees ts e) (hr : r.Sees ts e) (calls : Nat) :
    (resume calls s).1 = (resume calls r).1 := by
  induction calls generalizing s r ts with
  | zero => rfl
  | succ calls ih =>
    have hresult := result_eq_of_sees hs hr
    obtain ⟨us, vs, -, hleaves, hleaves'⟩ := leaves_of_sees hs hr
    rw [resume, resume]
    cases h : suite s with
    | ok f s' =>
      cases h' : suite r with
      | ok f' r' =>
        rw [h, h'] at hresult
        rw [h] at hleaves
        rw [h'] at hleaves'
        obtain rfl : f = f' := Except.ok.inj hresult
        exact congrArg (.ok f :: ·) (ih hleaves.1 hleaves'.1)
      | error x r' =>
        rw [h, h'] at hresult
        cases hresult
    | error x s' =>
      cases h' : suite r with
      | ok f' r' =>
        rw [h, h'] at hresult
        cases hresult
      | error x' r' =>
        rw [h, h'] at hresult
        rw [h] at hleaves
        rw [h'] at hleaves'
        obtain rfl : x = x' := Except.error.inj hresult
        -- the calls go on behind these two errors, with the same tokens before both parsers
        cases x with
        | unexpected expected t =>
          exact congrArg (.error (.unexpected expected t) :: ·) (ih hleaves.1 hleaves'.1)
        | statusOutOfRange n =>
          exact congrArg (.error (.statusOutOfRange n) :: ·) (ih hleaves hleaves')
        | lexical l => rfl
        | exhausted => rfl

end Parser

/-! ### Counting -/

namespace Counted

variable {σ : Type} [TokenSource σ] {c c' : Counted σ} {r : Option (Except LexError Token)}

theorem next_eq {src src' : σ} (h : TokenSource.next src = (r, src')) (n : Nat) :
    TokenSource.next (⟨src, n⟩ : Counted σ) = (r, ⟨src', n + 1⟩) := by
  change ((TokenSource.next src).1, _) = _
  rw [h]

theorem fetches_next (h : TokenSource.next c = (r, c')) : c'.fetches = c.fetches + 1 :=
  (congrArg (fun p => p.2.fetches) h).symm

theorem supplies {src : σ} {t : Token} {ts : List Token} {e : Option LexError}
    (h : Supplies src t ts e) (n : Nat) : Supplies (⟨src, n⟩ : Counted σ) t ts e := by
  induction h generalizing n with
  | finish hk => exact .finish hk
  | fail hk hn => exact .fail hk (next_eq hn n)
  | step hk hn _ ih => exact .step hk (next_eq hn n) (ih (n + 1))

end Counted

namespace Parser

variable {σ : Type} [TokenSource σ] {ts : List Token} {e : Option LexError}

/-- A run over the tokens `ts`, with the number of times that a token was fetched: once for each one
that was taken and once for the current one. -/
def HasFetched (ts : List Token) (e : Option LexError) (s : State (Counted σ)) : Prop :=
  ∃ us vs, ts = us ++ vs ∧ s.Sees vs e ∧ s.source.fetches = us.length + 1

theorem HasFetched.le {s : State (Counted σ)} (h : HasFetched ts e s) :
    s.source.fetches ≤ ts.length + e.toList.length := by
  obtain ⟨us, vs, rfl, ⟨rest, rfl, -⟩, hn⟩ := h
  rw [hn, List.length_append, List.length_cons]
  omega

/-- The same of a run that fails. It can go on unless the text is beyond repair. -/
structure FetchedAt (ts : List Token) (e : Option LexError) (x : ParseError)
    (s : State (Counted σ)) : Prop where
  recovers : x.isFatal = false → HasFetched ts e s
  le : s.source.fetches ≤ ts.length + e.toList.length

theorem advance_fetches {s : State (Counted σ)} (hs : HasFetched ts e s) :
    Outcome.Meets (HasFetched ts e) (FetchedAt ts e) (advance s) := by
  obtain ⟨us, vs, rfl, ⟨rest, rfl, hsup⟩, hn⟩ := hs
  unfold advance
  cases hsup with
  | finish hk =>
    rw [if_pos hk]
    exact ⟨us, _, rfl, ⟨[], rfl, .finish hk⟩, hn⟩
  | fail hk hnext =>
    have hfetches := Counted.fetches_next hnext
    rw [if_neg hk, hnext]
    refine ⟨fun hf => absurd hf (by simp [ParseError.isFatal]), ?_⟩
    simp only [hfetches, hn, List.length_append, List.length_singleton, Option.toList_some]
    omega
  | step hk hnext hsup =>
    have hfetches := Counted.fetches_next hnext
    rw [if_neg hk, hnext]
    refine ⟨us ++ [s.current], _, by simp, ⟨_, rfl, hsup⟩, ?_⟩
    simp only [hfetches, hn, List.length_append, List.length_singleton]

/-- How often a token is fetched. -/
def counting (ts : List Token) (e : Option LexError) : Invariant (Counted σ) where
  holds := HasFetched ts e
  fails := FetchedAt ts e
  advance _ hs := advance_fetches hs
  unexpected _ _ hs := ⟨fun _ => hs, hs.le⟩
  status := by
    intro s s' n hs _ ha
    have hmeets := advance_fetches hs
    rw [ha] at hmeets
    have hs' : HasFetched ts e s' := hmeets
    exact ⟨fun _ => hs', hs'.le⟩

theorem allowsWarnings_counting : (counting ts e : Invariant (Counted σ)).AllowsWarnings :=
  fun _ _ _ _ _ h => h

theorem recovers_counting : (counting ts e : Invariant (Counted σ)).Recovers :=
  fun _ _ hf h => h.recovers hf

/-- Each token but the end of the text, and once more the end or the error after them. -/
theorem length_of_supplies {src : σ} {t : Token} (h : Supplies src t ts e) :
    (t :: ts).length + e.toList.length = ((t :: ts).filter fun t => t.kind ≠ .eof).length + 1 := by
  induction h with
  | finish hk => simp [hk]
  | fail hk _ => simp [hk]
  | step hk _ _ ih =>
    rw [List.filter_cons_of_pos (by simpa using hk)]
    simp only [List.length_cons] at ih ⊢
    omega

end Parser

namespace Suite

/-- Parses a source text again and again as `resume` does, and counts how often the lexer is asked
for a token. -/
def resumeCounted (source : String) (calls : Nat) : List (Except ParseError Suite) × Nat :=
  match Parser.start (⟨Lexer.ofString source, 0⟩ : Counted Lexer) with
  | (.error e, lexer) => ([.error e], lexer.fetches)
  | (.ok s, _) =>
    let (answers, last) := Parser.resume calls s
    (answers, last.source.fetches)

/-- **Each token is fetched once**, and once more the end of the text or the error that ends it,
however often the parser is called. Counting does not change its answers. -/
theorem resumeCounted_spec (source : String) (calls : Nat) :
    (resumeCounted source calls).1 = (Suite.resume source calls).1 ∧
      (resumeCounted source calls).2 ≤
        ((Lexing.ofString source).tokens.filter fun t => t.kind ≠ .eof).length + 1 := by
  unfold resumeCounted Suite.resume Parser.start
  rcases Lexer.run_supplies (l := Lexer.ofString source) rfl with
    ⟨t, ts, l, hn, hts, hsup⟩ | ⟨e, l, hn, hts, he⟩
  · have hnext : TokenSource.next (Lexer.ofString source) = (some (.ok t), l) := hn
    rw [Counted.next_eq hnext 0, hnext]
    have hsees : Parser.State.Sees { source := l, current := t } (t :: ts)
        (Lexing.ofString source).failure := ⟨ts, rfl, hsup⟩
    -- the first token has been fetched by the start, which is why the count begins with one
    have hcounted : Parser.State.Sees { source := (⟨l, 0 + 1⟩ : Counted Lexer), current := t }
        (t :: ts) (Lexing.ofString source).failure := ⟨ts, rfl, Counted.supplies hsup 1⟩
    refine ⟨Parser.resume_eq_of_sees hcounted hsees calls, ?_⟩
    have htokens : (Lexing.ofString source).tokens = t :: ts := hts
    rw [htokens, ← Parser.length_of_supplies hsup]
    obtain ⟨-, hlast⟩ := Parser.Invariant.resume_keeps Parser.allowsWarnings_counting
      Parser.recovers_counting (s := { source := (⟨l, 0 + 1⟩ : Counted Lexer), current := t })
      ⟨[], t :: ts, rfl, hcounted, rfl⟩ calls
    rcases hlast with hlast | ⟨x, hlast⟩
    · exact hlast.le
    · exact hlast.le
  · have hnext : TokenSource.next (Lexer.ofString source) = (some (.error e), l) := hn
    rw [Counted.next_eq hnext 0, hnext]
    exact ⟨rfl, Nat.le_add_left _ _⟩

end Suite

end HttpSuite
