import HttpSuite.Proofs.Parser.Fetching
import HttpSuite.Proofs.Suite.Warnings
import HttpSuite.Proofs.Token.Spelling

/-!
# Going on after an error

A parser that has answered can be called again and goes on from its current token, also after an
error. Each call takes the tokens that follow those of the calls before it, one after the other, and
answers as if it were the first one on what is left. A call that takes none is repeated by all later
ones, and so the answers settle after as many calls as there are tokens.

* `Parser.State.after`, `Parser.State.answer`: the states and answers of all calls.
* `Parser.Takes`: the tokens that are taken between two states.
* `Parser.Left`: the tokens that are left before each call.
* `Parser.Resumption`: what the calls do.
* `Suite.resume_settles`: calls on a source text that can be lexed to its end.
-/

namespace HttpSuite

namespace Parser

variable {σ α : Type}

/-- A run that answers with a value returned it. -/
theorem Outcome.eq_ok_of_result {o : Outcome σ α} {a : α} (h : o.result = .ok a) :
    o = .ok a o.state := by
  cases o with
  | ok b s =>
    cases h
    rfl
  | error x s => cases h

theorem Outcome.eq_error_of_result {o : Outcome σ α} {x : ParseError} (h : o.result = .error x) :
    o = .error x o.state := by
  cases o with
  | ok a s => cases h
  | error y s =>
    cases h
    rfl

/-! ### Calls -/

variable [TokenSource σ] {s s' s'' : State σ} {ts us vs : List Token} {e : Option LexError}
  {i j : Nat}

/-- The state that a call leaves, whatever its answer. -/
def State.next (s : State σ) : State σ := Outcome.state (suite s)

/-- The state after some calls. -/
def State.after (s : State σ) (calls : Nat) : State σ := State.next^[calls] s

/-- The answer of the call that follows some calls. -/
def State.answer (s : State σ) (calls : Nat) : Except ParseError Suite :=
  Outcome.result (suite (s.after calls))

theorem State.after_succ (s : State σ) (calls : Nat) :
    s.after (calls + 1) = (s.after calls).next :=
  Function.iterate_succ_apply' _ _ _

theorem State.next_after (s : State σ) (calls : Nat) : s.next.after calls = s.after (calls + 1) :=
  (Function.iterate_succ_apply _ _ _).symm

/-- The first answer left out. -/
theorem State.answer_next (s : State σ) (calls : Nat) :
    s.next.answer calls = s.answer (calls + 1) := by
  rw [State.answer, State.next_after, State.answer]

/-- Only an error of the lexer is beyond repair. -/
theorem not_isFatal_of_sees {x : ParseError} (hs : s.Sees ts none)
    (h : suite s = .error x s') : x.isFatal = false := by
  have hstop := suite_stops hs
  rw [h] at hstop
  cases x with
  | unexpected => rfl
  | statusOutOfRange => rfl
  | lexical l =>
    obtain ⟨-, hl⟩ := hstop
    cases hl
  | exhausted => exact hstop.elim

/-! ### The tokens that a call takes -/

/-- The tokens `us` are taken, one after the other, on the way from the state `s`. -/
inductive Takes (s : State σ) : List Token → State σ → Prop
  | refl : Takes s [] s
  | warn {us : List Token} {s' : State σ} (w : Warning) (h : Takes s us s') :
    Takes s us { s' with raised := w :: s'.raised }
  | token {us : List Token} {s' s'' : State σ} {t : Token} (h : Takes s us s')
    (hk : s'.current.kind ≠ .eof) (ha : advance s' = .ok t s'') : Takes s (us ++ [t]) s''

/-- What is taken stands at the front of the tokens. -/
theorem Takes.sees (h : Takes s us s') (hs : s.Sees ts e) : ∃ vs, ts = us ++ vs ∧ s'.Sees vs e := by
  induction h with
  | refl => exact ⟨ts, rfl, hs⟩
  | warn _ _ ih => exact ih
  | token _ hk ha ih =>
    obtain ⟨vs, rfl, hs'⟩ := ih
    obtain ⟨-, ws, rfl, hs''⟩ := advance_sound hs' hk ha
    exact ⟨ws, by simp, hs''⟩

/-- A step takes the current token, unless it is the end of the text. -/
theorem Takes.advance (h : Takes s us s') :
    Outcome.Meets (fun s'' => ∃ us, Takes s us s'')
      (fun x s'' => x.isFatal = false → ∃ us, Takes s us s'') (advance s') := by
  cases ha : Parser.advance s' with
  | ok t s'' =>
    by_cases hk : s'.current.kind = .eof
    · rw [Parser.advance, if_pos hk] at ha
      cases ha
      exact ⟨us, h⟩
    · exact ⟨us ++ [t], h.token hk ha⟩
  | error x s'' =>
    intro hf
    unfold Parser.advance at ha
    split at ha
    · cases ha
    · split at ha <;> cases ha <;> cases hf

/-- Between the state `s` and each later one tokens are taken. -/
def taking (s : State σ) : Invariant σ where
  holds s' := ∃ us, Takes s us s'
  fails x s' := x.isFatal = false → ∃ us, Takes s us s'
  advance _ hs' := hs'.elim fun _ h => h.advance
  unexpected _ _ hs' := fun _ => hs'
  status := by
    rintro s₁ s₂ n ⟨us, h⟩ hk ha
    exact fun _ => ⟨us ++ [n], h.token (by rw [hk]; decide) ha⟩

/-- **A call takes tokens one after the other** from those that are left, and leaves the rest. -/
theorem takes_next (hs : s.Sees ts none) :
    ∃ us vs, ts = us ++ vs ∧ Takes s us s.next ∧ s.next.Sees vs none := by
  have hmeets := (taking s).keeps_suite (fun _ _ w _ _ h => h.imp fun _ h => h.warn w)
    (s := s) ⟨[], .refl⟩
  have htakes : ∃ us, Takes s us s.next := by
    unfold State.next
    cases h : suite s with
    | ok f s' =>
      rw [h] at hmeets
      exact hmeets
    | error x s' =>
      rw [h] at hmeets
      exact hmeets (not_isFatal_of_sees hs h)
  obtain ⟨us, htakes⟩ := htakes
  obtain ⟨vs, hts, hs'⟩ := htakes.sees hs
  exact ⟨us, vs, hts, htakes, hs'⟩

theorem resume_succ (hs : s.Sees ts none) (calls : Nat) :
    resume (calls + 1) s = (s.answer 0 :: (resume calls s.next).1, (resume calls s.next).2) := by
  change _ = (Outcome.result (suite s) :: (resume calls (Outcome.state (suite s))).1,
    (resume calls (Outcome.state (suite s))).2)
  rw [resume]
  cases h : suite s with
  | ok f s' => rfl
  | error x s' =>
    simp only [not_isFatal_of_sees hs h]
    rfl

/-- **A parser that goes on** gives the answers of all calls and stops in the state after them. -/
theorem resume_eq (hs : s.Sees ts none) (calls : Nat) :
    resume calls s = ((List.range calls).map s.answer, s.after calls) := by
  induction calls generalizing s ts with
  | zero => rfl
  | succ calls ih =>
    obtain ⟨-, vs, -, -, hs'⟩ := takes_next hs
    have hanswers : s.next.answer = fun i => s.answer (i + 1) := funext s.answer_next
    rw [resume_succ hs, ih hs', State.next_after, hanswers, List.range_succ_eq_map, List.map_cons,
      List.map_map]
    rfl

/-! ### What is left before each call -/

/-- Before each of the calls from `s` on these tokens are left. -/
def Left (s : State σ) (left : Nat → List Token) : Prop := ∀ i, (s.after i).Sees (left i) none

/-- Before each call there are tokens left, and no error behind them. -/
theorem exists_left (hs : s.Sees ts none) : ∃ left, left 0 = ts ∧ Left s left := by
  have hall : ∀ i, ∃ vs, (s.after i).Sees vs none := by
    intro i
    induction i with
    | zero => exact ⟨ts, hs⟩
    | succ i ih =>
      obtain ⟨ts', hs'⟩ := ih
      obtain ⟨-, vs, -, -, hnext⟩ := takes_next hs'
      rw [State.after_succ]
      exact ⟨vs, hnext⟩
  choose left hleft using hall
  exact ⟨left, ((hleft 0).unique hs).1, hleft⟩

/-- The tokens that a run leaves are those that the next call sees. -/
theorem Outcome.Leaves.sees {o : Outcome σ α} (h : Leaves s none us vs o) :
    o.state.Sees vs none :=
  match o, h with
  | .ok _ _, h => h.1
  | .error (.unexpected _ _) _, h => h.1
  | .error (.statusOutOfRange _) _, h => h

namespace Left

variable {left : Nat → List Token}

/-- Each call takes a front of the tokens that are left before it. -/
theorem takes (h : Left s left) (i : Nat) :
    ∃ us, left i = us ++ left (i + 1) ∧ Takes (s.after i) us (s.after (i + 1)) := by
  obtain ⟨us, vs, hts, htakes, hs'⟩ := takes_next (h i)
  rw [← State.after_succ] at htakes hs'
  obtain rfl := ((h (i + 1)).unique hs').1
  exact ⟨us, hts, htakes⟩

/-- A call answers as the first call on the tokens that are left. -/
theorem fresh (h : Left s left) (i : Nat) : s.answer i = Suite.ofTokens ⟨left i, none⟩ := by
  obtain ⟨rest, hrest, hsup⟩ := h i
  obtain ⟨r, hr, hfresh⟩ := Suite.ofTokens_of_supplies hsup.replay
  rw [hrest, hfresh]
  exact result_eq_of_sees ⟨rest, rfl, hsup⟩ hr

/-- A token that is not expected is reported and stays the current one. -/
theorem reported {x : Expected} {t : Token} (h : Left s left)
    (hx : s.answer i = .error (.unexpected x t)) : (s.after (i + 1)).current = t := by
  have hstop := suite_stops (h i)
  rw [Outcome.eq_error_of_result hx] at hstop
  obtain ⟨-, -, -, hcurrent, -⟩ := hstop
  rw [State.after_succ]
  exact hcurrent

/-- A number that is refused is the last token that was taken. -/
theorem refused {n : Token} (h : Left s left) (hn : s.answer i = .error (.statusOutOfRange n)) :
    ∃ us, left i = us ++ n :: left (i + 1) := by
  have hstop := suite_stops (h i)
  rw [Outcome.eq_error_of_result hn] at hstop
  obtain ⟨us, vs, hts, hs'⟩ := hstop
  have hnext := h (i + 1)
  rw [State.after_succ] at hnext
  obtain rfl := (hnext.unique hs').1
  exact ⟨us, hts⟩

/-! ### Progress -/

/-- The same tokens are left after a call on the same tokens. -/
theorem succ_congr (h : Left s left) (heq : left i = left j) : left (i + 1) = left (j + 1) := by
  obtain ⟨us, vs, -, hi, hj⟩ := leaves_of_sees (h i) (heq ▸ h j)
  have hi' := h (i + 1)
  have hj' := h (j + 1)
  rw [State.after_succ] at hi' hj'
  exact (hi'.unique hi.sees).1.trans (hj'.unique hj.sees).1.symm

/-- A call that finds the same tokens before it has the same answer. -/
theorem answer_congr (h : Left s left) (heq : left i = left j) : s.answer i = s.answer j := by
  rw [h.fresh, h.fresh, heq]

/-- A call that takes no token is repeated for ever. -/
theorem eq_of_le (h : Left s left) (heq : left (i + 1) = left i) (hij : i ≤ j) :
    left j = left i := by
  induction j, hij using Nat.le_induction with
  | base => rfl
  | succ j _ ih => rw [h.succ_congr ih, heq]

/-- A call takes no token, or fewer are left behind it. -/
theorem eq_or_length_lt (h : Left s left) (i : Nat) :
    left (i + 1) = left i ∨ (left (i + 1)).length < (left i).length := by
  obtain ⟨us, hts, -⟩ := h.takes i
  cases us with
  | nil => exact .inl hts.symm
  | cons u us => exact .inr (by rw [hts]; simp)

/-- Each call takes a token up to the first one that takes none. -/
theorem eq_or_length_le (h : Left s left) (i : Nat) :
    left (i + 1) = left i ∨ (left (i + 1)).length + (i + 1) ≤ (left 0).length := by
  induction i with
  | zero =>
    refine (h.eq_or_length_lt 0).imp_right fun hlt => ?_
    omega
  | succ i ih =>
    rcases ih with heq | hle
    · exact .inl (h.succ_congr heq)
    · refine (h.eq_or_length_lt (i + 1)).imp_right fun hlt => ?_
      omega

/-- **The tokens are used up** or kept for ever after as many calls as there are tokens. -/
theorem stuck (h : Left s left) (hi : (left 0).length ≤ i + 1) : left (i + 1) = left i := by
  refine (h.eq_or_length_le i).resolve_right fun hle => ?_
  have hpos := List.length_pos_of_ne_nil (h (i + 1)).ne_nil
  omega

/-- **The answers settle.** -/
theorem settled (h : Left s left) (hi : (left 0).length ≤ i + 1) (hj : (left 0).length ≤ j + 1) :
    s.answer i = s.answer j := by
  -- both calls come at or behind one that takes no token
  have hstuck := h.stuck (i := (left 0).length - 1) (by omega)
  have hleft_i := h.eq_of_le hstuck (j := i) (by omega)
  have hleft_j := h.eq_of_le hstuck (j := j) (by omega)
  exact h.answer_congr (hleft_i.trans hleft_j.symm)

end Left

/-! ### The end of the text -/

/-- At the end of the text a call finds nothing and changes nothing. -/
theorem suite_of_eof (hk : s.current.kind = .eof) : suite s = .ok {} s := by
  have hconfig : config? s = .ok none s := by
    rw [config?, kind_bind, hk]
    rfl
  have hvars : many (· = .letVar) variableDecl s = .ok [] s := many_of_not_more (by rw [hk]; rfl)
  have htests : many (· = .test) test s = .ok [] s := many_of_not_more (by rw [hk]; rfl)
  have hclose : close .eof .declaration s = .ok s.current s := by
    rw [close, kind_bind, if_pos hk, advance, if_pos hk]
  rw [suite, bind_of_ok hconfig, bind_of_ok hvars, bind_of_ok htests]
  exact bind_of_ok hclose

/-- At the end of the text nothing moves any more. -/
theorem after_of_eof (hk : (s.after i).current.kind = .eof) (hij : i ≤ j) :
    s.after j = s.after i := by
  induction j, hij using Nat.le_induction with
  | base => rfl
  | succ j _ ih => rw [State.after_succ, ih, State.next, suite_of_eof hk, Outcome.state]

/-- After a suite all calls find nothing. -/
theorem answer_of_ok {f : Suite} (h : s.answer i = .ok f) (hij : i < j) : s.answer j = .ok {} := by
  have hk : (s.after (i + 1)).current.kind = .eof := by
    rw [State.after_succ]
    exact suite_eof (Outcome.eq_ok_of_result h)
  rw [State.answer, after_of_eof hk hij, suite_of_eof hk, Outcome.result]

/-! ### All calls together -/

/-- **What the calls from the state `s` on do**, with `left` the tokens from the current one on
before each of them. -/
structure Resumption (tokens : List Token) (s : State σ) (left : Nat → List Token) : Prop where
  start : left 0 = tokens
  current : ∀ i, (left i).head? = some (s.after i).current
  /-- A call takes a front of the tokens that are left, one after the other. -/
  takes : ∀ i, ∃ taken, left i = taken ++ left (i + 1) ∧ Takes (s.after i) taken (s.after (i + 1))
  /-- A call answers as the first call on the tokens that are left. -/
  fresh : ∀ i, s.answer i = Suite.ofTokens ⟨left i, none⟩
  reported : ∀ i x t, s.answer i = .error (.unexpected x t) → (s.after (i + 1)).current = t
  refused : ∀ i n, s.answer i = .error (.statusOutOfRange n) →
    ∃ taken, left i = taken ++ n :: left (i + 1)
  emptied : ∀ i f, s.answer i = .ok f → ∀ j, i < j → s.answer j = .ok {}
  settled : ∀ i j, tokens.length ≤ i + 1 → tokens.length ≤ j + 1 → s.answer i = s.answer j

/-- **Calls make progress or settle.** -/
theorem Left.resumption {left : Nat → List Token} (h : Left s left) :
    Resumption (left 0) s left where
  start := rfl
  current i := (h i).head?
  takes := h.takes
  fresh := h.fresh
  reported _ _ _ := h.reported
  refused _ _ := h.refused
  emptied _ _ hf _ := answer_of_ok hf
  settled _ _ := h.settled

end Parser

/-- **Going on after errors makes progress or settles.** On a source text that can be lexed to its
end, each call takes tokens from the current one on, in their order and none twice, and answers as a
first call on the tokens that are left would. A token that is reported is the current one after that,
after a suite there is nothing more, and from the call on whose number is that of the tokens, all
calls give the same answer. -/
theorem Suite.resume_settles {source : String} (h : (Lexing.ofString source).failure = none) :
    ∃ (s : Parser.State Lexer) (left : Nat → List Token),
      Parser.start (Lexer.ofString source) = (.ok s, s.source) ∧
      (∀ calls, Suite.resume source calls =
        ((List.range calls).map s.answer, (s.after calls).allWarnings)) ∧
      Parser.Resumption (Lexing.ofString source).tokens s left := by
  rcases start_cases source with ⟨s, hstart, -, hsees, -⟩ | ⟨e, -, -, -, he, -⟩
  · rw [h] at hsees
    obtain ⟨left, hstarts, hleft⟩ := Parser.exists_left hsees
    refine ⟨s, left, hstart, fun calls => ?_, hstarts ▸ hleft.resumption⟩
    rw [Suite.resume, hstart]
    simp only [Parser.resume_eq hsees]
  · rw [h] at he
    cases he

/-- A number that no status has, and behind it a variable that the next call declares. -/
theorem Suite.resume_settles_behind_number :
    let source := " test t \x7b GET \"\" expect status = 99999 let x = 1 ;"
    (Lexing.ofString source).failure = none ∧
      ∀ calls, (Suite.resume source (calls + 2)).1 =
        .error (.statusOutOfRange ⟨.number, "99999", ⟨33, 1, 34⟩, 38⟩) ::
          .ok { vars := .insert {} "x" "1" } :: List.replicate calls (.ok {}) := by
  intro source
  have hwords : ∀ w ∈ ([⟨.test, "test"⟩, ⟨.ident, "t"⟩, ⟨.leftBrace, "\x7b"⟩,
      ⟨.method .get, "GET"⟩, ⟨.str, ""⟩, ⟨.expect, "expect"⟩, ⟨.status, "status"⟩, ⟨.equals, "="⟩,
      ⟨.number, "99999"⟩, ⟨.letVar, "let"⟩, ⟨.ident, "x"⟩, ⟨.equals, "="⟩, ⟨.number, "1"⟩,
      ⟨.semicolon, ";"⟩] : List Word), w.isLexable = true := by
    decide
  have hf : (Lexing.ofString source).failure = none := (Word.lexing_print hwords).2.1
  obtain ⟨s, left, -, hresume, hcalls⟩ := Suite.resume_settles hf
  have htwo : (Suite.resume source 2).1 =
      [.error (.statusOutOfRange ⟨.number, "99999", ⟨33, 1, 34⟩, 38⟩),
        .ok { vars := .insert {} "x" "1" }] := by
    cbv
  rw [hresume] at htwo
  obtain ⟨hzero, hone⟩ : s.answer 0 = _ ∧ s.answer 1 = _ := by simpa [List.range_succ] using htwo
  have hlater : s.answer ∘ Nat.succ ∘ Nat.succ = fun _ => .ok {} :=
    funext fun i => hcalls.emptied 1 _ hone (i + 2) (by omega)
  refine ⟨hf, fun calls => ?_⟩
  rw [hresume, List.range_succ_eq_map, List.range_succ_eq_map]
  simp [hzero, hone, hlater]

end HttpSuite
