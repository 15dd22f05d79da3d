import HttpSuite.Proofs.Parser.Completeness
import HttpSuite.Proofs.Token.Spelling

/-!
# A parser depends on the words that it has looked at

A run of a parser takes some tokens and looks at one more. Another run, over another source, that
finds the same words there does the same: it returns as the first one did, after tokens with the
same words, or it fails with the same error. Where the tokens stand plays no part in it.

The second run is only asked to agree on what the first one looked at (`Covers`), so what comes
later may differ, and a fatal error of the second source may come later too.

* `Parser.Repeats`: a run of one parser is repeated by another one.
* `Parser.Repeats.bind` and `Parser.repeats_many` carry this through sequences and loops.
* `Parser.repeats_suite`: every run of the parser of test descriptions is repeated.
-/

namespace HttpSuite

open Token (Kind)
open Grammar

/-- Errors of one kind, about the same words. -/
inductive ParseError.Alike : ParseError → ParseError → Prop
  | unexpected {x : Expected} {t u : Token} (h : t.word = u.word) :
      Alike (.unexpected x t) (.unexpected x u)
  | statusOutOfRange {t u : Token} (h : t.word = u.word) :
      Alike (.statusOutOfRange t) (.statusOutOfRange u)
  | lexical {e e' : LexError} : Alike (.lexical e) (.lexical e')

namespace Parser

/-- How a run ends. -/
abbrev Outcome (σ α : Type) := EStateM.Result ParseError (State σ) α

variable {σ τ α β : Type}

/-- Two runs that end in the same way, with values that are related. -/
inductive Outcome.Alike (R : α → α → Prop) : Outcome σ α → Outcome τ α → Prop
  | ok {a b : α} {s : State σ} {r : State τ} (h : R a b) : Alike R (.ok a s) (.ok b r)
  | error {x y : ParseError} {s : State σ} {r : State τ} (h : x.Alike y) :
      Alike R (.error x s) (.error y r)

theorem Outcome.Alike.of_ok {R : α → α → Prop} {a : α} {s : State σ} {o : Outcome τ α}
    (h : Alike R (.ok a s) o) : ∃ b r, o = .ok b r ∧ R a b := by
  cases h with
  | ok h => exact ⟨_, _, rfl, h⟩

/-- A run like one that fails fails with an error of the same kind, about the same word. -/
theorem Outcome.Alike.of_error {R : α → α → Prop} {x : ParseError} {s : State σ}
    {o : Outcome τ α} (h : Alike R (.error x s) o) : ∃ y r, o = .error y r ∧ x.Alike y := by
  cases h with
  | error h => exact ⟨_, _, rfl, h⟩

theorem Outcome.Alike.of_unexpected {R : α → α → Prop} {x : Expected} {t : Token} {s : State σ}
    {o : Outcome τ α} (h : Alike R (.error (.unexpected x t) s) o) :
    ∃ u r, o = .error (.unexpected x u) r ∧ u.word = t.word := by
  obtain ⟨y, r, rfl, hy⟩ := h.of_error
  cases hy with
  | unexpected hw => exact ⟨_, r, rfl, hw.symm⟩

/-- Any two values are related. -/
def Any (_ _ : α) : Prop := True

/-- Runs that end alike do so whatever is asked of their values. -/
theorem Outcome.Alike.any {R : α → α → Prop} {o : Outcome σ α} {o' : Outcome τ α}
    (h : Alike R o o') : Alike Any o o' := by
  cases h with
  | ok => exact .ok trivial
  | error h => exact .error h

/-- Tokens with the same word. -/
def SameWord (t u : Token) : Prop := t.word = u.word

/-- Lists of one length. -/
def SameLength (as bs : List α) : Prop := as.length = bs.length

theorem bind_of_ok {s s' : State σ} {p : Parser σ α} {f : α → Parser σ β}
    {a : α} (h : p s = .ok a s') : (p >>= f) s = f a s' := by
  change EStateM.bind p f s = _
  simp only [EStateM.bind, h]

theorem bind_of_error {s s' : State σ} {p : Parser σ α} {f : α → Parser σ β}
    {err : ParseError} (h : p s = .error err s') :
    (p >>= f) s = .error err s' := by
  change EStateM.bind p f s = _
  simp only [EStateM.bind, h]

variable [TokenSource σ] [TokenSource τ]

/-- A run from `s` that took the tokens `us` and has `vs` still before it. An unexpected token is
the first of these, a lexical error comes after the last token, and tokens never run out. -/
def Outcome.Leaves (s : State σ) (e : Option LexError) (us vs : List Token) : Outcome σ α → Prop
  | .ok _ s' => s'.Sees vs e ∧ s'.remaining + us.length ≤ s.remaining
  | .error (.unexpected _ t) s' => s'.Sees vs e ∧ s'.current = t
  | .error (.statusOutOfRange _) s' => s'.Sees vs e
  | .error (.lexical l) _ => vs = [] ∧ e = some l
  | .error .exhausted _ => False

/-- The tokens `rs` have the words that were looked at by a run which took `us` and has `vs` before
it: those of `us` and of the token after them, or of all tokens if it came to their end. -/
structure Covers (us vs rs : List Token) (e : Option LexError) : Prop where
  looked : words (us ++ vs.take 1) <+: words rs
  ended : vs = [] → words rs = words us ∧ e.isSome

/-- **A run that is repeated**: whatever `p` does from `s`, `q` does from every state that has the
words before it which this run looked at. -/
def Repeats (p : Parser σ α) (q : Parser τ α) (R : α → α → Prop) (s : State σ) : Prop :=
  ∀ ⦃ts : List Token⦄ ⦃e : Option LexError⦄, s.Sees ts e →
    ∃ us vs, ts = us ++ vs ∧ Outcome.Leaves s e us vs (p s) ∧
      ∀ ⦃r : State τ⦄ ⦃rs : List Token⦄ ⦃e' : Option LexError⦄, r.Sees rs e' →
        Covers us vs rs e' →
          Outcome.Alike R (p s) (q r) ∧
            ∃ ws ys, rs = ws ++ ys ∧ words ws = words us ∧ Outcome.Leaves r e' ws ys (q r)

/-! ### What a state sees is determined -/

/-- A source has one list of tokens before it. -/
theorem Supplies.unique {src : σ} {t : Token} {ts us : List Token} {e e' : Option LexError}
    (h : Supplies src t ts e) (h' : Supplies src t us e') : ts = us ∧ e = e' := by
  -- at the end of the text, at an error and at a token the lexer answers differently, so both lists
  -- are made in the same way
  induction h generalizing us with
  | finish hk =>
    cases h' with
    | finish => exact ⟨rfl, rfl⟩
    | fail hne => exact absurd hk hne
    | step hne => exact absurd hk hne
  | fail hk hn =>
    cases h' with
    | finish he => exact absurd he hk
    | fail _ hn' => rw [hn] at hn'; cases hn'; exact ⟨rfl, rfl⟩
    | step _ hn' => rw [hn] at hn'; cases hn'
  | step hk hn _ ih =>
    cases h' with
    | finish he => exact absurd he hk
    | fail _ hn' => rw [hn] at hn'; cases hn'
    | step _ hn' hs' =>
      rw [hn] at hn'
      cases hn'
      obtain ⟨rfl, rfl⟩ := ih hs'
      exact ⟨rfl, rfl⟩

variable {s s' : State σ} {r : State τ} {ts us vs rs ws ys : List Token} {e e' : Option LexError}
  {p : Parser σ α} {q : Parser τ α} {R : α → α → Prop} {t : Token} {k : Kind} {x : Expected}

theorem State.Sees.unique (h : s.Sees ts e) (h' : s.Sees us e') : ts = us ∧ e = e' := by
  obtain ⟨rest, rfl, hs⟩ := h
  obtain ⟨rest', rfl, hs'⟩ := h'
  obtain ⟨rfl, rfl⟩ := Supplies.unique hs hs'
  exact ⟨rfl, rfl⟩

/-- There is always a current token. -/
theorem State.Sees.ne_nil (h : s.Sees ts e) : ts ≠ [] := by
  obtain ⟨rest, rfl, -⟩ := h
  simp

/-- A run takes the same tokens however the list that it sees is divided. -/
theorem Outcome.Leaves.unique {o : Outcome σ α} {us' vs' : List Token}
    (h : Leaves s e us vs o) (h' : Leaves s e us' vs' o) (heq : us ++ vs = us' ++ vs') :
    us = us' ∧ vs = vs' := by
  have hvs : vs = vs' := by
    match o, h, h' with
    | .ok _ _, h, h' => exact (h.1.unique h'.1).1
    | .error (.unexpected _ _) _, h, h' => exact (h.1.unique h'.1).1
    | .error (.statusOutOfRange _) _, h, h' => exact (State.Sees.unique h h').1
    | .error (.lexical _) _, h, h' => rw [h.1, h'.1]
  subst hvs
  exact ⟨List.append_cancel_right heq, rfl⟩

/-- An error leaves the same tokens whatever the run would have returned. -/
theorem Outcome.Leaves.of_error {x : ParseError}
    (h : Leaves s e us vs (.error x s' : Outcome σ α)) :
    Leaves s e us vs (.error x s' : Outcome σ β) := by
  cases x <;> exact h

/-- A run that goes on from where another one stopped. -/
theorem Outcome.Leaves.after {o : Outcome σ α} (h : Leaves s' e us vs o)
    (hle : s'.remaining + ws.length ≤ s.remaining) : Leaves s e (ws ++ us) vs o := by
  match o, h with
  | .ok _ _, h =>
    have hlt := h.2
    refine ⟨h.1, ?_⟩
    rw [List.length_append]
    omega
  | .error (.unexpected _ _) _, h => exact h
  | .error (.statusOutOfRange _) _, h => exact h
  | .error (.lexical _) _, h => exact h

/-! ### Steps -/

/-- Where words are covered, the current tokens have the same word. -/
theorem Covers.current (h : Covers us vs rs e') (hs : s.Sees (us ++ vs) e) (hr : r.Sees rs e') :
    r.current.word = s.current.word := by
  obtain ⟨rest, hts, -⟩ := hs
  obtain ⟨rest', rfl, -⟩ := hr
  have hlooked := h.looked
  cases us with
  | nil =>
    obtain rfl : vs = s.current :: rest := by simpa using hts
    simpa [eq_comm] using hlooked
  | cons u us =>
    obtain ⟨rfl, -⟩ := List.cons.inj hts
    rw [List.cons_append, words_cons, words_cons, List.cons_prefix_cons] at hlooked
    exact hlooked.1.symm

/-- A run that does not come to the end of its tokens is covered by tokens of the same words. -/
theorem Covers.of_words_eq (h : words rs = words (us ++ vs)) (hne : vs ≠ []) :
    Covers us vs rs e' := by
  refine ⟨?_, fun hnil => absurd hnil hne⟩
  rw [h, words_append, words_append]
  exact (List.prefix_append_right_inj _).2 ((List.take_prefix 1 vs).map _)

/-- A step that takes no token, fails or not. -/
theorem Repeats.of_leaves (hp : ∀ ⦃ts e⦄, s.Sees ts e → Outcome.Leaves s e [] ts (p s))
    (hq : ∀ ⦃r : State τ⦄ ⦃rs e'⦄, r.Sees rs e' → r.current.word = s.current.word →
      Outcome.Alike R (p s) (q r) ∧ Outcome.Leaves r e' [] rs (q r)) : Repeats p q R s := by
  intro ts e hs
  refine ⟨[], ts, rfl, hp hs, fun r rs e' hr hc => ?_⟩
  obtain ⟨halike, hleaves⟩ := hq hr (hc.current hs hr)
  exact ⟨halike, [], rs, rfl, rfl, hleaves⟩

theorem repeats_pure {a b : α} (h : R a b) :
    Repeats (pure a : Parser σ α) (pure b : Parser τ α) R s :=
  .of_leaves (fun _ _ hs => ⟨hs, Nat.le_refl _⟩) fun _ _ _ hr _ => ⟨.ok h, hr, Nat.le_refl _⟩

theorem repeats_unexpected : Repeats (unexpected x : Parser σ α) (unexpected x : Parser τ α) R s :=
  .of_leaves (fun _ _ hs => ⟨hs, rfl⟩) fun _ _ _ hr hw =>
    ⟨.error (.unexpected hw.symm), hr, rfl⟩

theorem repeats_warn (w w' : Warning) :
    Repeats (warn w : Parser σ Unit) (warn w' : Parser τ Unit) Any s :=
  .of_leaves (fun _ _ hs => ⟨hs.warn, Nat.le_refl _⟩)
    fun _ _ _ hr _ => ⟨.ok trivial, hr.warn, Nat.le_refl _⟩

/-- Failing on a number is repeated on a number with the same digits. -/
theorem repeats_throw {n n' : Token} (h : SameWord n n') :
    Repeats (throw (.statusOutOfRange n) : Parser σ α) (throw (.statusOutOfRange n') : Parser τ α)
      R s :=
  .of_leaves (fun _ _ hs => hs) fun _ _ _ hr _ => ⟨.error (.statusOutOfRange h), hr⟩

/-- The current token. -/
def current : Parser σ Token := return (← get).current

/-- Looking at the current token is repeated, as its word is covered. -/
theorem repeats_current :
    Repeats (current : Parser σ Token) (current : Parser τ Token) SameWord s :=
  .of_leaves (fun _ _ hs => ⟨hs, Nat.le_refl _⟩) fun _ _ _ hr hw =>
    ⟨.ok hw.symm, hr, Nat.le_refl _⟩

/-- What depends on the kind of the current token. -/
theorem repeats_kind_bind {f : Kind → Parser σ α} {g : Kind → Parser τ α}
    (h : Repeats (f s.current.kind) (g s.current.kind) R s) :
    Repeats (kind >>= f) (kind >>= g) R s := by
  intro ts e hs
  obtain ⟨us, vs, rfl, hleaves, hrep⟩ := h hs
  refine ⟨us, vs, rfl, hleaves, fun r rs e' hr hc => ?_⟩
  have hk : r.current.kind = s.current.kind := congrArg Word.kind (hc.current hs hr)
  rw [kind_bind, kind_bind, hk]
  exact hrep hr hc

/-- Taking a token is repeated: the token after it was fetched, so its word is covered too. -/
theorem repeats_advance :
    Repeats (advance : Parser σ Token) (advance : Parser τ Token) SameWord s := by
  intro ts e hs
  obtain ⟨rest, rfl, hsup⟩ := id hs
  cases hsup with
  | finish hk =>
    -- the end of the text is not passed, in neither run
    refine ⟨[], [s.current], rfl, ?_, fun r rs e' hr hc => ?_⟩
    · simp only [advance, hk, if_true]
      exact ⟨hs, Nat.le_refl _⟩
    · have hw := hc.current hs hr
      have hk' : r.current.kind = .eof := (congrArg Word.kind hw).trans hk
      simp only [advance, hk, hk', if_true]
      exact ⟨.ok hw.symm, [], rs, rfl, rfl, hr, Nat.le_refl _⟩
  | @fail src src' t l hk hn =>
    refine ⟨[s.current], [], rfl, ?_, fun r rs e' hr hc => ?_⟩
    · simp only [advance, hk, if_false, hn]
      exact ⟨rfl, rfl⟩
    · have hw := hc.current hs hr
      have hk' : r.current.kind ≠ .eof := fun he => hk ((congrArg Word.kind hw).symm.trans he)
      obtain ⟨hrs, he'⟩ := hc.ended rfl
      obtain ⟨rest', rfl, hsup'⟩ := hr
      cases hsup' with
      | finish => simp at he'
      | fail _ hn' =>
        simp only [advance, hk, hk', if_false, hn, hn']
        exact ⟨.error .lexical, [r.current], [], rfl, hrs, rfl, rfl⟩
      | step => simp at hrs
  | @step src src' t t' ts e hk hn hsup =>
    refine ⟨[s.current], t' :: ts, rfl, ?_, fun r rs e' hr hc => ?_⟩
    · simp only [advance, hk, if_false, hn]
      exact ⟨⟨ts, rfl, hsup⟩, TokenSource.remaining_lt hn⟩
    · have hw := hc.current hs hr
      have hk' : r.current.kind ≠ .eof := fun he => hk ((congrArg Word.kind hw).symm.trans he)
      have hlooked := hc.looked
      obtain ⟨rest', rfl, hsup'⟩ := hr
      cases hsup' with
      | finish he => exact absurd he hk'
      | fail => simp at hlooked
      | step _ hn' hsup'' =>
        simp only [advance, hk, hk', if_false, hn, hn']
        exact ⟨.ok hw.symm, [r.current], _, rfl, by simp [hw], ⟨_, rfl, hsup''⟩,
          TokenSource.remaining_lt hn'⟩

theorem repeats_close :
    Repeats (close k x : Parser σ Token) (close k x : Parser τ Token) SameWord s := by
  unfold close
  apply repeats_kind_bind
  split
  · exact repeats_advance
  · exact repeats_unexpected

/-- Taking a token of a kind is repeated, also where the kind is another one. -/
theorem repeats_expect :
    Repeats (expect k : Parser σ Token) (expect k : Parser τ Token) SameWord s := by
  rw [expect_eq_close, expect_eq_close]
  exact repeats_close

/-! ### Sequences -/

/-- Where the second part of a run has the words that it looked at, the first part has them too. -/
theorem Covers.of_append (h : Covers (us ++ ws) vs rs e') (hne : ws ++ vs ≠ []) :
    Covers us (ws ++ vs) rs e' := by
  refine ⟨List.IsPrefix.trans ?_ h.looked, fun hnil => absurd hnil hne⟩
  cases ws with
  | nil => simp
  | cons w ws => simp

/-- What the first part of a run has left covers the second part. -/
theorem Covers.of_words {xs : List Token} (h : Covers (us ++ ws) vs (xs ++ ys) e')
    (hw : words xs = words us) : Covers ws vs ys e' := by
  refine ⟨?_, fun hnil => ?_⟩
  · have hlooked := h.looked
    simp only [words_append, List.append_assoc, hw] at hlooked ⊢
    exact (List.prefix_append_right_inj _).1 hlooked
  · obtain ⟨hrs, he'⟩ := h.ended hnil
    simp only [words_append, hw] at hrs
    exact ⟨List.append_cancel_left hrs, he'⟩

/-- **Sequences.** If a run is repeated and so is what follows it, so is the whole. -/
theorem Repeats.bind {f : α → Parser σ β} {g : α → Parser τ β} {S : β → β → Prop}
    (hp : Repeats p q R s) (hR : ∀ a, R a a)
    (hf : ∀ a s', p s = .ok a s' → ∀ b, R a b → Repeats (f a) (g b) S s') :
    Repeats (p >>= f) (q >>= g) S s := by
  intro ts e hs
  obtain ⟨us, vs, rfl, hleaves, hrep⟩ := hp hs
  cases hps : p s with
  | error err s' =>
    rw [hps] at hleaves hrep
    rw [bind_of_error hps]
    refine ⟨us, vs, rfl, hleaves.of_error, fun r rs e' hr hc => ?_⟩
    obtain ⟨halike, ws, ys, rfl, hw, hleaves'⟩ := hrep hr hc
    obtain ⟨err', r', hqr, halike⟩ := halike.of_error
    rw [hqr] at hleaves'
    rw [bind_of_error hqr]
    exact ⟨.error halike, ws, ys, rfl, hw, hleaves'.of_error⟩
  | ok a s' =>
    rw [hps] at hleaves hrep
    rw [bind_of_ok hps]
    obtain ⟨hs', hle⟩ := hleaves
    -- how far the second part goes does not depend on the other run: it is told for `a` itself
    obtain ⟨us', vs', rfl, hleaves', -⟩ := hf a s' hps a (hR a) hs'
    refine ⟨us ++ us', vs', by simp, hleaves'.after hle, fun r rs e' hr hc => ?_⟩
    obtain ⟨halike, ws, ys, rfl, hw, hr'⟩ := hrep hr (hc.of_append hs'.ne_nil)
    obtain ⟨b, r', hqr, hab⟩ := halike.of_ok
    rw [hqr] at hr'
    rw [bind_of_ok hqr]
    obtain ⟨hsees, hle'⟩ := hr'
    obtain ⟨us'', vs'', heq, hleaves'', hrep'⟩ := hf a s' hps b hab hs'
    obtain ⟨rfl, rfl⟩ := hleaves'.unique hleaves'' heq
    obtain ⟨halike', ws', ys', rfl, hw', hr''⟩ := hrep' hsees (hc.of_words hw)
    exact ⟨halike', ws ++ ws', ys', by simp, by simp [hw, hw'], hr''.after hle'⟩

/-- A run is repeated whatever is asked of its values. -/
theorem Repeats.any (h : Repeats p q R s) : Repeats p q Any s := by
  intro ts e hs
  obtain ⟨us, vs, rfl, hleaves, hrep⟩ := h hs
  refine ⟨us, vs, rfl, hleaves, fun r rs e' hr hc => ?_⟩
  obtain ⟨halike, hrest⟩ := hrep hr hc
  exact ⟨halike.any, hrest⟩

/-! ### Loops -/

/-- Runs `p` and tells whether it left less in the source. -/
def progress (p : Parser σ α) : Parser σ (α × Bool) := fun s =>
  match p s with
  | .ok a s' => .ok (a, s'.remaining < s.remaining) s'
  | .error err s' => .error err s'

/-- One round of a loop. -/
theorem many_eq (more : Kind → Bool) (item : Parser σ α) :
    many more item = do
      if more (← kind) then
        let x ← progress item
        if x.2 then return x.1 :: (← many more item) else return [x.1]
      else return [] := by
  funext s
  rw [many, kind_bind]
  -- both sides are followed through one round
  cases hm : more s.current.kind with
  | false => rfl
  | true =>
    simp only [if_true]
    cases hi : item s with
    | error err s' =>
      have hp : progress item s = .error err s' := by simp only [progress, hi]
      rw [bind_of_error hp]
    | ok a s' =>
      have hp : progress item s = .ok (a, s'.remaining < s.remaining) s' := by
        simp only [progress, hi]
      rw [bind_of_ok hp]
      by_cases hlt : s'.remaining < s.remaining
      · simp only [hlt, if_true, decide_true]
        cases hr : many more item s' with
        | ok as s'' => rw [bind_of_ok hr]; rfl
        | error err s'' => rw [bind_of_error hr]
      · simp only [hlt, if_false, decide_false]
        rfl

theorem progress_eq_ok {a : α} {less : Bool} (h : progress p s = .ok (a, less) s') :
    p s = .ok a s' ∧ (less = true → s'.remaining < s.remaining) := by
  unfold progress at h
  cases hp : p s with
  | error err s₁ => simp [hp] at h
  | ok b s₁ =>
    simp only [hp, EStateM.Result.ok.injEq, Prod.mk.injEq] at h
    obtain ⟨⟨rfl, rfl⟩, rfl⟩ := h
    exact ⟨rfl, by simp⟩

/-- A run that takes a token leaves less in the source, and so does every run that repeats it. -/
theorem Repeats.progress (h : Repeats p q R s)
    (hpos : ∀ ⦃a s'⦄, p s = .ok a s' → ∀ ⦃ts e⦄, s.Sees ts e →
      ∃ us vs, ts = us ++ vs ∧ us ≠ [] ∧ s'.Sees vs e) :
    Repeats (progress p) (progress q) (fun x y => R x.1 y.1 ∧ x.2 = y.2) s := by
  intro ts e hs
  obtain ⟨us, vs, rfl, hleaves, hrep⟩ := h hs
  refine ⟨us, vs, rfl, ?_, fun r rs e' hr hc => ?_⟩
  · unfold Parser.progress
    cases hps : p s with
    | error err s' => rw [hps] at hleaves; exact hleaves.of_error
    | ok a s' => rw [hps] at hleaves; exact hleaves
  · obtain ⟨halike, ws, ys, rfl, hw, hleaves'⟩ := hrep hr hc
    unfold Parser.progress
    cases hps : p s with
    | error err s' =>
      rw [hps] at halike
      obtain ⟨err', r', hqr, halike⟩ := halike.of_error
      rw [hqr] at hleaves' ⊢
      exact ⟨.error halike, ws, ys, rfl, hw, hleaves'.of_error⟩
    | ok a s' =>
      rw [hps] at halike hleaves
      obtain ⟨b, r', hqr, hab⟩ := halike.of_ok
      rw [hqr] at hleaves' ⊢
      obtain ⟨us', vs', heq, hne, hs'⟩ := hpos hps hs
      obtain rfl := (hs'.unique hleaves.1).1
      obtain rfl := List.append_cancel_right heq
      -- both runs took the same number of tokens, and at least one
      have hlen : ws.length = us.length := by simpa [words] using congrArg List.length hw
      have hlt : 0 < us.length := List.length_pos_iff.2 hne
      have h₁ := hleaves.2
      have h₂ := hleaves'.2
      refine ⟨.ok ⟨hab, ?_⟩, ws, ys, rfl, hw, hleaves'⟩
      rw [decide_eq_true (by omega), decide_eq_true (by omega)]

/-- **Loops.** If every item takes a token and is repeated, so is the loop. -/
theorem repeats_many {more : Kind → Bool} {item : Parser σ α} {item' : Parser τ α}
    (hitem : ∀ s : State σ, more s.current.kind → Repeats item item' R s) (hR : ∀ a, R a a)
    (hpos : SoundFrom (more ·) item fun us _ => us ≠ []) (s : State σ) :
    Repeats (many more item) (many more item') SameLength s := by
  induction hn : s.remaining using Nat.strongRecOn generalizing s with
  | ind n ih =>
  rw [many_eq more item, many_eq more item']
  apply repeats_kind_bind
  split
  · rename_i hm
    refine ((hitem s hm).progress fun a s' ha ts e hs => hpos hs hm ha).bind
      (fun x => ⟨hR _, rfl⟩) ?_
    rintro ⟨a, less⟩ s' hs' ⟨b, less'⟩ ⟨-, rfl⟩
    cases less with
    | false => exact repeats_pure rfl
    | true =>
      have hlt := (progress_eq_ok hs').2 rfl
      refine (ih _ (hn ▸ hlt) s' rfl).bind (fun _ => rfl) fun as s'' _ bs hlen => ?_
      exact repeats_pure (congrArg (· + 1) hlen)
  · exact repeats_pure rfl

/-- The loop over braces does not need the test that ends it. -/
theorem closeBraces_eq (depth : Nat) :
    (closeBraces depth : Parser σ Nat) = (do
      if (← kind) = .eof then unexpected (.kind .rightBrace)
      else
        let t ← advance
        if depthAfter depth t.kind = 0 then return t.stop
        else closeBraces (depthAfter depth t.kind)) := by
  funext s
  rw [closeBraces, kind_bind]
  by_cases hk : s.current.kind = .eof
  · rw [if_pos hk, if_pos hk]
    rfl
  · rw [if_neg hk, if_neg hk]
    cases ha : advance s with
    | error err s' => rw [bind_of_error ha]
    | ok t s' =>
      rw [bind_of_ok ha]
      simp only [advance_remaining_lt hk ha, if_true]
      split <;> rfl

/-- Closing braces is repeated. The induction is on what is left in the source. -/
theorem repeats_closeBraces (depth : Nat) (s : State σ) :
    Repeats (closeBraces depth : Parser σ Nat) (closeBraces depth : Parser τ Nat) Any s := by
  induction hn : s.remaining using Nat.strongRecOn generalizing s depth with
  | ind n ih =>
  rw [closeBraces_eq (σ := σ), closeBraces_eq (σ := τ)]
  apply repeats_kind_bind
  split
  · exact repeats_unexpected
  · rename_i hk
    refine repeats_advance.bind (fun _ => rfl) fun t s' ht u hw => ?_
    have hkind : u.kind = t.kind := (congrArg Word.kind hw).symm
    rw [hkind]
    split
    · exact repeats_pure trivial
    · exact ih _ (hn ▸ advance_remaining_lt hk ht) _ s' rfl

/-! ### Productions -/

section Productions

variable {f : Token → Parser σ α} {g : Token → Parser τ α}

/-- A token of a kind, and what is done with its word. -/
theorem repeats_expect_bind (h : ∀ t u s', SameWord t u → Repeats (f t) (g u) R s') :
    Repeats (expect k >>= f) (expect k >>= g) R s :=
  repeats_expect.bind (fun _ => rfl) fun t s' _ u hw => h t u s' hw

theorem repeats_close_bind (h : ∀ t u s', SameWord t u → Repeats (f t) (g u) R s') :
    Repeats (close k x >>= f) (close k x >>= g) R s :=
  repeats_close.bind (fun _ => rfl) fun t s' _ u hw => h t u s' hw

theorem repeats_advance_bind (h : ∀ t u s', SameWord t u → Repeats (f t) (g u) R s') :
    Repeats (advance >>= f) (advance >>= g) R s :=
  repeats_advance.bind (fun _ => rfl) fun t s' _ u hw => h t u s' hw

/-- What the value of a run does not decide. -/
theorem Repeats.bind_any {f : α → Parser σ β} {g : α → Parser τ β} {S : β → β → Prop}
    (hp : Repeats p q Any s) (hf : ∀ a b s', Repeats (f a) (g b) S s') :
    Repeats (p >>= f) (q >>= g) S s :=
  hp.bind (fun _ => trivial) fun a s' _ b _ => hf a b s'

end Productions

theorem repeats_header (s : State σ) :
    Repeats (header : Parser σ Header) (header : Parser τ Header) Any s := by
  unfold header
  refine repeats_expect_bind fun _ _ _ _ => repeats_expect_bind fun _ _ _ _ => ?_
  refine repeats_expect_bind fun _ _ _ _ => repeats_expect_bind fun _ _ _ _ => ?_
  exact repeats_expect_bind fun _ _ _ _ => repeats_pure trivial

theorem repeats_configItem (s : State σ) :
    Repeats (configItem : Parser σ Config.Item) (configItem : Parser τ Config.Item) Any s := by
  unfold configItem
  apply repeats_kind_bind
  split
  · refine repeats_advance_bind fun _ _ _ _ => repeats_expect_bind fun _ _ _ _ => ?_
    refine repeats_expect_bind fun _ _ _ _ => repeats_expect_bind fun _ _ _ _ => ?_
    exact repeats_pure trivial
  · exact (repeats_header s).bind_any fun _ _ _ => repeats_pure trivial

/-- A loop over items of the grammar. -/
theorem repeats_items {more : Kind → Bool} {item : Parser σ α} {item' : Parser τ α}
    {D : List Token → α → Prop} {Q : Kind → Prop} (hitem : ∀ s : State σ, Repeats item item' Any s)
    (hD : Sound item D) (hb : ∀ ⦃us a⦄, D us a → Begins Q us) (s : State σ) :
    Repeats (many more item) (many more item') SameLength s := by
  refine repeats_many (fun s _ => hitem s) (fun _ => trivial) ?_ s
  intro s s' ts e a hs _ ha
  obtain ⟨us, vs, rfl, hd, hs'⟩ := hD hs trivial ha
  exact ⟨us, vs, rfl, ne_nil_of_begins (hb hd), hs'⟩

theorem repeats_config (s : State σ) :
    Repeats (config : Parser σ Config) (config : Parser τ Config) Any s := by
  unfold config
  refine repeats_expect_bind fun _ _ _ _ => repeats_expect_bind fun _ _ s _ => ?_
  refine (repeats_items repeats_configItem configItem_sound (fun _ _ => configItem_begins)
    s).any.bind_any fun _ _ _ => ?_
  exact repeats_close_bind fun _ _ _ _ => repeats_pure trivial

theorem repeats_config? (s : State σ) :
    Repeats (config? : Parser σ (Option Config)) (config? : Parser τ (Option Config)) Any s := by
  unfold config?
  apply repeats_kind_bind
  split
  · exact (repeats_config s).bind_any fun _ _ _ => repeats_pure trivial
  · exact repeats_pure trivial

/-- The value of a variable is chosen by its kind, which its word tells. -/
theorem repeats_variableDecl (s : State σ) :
    Repeats (variableDecl : Parser σ Variable) (variableDecl : Parser τ Variable) Any s := by
  unfold variableDecl
  refine repeats_expect_bind fun _ _ _ _ => repeats_expect_bind fun _ _ _ _ => ?_
  refine repeats_expect_bind fun _ _ s _ => repeats_kind_bind ?_
  dsimp only
  split
  · refine repeats_advance_bind fun _ _ _ _ => ?_
    exact repeats_expect_bind fun _ _ _ _ => repeats_pure trivial
  · refine repeats_unexpected.bind_any fun _ _ _ => ?_
    exact repeats_expect_bind fun _ _ _ _ => repeats_pure trivial

/-- Whether a warning is raised is no part of how a run ends. -/
theorem repeats_body (m : Method) (s : State σ) :
    Repeats (body m : Parser σ String) (body m : Parser τ String) Any s := by
  unfold body
  refine repeats_expect_bind fun _ _ _ _ => repeats_expect_bind fun _ _ _ _ => ?_
  refine repeats_expect_bind fun _ _ _ _ => repeats_expect_bind fun _ _ _ _ => ?_
  split
  · exact (repeats_warn _ _).bind_any fun _ _ _ => repeats_pure trivial
  · exact repeats_pure trivial

/-- Where a skipped item ends does not depend on the offsets of its tokens. -/
theorem repeats_skipEnd (stop stop' : Nat) (s : State σ) :
    Repeats (skipEnd stop : Parser σ Nat) (skipEnd stop' : Parser τ Nat) Any s := by
  unfold skipEnd
  apply repeats_kind_bind
  split
  · exact repeats_advance_bind fun _ _ _ _ => repeats_pure trivial
  · refine (repeats_closeBraces 0 s).bind_any fun _ _ s => repeats_kind_bind ?_
    split
    · exact repeats_advance_bind fun _ _ _ _ => repeats_pure trivial
    · exact repeats_pure trivial
  · exact repeats_pure trivial
  · exact repeats_unexpected

/-- Passing over an item looks at the current token only. -/
theorem skipItem_eq : (skipItem : Parser σ Unit) = (do
    let first ← current
    let passed ← many Kind.isPlain advance
    let stop ← skipEnd (passed.getLast?.getD first).stop
    warn ⟨.skippedItem first.kind first.text, first.pos, stop⟩) := rfl

theorem plain_takes :
    SoundFrom (fun k => k.isPlain) (advance : Parser σ Token) fun us _ => us ≠ [] := by
  intro s s' ts e t hs hk h
  obtain ⟨us, vs, rfl, ⟨rfl, -⟩, hs'⟩ := plain_sound hs hk h
  exact ⟨[t], vs, rfl, by simp, hs'⟩

/-- A skipped item takes as many tokens in both runs. -/
theorem repeats_skipItem (s : State σ) :
    Repeats (skipItem : Parser σ Unit) (skipItem : Parser τ Unit) Any s := by
  rw [skipItem_eq (σ := σ), skipItem_eq (σ := τ)]
  refine repeats_current.any.bind_any fun _ _ s => ?_
  refine (repeats_many (fun s _ => repeats_advance) (fun _ => rfl) plain_takes s).any.bind_any
    fun _ _ s => ?_
  exact (repeats_skipEnd _ _ s).bind_any fun _ _ _ => repeats_warn _ _

theorem repeats_blockItem (m : Method) (s : State σ) :
    Repeats (blockItem m : Parser σ Request.Item) (blockItem m : Parser τ Request.Item) Any s := by
  unfold blockItem
  apply repeats_kind_bind
  split
  · exact (repeats_header s).bind_any fun _ _ _ => repeats_pure trivial
  · exact (repeats_body m s).bind_any fun _ _ _ => repeats_pure trivial
  · exact (repeats_skipItem s).bind_any fun _ _ _ => repeats_pure trivial

/-- An item of a block takes a token, so the loop over a block goes on. -/
theorem blockItem_takes (m : Method) :
    SoundFrom (blockMore ·) (blockItem m : Parser σ Request.Item) fun us _ => us ≠ [] := by
  intro s s' ts e item hs hk h
  obtain ⟨us, vs, rfl, hs', hitem⟩ := blockItem_sound hs (by simp at hk; exact hk.1) h
  refine ⟨us, vs, rfl, ?_, hs'⟩
  rcases hitem with ⟨hd, -, hD⟩ | ⟨text, -, hD⟩ | ⟨-, hb, -⟩
  · exact ne_nil_of_begins (headerDecl_begins hD)
  · exact ne_nil_of_begins (bodyDecl_begins hD)
  · exact ne_nil_of_begins hb

theorem repeats_block (m : Method) (s : State σ) :
    Repeats (block m : Parser σ (List Request.Item)) (block m : Parser τ (List Request.Item))
      Any s := by
  unfold block
  apply repeats_kind_bind
  split
  · refine repeats_advance_bind fun _ _ s _ => ?_
    refine (repeats_many (fun s _ => repeats_blockItem m s) (fun _ => trivial)
      (blockItem_takes m) s).any.bind_any fun _ _ _ => ?_
    exact repeats_expect_bind fun _ _ _ _ => repeats_pure trivial
  · exact repeats_pure trivial

/-- A request is repeated with its method, which its first word tells. -/
theorem repeats_request (s : State σ) :
    Repeats (request : Parser σ Request) (request : Parser τ Request) Any s := by
  unfold request
  apply repeats_kind_bind
  split
  · exact repeats_unexpected
  · refine repeats_advance_bind fun _ _ _ _ => repeats_expect_bind fun _ _ s _ => ?_
    refine (repeats_block _ s).bind_any fun _ _ _ => repeats_kind_bind ?_
    dsimp only
    split
    · exact repeats_advance_bind fun _ _ _ _ => repeats_pure trivial
    · exact repeats_pure trivial

/-- What is compared is chosen by kinds, and a status that is too large by its digits. -/
theorem repeats_expectation (s : State σ) :
    Repeats (expectation : Parser σ Assertion) (expectation : Parser τ Assertion) Any s := by
  unfold expectation
  apply repeats_kind_bind
  split
  · unfold statusCode
    refine repeats_advance_bind fun _ _ _ _ => repeats_expect_bind fun _ _ _ _ => ?_
    refine repeats_expect_bind fun n n' _ hw => ?_
    -- the number is judged by its text
    have htext : n'.text = n.text := (congrArg Word.text hw).symm
    dsimp only
    rw [htext]
    split
    · exact repeats_pure trivial
    · exact repeats_throw hw
  · unfold headerCheck
    refine repeats_advance_bind fun _ _ _ _ => repeats_expect_bind fun _ _ _ _ => ?_
    apply repeats_kind_bind
    split
    · refine repeats_advance_bind fun _ _ _ _ => ?_
      exact repeats_expect_bind fun _ _ _ _ => repeats_pure trivial
    · refine repeats_advance_bind fun _ _ _ _ => ?_
      exact repeats_expect_bind fun _ _ _ _ => repeats_pure trivial
    · exact repeats_unexpected
  · refine repeats_advance_bind fun _ _ _ _ => repeats_expect_bind fun _ _ _ _ => ?_
    exact repeats_expect_bind fun _ _ _ _ => repeats_pure trivial
  · exact repeats_unexpected

theorem repeats_assertion (s : State σ) :
    Repeats (assertion : Parser σ Assertion) (assertion : Parser τ Assertion) Any s := by
  unfold assertion
  refine repeats_expect_bind fun _ _ s _ => (repeats_expectation s).bind_any fun _ _ _ => ?_
  exact repeats_expect_bind fun _ _ _ _ => repeats_pure trivial

theorem repeats_statement (s : State σ) :
    Repeats (statement : Parser σ Statement) (statement : Parser τ Statement) Any s := by
  unfold statement
  refine (repeats_request s).bind_any fun _ _ s => ?_
  exact (repeats_items repeats_assertion assertion_sound (fun _ _ => assertionDecl_begins)
    s).any.bind_any fun _ _ _ => repeats_pure trivial

theorem repeats_test (s : State σ) :
    Repeats (test : Parser σ Test) (test : Parser τ Test) Any s := by
  unfold test
  refine repeats_expect_bind fun _ _ _ _ => repeats_expect_bind fun _ _ _ _ => ?_
  refine repeats_expect_bind fun _ _ s _ => ?_
  refine (repeats_items repeats_statement statement_sound (fun _ _ => statementDecl_begins)
    s).any.bind_any fun _ _ _ => ?_
  exact repeats_close_bind fun _ _ _ _ => repeats_pure trivial

/-- **Every run of the parser is repeated** where the words are the same. -/
theorem repeats_suite (s : State σ) :
    Repeats (suite : Parser σ Suite) (suite : Parser τ Suite) Any s := by
  unfold suite
  refine (repeats_config? s).bind_any fun _ _ s => ?_
  refine (repeats_items repeats_variableDecl variableDecl_sound (fun _ _ => variableDecl_begins)
    s).any.bind_any fun _ _ s => ?_
  refine (repeats_items repeats_test test_sound (fun _ _ => testDecl_begins) s).bind
    (fun _ => rfl) fun tests s _ tests' hlen => ?_
  -- what is expected at the end depends on whether there are tests
  have hempty : tests'.isEmpty = tests.isEmpty := by
    cases tests <;> cases tests' <;> simp_all [SameLength]
  rw [hempty]
  exact repeats_close_bind fun _ _ _ _ => repeats_pure trivial

end Parser

end HttpSuite
