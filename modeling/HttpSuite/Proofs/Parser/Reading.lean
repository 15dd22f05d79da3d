import HttpSuite.Proofs.Grammar

/-!
# What a parser reads

A parser sees its tokens through a source, one at a time. Here a state is tied to the list of tokens
that are still to come, and a run of a parser to the tokens that it took.

* `Parser.State.Sees`: the tokens from the current one on, and the error after them if there is one.
* `Parser.Sound`: whatever a parser returns belongs to the tokens that it took.
* `Parser.Runs`: on these tokens a parser succeeds, with this value, and leaves those.
* `Parser.many_sound` and `Parser.runs_many` carry both through a loop.
-/

namespace HttpSuite

open Token (Kind)
open Grammar

/-- The tokens that follow the current token `t` in a source. They end at the end of the text, or at
a token that the source answers with an error. -/
inductive Supplies {σ : Type} [TokenSource σ] : σ → Token → List Token → Option LexError → Prop
  | finish {src : σ} {t : Token} (h : t.kind = .eof) : Supplies src t [] none
  | fail {src src' : σ} {t : Token} {e : LexError} (h : t.kind ≠ .eof)
      (hn : TokenSource.next src = (some (.error e), src')) : Supplies src t [] (some e)
  | step {src src' : σ} {t t' : Token} {ts : List Token} {e : Option LexError} (h : t.kind ≠ .eof)
      (hn : TokenSource.next src = (some (.ok t'), src')) (hs : Supplies src' t' ts e) :
      Supplies src t (t' :: ts) e

namespace Parser

variable {σ α β : Type}

/-- A sequence succeeds if both its parts do, one where the other stopped. -/
theorem bind_eq_ok {s s'' : State σ} {p : Parser σ α} {f : α → Parser σ β} {b : β} :
    (p >>= f) s = .ok b s'' ↔ ∃ a s', p s = .ok a s' ∧ f a s' = .ok b s'' := by
  change EStateM.bind p f s = _ ↔ _
  unfold EStateM.bind
  cases h : p s with
  | ok a s₁ =>
    constructor
    · intro hf; exact ⟨a, s₁, rfl, hf⟩
    · rintro ⟨a', s', ha, hf⟩
      simp only [EStateM.Result.ok.injEq] at ha
      obtain ⟨rfl, rfl⟩ := ha
      exact hf
  | error err s₁ => simp

theorem pure_eq_ok {s s' : State σ} {a b : α} :
    (pure a : Parser σ α) s = .ok b s' ↔ a = b ∧ s = s' := by
  change EStateM.Result.ok a s = .ok b s' ↔ _
  simp

@[simp]
theorem kind_bind (s : State σ) (f : Kind → Parser σ α) :
    (kind >>= f) s = f s.current.kind s := rfl

@[simp]
theorem get_bind (s : State σ) (f : State σ → Parser σ α) : (get >>= f) s = f s s := rfl

/-- Reporting an unexpected token never succeeds. -/
@[simp]
theorem unexpected_ne_ok {s s' : State σ} {x : Expected} {a : α} :
    (unexpected x : Parser σ α) s ≠ .ok a s' := by
  intro h; cases h

variable [TokenSource σ]

/-- The tokens that a parser still has before it, the current one first. -/
def State.Sees (s : State σ) (ts : List Token) (e : Option LexError) : Prop :=
  ∃ rest, ts = s.current :: rest ∧ Supplies s.source s.current rest e

variable {s s' s'' : State σ} {ts us vs : List Token} {e : Option LexError} {t : Token}

/-- The first token that is seen is the current one. -/
theorem State.Sees.current_eq (h : s.Sees (t :: ts) e) : s.current = t := by
  obtain ⟨rest, hts, -⟩ := h
  exact (List.cons.inj hts).1.symm

theorem State.Sees.head? (h : s.Sees ts e) : ts.head? = some s.current := by
  obtain ⟨rest, rfl, -⟩ := h
  rfl

theorem State.Sees.warn {w : List Warning} (h : s.Sees ts e) :
    State.Sees { s with raised := w } ts e := h

/-- Nothing is left but the end of the text once it is the current token. -/
theorem State.Sees.eq_of_eof (h : s.Sees ts e) (hk : s.current.kind = .eof) : ts = [s.current] := by
  obtain ⟨rest, rfl, hsup⟩ := h
  cases hsup with
  | finish => rfl
  | fail hne => exact absurd hk hne
  | step hne => exact absurd hk hne

/-! ### Soundness -/

/-- **A sound parser**: a value that it returns belongs by `D` to the tokens that it took. The first
of them has the property `P`. -/
def SoundFrom (P : Kind → Prop) (p : Parser σ α) (D : List Token → α → Prop) : Prop :=
  ∀ ⦃s s' : State σ⦄ ⦃ts : List Token⦄ ⦃e : Option LexError⦄ ⦃a : α⦄, s.Sees ts e →
    P s.current.kind → p s = .ok a s' → ∃ us vs, ts = us ++ vs ∧ D us a ∧ s'.Sees vs e

/-- A parser that is sound whatever the current token is. -/
abbrev Sound (p : Parser σ α) (D : List Token → α → Prop) : Prop := SoundFrom (fun _ => True) p D

theorem Sound.soundFrom {p : Parser σ α} {D : List Token → α → Prop} (h : Sound p D)
    (P : Kind → Prop) : SoundFrom P p D :=
  fun _ _ _ _ _ hs _ hp => h hs trivial hp

/-- Taking a token takes the first one that is seen. -/
theorem advance_sound (hs : s.Sees ts e) (hk : s.current.kind ≠ .eof) (h : advance s = .ok t s') :
    t = s.current ∧ ∃ vs, ts = t :: vs ∧ s'.Sees vs e := by
  obtain ⟨rest, rfl, hsup⟩ := hs
  unfold advance at h
  rw [if_neg hk] at h
  cases hsup with
  | finish he => exact absurd he hk
  | fail _ hn => simp [hn] at h
  | step _ hn hsup' =>
    simp only [hn, EStateM.Result.ok.injEq] at h
    obtain ⟨rfl, rfl⟩ := h
    exact ⟨rfl, _, rfl, _, rfl, hsup'⟩

/-- A token that ends a list is of the kind that was asked for. -/
theorem close_sound {k : Kind} {x : Expected} (hs : s.Sees ts e) (h : close k x s = .ok t s')
    (hk : k ≠ .eof) : t.kind = k ∧ ∃ vs, ts = t :: vs ∧ s'.Sees vs e := by
  unfold close at h
  rw [kind_bind] at h
  by_cases hc : s.current.kind = k
  · rw [if_pos hc] at h
    obtain ⟨rfl, vs, hvs⟩ := advance_sound hs (by rw [hc]; exact hk) h
    exact ⟨hc, vs, hvs⟩
  · rw [if_neg hc] at h
    exact absurd h unexpected_ne_ok

/-- Expecting a token is closing a list that could only end there. -/
theorem expect_eq_close (k : Kind) : (expect k : Parser σ Token) = close k (.kind k) := rfl

theorem expect_sound {k : Kind} (hs : s.Sees ts e) (h : expect k s = .ok t s') (hk : k ≠ .eof) :
    t.kind = k ∧ ∃ vs, ts = t :: vs ∧ s'.Sees vs e := by
  rw [expect_eq_close] at h
  exact close_sound hs h hk

/-- A loop ends before a token that begins no item. -/
theorem many_of_not_more {more : Kind → Bool} {item : Parser σ α}
    (h : more s.current.kind = false) : many more item s = .ok [] s := by
  unfold many
  rw [if_neg (by simp [h])]

/-- **A loop over a sound parser is sound.** -/
theorem many_sound {more : Kind → Bool} {item : Parser σ α} {D : List Token → α → Prop}
    (hitem : SoundFrom (more ·) item D) : Sound (many more item) (Many D) := by
  intro s s' ts e as hs _ h
  fun_induction many more item s generalizing ts as s' with
  | case1 s hm err s₁ hi => cases h
  | case2 s hm a s₁ hi hlt as₁ s₂ hrec ih =>
    cases h
    obtain ⟨us, vs, rfl, hD, hs₁⟩ := hitem hs hm hi
    obtain ⟨us', ws, rfl, hDs, hs₂⟩ := ih hs₁ hrec
    exact ⟨us ++ us', ws, by rw [List.append_assoc], .cons hD hDs, hs₂⟩
  | case3 s hm a s₁ hi hlt err s₂ hrec ih => cases h
  | case4 s hm a s₁ hi hlt =>
    -- an item that took nothing ends the loop
    cases h
    obtain ⟨us, vs, rfl, hD, hs₁⟩ := hitem hs hm hi
    exact ⟨us, vs, rfl, by simpa using Many.cons hD .nil, hs₁⟩
  | case5 s hm =>
    cases h
    exact ⟨[], ts, rfl, .nil, hs⟩

/-! ### Runs -/

/-- **A run**: on every state that sees `ts`, the parser returns `a` and leaves a state that sees
`vs`. What is left in the source goes down by as many tokens at least. -/
def Runs (p : Parser σ α) (ts : List Token) (a : α) (vs : List Token) : Prop :=
  ∀ ⦃s : State σ⦄ ⦃e : Option LexError⦄, s.Sees ts e →
    ∃ s', p s = .ok a s' ∧ s'.Sees vs e ∧ s'.remaining + ts.length ≤ s.remaining + vs.length

variable {p : Parser σ α} {f : α → Parser σ β} {a : α} {b : β} {k : Kind}

theorem Runs.pure (a : α) (ts : List Token) : Runs (Pure.pure a : Parser σ α) ts a ts :=
  fun s _ hs => ⟨s, rfl, hs, Nat.le_refl _⟩

/-- What two parsers take in sequence is taken one after another. -/
theorem Runs.bind (hp : Runs p ts a us) (hf : Runs (f a) us b vs) : Runs (p >>= f) ts b vs := by
  intro s e hs
  obtain ⟨s₁, h₁, hs₁, hle₁⟩ := hp hs
  obtain ⟨s₂, h₂, hs₂, hle₂⟩ := hf hs₁
  exact ⟨s₂, bind_eq_ok.2 ⟨a, s₁, h₁, h₂⟩, hs₂, by omega⟩

/-- Looking at the kind of the current token takes nothing. -/
theorem runs_kind_bind {f : Kind → Parser σ α} (h : Runs (f t.kind) (t :: ts) a vs) :
    Runs (kind >>= f) (t :: ts) a vs := by
  intro s e hs
  rw [kind_bind, hs.current_eq]
  exact h hs

theorem runs_get_bind {f : State σ → Parser σ α} (h : ∀ s, Runs (f s) ts a vs) :
    Runs (get >>= f) ts a vs :=
  fun s _ hs => h s hs

/-- Any token but the last one can be taken. -/
theorem runs_advance (hk : t.kind ≠ .eof) (hv : vs ≠ []) :
    Runs (advance : Parser σ Token) (t :: vs) t vs := by
  intro s e hs
  have hc := hs.current_eq
  obtain ⟨rest, hts, hsup⟩ := hs
  obtain rfl : vs = rest := (List.cons.inj hts).2
  cases hsup with
  | finish => exact absurd rfl hv
  | fail => exact absurd rfl hv
  | @step _ src' _ t' us _ _ hn hsup' =>
    refine ⟨{ s with source := src', current := t' }, ?_, ⟨us, rfl, hsup'⟩, ?_⟩
    · unfold advance
      rw [hc, if_neg hk, hn]
    · have := TokenSource.remaining_lt hn
      simp only [State.remaining, List.length_cons]
      omega

theorem runs_close {x : Expected} (hk : t.kind = k) (hne : k ≠ .eof) (hv : vs ≠ []) :
    Runs (close k x : Parser σ Token) (t :: vs) t vs := by
  unfold close
  apply runs_kind_bind
  rw [if_pos hk]
  exact runs_advance (by rw [hk]; exact hne) hv

theorem runs_expect (hk : t.kind = k) (hne : k ≠ .eof) (hv : vs ≠ []) :
    Runs (expect k : Parser σ Token) (t :: vs) t vs := by
  rw [expect_eq_close]
  exact runs_close hk hne hv

/-- The end of the text is taken without being passed. -/
theorem runs_close_eof {x : Expected} (hk : t.kind = .eof) :
    Runs (close .eof x : Parser σ Token) [t] t [t] := by
  unfold close
  apply runs_kind_bind
  rw [if_pos hk]
  intro s e hs
  refine ⟨s, ?_, hs, Nat.le_refl _⟩
  unfold advance
  rw [hs.current_eq, if_pos hk]

/-- Raising a warning takes nothing. -/
theorem runs_warn (w : Warning) (ts : List Token) : Runs (warn w : Parser σ Unit) ts () ts :=
  fun s _ hs => ⟨{ s with raised := w :: s.raised }, rfl, hs.warn, Nat.le_refl _⟩

variable {more : Kind → Bool} {item : Parser σ α} {as : List α}

theorem runs_many_nil (h : Begins (more · = false) ts) :
    Runs (many more item) ts [] ts := by
  obtain ⟨t, rest, rfl, ht⟩ := h
  intro s e hs
  exact ⟨s, many_of_not_more (by rw [hs.current_eq]; exact ht), hs, Nat.le_refl _⟩

/-- A loop over an item and what follows it, if the item takes a token. -/
theorem runs_many_cons (h : Begins (more ·) ts) (ha : Runs item ts a us)
    (hlt : us.length < ts.length) (has : Runs (many more item) us as vs) :
    Runs (many more item) ts (a :: as) vs := by
  obtain ⟨t, rest, rfl, ht⟩ := h
  intro s e hs
  obtain ⟨s₁, h₁, hs₁, hle₁⟩ := ha hs
  obtain ⟨s₂, h₂, hs₂, hle₂⟩ := has hs₁
  refine ⟨s₂, ?_, hs₂, by omega⟩
  unfold many
  rw [hs.current_eq, if_pos ht, h₁]
  -- the item took a token, so the loop goes on
  have hrem : s₁.remaining < s.remaining := by omega
  simp only [hrem, if_true, h₂]

/-- **A loop runs over its items.** An item begins with a token that the loop goes on at, and may be
followed by what satisfies `Q`: another item, or what follows the loop. -/
theorem runs_many {D : List Token → α → Prop} {Q : Kind → Prop}
    (hfirst : ∀ ⦃us a⦄, D us a → Begins (more ·) us)
    (hitem : ∀ ⦃us a vs⦄, D us a → Begins Q vs → Runs item (us ++ vs) a vs)
    (hmore : ∀ ⦃k⦄, more k → Q k) (hD : Many D us as)
    (hv : Begins (fun k => Q k ∧ more k = false) vs) :
    Runs (many more item) (us ++ vs) as vs := by
  induction hD with
  | nil =>
    obtain ⟨t, rest, rfl, ht⟩ := hv
    exact runs_many_nil ⟨t, rest, rfl, ht.2⟩
  | @cons us ws a as ha has ih =>
    obtain ⟨t, us', rfl, ht⟩ := hfirst ha
    -- an item may look at the token behind it, which begins the next item or what follows them
    have hnext : Begins Q (ws ++ vs) := by
      cases has with
      | nil =>
        obtain ⟨v, rest, rfl, hq⟩ := hv
        exact ⟨v, rest, rfl, hq.1⟩
      | cons hb _ =>
        obtain ⟨u, rest, rfl, hu⟩ := hfirst hb
        exact ⟨u, _, rfl, hmore hu⟩
    rw [List.append_assoc]
    refine runs_many_cons ⟨t, us' ++ (ws ++ vs), rfl, ht⟩ (hitem ha hnext) ?_ ih
    simp only [List.length_append, List.length_cons]
    omega

end Parser

end HttpSuite
