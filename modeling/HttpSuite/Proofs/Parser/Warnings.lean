import HttpSuite.Proofs.Parser.Exactness
import HttpSuite.Proofs.Parser.Invariant
import HttpSuite.Proofs.Token.Division

/-!
# The warnings of a run

A parser raises warnings of its own, and the lexer below it records others while it is asked for
tokens. Most productions raise none (`Quiet`); for the others a run is stated together with the
causes of its warnings (`Emits`). What the lexer records does not depend on the parser: all that
matters is that the source which a run leaves is reached from the one that it began with.

* `Parser.Reaches`: a source is reached from another one by taking tokens.
* `Parser.Emits`: a run with the causes of the warnings that it raises.
* `Parser.emits_many`: a loop emits what its items emit, one after another.
* `Suite.parse_of_emits`: the warnings of a parse whose text has no stray characters.
-/

namespace HttpSuite

open Token (Kind)
open Grammar

namespace Parser

variable {σ α β : Type} [TokenSource σ]

/-- The source `src'` is what is left of `src` after some tokens were taken. -/
inductive Reaches : σ → σ → Prop
  | refl {src : σ} : Reaches src src
  | step {src src' src'' : σ} {t : Token} (hn : TokenSource.next src = (some (.ok t), src'))
      (h : Reaches src' src'') : Reaches src src''

/-- What is reached from a source that is reached, is reached. -/
theorem Reaches.trans {src src' src'' : σ} (h : Reaches src src') (h' : Reaches src' src'') :
    Reaches src src'' := by
  induction h with
  | refl => exact h'
  | step hn _ ih => exact .step hn (ih h')

/-- What the warnings that a parser raised are about. -/
def State.causes (s : State σ) : List Warning.Cause := s.warnings.map Warning.cause

/-! ### Parsers that raise no warning -/

/-- **A parser that raises no warning** when it succeeds. -/
def Quiet (p : Parser σ α) : Prop :=
  ∀ ⦃s s' : State σ⦄ ⦃a : α⦄, p s = .ok a s' →
    s'.raised = s.raised ∧ Reaches s.source s'.source

variable {p : Parser σ α} {f : α → Parser σ β} {k : Kind} {x : Expected}

/-- The warnings are those at the start, and the source is reached from there. -/
def reaching (src : σ) (ws : List Warning) : Invariant σ where
  holds s := s.raised = ws ∧ Reaches src s.source
  fails _ _ := True
  advance := by
    rintro s ⟨hr, hs⟩
    unfold Parser.advance
    split
    · exact ⟨hr, hs⟩
    · split
      · rename_i hn
        exact ⟨hr, hs.trans (.step hn .refl)⟩
      · trivial
      · trivial
  unexpected _ _ _ := trivial
  status _ _ _ _ _ _ := trivial

/-- A silent parser raises no warning, and reaches the source that it leaves. -/
theorem Silent.quiet (hp : Silent p) : Quiet p := by
  intro s s' a h
  have hmeets := hp (reaching s.source s.raised) ⟨rfl, .refl⟩
  rw [h] at hmeets
  exact hmeets

theorem Quiet.pure (a : α) : Quiet (Pure.pure a : Parser σ α) := Silent.quiet fun _ => .pure a

theorem quiet_advance : Quiet (advance : Parser σ Token) :=
  Silent.quiet fun _ => Invariant.keeps_advance

theorem quiet_close : Quiet (close k x : Parser σ Token) :=
  Silent.quiet fun _ => Invariant.keeps_close

theorem quiet_expect : Quiet (expect k : Parser σ Token) :=
  Silent.quiet fun _ => Invariant.keeps_expect

theorem quiet_many {more : Kind → Bool} (hp : Quiet p) : Quiet (many more p) := by
  intro s s' as h
  fun_induction many more p s generalizing as s' with
  | case1 s hm err s₁ hi => cases h
  | case2 s hm a s₁ hi hlt as₁ s₂ hrec ih =>
    cases h
    obtain ⟨hr, hs⟩ := hp hi
    obtain ⟨hr', hs'⟩ := ih hrec
    exact ⟨hr'.trans hr, hs.trans hs'⟩
  | case3 s hm a s₁ hi hlt err s₂ hrec ih => cases h
  | case4 s hm a s₁ hi hlt =>
    cases h
    exact hp hi
  | case5 s hm =>
    cases h
    exact ⟨rfl, .refl⟩

theorem quiet_header : Quiet (header : Parser σ Header) :=
  Silent.quiet fun _ => Invariant.keeps_header

theorem quiet_config? : Quiet (config? : Parser σ (Option Config)) :=
  Silent.quiet fun _ => Invariant.keeps_config?

theorem quiet_variableDecl : Quiet (variableDecl : Parser σ Variable) :=
  Silent.quiet fun _ => Invariant.keeps_variableDecl

theorem quiet_assertion : Quiet (assertion : Parser σ Assertion) :=
  Silent.quiet fun _ => Invariant.keeps_assertion

/-! ### Runs with their warnings -/

/-- **A run with its warnings**: a run as in `Runs` that raises warnings for the causes `cs`. -/
def Emits (p : Parser σ α) (ts : List Token) (a : α) (vs : List Token)
    (cs : List Warning.Cause) : Prop :=
  ∀ ⦃s : State σ⦄ ⦃e : Option LexError⦄, s.Sees ts e →
    ∃ s', p s = .ok a s' ∧ s'.Sees vs e ∧ s'.remaining + ts.length ≤ s.remaining + vs.length ∧
      Reaches s.source s'.source ∧ s'.causes = s.causes ++ cs

variable {ts us vs : List Token} {a : α} {b : β} {cs ds : List Warning.Cause} {t : Token}

/-- A quiet parser emits nothing where it runs. -/
theorem Quiet.emits (hq : Quiet p) (h : Runs p ts a vs) : Emits p ts a vs [] := by
  intro s e hs
  obtain ⟨s', hp, hs', hle⟩ := h hs
  obtain ⟨hr, hreach⟩ := hq hp
  exact ⟨s', hp, hs', hle, hreach, by simp [State.causes, State.warnings, hr]⟩

theorem Emits.pure (a : α) (ts : List Token) : Emits (Pure.pure a : Parser σ α) ts a ts [] :=
  (Quiet.pure a).emits (.pure a ts)

/-- A sequence emits what its parts emit, in order. -/
theorem Emits.bind (hp : Emits p ts a us cs) (hf : Emits (f a) us b vs ds) :
    Emits (p >>= f) ts b vs (cs ++ ds) := by
  intro s e hs
  obtain ⟨s₁, h₁, hs₁, hle₁, hreach₁, hc₁⟩ := hp hs
  obtain ⟨s₂, h₂, hs₂, hle₂, hreach₂, hc₂⟩ := hf hs₁
  refine ⟨s₂, bind_eq_ok.2 ⟨a, s₁, h₁, h₂⟩, hs₂, by omega, hreach₁.trans hreach₂, ?_⟩
  rw [hc₂, hc₁, List.append_assoc]

/-- A quiet part at the front of a run. -/
theorem Quiet.emits_bind (hq : Quiet p) (hp : Runs p ts a us) (hf : Emits (f a) us b vs cs) :
    Emits (p >>= f) ts b vs cs :=
  (hq.emits hp).bind hf

/-- A run after which no warning is raised. -/
theorem Emits.bind_nil (hp : Emits p ts a us cs) (hf : Emits (f a) us b vs []) :
    Emits (p >>= f) ts b vs cs := by
  simpa using hp.bind hf

theorem emits_kind_bind {f : Kind → Parser σ α} (h : Emits (f t.kind) (t :: ts) a vs cs) :
    Emits (kind >>= f) (t :: ts) a vs cs := by
  intro s e hs
  rw [kind_bind, hs.current_eq]
  exact h hs

/-- Raising a warning emits its cause. -/
theorem emits_warn (w : Warning) (ts : List Token) :
    Emits (warn w : Parser σ Unit) ts () ts [w.cause] :=
  fun s _ hs => ⟨{ s with raised := w :: s.raised }, rfl, hs.warn, Nat.le_refl _, .refl,
    by simp [State.causes, State.warnings]⟩

/-- An item of a loop: it begins with a token with the property `P`, and is read with the warnings
that `c` names wherever a token with the property `Q` follows. -/
def Item (p : Parser σ α) (P Q : Kind → Prop) (c : α → List Warning.Cause) (us : List Token)
    (a : α) : Prop :=
  Begins P us ∧ ∀ ⦃vs : List Token⦄, Begins Q vs → Emits p (us ++ vs) a vs (c a)

/-- **A loop emits what its items emit**, one after another. -/
theorem emits_many {more : Kind → Bool} {Q : Kind → Prop} {c : α → List Warning.Cause}
    {as : List α} (hD : Many (Item p (more ·) Q c) us as) (hmore : ∀ ⦃k⦄, more k → Q k)
    (hv : Begins (fun k => Q k ∧ more k = false) vs) :
    Emits (many more p) (us ++ vs) as vs (as.flatMap c) := by
  induction hD with
  | nil =>
    obtain ⟨t, rest, rfl, ht⟩ := hv
    intro s e hs
    refine ⟨s, many_of_not_more (by rw [hs.current_eq]; exact ht.2), hs, Nat.le_refl _, .refl, ?_⟩
    rw [List.flatMap_nil, List.append_nil]
  | @cons us ws a as ha has ih =>
    obtain ⟨⟨t, us', rfl, ht⟩, ha⟩ := ha
    have hnext : Begins Q (ws ++ vs) := by
      cases has with
      | nil => exact begins_mono hv fun _ hk => hk.1
      | cons hb _ => exact begins_append (begins_append (begins_mono hb.1 fun _ hk => hmore hk))
    rw [List.append_assoc]
    intro s e hs
    obtain ⟨s₁, h₁, hs₁, hle₁, hreach₁, hc₁⟩ := ha hnext hs
    obtain ⟨s₂, h₂, hs₂, hle₂, hreach₂, hc₂⟩ := ih hs₁
    refine ⟨s₂, ?_, hs₂, by omega, hreach₁.trans hreach₂, ?_⟩
    · unfold many
      rw [hs.current_eq, if_pos ht, h₁]
      -- the item took a token, so the loop goes on
      have hrem : s₁.remaining < s.remaining := by
        simp only [List.cons_append, List.length_cons, List.length_append] at hle₁
        omega
      simp only [hrem, if_true, h₂]
    · rw [hc₂, hc₁, List.append_assoc, List.flatMap_cons]

end Parser

/-! ### The warnings of the lexer -/

namespace Lexer

variable {l l' : Lexer}

/-- Taking tokens does not change what the whole run warns about. -/
theorem run_warnings_of_reaches (h : Parser.Reaches l l') : l'.run.warnings = l.run.warnings := by
  induction h with
  | refl => rfl
  | step hn _ ih => rw [ih, run_of_ok hn]

end Lexer

/-- **The warnings of a parse** are those of its run if the lexer has none. -/
theorem Suite.parse_of_emits {source : String} {suite : Suite} {vs : List Token}
    {cs : List Warning.Cause} (hl : (Lexing.ofString source).warnings = [])
    (hne : (Lexing.ofString source).tokens ≠ [])
    (h : Parser.Emits (Parser.suite : Parser Lexer Suite) (Lexing.ofString source).tokens suite vs
      cs) :
    (Suite.parse source).result = .ok suite ∧
      ((Suite.parse source).warnings.map Warning.cause).Perm cs := by
  rcases Lexer.run_supplies (l := Lexer.ofString source) rfl with
    ⟨t, ts, l, hn, hts, hsup⟩ | ⟨e, l, -, hts, -⟩
  · have hs : Parser.State.Sees { source := l, current := t } (Lexing.ofString source).tokens _ :=
      ⟨ts, hts, hsup⟩
    obtain ⟨s', hp, -, -, hreach, hc⟩ := h hs
    -- what the lexer has recorded is among the warnings of its complete run
    have hsource : s'.source.warnings = [] := by
      obtain ⟨ws, hws⟩ := Lexer.exists_run_warnings s'.source
      rw [Lexer.run_warnings_of_reaches (.step hn hreach)] at hws
      exact (List.append_eq_nil_iff.1 (hws.symm.trans hl)).1
    have hparse : Suite.parse source = ⟨.ok suite, s'.allWarnings⟩ := by
      unfold Suite.parse Parser.start
      rw [show TokenSource.next (Lexer.ofString source) = (some (.ok t), l) from hn]
      simp only [hp]
    refine ⟨by rw [hparse], ?_⟩
    rw [hparse]
    have hperm : s'.allWarnings.Perm s'.warnings := by
      unfold Parser.State.allWarnings
      rw [hsource]
      exact List.mergeSort_perm _ _
    exact (hperm.map _).trans (List.Perm.of_eq hc)
  · exact absurd hts hne

end HttpSuite
