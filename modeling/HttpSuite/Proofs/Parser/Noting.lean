import HttpSuite.Proofs.Parser.Completion
import HttpSuite.Proofs.Parser.Items

/-!
# The warnings that a parser raises

Which items of request blocks there are among the tokens of a text is said without a parser
(`Grammar.BetweenItems`), also for texts that are no test description further on. A run of the
parser raises the warnings on these items, on each when the item is complete and the token behind it
was fetched; it does so whether it succeeds or fails in the end.

One direction goes along the run: `Parser.Steps` carries what was taken so far, and the warnings
with it, from production to production. The other direction goes along the tokens: `Parser.Leads`
says that a parser comes to another one behind certain tokens, and what that one raises stays.

* `Grammar.Due`: a warning is due on an item among some tokens.
* `Parser.suite_logs`: what a run raises is due, in the order of the tokens.
* `Parser.suite_raises`: what is due on an item that tokens follow is raised.
-/

namespace HttpSuite

open Token (Kind)

namespace Grammar

/-- The tokens before a test: those of the configuration, the variables and other tests. -/
inductive BetweenTests : List Token → Prop
  | intro {cs vs ts : List Token} {config : Option Config} {vars : List Variable}
      {tests : List Test} (hc : ConfigOption cs config) (hv : Many VariableDecl vs vars)
      (ht : Many TestDecl ts tests) : BetweenTests (cs ++ vs ++ ts)

/-- The tokens before a statement: those before its test, and in the test the statements before
it. -/
inductive BetweenStatements : List Token → Prop
  | intro {before ts : List Token} {kw name left : Token} {statements : List Statement}
      (hb : BetweenTests before)
      (h : kinds [kw, name, left] = [.test, .ident, .leftBrace])
      (hs : Many StatementDecl ts statements) :
      BetweenStatements (before ++ kw :: name :: left :: ts)

/-- **A place for an item** in the block of a request with the method `m`: the tokens before it and
those behind it. The items before it are complete. -/
inductive BetweenItems (m : Method) : List Token → List Token → Prop
  | first {before after : List Token} {kw path left : Token} (hb : BetweenStatements before)
      (h : kinds [kw, path, left] = [.method m, .str, .leftBrace]) :
      BetweenItems m (before ++ [kw, path, left]) after
  | next {before item after : List Token} (hb : BetweenItems m before (item ++ after))
      (hi : ItemBefore item after) : BetweenItems m (before ++ item) after

/-- **A warning is due** on the item between `before` and `after` among the tokens `ts`. -/
def Due (ts before after : List Token) (w : Warning) : Prop :=
  ∃ m item, ts = before ++ (item ++ after) ∧ BetweenItems m before (item ++ after) ∧
    ItemBefore item after ∧ warningOn m item = some w

/-- One more item at the end. -/
theorem Many.concat {α : Type} {D : List Token → α → Prop} {ts us : List Token} {as : List α}
    {a : α} (h : Many D ts as) (ha : D us a) : Many D (ts ++ us) (as ++ [a]) := by
  have hone : Many D us [a] := by simpa using Many.cons ha .nil
  exact h.append hone

theorem BetweenTests.test {before ts : List Token} {t : Test} (hb : BetweenTests before)
    (h : TestDecl ts t) : BetweenTests (before ++ ts) := by
  obtain ⟨hc, hv, ht⟩ := hb
  rw [List.append_assoc]
  exact .intro hc hv (ht.concat h)

theorem BetweenStatements.statement {before ts : List Token} {st : Statement}
    (hb : BetweenStatements before) (h : StatementDecl ts st) :
    BetweenStatements (before ++ ts) := by
  obtain ⟨hb, hk, hs⟩ := hb
  rw [List.append_assoc]
  exact .intro hb hk (hs.concat h)

end Grammar

open Grammar

namespace Parser

variable {σ α β : Type} [TokenSource σ]

/-! ### Along the run -/

/-- **The warnings `ws` of a run**, the last one first, after the tokens `us` and before `vs`: they
are due on items that end before `vs`, and they stand in the order of the tokens that they are
on. -/
structure Logged (us vs : List Token) (ws : List Warning) : Prop where
  inOrder : (ws.reverse.map Warning.pos).Sublist (us.map Token.pos)
  due : ∀ w ∈ ws, ∃ before after, vs <:+ after ∧ Due (us ++ vs) before after w

/-- Taking more tokens does no harm. -/
theorem Logged.take {us vs u : List Token} {ws : List Warning} (h : Logged us (u ++ vs) ws) :
    Logged (us ++ u) vs ws where
  inOrder := by
    rw [List.map_append]
    exact h.inOrder.trans (List.sublist_append_left _ _)
  due w hw := by
    obtain ⟨before, after, hafter, hdue⟩ := h.due w hw
    rw [List.append_assoc]
    exact ⟨before, after, (List.suffix_append u vs).trans hafter, hdue⟩

/-- **An item is taken** and its warning is raised. -/
theorem Logged.item {m : Method} {us item vs : List Token} {ws : List Warning}
    (h : Logged us (item ++ vs) ws) (hb : BetweenItems m us (item ++ vs))
    (hi : ItemBefore item vs) : Logged (us ++ item) vs ((warningOn m item).toList ++ ws) := by
  cases hw : warningOn m item with
  | none => exact h.take
  | some w =>
    refine ⟨?_, fun w' hw' => ?_⟩
    · obtain ⟨first, rest, last, rfl, -, hpos, -⟩ := exists_of_warningOn hw
      have hone : [w.pos].Sublist ((first :: rest).map Token.pos) := by simp [hpos]
      simpa using h.inOrder.append hone
    · rcases List.mem_cons.1 hw' with rfl | hw'
      · exact ⟨us, vs, List.suffix_refl vs, m, item, List.append_assoc _ _ _, hb, hi, hw⟩
      · exact h.take.due w' hw'

section Steps

variable {ts : List Token} {e : Option LexError} {C D E : List Token → List Token → Prop}
  {p : Parser σ α} {f : α → Parser σ β} {G : List Token → α → Prop} {P : Kind → Prop}

/-- A run over the tokens `ts` has come to the state `s`, and the tokens before and behind this
place have the property `C`. -/
def Has (ts : List Token) (e : Option LexError) (C : List Token → List Token → Prop)
    (s : State σ) : Prop :=
  ∃ us vs, ts = us ++ vs ∧ s.Sees vs e ∧ Logged us vs s.raised ∧ C us vs

/-- A run over the tokens `ts` has failed in the state `s`. -/
def Broke (ts : List Token) (s : State σ) : Prop :=
  ∃ us rest, ts = us ++ s.current :: rest ∧ Logged us (s.current :: rest) s.raised

/-- **A parser that raises what is due** from every place with the property `C` on, and comes to a
place with the property `D`. -/
def Steps (ts : List Token) (e : Option LexError) (C : List Token → List Token → Prop)
    (p : Parser σ α) (D : List Token → List Token → Prop) : Prop :=
  ∀ ⦃s : State σ⦄, Has ts e C s → Outcome.Meets (Has ts e D) (fun _ => Broke ts) (p s)

/-- Any place. -/
def Anywhere (_ _ : List Token) : Prop := True

/-- A place behind tokens that `G` relates to some value, at a place with the property `C`. -/
def Behind (C : List Token → List Token → Prop) (G : List Token → α → Prop)
    (us vs : List Token) : Prop :=
  ∃ front u a, us = front ++ u ∧ C front (u ++ vs) ∧ G u a

/-- A place with the property `C`, before a token with the property `P`. -/
def AtKind (C : List Token → List Token → Prop) (P : Kind → Prop) (us vs : List Token) : Prop :=
  C us vs ∧ Begins P vs

/-- A place with a property has every weaker one. -/
theorem Has.mono {s : State σ} (h : Has ts e C s) (hCD : ∀ us vs, C us vs → D us vs) :
    Has ts e D s := by
  obtain ⟨us, vs, hts, hs, hlog, hC⟩ := h
  exact ⟨us, vs, hts, hs, hlog, hCD us vs hC⟩

/-- The place of a run is before a token of the kind that it looks at. -/
theorem Has.atKind {s : State σ} (h : Has ts e C s) (hP : P s.current.kind) :
    Has ts e (AtKind C P) s := by
  obtain ⟨us, vs, hts, ⟨rest, rfl, hsup⟩, hlog, hC⟩ := h
  exact ⟨us, _, hts, ⟨rest, rfl, hsup⟩, hlog, hC, _, rest, rfl, hP⟩

namespace Steps

/-- What is known of the place that a parser comes to may be weakened. -/
theorem mono (h : Steps ts e C p D) (hDE : ∀ us vs, D us vs → E us vs) : Steps ts e C p E := by
  intro s hs
  have hmeets := h hs
  cases hp : p s with
  | ok a s' =>
    rw [hp] at hmeets
    exact hmeets.mono hDE
  | error err s' =>
    rw [hp] at hmeets
    exact hmeets

theorem anywhere (h : Steps ts e C p D) : Steps ts e C p Anywhere := h.mono fun _ _ _ => trivial

/-- What is asked of the place that a parser starts from may be strengthened. -/
theorem pre (h : Steps ts e D p E) (hCD : ∀ us vs, C us vs → D us vs) : Steps ts e C p E :=
  fun _ hs => h (hs.mono hCD)

/-- **Sequences.** The second part starts where the first one has come to. -/
theorem bind (hp : Steps ts e C p D) (hf : ∀ a, Steps ts e D (f a) E) :
    Steps ts e C (p >>= f) E := by
  intro s hs
  have hmeets := hp hs
  cases h : p s with
  | error err s' =>
    rw [h] at hmeets
    rw [bind_of_error h]
    exact hmeets
  | ok a s' =>
    rw [h] at hmeets
    rw [bind_of_ok h]
    exact hf a hmeets

theorem pure (a : α) : Steps ts e C (Pure.pure a : Parser σ α) C := fun _ hs => hs

/-- What follows a look at the current token may rely on its kind. -/
theorem kind_bind {f : Kind → Parser σ α} (h : ∀ k, Steps ts e (AtKind C (· = k)) (f k) D) :
    Steps ts e C (kind >>= f) D :=
  fun s hs => h s.current.kind (hs.atKind rfl)

/-- **Loops.** -/
theorem many {more : Kind → Bool} (hp : Steps ts e (AtKind C (more ·)) p C) :
    Steps ts e C (many more p) C := by
  intro s hs
  -- the place between two items is the invariant of the loop
  fun_induction Parser.many more p s with
  | case1 s hm err s₁ hi =>
    have hmeets := hp (hs.atKind hm)
    rw [hi] at hmeets
    exact hmeets
  | case2 s hm a s₁ hi hlt as s₂ hrec ih =>
    have hmeets := hp (hs.atKind hm)
    rw [hi] at hmeets
    have hrest := ih hmeets
    rw [hrec] at hrest
    exact hrest
  | case3 s hm a s₁ hi hlt err s₂ hrec ih =>
    have hmeets := hp (hs.atKind hm)
    rw [hi] at hmeets
    have hrest := ih hmeets
    rw [hrec] at hrest
    exact hrest
  | case4 s hm a s₁ hi hlt =>
    have hmeets := hp (hs.atKind hm)
    rw [hi] at hmeets
    exact hmeets
  | case5 s hm => exact hs

/-- A sound parser comes to a place behind what it took. -/
theorem sound (h : Steps ts e (AtKind C P) p D) (hp : SoundFrom P p G) :
    Steps ts e (AtKind C P) p (Behind C G) := by
  intro s hs
  have hmeets := h hs
  cases hok : p s with
  | error err s' =>
    rw [hok] at hmeets
    exact hmeets
  | ok a s' =>
    rw [hok] at hmeets
    obtain ⟨us, vs, rfl, hsees, hlog, hC, t, rest, rfl, hP⟩ := hs
    obtain ⟨us', vs', hts, hs', hlog', -⟩ := hmeets
    obtain ⟨u, ws, hvs, hG, hs''⟩ := hp hsees (by rw [hsees.current_eq]; exact hP) hok
    -- both speak of the tokens that are left
    obtain ⟨rfl, -⟩ := hs'.unique hs''
    rw [hvs] at hC hts ⊢
    rw [← List.append_assoc] at hts
    obtain rfl := List.append_cancel_right hts
    exact ⟨us ++ u, vs', (List.append_assoc us u vs').symm, hs', hlog', us, u, a, rfl, hC, hG⟩

end Steps

/-- A run stops at a token, with the tokens before it behind it. -/
theorem exists_stop {x : ParseError} {s : State σ} (h : StopsAt ts e x s) :
    ∃ us rest, ts = us ++ s.current :: rest := by
  match x, h with
  | .unexpected _ t, ⟨us, vs, hts, hc, _⟩ => exact ⟨us, vs, by rw [hts, hc]⟩
  | .statusOutOfRange n, ⟨us, vs, hts, rest, hvs, _⟩ =>
    exact ⟨us ++ [n], rest, by simp [hts, hvs]⟩
  | .lexical l, ⟨⟨us, hts⟩, _⟩ => exact ⟨us, [], hts⟩

/-- A silent parser raises nothing, so that nothing is out of place. -/
theorem Silent.steps (hp : Silent p) : Steps ts e C p Anywhere := by
  rintro s ⟨us, vs, rfl, hs, hlog, -⟩
  have hraised := hp.meets s
  have hplace := hp (position vs e) ⟨[], vs, rfl, hs⟩
  cases h : p s with
  | ok a s' =>
    rw [h] at hraised hplace
    obtain ⟨u, vs', rfl, hs'⟩ := hplace
    refine ⟨us ++ u, vs', (List.append_assoc us u vs').symm, hs', ?_, trivial⟩
    rw [show s'.raised = s.raised from hraised]
    exact hlog.take
  | error err s' =>
    rw [h] at hraised hplace
    obtain ⟨u, rest, rfl⟩ := exists_stop hplace
    refine ⟨us ++ u, rest, (List.append_assoc us u _).symm, ?_⟩
    rw [show s'.raised = s.raised from hraised]
    exact hlog.take

/-- A silent and sound parser, whatever the current token is. -/
theorem Silent.behind (hp : Silent p) (hG : Sound p G) : Steps ts e C p (Behind C G) := by
  intro s hs
  have hsteps : Steps ts e (AtKind C fun _ => True) p (Behind C G) := hp.steps.sound hG
  exact hsteps (hs.atKind trivial)

end Steps

/-! ### Productions -/

section Productions

variable {ts : List Token} {e : Option LexError} {C : List Token → List Token → Prop}

/-- Taking a token whose kind is known takes that token alone. -/
theorem sound_advance {k : Kind} (hk : k ≠ .eof) :
    SoundFrom (· = k) (advance : Parser σ Token) (fun us t => us = [t] ∧ t.kind = k) := by
  rintro s s' ts e t hs rfl h
  obtain ⟨rfl, vs, rfl, hs'⟩ := advance_sound hs hk h
  exact ⟨[s.current], vs, rfl, ⟨rfl, rfl⟩, hs'⟩

/-- One more token of a kind. -/
theorem steps_expect {k : Kind} (hk : k ≠ .eof) :
    Steps ts e C (expect k : Parser σ Token)
      (fun us vs => ∃ front t, us = front ++ [t] ∧ C front (t :: vs) ∧ t.kind = k) := by
  refine (silent_expect.behind (expect_sound_one hk)).mono ?_
  rintro us vs ⟨front, u, t, rfl, hC, rfl, ht⟩
  exact ⟨front, t, rfl, hC, ht⟩

/-- A place behind one more token of a known kind. -/
theorem steps_advance {k : Kind} (hk : k ≠ .eof) :
    Steps ts e (AtKind C (· = k)) (advance : Parser σ Token)
      (fun us vs => ∃ front t, us = front ++ [t] ∧ C front (t :: vs) ∧ t.kind = k) := by
  refine (silent_advance.steps.sound (sound_advance hk)).mono ?_
  rintro us vs ⟨front, u, t, rfl, hC, rfl, ht⟩
  exact ⟨front, t, rfl, hC, ht⟩

/-- **An item of a block.** -/
theorem steps_blockItem (m : Method) :
    Steps ts e (AtKind (BetweenItems m) (blockMore ·)) (blockItem m : Parser σ Request.Item)
      (BetweenItems m) := by
  rintro s ⟨us, vs, rfl, hs, hlog, hb, t, rest, rfl, ht⟩
  cases h : blockItem m s with
  | ok item s' =>
    have hr : s.current.kind ≠ .rightBrace := by
      rw [hs.current_eq]
      simp only [decide_eq_true_eq] at ht
      exact ht.1
    obtain ⟨u, ws, hvs, hs', hi, hraised⟩ := blockItem_divides hs hr h
    rw [hvs] at hlog hb ⊢
    refine ⟨us ++ u, ws, (List.append_assoc us u ws).symm, hs', ?_, .next hb hi⟩
    rw [hraised]
    exact hlog.item hb hi
  | error err s' =>
    -- an item that fails raises nothing, so what is due before it is all that was raised
    have hraised := blockItem_silent_of_error m s
    have hplace := (position (t :: rest) e).keeps_blockItem (fun _ _ _ _ _ h => h) m
      ⟨[], _, rfl, hs⟩
    rw [h] at hraised hplace
    obtain ⟨u, ws, hvs⟩ := exists_stop hplace
    rw [hvs] at hlog ⊢
    refine ⟨us ++ u, ws, (List.append_assoc us u _).symm, ?_⟩
    rw [show s'.raised = s.raised from hraised]
    exact hlog.take

/-- A place behind the method and the path of a request. -/
def BehindPath (m : Method) (us _vs : List Token) : Prop :=
  ∃ before kw path, us = before ++ [kw, path] ∧ BetweenStatements before ∧
    kinds [kw, path] = [.method m, .str]

/-- From behind the path of a request, a block raises what is due on its items. -/
theorem steps_block (m : Method) :
    Steps ts e (BehindPath m) (block m : Parser σ (List Request.Item)) Anywhere := by
  refine Steps.kind_bind fun k => ?_
  split
  · rename_i hk
    subst hk
    refine ((steps_advance (by decide)).mono ?_).bind fun _ =>
      (Steps.many (steps_blockItem m)).bind fun _ => silent_expect.steps.bind fun _ => .pure _
    rintro us vs ⟨front, left, rfl, ⟨before, kw, path, rfl, hb, hk⟩, hl⟩
    rw [List.append_assoc]
    exact .first hb (by simpa [hl] using hk)
  · exact (Steps.pure _).anywhere

/-- A request comes to the place behind its path before it reads its block. -/
theorem steps_request :
    Steps ts e (fun us _ => BetweenStatements us) (request : Parser σ Request) Anywhere := by
  refine Steps.kind_bind fun k => ?_
  split
  · have hsilent : Silent (unexpected .method : Parser σ Request) :=
      fun _ => Invariant.keeps_unexpected
    exact hsilent.steps
  · rename_i m hm
    obtain rfl := Token.Kind.method?_eq_some hm
    refine (steps_advance (by simp)).bind fun kw => ?_
    refine ((steps_expect (by decide)).mono (?_ : ∀ us vs, _ → BehindPath m us vs)).bind
      fun path => ?_
    · rintro us vs ⟨_, path, rfl, ⟨before, kw, rfl, hb, hkw⟩, hpath⟩
      exact ⟨before, kw, path, by simp, hb, by simp [hkw, hpath]⟩
    refine (steps_block m).bind fun items => Steps.kind_bind fun k => ?_
    -- behind its block a request takes a `;` at most, on which nothing is due
    have hrest : Silent (if k = .semicolon then do
        let _ ← advance
        Pure.pure (items.foldl Request.add { method := m, path := path.text, span := kw.span })
      else Pure.pure (items.foldl Request.add { method := m, path := path.text, span := kw.span }) :
        Parser σ Request) := by
      intro I
      split
      · exact Invariant.keeps_advance.bind fun _ => .pure _
      · exact .pure _
    exact hrest.steps

/-- A statement raises what is due on the items of its request. -/
theorem steps_statement :
    Steps ts e (fun us _ => BetweenStatements us) (statement : Parser σ Statement) Anywhere := by
  have hchecks : Silent (Parser.many (· = .expect) assertion : Parser σ (List Assertion)) :=
    fun _ => Invariant.keeps_many Invariant.keeps_assertion
  exact steps_request.bind fun _ => hchecks.steps.bind fun _ => .pure _

theorem steps_test :
    Steps ts e (fun us _ => BetweenTests us) (test : Parser σ Test) Anywhere := by
  have hclose : Silent (close .rightBrace .statement : Parser σ Token) :=
    fun _ => Invariant.keeps_close
  refine (steps_expect (by decide)).bind fun _ => (steps_expect (by decide)).bind fun _ =>
    ((steps_expect (by decide)).mono (?_ : ∀ us _, _ → BetweenStatements us)).bind fun _ =>
      (Steps.many ?_).bind fun _ => hclose.steps.bind fun _ => .pure _
  · rintro us vs ⟨_, left, rfl, ⟨_, name, rfl, ⟨before, kw, rfl, hb, hkw⟩, hname⟩, hleft⟩
    have hk : kinds [kw, name, left] = [.test, .ident, .leftBrace] := by simp [hkw, hname, hleft]
    simpa using BetweenStatements.intro hb hk .nil
  · have hitem : Steps ts e (AtKind (fun us _ => BetweenStatements us) fun k => k.method?.isSome)
        (statement : Parser σ Statement) Anywhere := steps_statement.pre fun _ _ h => h.1
    refine (hitem.sound (statement_sound.soundFrom _)).mono ?_
    rintro us vs ⟨before, u, st, rfl, hb, hst⟩
    exact hb.statement hst

/-- From test to test, the parser of test descriptions raises what is due. -/
theorem steps_suite : Steps ts e (fun us _ => us = []) (suite : Parser σ Suite) Anywhere := by
  have hconfig : Silent (config? : Parser σ (Option Config)) := fun _ => Invariant.keeps_config?
  have hvars : Silent (Parser.many (· = .letVar) variableDecl : Parser σ (List Variable)) :=
    fun _ => Invariant.keeps_many Invariant.keeps_variableDecl
  have hclose : ∀ x, Silent (close .eof x : Parser σ Token) := fun _ _ => Invariant.keeps_close
  refine (hconfig.behind config?_sound).bind fun _ =>
    ((hvars.behind (many_sound (variableDecl_sound.soundFrom _))).mono
      (?_ : ∀ us _, _ → BetweenTests us)).bind fun _ =>
        (Steps.many ?_).bind fun tests => (hclose _).steps.bind fun _ => .pure _
  · rintro us vs ⟨_, u, vars, rfl, ⟨_, cs, c, rfl, rfl, hc⟩, hv⟩
    simpa using BetweenTests.intro hc hv .nil
  · have hitem : Steps ts e (AtKind (fun us _ => BetweenTests us) fun k => decide (k = .test))
        (test : Parser σ Test) Anywhere := steps_test.pre fun _ _ h => h.1
    refine (hitem.sound (test_sound.soundFrom _)).mono ?_
    rintro us vs ⟨before, u, t, rfl, hb, ht⟩
    exact hb.test ht

/-- **What a run raises is due**, in the order of the tokens. -/
theorem suite_logs {s : State σ} (hs : s.Sees ts e) (hr : s.raised = []) :
    Outcome.Meets (Has ts e Anywhere) (fun _ => Broke ts) (suite s) := by
  refine steps_suite ⟨[], ts, rfl, hs, ?_, rfl⟩
  rw [hr]
  exact ⟨List.nil_sublist _, by simp⟩

end Productions

/-! ### Along the tokens -/

section Leads

variable {w : Warning} {s s' : State σ} {ts us vs ws : List Token} {e : Option LexError}
  {p : Parser σ α} {f : α → Parser σ β} {γ δ : Type} {q : Parser σ γ} {r : Parser σ δ}
  {a : α} {t : Token}

/-- A run that has raised `w` when it ends, in whichever way. -/
def Outcome.Raises (w : Warning) (o : Outcome σ α) : Prop :=
  Outcome.Meets (w ∈ ·.raised) (fun _ s => w ∈ s.raised) o

/-- A warning that was raised stays. -/
def Retains (w : Warning) (p : Parser σ α) : Prop := (raisedOnly (w ∈ ·) : Invariant σ).Keeps p

theorem allowsWarnings_mem (w : Warning) :
    (raisedOnly (w ∈ ·) : Invariant σ).AllowsWarnings :=
  fun _ _ w' _ _ h => List.mem_cons_of_mem w' h

/-- **The parser `p` leads to `q`** on the tokens `ts`: it comes to a place before `vs`, where it
runs `q`, and what `q` raises stays until the end. -/
def Leads (w : Warning) (p : Parser σ α) (q : Parser σ γ) (ts vs : List Token) : Prop :=
  ∀ ⦃s : State σ⦄ ⦃e : Option LexError⦄, s.Sees ts e →
    ∃ s', s'.Sees vs e ∧ (Outcome.Raises w (q s') → Outcome.Raises w (p s))

/-- What leads to a parser that leads to another one leads to that one. -/
theorem Leads.trans (h : Leads w p q ts us) (h' : Leads w q r us vs) : Leads w p r ts vs := by
  intro s e hs
  obtain ⟨s₁, hs₁, h₁⟩ := h hs
  obtain ⟨s₂, hs₂, h₂⟩ := h' hs₁
  exact ⟨s₂, hs₂, fun hr => h₁ (h₂ hr)⟩

/-- A parser that returns leads to what follows it. -/
theorem Runs.leads (h : Runs p ts a vs) : Leads w (p >>= f) (f a) ts vs := by
  intro s e hs
  obtain ⟨s', hok, hs', -⟩ := h hs
  exact ⟨s', hs', fun hr => by rw [bind_of_ok hok]; exact hr⟩

/-- A sequence leads to its first part. -/
theorem leads_bind (hf : ∀ a, Retains w (f a)) : Leads w (p >>= f) p ts ts := by
  intro s e hs
  refine ⟨s, hs, fun hr => ?_⟩
  cases h : p s with
  | error err s' =>
    rw [h] at hr
    rw [bind_of_error h]
    exact hr
  | ok a s' =>
    rw [h] at hr
    rw [bind_of_ok h]
    exact hf a hr

theorem leads_kind {f : Kind → Parser σ α} :
    Leads w (kind >>= f) (f t.kind) (t :: ts) (t :: ts) := by
  intro s e hs
  refine ⟨s, hs, fun hr => ?_⟩
  rw [kind_bind, hs.current_eq]
  exact hr

/-- A loop leads to the item that it is at. -/
theorem leads_item {more : Kind → Bool} (hp : Retains w p) (hb : Begins (more ·) ts) :
    Leads w (many more p) p ts ts := by
  obtain ⟨t, rest, rfl, ht⟩ := hb
  intro s e hs
  refine ⟨s, hs, fun hr => ?_⟩
  rw [many, hs.current_eq, if_pos ht]
  cases h : p s with
  | error err s' =>
    rw [h] at hr
    exact hr
  | ok a s' =>
    rw [h] at hr
    have hrest : Outcome.Raises w (many more p s') := Invariant.keeps_many hp hr
    dsimp only
    split
    · cases hm : many more p s' <;> rw [hm] at hrest <;> exact hrest
    · exact hr

/-- A loop that has read an item goes on behind it. -/
theorem leads_next {more : Kind → Bool} (hb : Begins (more ·) ts) (hp : Runs p ts a vs)
    (hlt : vs.length < ts.length) : Leads w (many more p) (many more p) ts vs := by
  obtain ⟨t, rest, rfl, ht⟩ := hb
  intro s e hs
  obtain ⟨s', hok, hs', hle⟩ := hp hs
  refine ⟨s', hs', fun hr => ?_⟩
  have hrem : s'.remaining < s.remaining := by omega
  rw [many, hs.current_eq, if_pos ht, hok]
  dsimp only
  rw [if_pos hrem]
  cases hm : many more p s' <;> rw [hm] at hr <;> exact hr

/-- Items and what follows them begin as an item does, or as what follows. -/
theorem begins_many {D : List Token → α → Prop} {P : Kind → Prop} {as : List α}
    (hfirst : ∀ ⦃us a⦄, D us a → Begins P us) (hD : Many D us as) (hv : Begins P vs) :
    Begins P (us ++ vs) := by
  cases hD with
  | nil => exact hv
  | cons h _ => exact begins_append (begins_append (hfirst h))

/-- Tokens that begin with something are at least one token. -/
theorem length_lt_of_begins {P : Kind → Prop} (h : Begins P us) :
    vs.length < (us ++ vs).length := by
  obtain ⟨t, rest, rfl, -⟩ := h
  simp only [List.cons_append, List.length_cons, List.length_append]
  omega

/-- **A loop goes on behind its items.** -/
theorem leads_many {more : Kind → Bool} {D : List Token → α → Prop} {as : List α}
    (hfirst : ∀ ⦃us a⦄, D us a → Begins (more ·) us)
    (hitem : ∀ ⦃us a vs⦄, D us a → Begins (more ·) vs → Runs p (us ++ vs) a vs)
    (hD : Many D us as) (hv : Begins (more ·) vs) :
    Leads w (many more p) (many more p) (us ++ vs) vs := by
  induction hD with
  | nil => exact fun s e hs => ⟨s, hs, id⟩
  | @cons us ws a as ha has ih =>
    rw [List.append_assoc]
    have hb := hfirst ha
    exact (leads_next (begins_append hb) (hitem ha (begins_many hfirst has hv))
      (length_lt_of_begins hb)).trans ih

/-! ### From the start of the text to an item -/

variable {m : Method}

/-- From behind other tests the parser comes to a test. -/
theorem leads_test (hb : BetweenTests us) (hv : Begins (fun k => decide (k = .test)) vs) :
    Leads w (suite : Parser σ Suite) test (us ++ vs) vs := by
  obtain @⟨cs, xs, ts, config, vars, tests, hc, hx, ht⟩ := hb
  have hkeeps : Retains w (test : Parser σ Test) :=
    Invariant.keeps_test (Invariant.keeps_blockItem (allowsWarnings_mem w))
  -- what follows the configuration begins a variable or a test, so the parser does not stop before
  -- it
  have hts : Begins (fun k => decide (k = .test)) (ts ++ vs) :=
    begins_many (fun _ _ => testDecl_begins) ht hv
  have hxs : Begins (· ≠ .config) (xs ++ (ts ++ vs)) := by
    refine begins_many (fun _ _ h => begins_mono (variableDecl_begins h) ?_) hx
      (begins_mono hts ?_)
    · rintro _ rfl; decide
    · intro k hk; rw [of_decide_eq_true hk]; decide
  rw [List.append_assoc, List.append_assoc]
  refine (runs_config? hc hxs).leads.trans (Runs.leads (runs_many (Q := fun _ => True)
    (fun _ _ h => begins_mono (variableDecl_begins h) (by simp))
    (fun _ _ _ hD hb => runs_variableDecl hD (ne_nil_of_begins hb)) (fun _ _ => trivial) hx
    (begins_mono hts ?_)) |>.trans ?_)
  · intro k hk
    rw [of_decide_eq_true hk]
    exact ⟨trivial, by decide⟩
  refine (leads_bind fun _ => ?_).trans ((leads_many (fun _ _ => testDecl_begins)
    (fun _ _ _ hD hb => runs_test hD (ne_nil_of_begins hb)) ht hv).trans (leads_item hkeeps hv))
  exact Invariant.keeps_close.bind fun _ => .pure _

/-- From the opening of a test the parser comes to a statement in it. -/
theorem leads_statement {kw name left : Token} {statements : List Statement}
    (h : kinds [kw, name, left] = [.test, .ident, .leftBrace])
    (hs : Many StatementDecl us statements) (hv : Begins (fun k => k.method?.isSome) vs) :
    Leads w (test : Parser σ Test) statement (kw :: name :: left :: (us ++ vs)) vs := by
  simp only [kinds_cons_eq_cons, kinds_nil, and_true] at h
  obtain ⟨h₁, h₂, h₃⟩ := h
  have hkeeps : Retains w (statement : Parser σ Statement) :=
    Invariant.keeps_statement (Invariant.keeps_blockItem (allowsWarnings_mem w))
  have hne : us ++ vs ≠ [] := by simp [ne_nil_of_begins hv]
  refine (runs_expect h₁ (by decide) (by simp)).leads.trans ?_
  refine (runs_expect h₂ (by decide) (by simp)).leads.trans ?_
  refine (runs_expect h₃ (by decide) hne).leads.trans ?_
  refine (leads_bind fun _ => ?_).trans ((leads_many (fun _ _ => statementDecl_begins)
    (fun _ _ _ hD hb => runs_statement hD (begins_mono hb fun _ => afterStatement_of_method))
    hs hv).trans (leads_item hkeeps hv))
  exact Invariant.keeps_close.bind fun _ => .pure _

/-- From the opening of a block the parser comes to its items. -/
theorem leads_items {kw path left : Token}
    (h : kinds [kw, path, left] = [.method m, .str, .leftBrace]) (hv : vs ≠ []) :
    Leads w (statement : Parser σ Statement) (many blockMore (blockItem m))
      (kw :: path :: left :: vs) vs := by
  simp only [kinds_cons_eq_cons, kinds_nil, and_true] at h
  obtain ⟨h₁, h₂, h₃⟩ := h
  refine (leads_bind fun _ => ?_).trans ?_
  · exact (Invariant.keeps_many Invariant.keeps_assertion).bind fun _ => .pure _
  refine leads_kind.trans ?_
  rw [h₁]
  refine (runs_advance (by rw [h₁]; simp) (by simp)).leads.trans ?_
  refine (runs_expect h₂ (by decide) (by simp)).leads.trans ((leads_bind fun _ => ?_).trans ?_)
  · refine Invariant.keeps_kind.bind fun k => ?_
    dsimp only
    split
    · exact Invariant.keeps_advance.bind fun _ => .pure _
    · exact .pure _
  refine leads_kind.trans ?_
  rw [h₃, if_pos rfl]
  refine (runs_advance (by rw [h₃]; decide) hv).leads.trans (leads_bind fun _ => ?_)
  exact Invariant.keeps_expect.bind fun _ => .pure _

/-- **The parser comes to every place for an item.** -/
theorem leads_betweenItems (hb : BetweenItems m us vs) (hv : vs ≠ []) :
    Leads w (suite : Parser σ Suite) (many blockMore (blockItem m)) (us ++ vs) vs := by
  induction hb with
  | @first before after kw path left hb h =>
    obtain @⟨front, ts, kw', name, left', statements, hb, h', hs⟩ := hb
    have hk := h
    simp only [kinds_cons_eq_cons, kinds_nil, and_true] at hk h'
    have hmethod : Begins (fun k => k.method?.isSome) (kw :: path :: left :: after) :=
      ⟨kw, _, rfl, by rw [hk.1]; rfl⟩
    simp only [List.append_assoc, List.cons_append, List.nil_append]
    refine (leads_test hb ⟨kw', _, rfl, by rw [h'.1]; decide⟩).trans ?_
    exact (leads_statement (by simp [h']) hs hmethod).trans (leads_items h hv)
  | @next before item after hb hi ih =>
    obtain ⟨_, hruns⟩ := runs_item (σ := σ) m hi hv
    rw [List.append_assoc]
    exact (ih (by simp [hv])).trans
      (leads_next (begins_append hi.begins) hruns (length_lt_of_begins hi.begins))

/-- **What is due on an item is raised** if the token behind the item is there. -/
theorem suite_raises (hs : s.Sees ts e) (h : Due ts us vs w) (hv : vs ≠ []) :
    Outcome.Raises w (suite s) := by
  obtain ⟨m, item, rfl, hb, hi, hw⟩ := h
  have hkeeps : Retains w (blockItem m : Parser σ Request.Item) :=
    Invariant.keeps_blockItem (allowsWarnings_mem w) m
  have hleads := (leads_betweenItems (σ := σ) (w := w) hb (by simp [hv])).trans
    (leads_item hkeeps (begins_append hi.begins))
  obtain ⟨s₁, hs₁, himp⟩ := hleads hs
  apply himp
  obtain ⟨it, s₂, hok, -, hraised⟩ := blockItem_of_item hi hv hs₁
  rw [hok]
  have hmem : w ∈ s₂.raised := by simp [hraised, hw]
  exact hmem

end Leads

end Parser

end HttpSuite
