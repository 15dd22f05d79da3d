import HttpSuite.Proofs.Parser.Progress
import HttpSuite.Proofs.Suite.Printing
import HttpSuite.Proofs.Token.Insertion

/-!
# Runs over tokens that are moved

A run takes some tokens and looks at one more. Over the same tokens in other places, with anything
behind them that goes on with the same kind of token, another run does the same: it returns the same
value, places apart, and raises the same warnings, moved with their tokens. Only runs that succeed
are followed here; `Parser.Repeats` says what becomes of errors.

* `Grammar.ItemBefore.move`: items of a request block stay items.
* `Parser.Mirrors`: a run that another one does over moved tokens.
* `Parser.mirrors_statement`, `Parser.mirrors_test`: the productions with items in them.
-/

namespace HttpSuite

open Token (Kind)
open Grammar

/-- Tokens that go on with the same kind of token as others. -/
def SameKind (vs ys : List Token) : Prop := ys.head?.map Token.kind = vs.head?.map Token.kind

/-! ### Derivations -/

namespace Grammar

variable {ρ : Move} {ts us vs ys : List Token} {P : Kind → Prop}

theorem Plain.move (h : Plain ts) : Plain (ts.map (Token.move ρ)) := by
  simpa [Plain, Token.move] using h

/-- What tokens begin with is a matter of kinds, so moving them changes nothing. -/
theorem Begins.move (h : Begins P ts) : Begins P (ts.map (Token.move ρ)) := by
  obtain ⟨t, rest, rfl, ht⟩ := h
  exact ⟨t.move ρ, rest.map (Token.move ρ), rfl, ht⟩

/-- Braces that have their partners still have them. -/
theorem Balanced.move (h : Balanced ts) : Balanced (ts.map (Token.move ρ)) := by
  induction h with
  | nil => exact .nil
  | token hl hr he _ ih => exact .token hl hr he ih
  | group hl _ hr _ ihi ihs =>
    rw [List.map_cons, List.map_append, List.map_cons]
    exact .group hl ihi hr ihs

theorem SemicolonOption.move (h : SemicolonOption ts) :
    SemicolonOption (ts.map (Token.move ρ)) := by
  cases h with
  | none => exact .none
  | some h => exact .some h

theorem BodyDecl.move {text : String} (h : BodyDecl ts text) :
    BodyDecl (ts.map (Token.move ρ)) text := by
  obtain ⟨hk⟩ := h
  exact .intro hk

theorem HeaderDecl.move {hd : Header} (h : HeaderDecl ts hd) :
    ∃ hd', HeaderDecl (ts.map (Token.move ρ)) hd' ∧ hd'.erase = hd.erase := by
  obtain ⟨hk⟩ := h
  exact ⟨_, .intro hk, rfl⟩

theorem AssertionDecl.move {a : Assertion} (h : AssertionDecl ts a) :
    ∃ a', AssertionDecl (ts.map (Token.move ρ)) a' ∧ a'.erase = a.erase := by
  cases h with
  | status hk hc => exact ⟨_, .status hk hc, rfl⟩
  | headerEquals hk => exact ⟨_, .headerEquals hk, rfl⟩
  | headerContains hk => exact ⟨_, .headerContains hk, rfl⟩
  | bodyContains hk => exact ⟨_, .bodyContains hk, rfl⟩

end Grammar

namespace SameKind

variable {ρ : Move} {vs ys : List Token} {P : Kind → Prop}

/-- The same tokens before them, moved. -/
theorem append (h : SameKind vs ys) (us : List Token) :
    SameKind (us ++ vs) (us.map (Token.move ρ) ++ ys) := by
  cases us with
  | nil => exact h
  | cons t us => rfl

/-- What follows begins with the same kind of token. -/
theorem begins (h : SameKind vs ys) (hb : Begins P vs) : Begins P ys := by
  obtain ⟨t, rest, rfl, ht⟩ := hb
  obtain ⟨u, hu, hk⟩ := Option.map_eq_some_iff.1 h
  obtain ⟨rest', rfl⟩ := List.head?_eq_some_iff.1 hu
  exact ⟨u, rest', rfl, by rw [hk]; exact ht⟩

theorem ne_nil (h : SameKind vs ys) (hv : vs ≠ []) : ys ≠ [] := by
  obtain ⟨t, rest, rfl⟩ := List.exists_cons_of_ne_nil hv
  exact Parser.ne_nil_of_begins (h.begins (P := fun _ => True) ⟨t, rest, rfl, trivial⟩)

end SameKind

namespace Grammar

variable {ρ : Move} {us vs ys : List Token}

/-- **An item stays an item** if its tokens are moved and what follows goes on as before. -/
theorem ItemBefore.move (h : ItemBefore us vs) (hy : SameKind vs ys) :
    ItemBefore (us.map (Token.move ρ)) ys := by
  cases h with
  | header h =>
    obtain ⟨hd, h', -⟩ := h.move (ρ := ρ)
    exact .header h'
  | body h => exact .body h.move
  | skipped hb h =>
    refine .skipped hb.move ?_
    cases h with
    | semicolon hp hs =>
      rw [List.map_append]
      exact .semicolon hp.move hs
    | group hp hl hi hr hs ha =>
      rw [List.map_append, List.map_cons, List.map_append, List.map_cons]
      refine .group hp.move hl hi.move hr hs.move fun hn t ht hk => ?_
      -- a `;` behind the group would stand there before too
      have hsemi : Begins (· = .semicolon) ys := by
        obtain ⟨rest, rfl⟩ := List.head?_eq_some_iff.1 ht
        exact ⟨t, rest, rfl, hk⟩
      obtain ⟨u, rest, rfl, hu⟩ := SameKind.begins hy.symm hsemi
      exact ha (List.map_eq_nil_iff.1 hn) u rfl hu
    | unended hp ha => exact .unended hp.move (hy.begins ha)

/-- The warning on an item moves with it. -/
theorem warningOn_move (m : Method) (us : List Token) :
    warningOn m (us.map (Token.move ρ)) = (warningOn m us).map (Warning.move ρ) := by
  cases us with
  | nil => rfl
  | cons first rest =>
    have hlast : ((rest.map (Token.move ρ)).getLast?.getD (first.move ρ)).stop =
        ρ.stop (rest.getLast?.getD first).stop := by
      rw [List.getLast?_map]
      cases rest.getLast? <;> rfl
    rw [List.map_cons, warningOn, warningOn, hlast]
    change (if first.kind = .header then none else if first.kind = .body then _ else _) = _
    split
    · rfl
    · split
      · split <;> rfl
      · rfl

end Grammar

/-! ### Runs -/

namespace Parser

variable {σ α β : Type} {ρ : Move} {s s' s'' r r' r'' : State σ} {us us' vs ys : List Token}
  {e e' : Option LexError} {p q : Parser σ α} {f g : α → Parser σ β} {R : α → α → Prop}
  {S : β → β → Prop} {k : Kind} {x y : Expected} {m : Method}

/-- Warnings that each begin where one of the tokens `us` does. -/
def RaisedOn (us : List Token) (ws : List Warning) : Prop := ∀ w ∈ ws, ∃ t ∈ us, w.pos = t.pos

theorem RaisedOn.nil : RaisedOn us [] := by simp [RaisedOn]

/-- Warnings on the one part and on the other, the last one first. -/
theorem RaisedOn.append {ws ws' : List Warning} (h : RaisedOn us ws) (h' : RaisedOn us' ws') :
    RaisedOn (us ++ us') (ws' ++ ws) := by
  intro w hw
  rcases List.mem_append.1 hw with hw | hw
  · obtain ⟨t, ht, hpos⟩ := h' w hw
    exact ⟨t, List.mem_append_right _ ht, hpos⟩
  · obtain ⟨t, ht, hpos⟩ := h w hw
    exact ⟨t, List.mem_append_left _ ht, hpos⟩

/-- **Two runs that raise the same warnings**: the first one from `s` to `s'`, on some of the tokens
`us`, and the second one from `r` to `r'`, moved. -/
def Parallel (ρ : Move) (us : List Token) (s s' r r' : State σ) : Prop :=
  ∃ ws, s'.raised = ws ++ s.raised ∧ r'.raised = ws.map (Warning.move ρ) ++ r.raised ∧
    RaisedOn us ws

theorem Parallel.of_eq (h : s'.raised = s.raised) (h' : r'.raised = r.raised) :
    Parallel ρ us s s' r r' :=
  ⟨[], h, h', .nil⟩

/-- Two runs that go on side by side. -/
theorem Parallel.trans (h : Parallel ρ us s s' r r') (h' : Parallel ρ us' s' s'' r' r'') :
    Parallel ρ (us ++ us') s s'' r r'' := by
  obtain ⟨ws, hs, hr, hw⟩ := h
  obtain ⟨ws', hs', hr', hw'⟩ := h'
  exact ⟨ws' ++ ws, by simp [hs', hs], by simp [hr', hr], hw.append hw'⟩

/-- An item that raises its warning, and the same item moved. -/
theorem Parallel.of_item (h : s'.raised = (warningOn m us).toList ++ s.raised)
    (h' : r'.raised = (warningOn m (us.map (Token.move ρ))).toList ++ r.raised) :
    Parallel ρ us s s' r r' := by
  refine ⟨(warningOn m us).toList, h, ?_, fun w hw => ?_⟩
  · rw [h', warningOn_move]
    cases warningOn m us <;> rfl
  · obtain ⟨first, rest, last, rfl, -, hpos, -⟩ := exists_of_warningOn (Option.mem_toList.1 hw)
    exact ⟨first, List.mem_cons_self, hpos⟩

variable [TokenSource σ]

/-- **A run that is mirrored**: if `p` returns from `s`, so does `q` from every state that has the
tokens before it which this run took, moved, and then the same kind of token. -/
def Mirrors (ρ : Move) (p q : Parser σ α) (R : α → α → Prop) (s : State σ) : Prop :=
  ∀ ⦃ts : List Token⦄ ⦃e : Option LexError⦄ ⦃a : α⦄ ⦃s' : State σ⦄, s.Sees ts e → p s = .ok a s' →
    ∃ us vs, ts = us ++ vs ∧ s'.Sees vs e ∧
      ∀ ⦃r : State σ⦄ ⦃ys : List Token⦄ ⦃e' : Option LexError⦄,
        r.Sees (us.map (Token.move ρ) ++ ys) e' → SameKind vs ys →
          ∃ b r', q r = .ok b r' ∧ R a b ∧ r'.Sees ys e' ∧ Parallel ρ us s s' r r'

/-- The same value, places apart. -/
def Same {γ : Type} (er : α → γ) (a b : α) : Prop := er b = er a

/-- A token and the same token in its new place. -/
def Moved (ρ : Move) (t u : Token) : Prop := u = t.move ρ

/-- The current tokens are of one kind. -/
theorem SameKind.current_eq (h : SameKind vs ys) (hs : s.Sees vs e) (hr : r.Sees ys e') :
    r.current.kind = s.current.kind := by
  obtain ⟨rest, rfl, -⟩ := hs
  obtain ⟨rest', rfl, -⟩ := hr
  exact Option.some.inj h

theorem mirrors_pure {a b : α} (h : R a b) :
    Mirrors ρ (pure a : Parser σ α) (pure b : Parser σ α) R s := by
  intro ts e a' s' hs ho
  obtain ⟨rfl, rfl⟩ := pure_eq_ok.1 ho
  exact ⟨[], ts, rfl, hs, fun r ys e' hr _ => ⟨b, r, rfl, h, hr, .of_eq rfl rfl⟩⟩

theorem mirrors_unexpected :
    Mirrors ρ (unexpected x : Parser σ α) (unexpected y : Parser σ α) R s :=
  fun _ _ _ _ _ h => absurd h unexpected_ne_ok

theorem mirrors_kind_bind {f g : Kind → Parser σ α}
    (h : Mirrors ρ (f s.current.kind) (g s.current.kind) R s) :
    Mirrors ρ (kind >>= f) (kind >>= g) R s := by
  intro ts e a s' hs ho
  obtain ⟨us, vs, rfl, hs', hmirror⟩ := h hs ho
  refine ⟨us, vs, rfl, hs', fun r ys e' hr hy => ?_⟩
  rw [kind_bind, SameKind.current_eq (hy.append us) hs hr]
  exact hmirror hr hy

/-- **Sequences.** -/
theorem Mirrors.bind (hp : Mirrors ρ p q R s) (hR : ∀ a, ∃ b, R a b)
    (hf : ∀ a s', p s = .ok a s' → ∀ b, R a b → Mirrors ρ (f a) (g b) S s') :
    Mirrors ρ (p >>= f) (q >>= g) S s := by
  intro ts e c s'' hs ho
  obtain ⟨a, s', h₁, h₂⟩ := bind_eq_ok.1 ho
  obtain ⟨us, vs, rfl, hs', hmirror⟩ := hp hs h₁
  -- how far the second part goes does not depend on the other run
  obtain ⟨b₀, hb₀⟩ := hR a
  obtain ⟨us', vs', rfl, hs'', -⟩ := hf a s' h₁ b₀ hb₀ hs' h₂
  refine ⟨us ++ us', vs', by simp, hs'', fun r ys e' hr hy => ?_⟩
  rw [List.map_append, List.append_assoc] at hr
  obtain ⟨b, r', hq, hab, hr', hpar⟩ := hmirror hr (hy.append us')
  obtain ⟨us₁, vs₁, heq, hs₁, hmirror'⟩ := hf a s' h₁ b hab hs' h₂
  obtain ⟨rfl, -⟩ := hs₁.unique hs''
  obtain rfl := List.append_cancel_right heq
  obtain ⟨d, r'', hg, hcd, hr'', hpar'⟩ := hmirror' hr' hy
  exact ⟨d, r'', bind_eq_ok.2 ⟨b, r', hq, hg⟩, hcd, hr'', hpar.trans hpar'⟩

/-- What follows a value that is the same places apart. -/
theorem Mirrors.bind_same {γ : Type} {er : α → γ} (hp : Mirrors ρ p q (Same er) s)
    (hf : ∀ a b s', Same er a b → Mirrors ρ (f a) (g b) S s') :
    Mirrors ρ (p >>= f) (q >>= g) S s :=
  hp.bind (fun a => ⟨a, rfl⟩) fun a s' _ b hab => hf a b s' hab

/-- A silent parser that is told by a grammar. -/
theorem Mirrors.of_grammar {D : List Token → α → Prop} {er : α → α} (hp : Silent p)
    (hsound : Sound p D)
    (hmove : ∀ ⦃us a⦄, D us a → ∃ a', D (us.map (Token.move ρ)) a' ∧ er a' = er a)
    (hruns : ∀ ⦃us a ys⦄, D us a → ys ≠ [] → Runs p (us ++ ys) a ys) :
    Mirrors ρ p p (Same er) s := by
  intro ts e a s' hs ho
  obtain ⟨us, vs, rfl, hD, hs'⟩ := hsound hs trivial ho
  refine ⟨us, vs, rfl, hs', fun r ys e' hr hy => ?_⟩
  obtain ⟨b, hD', her⟩ := hmove hD
  obtain ⟨r', hq, hr', -⟩ := hruns hD' (hy.ne_nil hs'.ne_nil) hr
  exact ⟨b, r', hq, her, hr', .of_eq (hp.raised_eq ho) (hp.raised_eq hq)⟩

/-! ### Tokens -/

/-- Taking a token is mirrored: the moved token is taken. -/
theorem mirrors_advance (hk : s.current.kind ≠ .eof) :
    Mirrors ρ (advance : Parser σ Token) advance (Moved ρ) s := by
  intro ts e t s' hs ho
  obtain ⟨rfl, vs, rfl, hs'⟩ := advance_sound hs hk ho
  refine ⟨[s.current], vs, rfl, hs', fun r ys e' hr hy => ?_⟩
  obtain ⟨r', hq, hr', -⟩ := runs_advance (t := s.current.move ρ) hk (hy.ne_nil hs'.ne_nil) hr
  exact ⟨_, r', hq, rfl, hr', .of_eq (silent_advance.raised_eq ho) (silent_advance.raised_eq hq)⟩

theorem mirrors_close (hk : k ≠ .eof) :
    Mirrors ρ (close k x : Parser σ Token) (close k y) (Moved ρ) s := by
  refine mirrors_kind_bind ?_
  split
  · rename_i h
    exact mirrors_advance (by rw [h]; exact hk)
  · exact mirrors_unexpected

theorem mirrors_expect (hk : k ≠ .eof) :
    Mirrors ρ (expect k : Parser σ Token) (expect k) (Moved ρ) s := by
  rw [expect_eq_close]
  exact mirrors_close hk

/-- The end of the text stays the current token. -/
theorem mirrors_close_eof :
    Mirrors ρ (close .eof x : Parser σ Token) (close .eof y) Any s := by
  refine mirrors_kind_bind ?_
  split
  · rename_i hk
    intro ts e t s' hs ho
    obtain rfl := hs.eq_of_eof hk
    rw [advance, if_pos hk] at ho
    obtain ⟨rfl, rfl⟩ := EStateM.Result.ok.inj ho
    refine ⟨[], [s.current], rfl, hs, fun r ys e' hr hy => ?_⟩
    have hk' : r.current.kind = .eof := (SameKind.current_eq hy hs hr).trans hk
    exact ⟨r.current, r, by rw [advance, if_pos hk'], trivial, hr, .of_eq rfl rfl⟩
  · exact mirrors_unexpected

section Tokens

variable {f g : Token → Parser σ β}

/-- A token of a kind, and what is done with it. -/
theorem mirrors_expect_bind (hk : k ≠ .eof) (h : ∀ t s', Mirrors ρ (f t) (g (t.move ρ)) S s') :
    Mirrors ρ (expect k >>= f) (expect k >>= g) S s :=
  (mirrors_expect hk).bind (fun _ => ⟨_, rfl⟩) fun t s' _ _ hu => hu ▸ h t s'

theorem mirrors_close_bind (hk : k ≠ .eof) (h : ∀ t s', Mirrors ρ (f t) (g (t.move ρ)) S s') :
    Mirrors ρ (close k x >>= f) (close k y >>= g) S s :=
  (mirrors_close hk).bind (fun _ => ⟨_, rfl⟩) fun t s' _ _ hu => hu ▸ h t s'

theorem mirrors_advance_bind (hk : s.current.kind ≠ .eof)
    (h : ∀ t s', Mirrors ρ (f t) (g (t.move ρ)) S s') :
    Mirrors ρ (advance >>= f) (advance >>= g) S s :=
  (mirrors_advance hk).bind (fun _ => ⟨_, rfl⟩) fun t s' _ _ hu => hu ▸ h t s'

end Tokens

/-! ### Loops -/

/-- **Loops.** -/
theorem mirrors_many {γ : Type} {er : α → γ} {more : Kind → Bool}
    (hitem : ∀ s, more s.current.kind → Mirrors ρ p q (Same er) s) (hp : Spends (more ·) p)
    (hq : Spends (more ·) q) (s : State σ) :
    Mirrors ρ (many more p) (many more q) (Same (List.map er)) s := by
  induction hn : s.remaining using Nat.strongRecOn generalizing s with
  | ind n ih =>
  rw [hp.unguarded, hq.unguarded]
  refine mirrors_kind_bind ?_
  split
  · rename_i hm
    refine (hitem s hm).bind (fun a => ⟨a, rfl⟩) fun a s' ha b hab => ?_
    refine (ih _ (hn ▸ hp hm ha) s' rfl).bind_same fun as bs s'' hsame => mirrors_pure ?_
    have hcons : er b :: bs.map er = er a :: as.map er := by rw [hab, hsame]
    exact hcons
  · exact mirrors_pure rfl

/-! ### Productions -/

theorem mirrors_assertion :
    Mirrors ρ (assertion : Parser σ Assertion) assertion (Same Assertion.erase) s :=
  .of_grammar (fun _ => Invariant.keeps_assertion) assertion_sound (fun _ _ h => h.move)
    fun _ _ _ hD hy => runs_assertion hD hy

/-- An unknown item that is read is a skipped one. -/
theorem eq_skipped {ts : List Token} {a : Request.Item} (hb : Begins Unknown ts) (hs : s.Sees ts e)
    (ho : blockItem m s = .ok a s') : a = .skipped := by
  obtain ⟨t, rest, rfl, ht⟩ := hb
  rw [← hs.current_eq] at ht
  rw [blockItem_of_unknown ht.1 ht.2.1] at ho
  simp only [bind_eq_ok, pure_eq_ok] at ho
  obtain ⟨_, _, -, rfl, -⟩ := ho
  rfl

/-- **An item read twice**, where it stands and moved: the same value, places apart, and the same
warning. What follows it may differ as far as it is an item. -/
theorem blockItem_alike (hi : ItemBefore us vs) (hi' : ItemBefore (us.map (Token.move ρ)) ys)
    (hv : vs ≠ []) (hy : ys ≠ []) (hs : s.Sees (us ++ vs) e)
    (hr : r.Sees (us.map (Token.move ρ) ++ ys) e') :
    ∃ a b s' r', blockItem m s = .ok a s' ∧ s'.Sees vs e ∧ blockItem m r = .ok b r' ∧
      r'.Sees ys e' ∧ Same Request.Item.erase a b ∧ Parallel ρ us s s' r r' := by
  obtain ⟨a, s', ho, hs', hraised⟩ := blockItem_of_item (m := m) hi hv hs
  obtain ⟨b, r', hq, hr', hraised'⟩ := blockItem_of_item (m := m) hi' hy hr
  refine ⟨a, b, s', r', ho, hs', hq, hr', ?_, .of_item hraised hraised'⟩
  -- the grammar says what the item is, and both runs return that
  cases hi with
  | header h =>
    obtain ⟨hd', h', her⟩ := h.move (ρ := ρ)
    obtain ⟨s₁, ho₁, -⟩ := runs_blockItem_header m h hv hs
    obtain ⟨r₁, hq₁, -⟩ := runs_blockItem_header m h' hy hr
    rw [ho] at ho₁
    rw [hq] at hq₁
    cases ho₁
    cases hq₁
    exact congrArg Request.Item.header her
  | body h =>
    obtain ⟨s₁, ho₁, -⟩ := runs_blockItem_body m h hv hs
    obtain ⟨r₁, hq₁, -⟩ := runs_blockItem_body m (h.move (ρ := ρ)) hy hr
    rw [ho] at ho₁
    rw [hq] at hq₁
    cases ho₁
    cases hq₁
    rfl
  | skipped hb h =>
    rw [eq_skipped (begins_append hb) hs ho, eq_skipped (begins_append hb.move) hr hq]
    rfl

/-- An item of a block, of which every kind is told by its first token. -/
theorem mirrors_blockItem (m : Method) (hk : s.current.kind ≠ .rightBrace) :
    Mirrors ρ (blockItem m : Parser σ Request.Item) (blockItem m) (Same Request.Item.erase) s := by
  intro ts e a s' hs ho
  obtain ⟨us, vs, rfl, hs', hi, -⟩ := blockItem_divides hs hk ho
  refine ⟨us, vs, rfl, hs', fun r ys e' hr hy => ?_⟩
  have hv : vs ≠ [] := hs'.ne_nil
  obtain ⟨a₁, b, s₁, r', ho₁, -, hq, hr', hsame, hpar⟩ :=
    blockItem_alike (m := m) hi (hi.move hy) hv (hy.ne_nil hv) hs hr
  rw [ho] at ho₁
  obtain ⟨rfl, rfl⟩ := EStateM.Result.ok.inj ho₁
  exact ⟨b, r', hq, hsame, hr', hpar⟩

theorem mirrors_blockItems (m : Method) :
    Mirrors ρ (many blockMore (blockItem m) : Parser σ (List Request.Item))
      (many blockMore (blockItem m)) (Same (List.map Request.Item.erase)) s := by
  have hspends : Spends (blockMore ·) (blockItem m : Parser σ Request.Item) :=
    (spends_blockItem m).mono (by simp +contextual)
  refine mirrors_many (fun s hs => mirrors_blockItem m ?_) hspends hspends s
  simp only [decide_eq_true_eq] at hs
  exact hs.1

theorem mirrors_block (m : Method) :
    Mirrors ρ (block m : Parser σ (List Request.Item)) (block m)
      (Same (List.map Request.Item.erase)) s := by
  refine mirrors_kind_bind ?_
  split
  · rename_i hk
    refine mirrors_advance_bind (by rw [hk]; decide) fun _ _ => ?_
    refine (mirrors_blockItems m).bind_same fun items items' _ hsame => ?_
    exact mirrors_expect_bind (by decide) fun _ _ => mirrors_pure hsame
  · exact mirrors_pure rfl

/-- An optional `;` behind a request, and the value that the request has by then. -/
theorem mirrors_semicolon {a b : α} {γ : Type} {er : α → γ} (h : Same er a b) :
    Mirrors ρ (do
      if (← kind) = .semicolon then
        let _ ← advance
      return a : Parser σ α)
      (do
        if (← kind) = .semicolon then
          let _ ← advance
        return b) (Same er) s := by
  refine mirrors_kind_bind ?_
  dsimp only
  split
  · rename_i hk
    exact mirrors_advance_bind (by rw [hk]; decide) fun _ _ => mirrors_pure h
  · exact mirrors_pure h

/-- A request, with the `;` behind it that may be missing. -/
theorem mirrors_request :
    Mirrors ρ (request : Parser σ Request) request (Same Request.erase) s := by
  refine mirrors_kind_bind ?_
  split
  · exact mirrors_unexpected
  · rename_i m hm
    have hk : s.current.kind ≠ .eof := by
      rw [Token.Kind.method?_eq_some hm]
      simp
    refine mirrors_advance_bind hk fun kw _ => mirrors_expect_bind (by decide) fun path _ => ?_
    refine (mirrors_block m).bind_same fun items items' _ hsame => mirrors_semicolon ?_
    rw [Same, Request.erase_foldl_add, Request.erase_foldl_add, hsame]
    rfl

/-- The assertions behind a request. -/
theorem mirrors_checks {r r' : Request} (hr : Same Request.erase r r') :
    Mirrors ρ (do return .of r (← many (· = .expect) assertion) : Parser σ Statement)
      (do return .of r' (← many (· = .expect) assertion)) (Same Statement.erase) s := by
  refine (mirrors_many (fun _ _ => mirrors_assertion) spends_assertion spends_assertion
    s).bind_same fun as as' s has => mirrors_pure ?_
  rw [Same, Statement.erase_of, Statement.erase_of, hr, has]

theorem mirrors_statement :
    Mirrors ρ (statement : Parser σ Statement) statement (Same Statement.erase) s :=
  mirrors_request.bind_same fun _ _ _ hr => mirrors_checks hr

/-- The end of a test, with the statements in it. -/
theorem mirrors_testEnd {name name' : Token} {sts sts' : List Statement}
    (hname : name'.text = name.text) (hsts : Same (List.map Statement.erase) sts sts') :
    Mirrors ρ (do
      let _ ← close .rightBrace .statement
      return { name := name.text, span := name.span, statements := sts } : Parser σ Test)
      (do
        let _ ← close .rightBrace .statement
        return { name := name'.text, span := name'.span, statements := sts' })
      (Same Test.erase) s := by
  refine mirrors_close_bind (by decide) fun _ _ => mirrors_pure ?_
  have herase : sts'.map Statement.erase = sts.map Statement.erase := hsts
  simp only [Same, Test.erase, herase, hname]

theorem mirrors_test : Mirrors ρ (test : Parser σ Test) test (Same Test.erase) s := by
  refine mirrors_expect_bind (by decide) fun _ _ => mirrors_expect_bind (by decide) fun name _ => ?_
  refine mirrors_expect_bind (by decide) fun _ s => ?_
  exact (mirrors_many (fun _ _ => mirrors_statement) spends_statement spends_statement
    s).bind_same fun sts sts' s hsts => mirrors_testEnd rfl hsts

end Parser

end HttpSuite
