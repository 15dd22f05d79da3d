import HttpSuite.Proofs.Parser.Moving
import HttpSuite.Proofs.Parser.Noting

/-!
# A run with one more item

An unknown item of a request block that ends by itself may be put between two other items: the run
over the longer text returns the same suite, places apart, and raises one more warning. Before the
item both runs read the same tokens, behind it the second one reads them moved.

* `Grammar.UnknownItem`: an item that is skipped up to its own `;`.
* `Grammar.BetweenItems.exists_items`: the items of the block that a place for an item is in.
* `Parser.Carries`: a run that is repeated with the item put in.
* `Parser.carries_suite`: the parser of test descriptions carries an item at every place for one.
-/

namespace HttpSuite

open Token (Kind)

namespace Grammar

/-- A group in braces that may be left out. -/
inductive GroupOption : List Token → Prop
  | none : GroupOption []
  | some {left right : Token} {inner : List Token} (hl : left.kind = .leftBrace)
      (hi : Balanced inner) (hr : right.kind = .rightBrace) :
      GroupOption (left :: (inner ++ [right]))

/-- **An unknown item that ends by itself**: tokens other than `;`, `{` and `}`, then a group in
braces if there is one, then a `;`. It does not begin with `header`, `body`, `;` or `}`. -/
inductive UnknownItem : List Token → Prop
  | intro {run group : List Token} {semi : Token}
      (hb : Begins (fun k => Unknown k ∧ k ≠ .semicolon) (run ++ group)) (hp : Plain run)
      (hg : GroupOption group) (hs : semi.kind = .semicolon) :
      UnknownItem (run ++ group ++ [semi])

/-- The items at the front of a request block, before the tokens `after`. -/
inductive ItemsBefore : List Token → List Token → Prop
  | nil {after : List Token} : ItemsBefore [] after
  | cons {item items after : List Token} (hi : ItemBefore item (items ++ after))
      (hs : ItemsBefore items after) : ItemsBefore (item ++ items) after

variable {m : Method} {us item after after' : List Token}

/-- An unknown item begins with a token that begins no item, and is no `;`. -/
theorem UnknownItem.begins (h : UnknownItem item) :
    Begins (fun k => Unknown k ∧ k ≠ .semicolon) item := by
  obtain ⟨hb, -, -, -⟩ := h
  exact Parser.begins_append hb

/-- It is an item whatever follows. -/
theorem UnknownItem.itemBefore (h : UnknownItem item) (after : List Token) :
    ItemBefore item after := by
  refine .skipped (Parser.begins_mono h.begins fun _ hk => hk.1) ?_
  obtain ⟨-, hp, hg, hs⟩ := h
  cases hg with
  | none =>
    rw [List.append_nil]
    exact .semicolon hp hs
  | some hl hi hr =>
    simp only [List.append_assoc, List.cons_append, List.nil_append]
    exact .group hp hl hi hr (.some hs) (by simp)

theorem ItemsBefore.concat (h : ItemsBefore us (item ++ after)) (hi : ItemBefore item after) :
    ItemsBefore (us ++ item) after := by
  generalize hrest : item ++ after = rest at h
  induction h with
  | nil =>
    subst hrest
    have hone : ItemsBefore (item ++ []) after := .cons hi .nil
    simpa using hone
  | @cons item' items rest hi' _ ih =>
    subst hrest
    rw [List.append_assoc]
    refine .cons ?_ (ih rfl)
    rwa [List.append_assoc]

/-- Items begin with a token on which the loop over a block goes on. -/
theorem ItemsBefore.begins (h : ItemsBefore us after) (hne : us ≠ []) :
    Begins (Parser.blockMore ·) us := by
  cases h with
  | nil => exact absurd rfl hne
  | cons hi _ => exact Parser.begins_append hi.begins

/-- **The block that a place for an item is in**, with the items before the place. -/
theorem BetweenItems.exists_items {before : List Token} (h : BetweenItems m before after) :
    ∃ front kw path left us, before = front ++ kw :: path :: left :: us ∧
      BetweenStatements front ∧ kinds [kw, path, left] = [.method m, .str, .leftBrace] ∧
      ItemsBefore us after := by
  induction h with
  | @first front after kw path left hb hk =>
    exact ⟨front, kw, path, left, [], by simp, hb, hk, .nil⟩
  | @next before item after _ hi ih =>
    obtain ⟨front, kw, path, left, us, rfl, hb, hk, hus⟩ := ih
    exact ⟨front, kw, path, left, us ++ item, by simp, hb, hk, hus.concat hi⟩

/-- **Something else may follow the items** if no `;` begins it and the last item is not cut off by
the end of the block. -/
theorem ItemBefore.follow {items : List Token} (hi : ItemBefore item (items ++ after))
    (hs : ItemsBefore items after) (hlast : ∀ t ∈ (item ++ items).getLast?, t.kind.isPlain = false)
    (hb : Begins (· ≠ .semicolon) after') : ItemBefore item (items ++ after') := by
  cases hi with
  | header h => exact .header h
  | body h => exact .body h
  | skipped hu h =>
    refine .skipped hu ?_
    cases h with
    | semicolon hp hs => exact .semicolon hp hs
    | group hp hl hi hr hsemi ha =>
      refine .group hp hl hi hr hsemi fun hn t ht => ?_
      cases items with
      | nil =>
        obtain ⟨u, rest, rfl, hu⟩ := hb
        rw [← Option.some.inj ht]
        exact hu
      | cons u items => exact ha hn t ht
    | unended hp ha =>
      cases items with
      | nil =>
        -- its last token would be a plain one
        obtain ⟨first, rest, rfl, -⟩ := hu
        rw [List.append_nil] at hlast
        have hmem := List.getLast?_eq_some_getLast (List.cons_ne_nil first rest)
        have hplain := hp _ (List.mem_of_getLast? hmem)
        rw [hlast _ hmem] at hplain
        cases hplain
      | cons u items =>
        obtain ⟨t, _, heq, ht⟩ := hs.begins (List.cons_ne_nil u items)
        obtain ⟨v, _, heq', hv⟩ := ha
        rw [heq, List.cons_append] at heq'
        obtain ⟨rfl, -⟩ := List.cons.inj heq'
        simp [hv] at ht

end Grammar

open Grammar

namespace Parser

variable {σ α β γ : Type} {ρ : Move} {w : Warning} {s s' s'' r r' r'' : State σ}
  {us us' us'' after item vs vs' ys : List Token} {e e' : Option LexError} {p q : Parser σ α}
  {f g : α → Parser σ β} {er : α → γ} {R : α → α → Prop} {S : β → β → Prop} {m : Method} {a : α}

/-- **Two runs, the second one with an item put in**: the first one raises warnings on `us`, before
the place, and on `us'` behind it; the second one raises the former, the warning `w` on the item and
the latter, moved. -/
def Joined (ρ : Move) (w : Warning) (us us' : List Token) (s s' r r' : State σ) : Prop :=
  ∃ ws ws', s'.raised = ws' ++ (ws ++ s.raised) ∧
    r'.raised = ws'.map (Warning.move ρ) ++ w :: (ws ++ r.raised) ∧
    RaisedOn us ws ∧ RaisedOn us' ws'

/-- Behind the inserted item both runs go on side by side. -/
theorem Joined.trans (h : Joined ρ w us us' s s' r r') (h' : Parallel ρ us'' s' s'' r' r'') :
    Joined ρ w us (us' ++ us'') s s'' r r'' := by
  obtain ⟨ws, ws', hs, hr, hw, hw'⟩ := h
  obtain ⟨ws'', hs', hr', hw''⟩ := h'
  exact ⟨ws, ws'' ++ ws', by simp [hs', hs], by simp [hr', hr], hw, hw'.append hw''⟩

/-- Before the inserted item both runs go on side by side. -/
theorem Joined.behind (h : Parallel .rest us s s' r r') (h' : Joined ρ w us' us'' s' s'' r' r'') :
    Joined ρ w (us ++ us') us'' s s'' r r'' := by
  obtain ⟨ws, hs, hr, hw⟩ := h
  obtain ⟨ws', ws'', hs', hr', hw', hw''⟩ := h'
  rw [Warning.map_move_rest] at hr
  exact ⟨ws' ++ ws, ws'', by simp [hs', hs], by simp [hr', hr], hw.append hw', hw''⟩

variable [TokenSource σ]

/-- **A run that carries an item**: if `p` returns from a state that sees `us ++ after`, so does `q`
with the item put in between, over the tokens that the first run took of `after`, moved. -/
def Carries (ρ : Move) (item : List Token) (w : Warning) (p q : Parser σ α) (R : α → α → Prop)
    (us after : List Token) (s : State σ) : Prop :=
  ∀ ⦃e : Option LexError⦄ ⦃a : α⦄ ⦃s' : State σ⦄, s.Sees (us ++ after) e → p s = .ok a s' →
    ∃ us' vs, after = us' ++ vs ∧ s'.Sees vs e ∧
      ∀ ⦃r : State σ⦄ ⦃ys : List Token⦄ ⦃e' : Option LexError⦄,
        r.Sees (us ++ (item ++ (us'.map (Token.move ρ) ++ ys))) e' → SameKind vs ys →
          ∃ b r', q r = .ok b r' ∧ R a b ∧ r'.Sees ys e' ∧ Joined ρ w us us' s s' r r'

/-! ### Sequences -/

/-- **The item is in the first part.** -/
theorem Carries.bind (hp : Carries ρ item w p q (Same er) us after s)
    (hf : ∀ a b s', Same er a b → Mirrors ρ (f a) (g b) S s') :
    Carries ρ item w (p >>= f) (q >>= g) S us after s := by
  intro e c s'' hs ho
  obtain ⟨a, s', h₁, h₂⟩ := bind_eq_ok.1 ho
  obtain ⟨us', vs, rfl, hs', hcarry⟩ := hp hs h₁
  obtain ⟨us'', vs', rfl, hs'', -⟩ := hf a a s' rfl hs' h₂
  refine ⟨us' ++ us'', vs', by simp, hs'', fun r ys e' hr hy => ?_⟩
  rw [List.map_append, List.append_assoc] at hr
  obtain ⟨b, r', hq, hab, hr', hjoin⟩ := hcarry hr (hy.append us'')
  obtain ⟨us₁, vs₁, heq, hs₁, hmirror⟩ := hf a b s' hab hs' h₂
  obtain ⟨rfl, -⟩ := hs₁.unique hs''
  obtain rfl := List.append_cancel_right heq
  obtain ⟨d, r'', hg, hcd, hr'', hpar⟩ := hmirror hr' hy
  exact ⟨d, r'', bind_eq_ok.2 ⟨b, r', hq, hg⟩, hcd, hr'', hjoin.trans hpar⟩

/-- **Two runs that take `us`**, the first one before `vs` and the second one before `vs'`. -/
structure Both (p q : Parser σ α) (er : α → γ) (us vs vs' : List Token) : Prop where
  runs : ∃ a, Runs p (us ++ vs) a vs
  alike : ∀ ⦃s s' r : State σ⦄ ⦃e e' : Option LexError⦄ ⦃a : α⦄, s.Sees (us ++ vs) e →
    p s = .ok a s' → r.Sees (us ++ vs') e' →
      ∃ b r', q r = .ok b r' ∧ Same er a b ∧ r'.Sees vs' e' ∧ Parallel .rest us s s' r r'

/-- **The item is behind the first part.** -/
theorem Carries.behind (hp : ∀ rest, Both p q er us (us' ++ after) (us' ++ (item ++ rest)))
    (hf : ∀ a b s', Same er a b → Carries ρ item w (f a) (g b) S us' after s') :
    Carries ρ item w (p >>= f) (q >>= g) S (us ++ us') after s := by
  intro e c s'' hs ho
  obtain ⟨a, s', h₁, h₂⟩ := bind_eq_ok.1 ho
  rw [List.append_assoc] at hs
  have hs' : s'.Sees (us' ++ after) e := by
    obtain ⟨a₁, hruns⟩ := (hp []).runs
    obtain ⟨s₁, ho₁, hs₁, -⟩ := hruns hs
    rw [h₁] at ho₁
    cases ho₁
    exact hs₁
  obtain ⟨us'', vs, rfl, hs'', -⟩ := hf a a s' rfl hs' h₂
  refine ⟨us'', vs, rfl, hs'', fun r ys e' hr hy => ?_⟩
  rw [List.append_assoc] at hr
  obtain ⟨b, r', hq, hab, hr', hpar⟩ := (hp _).alike hs h₁ hr
  obtain ⟨us₁, vs₁, heq, hs₁, hcarry⟩ := hf a b s' hab hs' h₂
  obtain ⟨rfl, -⟩ := hs₁.unique hs''
  obtain rfl := List.append_cancel_right heq
  obtain ⟨d, r'', hg, hcd, hr'', hjoin⟩ := hcarry hr' hy
  exact ⟨d, r'', bind_eq_ok.2 ⟨b, r', hq, hg⟩, hcd, hr'', .behind hpar hjoin⟩

/-- A silent parser that takes `us` in both runs. -/
theorem Both.of_silent (hp : Silent p) (h : Runs p (us ++ vs) a vs)
    (h' : Runs p (us ++ vs') a vs') : Both p p (id : α → α) us vs vs' where
  runs := ⟨a, h⟩
  alike := by
    intro s s' r e e' a₁ hs ho hr
    obtain ⟨s₁, ho₁, -⟩ := h hs
    obtain ⟨r', hq, hr', -⟩ := h' hr
    rw [ho] at ho₁
    cases ho₁
    exact ⟨a, r', hq, rfl, hr', .of_eq (hp.raised_eq ho) (hp.raised_eq hq)⟩

/-- A parser that looks at one more token, which is of the same kind in both runs. -/
theorem Both.of_mirrors (hp : ∀ s, Mirrors .rest p q (Same er) s) (h : Runs p (us ++ vs) a vs)
    (hk : SameKind vs vs') : Both p q er us vs vs' where
  runs := ⟨a, h⟩
  alike := by
    intro s s' r e e' a₁ hs ho hr
    obtain ⟨s₁, ho₁, hs₁, -⟩ := h hs
    rw [ho] at ho₁
    cases ho₁
    obtain ⟨us₁, vs₁, heq, hs', hmirror⟩ := hp s hs ho
    obtain ⟨rfl, -⟩ := hs₁.unique hs'
    obtain rfl := List.append_cancel_right heq
    exact hmirror (by simpa using hr) hk

theorem carries_kind_bind {t : Token} {f g : Kind → Parser σ β}
    (h : Carries ρ item w (f t.kind) (g t.kind) S (t :: us) after s) :
    Carries ρ item w (kind >>= f) (kind >>= g) S (t :: us) after s := by
  intro e a s' hs ho
  rw [kind_bind, hs.current_eq] at ho
  obtain ⟨us', vs, rfl, hs', hcarry⟩ := h hs ho
  refine ⟨us', vs, rfl, hs', fun r ys e' hr hy => ?_⟩
  rw [kind_bind, hr.current_eq]
  exact hcarry hr hy

section Tokens

variable {t : Token} {k : Kind} {f g : Token → Parser σ β} (ha : after ≠ []) (hi : item ≠ [])

include ha hi

/-- A token before the item. -/
theorem carries_advance_bind (hk : t.kind ≠ .eof)
    (h : ∀ t s', Carries ρ item w (f t) (g t) S us after s') :
    Carries ρ item w (advance >>= f) (advance >>= g) S (t :: us) after s := by
  change Carries ρ item w _ _ S ([t] ++ us) after s
  refine .behind (fun rest => .of_silent silent_advance (runs_advance hk (by simp [ha]))
    (runs_advance hk (by simp [hi]))) fun a b s' hab => ?_
  obtain rfl : b = a := hab
  exact h b s'

/-- A token before the place is the same in both runs. -/
theorem carries_expect_bind (hk : t.kind = k) (hne : k ≠ .eof)
    (h : ∀ t s', Carries ρ item w (f t) (g t) S us after s') :
    Carries ρ item w (expect k >>= f) (expect k >>= g) S (t :: us) after s := by
  change Carries ρ item w _ _ S ([t] ++ us) after s
  refine .behind (fun rest => .of_silent silent_expect (runs_expect hk hne (by simp [ha]))
    (runs_expect hk hne (by simp [hi]))) fun a b s' hab => ?_
  obtain rfl : b = a := hab
  exact h b s'

end Tokens

/-! ### Loops -/

/-- What follows some tokens is not seen by who looks at the first of them. -/
theorem sameKind_append (hne : us ≠ []) (vs vs' : List Token) :
    SameKind (us ++ vs) (us ++ vs') := by
  obtain ⟨t, us, rfl⟩ := List.exists_cons_of_ne_nil hne
  rfl

/-- **A loop carries an item** if the item that it is at does. -/
theorem carries_many {more : Kind → Bool} {D : List Token → α → Prop} {as : List α}
    (hmirror : ∀ (ρ : Move) s, Mirrors ρ p p (Same er) s) (hp : Spends (more ·) p)
    (hfirst : ∀ ⦃us a⦄, D us a → Begins (more ·) us)
    (hruns : ∀ ⦃us a vs⦄, D us a → Begins (more ·) vs → Runs p (us ++ vs) a vs)
    (hD : Many D us as) (hb : Begins (more ·) us')
    (hcarry : ∀ s, Carries ρ item w p p (Same er) us' after s) (s : State σ) :
    Carries ρ item w (many more p) (many more p) (Same (List.map er)) (us ++ us') after s := by
  -- one round: an item and the rest of the loop
  have hround {a b : α} {as bs : List α} {s : State σ} (hab : Same er a b)
      (has : Same (List.map er) as bs) :
      Mirrors ρ (pure (a :: as) : Parser σ (List α)) (pure (b :: bs)) (Same (List.map er)) s := by
    have hcons : er b :: bs.map er = er a :: as.map er := by rw [hab, has]
    exact mirrors_pure hcons
  induction hD generalizing s with
  | nil =>
    obtain ⟨t, us', rfl, ht⟩ := hb
    rw [hp.unguarded]
    refine carries_kind_bind ?_
    rw [if_pos ht]
    refine (hcarry s).bind fun a b s hab => ?_
    exact (mirrors_many (fun s _ => hmirror ρ s) hp hp s).bind_same
      fun as bs s has => hround hab has
  | @cons us ws a as ha has ih =>
    have hbegins : Begins (more ·) (us ++ (ws ++ us')) := begins_append (hfirst ha)
    obtain ⟨t, rest, hus, ht⟩ := hbegins
    rw [List.append_assoc, hp.unguarded, hus]
    refine carries_kind_bind ?_
    rw [if_pos ht, ← hus]
    have hrest : Begins (more ·) (ws ++ us') := begins_many hfirst has hb
    refine Carries.behind (fun rest => .of_mirrors (hmirror .rest) (a := a) ?_ ?_)
      fun a b s hab => (ih s).bind fun as bs s has => hround hab has
    · exact hruns ha (begins_append hrest)
    · exact sameKind_append (ne_nil_of_begins hrest) _ _

/-! ### The block of a request -/

/-- The items of a block that count, places apart. -/
def keptItems (items : List Request.Item) : List Request.Item :=
  (items.map Request.Item.erase).filter (· ≠ .skipped)

/-- The same item in front of items that are the same, once skipped ones are left out. -/
theorem keptItems_cons {item item' : Request.Item} {items items' : List Request.Item}
    (h : Same Request.Item.erase item item') (hs : Same keptItems items items') :
    Same keptItems (item :: items) (item' :: items') := by
  rw [Same, keptItems, keptItems, List.map_cons, List.map_cons, h, List.filter_cons,
    List.filter_cons]
  split
  · exact congrArg _ hs
  · exact hs

/-- A request depends on the items that count. -/
theorem erase_foldl_add_of_kept {items items' : List Request.Item} (h : Same keptItems items items')
    (r : Request) :
    Same Request.erase (items.foldl Request.add r) (items'.foldl Request.add r) := by
  have hkept (items : List Request.Item) (r : Request) :
      (items.foldl Request.add r).erase = (keptItems items).foldl Request.add r.erase := by
    rw [Request.erase_foldl_add, keptItems]
    generalize items.map Request.Item.erase = items
    generalize r.erase = r
    induction items generalizing r with
    | nil => rfl
    | cons item items ih => cases item <;> simp [ih, Request.add]
  rw [Same, hkept, hkept, h]

theorem spends_items (m : Method) : Spends (blockMore ·) (blockItem m : Parser σ Request.Item) :=
  (spends_blockItem m).mono (by simp +contextual)

/-- An item that both runs take, whatever follows it. -/
theorem both_blockItem (m : Method) (hi : ItemBefore us vs) (hi' : ItemBefore us vs') (hv : vs ≠ [])
    (hv' : vs' ≠ []) :
    Both (blockItem m : Parser σ Request.Item) (blockItem m) Request.Item.erase us vs vs' where
  runs := runs_item m hi hv
  alike := by
    intro s s' r e e' a hs ho hr
    obtain ⟨a₁, b, s₁, r', ho₁, -, hq, hr', hsame, hpar⟩ :=
      blockItem_alike (m := m) (ρ := .rest) hi (by simpa using hi') hv hv' hs (by simpa using hr)
    rw [ho] at ho₁
    cases ho₁
    exact ⟨b, r', hq, hsame, hr', hpar⟩

section Item

variable (hi : UnknownItem item) (hw : warningOn m item = some w)

include hi hw

/-- **The item is put in where the loop is.** -/
theorem carries_here (s : State σ) :
    Carries ρ item w (many blockMore (blockItem m) : Parser σ (List Request.Item))
      (many blockMore (blockItem m)) (Same keptItems) [] after s := by
  intro e items s' hs ho
  obtain ⟨us', vs, rfl, hs', hmirror⟩ := mirrors_blockItems (ρ := ρ) m hs ho
  refine ⟨us', vs, rfl, hs', fun r ys e' hr hy => ?_⟩
  have hne : us'.map (Token.move ρ) ++ ys ≠ [] := by simp [hy.ne_nil hs'.ne_nil]
  have hbegins : Begins (blockMore ·) (item ++ (us'.map (Token.move ρ) ++ ys)) :=
    begins_append (hi.itemBefore []).begins
  obtain ⟨it, r₁, hq, hr₁, hraised⟩ := blockItem_of_item (m := m) (hi.itemBefore _) hne hr
  obtain rfl := eq_skipped (begins_append (begins_mono hi.begins fun _ h => h.1)) hr hq
  obtain ⟨items', r', hq', hsame, hr', ws, hws, hws', hpos⟩ := hmirror hr₁ hy
  have hmore : blockMore r.current.kind = true := by
    obtain ⟨t, rest, heq, ht⟩ := hbegins
    rw [List.nil_append, heq] at hr
    rw [hr.current_eq]
    exact ht
  refine ⟨.skipped :: items', r', ?_, ?_, hr', [], ws, hws, ?_, .nil, hpos⟩
  · rw [(spends_items m).unguarded, kind_bind, if_pos hmore, bind_of_ok hq, bind_of_ok hq']
    rfl
  · have hkept : keptItems items' = keptItems items := by rw [keptItems, keptItems, hsame]
    exact hkept
  · rw [hws', hraised, hw]
    rfl

/-- **The loop carries an item** behind any of its own. -/
theorem carries_items (ha : after ≠ []) (hus : ItemsBefore us after)
    (hlast : ∀ t ∈ us.getLast?, t.kind.isPlain = false) (s : State σ) :
    Carries ρ item w (many blockMore (blockItem m) : Parser σ (List Request.Item))
      (many blockMore (blockItem m)) (Same keptItems) us after s := by
  induction hus generalizing s with
  | nil => exact carries_here hi hw s
  | @cons it items after hit hitems ih =>
    have hbegins : Begins (blockMore ·) (it ++ items) := begins_append hit.begins
    have hne : item ≠ [] := ne_nil_of_begins hi.begins
    obtain ⟨t, rest, hus, ht⟩ := hbegins
    rw [(spends_items m).unguarded, hus]
    refine carries_kind_bind ?_
    rw [if_pos ht, ← hus]
    refine Carries.behind (fun rest => both_blockItem m hit ?_ (by simp [ha]) (by simp [hne]))
      fun a b s hab => (ih ha (fun t ht => hlast t ?_) s).bind fun as bs s has =>
        mirrors_pure (keptItems_cons hab has)
    · exact hit.follow hitems hlast (begins_append (begins_mono hi.begins fun _ h => h.2))
    · rw [List.getLast?_append, Option.mem_def.1 ht]
      rfl

variable (ha : after ≠ []) (hus : ItemsBefore us after)
  (hlast : ∀ t ∈ us.getLast?, t.kind.isPlain = false)

include ha hus hlast

/-- The block with the inserted item in it, from its brace on. -/
theorem carries_block {left : Token} (hl : left.kind = .leftBrace) :
    Carries ρ item w (block m : Parser σ (List Request.Item)) (block m) (Same keptItems)
      (left :: us) after s := by
  refine carries_kind_bind ?_
  rw [if_pos hl]
  refine carries_advance_bind ha (ne_nil_of_begins hi.begins) (by rw [hl]; decide) fun _ s => ?_
  refine (carries_items hi hw ha hus hlast s).bind fun items items' _ hsame => ?_
  exact mirrors_expect_bind (by decide) fun _ _ => mirrors_pure hsame

theorem carries_statement {kw path left : Token}
    (hk : kinds [kw, path, left] = [.method m, .str, .leftBrace]) (s : State σ) :
    Carries ρ item w (statement : Parser σ Statement) statement (Same Statement.erase)
      (kw :: path :: left :: us) after s := by
  have hne : item ≠ [] := ne_nil_of_begins hi.begins
  simp only [kinds_cons_eq_cons, kinds_nil, and_true] at hk
  have hrequest : Carries ρ item w (request : Parser σ Request) request (Same Request.erase)
      (kw :: path :: left :: us) after s := by
    refine carries_kind_bind ?_
    rw [hk.1]
    refine carries_advance_bind ha hne (by rw [hk.1]; simp) fun kw s => ?_
    refine carries_expect_bind ha hne hk.2.1 (by decide) fun path s => ?_
    refine (carries_block hi hw ha hus hlast hk.2.2).bind fun items items' _ hsame => ?_
    exact mirrors_semicolon (erase_foldl_add_of_kept hsame _)
  exact hrequest.bind fun _ _ _ hr => mirrors_checks hr

theorem carries_test {kw path left : Token} {ts : List Token} {kw' name left' : Token}
    {statements : List Statement}
    (hk : kinds [kw, path, left] = [.method m, .str, .leftBrace])
    (hk' : kinds [kw', name, left'] = [.test, .ident, .leftBrace])
    (hs : Many StatementDecl ts statements) (s : State σ) :
    Carries ρ item w (test : Parser σ Test) test (Same Test.erase)
      (kw' :: name :: left' :: (ts ++ kw :: path :: left :: us)) after s := by
  have hne : item ≠ [] := ne_nil_of_begins hi.begins
  have hmethod : Begins (fun k => k.method?.isSome) (kw :: path :: left :: us) := by
    simp only [kinds_cons_eq_cons] at hk
    exact ⟨kw, _, rfl, by rw [hk.1]; rfl⟩
  simp only [kinds_cons_eq_cons, kinds_nil, and_true] at hk'
  refine carries_expect_bind ha hne hk'.1 (by decide) fun _ s => ?_
  refine carries_expect_bind ha hne hk'.2.1 (by decide) fun name s => ?_
  refine carries_expect_bind ha hne hk'.2.2 (by decide) fun _ s => ?_
  refine (carries_many (fun _ _ => mirrors_statement) spends_statement
    (fun _ _ => statementDecl_begins)
    (fun _ _ _ hD hb => runs_statement hD (begins_mono hb fun _ => afterStatement_of_method)) hs
    hmethod (carries_statement hi hw ha hus hlast hk) s).bind fun sts sts' s hsts => ?_
  exact mirrors_testEnd rfl hsts

end Item

/-- The tests of a suite and its end, behind the configuration and the variables. -/
theorem mirrors_suiteEnd {config : Option Config} {vars : Variables} {tests tests' : List Test}
    (h : Same (List.map Test.erase) tests tests') :
    Mirrors ρ (do
      let _ ← close .eof (if tests.isEmpty then .declaration else .test)
      return { config := config, vars := vars, tests := tests } : Parser σ Suite)
      (do
        let _ ← close .eof (if tests'.isEmpty then .declaration else .test)
        return { config := config, vars := vars, tests := tests' }) (Same Suite.erase) s := by
  refine mirrors_close_eof.bind (fun t => ⟨t, trivial⟩) fun _ _ _ _ _ => mirrors_pure ?_
  have herase : tests'.map Test.erase = tests.map Test.erase := h
  simp only [Same, Suite.erase, herase]

/-- **The parser carries an unknown item at every place for one**, unless the place is behind an
item that the end of its block cuts off. -/
theorem carries_suite {before : List Token} (hi : UnknownItem item)
    (hw : warningOn m item = some w) (ha : after ≠ []) (hb : BetweenItems m before after)
    (hlast : ∀ t ∈ before.getLast?, t.kind.isPlain = false) (s : State σ) :
    Carries ρ item w (suite : Parser σ Suite) suite (Same Suite.erase) before after s := by
  obtain ⟨front, kw, path, left, us, rfl, hfront, hk, hus⟩ := hb.exists_items
  obtain @⟨front, ts, kw', name, left', statements, hfront, hk', hs⟩ := hfront
  obtain @⟨cs, xs, tests, config, vars, _, hc, hx, ht⟩ := hfront
  have hlast' : ∀ t ∈ us.getLast?, t.kind.isPlain = false := by
    intro t ht
    refine hlast t ?_
    rw [show kw :: path :: left :: us = [kw, path, left] ++ us from rfl, List.getLast?_append,
      List.getLast?_append, Option.mem_def.1 ht]
    rfl
  have hcarry := carries_test (ρ := ρ) (σ := σ) hi hw ha hus hlast' hk hk' hs
  have htest : Begins (fun k => decide (k = .test))
      (kw' :: name :: left' :: (ts ++ kw :: path :: left :: us)) := by
    simp only [kinds_cons_eq_cons] at hk'
    exact ⟨kw', _, rfl, by rw [hk'.1]; decide⟩
  have htests : Begins (fun k => decide (k = .test))
      (tests ++ kw' :: name :: left' :: (ts ++ kw :: path :: left :: us)) :=
    begins_many (fun _ _ => testDecl_begins) ht htest
  simp only [List.append_assoc, List.cons_append]
  generalize kw' :: name :: left' :: (ts ++ kw :: path :: left :: us) = place at *
  -- the configuration and the variables are read in the same way in both runs
  have hconfig (rest : List Token) :
      Runs (config? : Parser σ (Option Config)) (cs ++ (xs ++ (tests ++ place) ++ rest)) config
        (xs ++ (tests ++ place) ++ rest) := by
    refine runs_config? hc (begins_append ?_)
    refine begins_many (fun _ _ h => begins_mono (variableDecl_begins h) ?_) hx
      (begins_mono htests ?_)
    · rintro _ rfl; decide
    · intro k hk; rw [of_decide_eq_true hk]; decide
  have hvars (rest : List Token) :
      Runs (many (· = .letVar) variableDecl : Parser σ (List Variable))
        (xs ++ (tests ++ place ++ rest)) vars (tests ++ place ++ rest) := by
    refine runs_many (Q := fun _ => True)
      (fun _ _ h => begins_mono (variableDecl_begins h) (by simp))
      (fun _ _ _ hD hb => runs_variableDecl hD (ne_nil_of_begins hb)) (fun _ _ => trivial) hx
      (begins_append (begins_mono htests ?_))
    intro k hk
    rw [of_decide_eq_true hk]
    exact ⟨trivial, by decide⟩
  refine Carries.behind (fun rest => .of_silent (fun _ => Invariant.keeps_config?)
    (hconfig after) (hconfig (item ++ rest))) fun c c' s hsame => ?_
  obtain rfl : c' = c := hsame
  refine Carries.behind (fun rest => .of_silent
    (fun _ => Invariant.keeps_many Invariant.keeps_variableDecl) (hvars after)
    (hvars (item ++ rest))) fun v v' s hsame => ?_
  obtain rfl : v' = v := hsame
  exact (carries_many (fun _ _ => mirrors_test) spends_test (fun _ _ => testDecl_begins)
    (fun _ _ _ hD hb => runs_test hD (ne_nil_of_begins hb)) ht htest hcarry s).bind
      fun tests tests' s hsame => mirrors_suiteEnd hsame

/-- **Two runs to the end of their tokens**, the second one with the item put in. -/
theorem suite_of_inserted {before : List Token} {suite' : Suite} (hi : UnknownItem item)
    (hw : warningOn m item = some w) (ha : after ≠ []) (hb : BetweenItems m before after)
    (hlast : ∀ t ∈ before.getLast?, t.kind.isPlain = false) {r : State σ}
    (hs : s.Sees (before ++ after) e)
    (hr : r.Sees (before ++ (item ++ after.map (Token.move ρ))) e')
    (hraised : s.raised = []) (hraised' : r.raised = []) (ho : suite s = .ok suite' s') :
    ∃ g r' ws ws', suite r = .ok g r' ∧ g.erase = suite'.erase ∧ s'.raised = ws' ++ ws ∧
      r'.raised = ws'.map (Warning.move ρ) ++ w :: ws ∧ RaisedOn before ws ∧
      RaisedOn after ws' := by
  obtain ⟨us', vs, rfl, -, hcarry⟩ := carries_suite (ρ := ρ) hi hw ha hb hlast s hs ho
  rw [List.map_append] at hr
  have hkind : SameKind vs (vs.map (Token.move ρ)) := by cases vs <;> rfl
  obtain ⟨g, r', hrun, hsame, -, ws, ws', hs', hr', hbefore, hafter⟩ := hcarry hr hkind
  rw [hraised, List.append_nil] at hs'
  rw [hraised', List.append_nil] at hr'
  exact ⟨g, r', ws, ws', hrun, hsame, hs', hr', hbefore, hafter.append .nil⟩

end Parser

end HttpSuite
