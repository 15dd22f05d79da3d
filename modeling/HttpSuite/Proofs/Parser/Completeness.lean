import HttpSuite.Proofs.Parser.Soundness

/-!
# What is in the grammar is accepted

The other direction: on the tokens of a production the parser succeeds, returns what the grammar
says and stops where the production ends, whatever may follow there (`Parser.Runs`). A request is
the one production that needs to know its follower, since its block and its `;` may be left out.

A derivation can cut the skipped items of a block in another way than the parser does, so
`runs_blockItems` follows the tokens and not the derivation: a `;` after a skipped group is taken
with the group, and the rest of the block is derived without it (`BlockItems.of_semicolon`).

* `Parser.runs_suite`: on the tokens of a `Grammar.File` the parser returns its suite.
-/

namespace HttpSuite

open Token (Kind)
open Grammar

namespace Parser

variable {σ : Type} [TokenSource σ] {ts us vs : List Token} {t : Token}

/-! ### Configuration and variables -/

/-- On a header declaration the parser of headers returns the header. -/
theorem runs_header {hd : Header} (hD : HeaderDecl us hd) (hv : vs ≠ []) :
    Runs (header : Parser σ Header) (us ++ vs) hd vs := by
  obtain @⟨kw, name, eq, value, semi, h⟩ := hD
  simp only [kinds_cons_eq_cons, kinds_nil, and_true] at h
  obtain ⟨h₁, h₂, h₃, h₄, h₅⟩ := h
  unfold header
  refine (runs_expect h₁ (by decide) (by simp)).bind ?_
  refine (runs_expect h₂ (by decide) (by simp)).bind ?_
  refine (runs_expect h₃ (by decide) (by simp)).bind ?_
  refine (runs_expect h₄ (by decide) (by simp)).bind ?_
  exact (runs_expect h₅ (by decide) hv).bind (.pure _ _)

theorem headerDecl_begins {hd : Header} (hD : HeaderDecl us hd) : Begins (· = .header) us := by
  obtain ⟨h⟩ := hD
  simp only [kinds_cons_eq_cons, kinds_nil, and_true] at h
  exact ⟨_, _, rfl, h.1⟩

/-- On an item of the configuration its parser returns the item. -/
theorem runs_configItem {item : Config.Item} (hD : ConfigItem us item) (hv : vs ≠ []) :
    Runs (configItem : Parser σ Config.Item) (us ++ vs) item vs := by
  unfold configItem
  cases hD with
  | @baseUrl kw eq url semi h =>
    simp only [kinds_cons_eq_cons, kinds_nil, and_true] at h
    obtain ⟨h₁, h₂, h₃, h₄⟩ := h
    apply runs_kind_bind
    rw [if_pos h₁]
    refine (runs_advance (by rw [h₁]; decide) (by simp)).bind ?_
    refine (runs_expect h₂ (by decide) (by simp)).bind ?_
    refine (runs_expect h₃ (by decide) (by simp)).bind ?_
    exact (runs_expect h₄ (by decide) hv).bind (.pure _ _)
  | @header us hd h =>
    obtain ⟨t, rest, rfl, ht⟩ := headerDecl_begins h
    apply runs_kind_bind
    rw [if_neg (by rw [ht]; decide)]
    exact (runs_header h hv).bind (.pure _ _)

/-- An item of the configuration begins with a token on which the loop goes on. -/
theorem configItem_begins {item : Config.Item} (hD : ConfigItem us item) :
    Begins (fun k => (decide (k = .baseUrl ∨ k = .header)) = true) us := by
  cases hD with
  | baseUrl h =>
    simp only [kinds_cons_eq_cons, kinds_nil, and_true] at h
    exact ⟨_, _, rfl, by simp [h.1]⟩
  | header h =>
    obtain ⟨t, rest, rfl, ht⟩ := headerDecl_begins h
    exact ⟨t, rest, rfl, by simp [ht]⟩

theorem ne_nil_of_begins {P : Kind → Prop} (h : Begins P vs) : vs ≠ [] := by
  obtain ⟨t, rest, rfl, -⟩ := h
  simp

/-- On a configuration its parser returns it. -/
theorem runs_config {c : Config} (hD : ConfigBlock us c) (hv : vs ≠ []) :
    Runs (config : Parser σ Config) (us ++ vs) c vs := by
  obtain @⟨kw, left, right, ts, items, h, hi⟩ := hD
  simp only [kinds_cons_eq_cons, kinds_nil, and_true] at h
  obtain ⟨h₁, h₂, h₃⟩ := h
  unfold config
  simp only [List.cons_append, List.append_assoc, List.nil_append]
  refine (runs_expect h₁ (by decide) (by simp)).bind ?_
  refine (runs_expect h₂ (by decide) (by simp)).bind ?_
  refine Runs.bind (runs_many (Q := fun _ => True) (fun _ _ => configItem_begins)
    (fun _ _ _ hD hb => runs_configItem hD (ne_nil_of_begins hb)) (fun _ _ => trivial) hi
    ⟨right, vs, rfl, trivial, by rw [h₃]; decide⟩) ?_
  refine (runs_close h₃ (by decide) hv).bind ?_
  rw [Config.foldl_add]
  simpa [Headers.ofList] using Runs.pure _ vs

/-- The configuration is read if it is there; else nothing is taken, as what follows is none. -/
theorem runs_config? {c : Option Config} (hD : ConfigOption us c)
    (hv : Begins (· ≠ .config) vs) :
    Runs (config? : Parser σ (Option Config)) (us ++ vs) c vs := by
  unfold config?
  cases hD with
  | none =>
    obtain ⟨t, rest, rfl, ht⟩ := hv
    apply runs_kind_bind
    rw [if_neg ht]
    exact .pure _ _
  | @some us c h =>
    -- the run is kept before the tokens are taken apart to see the first of them
    have hr := runs_config (σ := σ) h (ne_nil_of_begins hv)
    obtain @⟨kw, left, right, ts, items, hk, hi⟩ := h
    simp only [kinds_cons_eq_cons, kinds_nil, and_true] at hk
    apply runs_kind_bind
    rw [if_pos hk.1]
    exact hr.bind (.pure _ _)

theorem variableDecl_begins {v : Variable} (hD : VariableDecl us v) : Begins (· = .letVar) us := by
  obtain ⟨h, -⟩ := hD
  simp only [kinds_cons_eq_cons, kinds_nil, and_true] at h
  exact ⟨_, _, rfl, h.1⟩

/-- On a variable declaration the parser of variables returns the variable. -/
theorem runs_variableDecl {v : Variable} (hD : VariableDecl us v) (hv : vs ≠ []) :
    Runs (variableDecl : Parser σ Variable) (us ++ vs) v vs := by
  obtain @⟨kw, name, eq, value, semi, h, hval⟩ := hD
  simp only [kinds_cons_eq_cons, kinds_nil, and_true] at h
  obtain ⟨h₁, h₂, h₃, h₄⟩ := h
  have hne : value.kind ≠ .eof := by rcases hval with hk | hk <;> rw [hk] <;> decide
  unfold variableDecl
  refine (runs_expect h₁ (by decide) (by simp)).bind ?_
  refine (runs_expect h₂ (by decide) (by simp)).bind ?_
  refine (runs_expect h₃ (by decide) (by simp)).bind ?_
  apply runs_kind_bind
  simp only [if_pos hval]
  refine (runs_advance hne (by simp)).bind ?_
  exact (runs_expect h₄ (by decide) hv).bind (.pure _ _)

/-! ### Skipped items -/

theorem ne_eof_of_isPlain {k : Kind} (h : k.isPlain = true) : k ≠ .eof := by
  intro he
  rw [he] at h
  exact absurd h (by decide)

/-- A run of plain tokens is taken as a whole, up to the first token that is not plain. -/
theorem runs_plain {run : List Token} (hp : Plain run) (hv : Begins (·.isPlain = false) vs) :
    Runs (many Kind.isPlain advance : Parser σ (List Token)) (run ++ vs) run vs := by
  induction run with
  | nil => exact runs_many_nil hv
  | cons t run ih =>
    have ht : t.kind.isPlain = true := hp t (by simp)
    refine runs_many_cons ⟨t, run ++ vs, rfl, ht⟩ (runs_advance (ne_eof_of_isPlain ht) ?_) (by simp)
      (ih fun u hu => hp u (by simp [hu]))
    simp [ne_nil_of_begins hv]

/-- The brace that closes the last open one is where the loop stops. -/
theorem runs_closeBraces_last {d : Nat} (hk : t.kind ≠ .eof) (hd : depthAfter d t.kind = 0)
    (hv : vs ≠ []) : Runs (closeBraces d : Parser σ Nat) (t :: vs) t.stop vs := by
  intro s e hs
  obtain ⟨s₁, h₁, hs₁, hle⟩ := runs_advance hk hv hs
  refine ⟨s₁, ?_, hs₁, hle⟩
  unfold closeBraces
  rw [hs.current_eq, if_neg hk, h₁]
  simp only [hd, if_true]

/-- Any other token is taken, and the loop goes on at the depth after it. -/
theorem runs_closeBraces_step {d n : Nat} (hk : t.kind ≠ .eof) (hd : depthAfter d t.kind ≠ 0)
    (hu : us ≠ []) (h : Runs (closeBraces (depthAfter d t.kind) : Parser σ Nat) us n vs) :
    Runs (closeBraces d : Parser σ Nat) (t :: us) n vs := by
  intro s e hs
  obtain ⟨s₁, h₁, hs₁, hle₁⟩ := runs_advance hk hu hs
  obtain ⟨s₂, h₂, hs₂, hle₂⟩ := h hs₁
  refine ⟨s₂, ?_, hs₂, by omega⟩
  unfold closeBraces
  rw [hs.current_eq, if_neg hk, h₁]
  have hlt : s₁.remaining < s.remaining := by
    simp only [List.length_cons] at hle₁
    omega
  simp only [hd, if_false, hlt, if_true, h₂]

/-- **Balanced tokens leave the number of open braces as it is.** -/
theorem runs_balanced {inner : List Token} {n stop : Nat} (hi : Balanced inner) (hu : us ≠ [])
    (h : Runs (closeBraces (n + 1) : Parser σ Nat) us stop vs) :
    Runs (closeBraces (n + 1) : Parser σ Nat) (inner ++ us) stop vs := by
  induction hi generalizing n us stop vs with
  | nil => exact h
  | @token t ts hl hr he _ ih =>
    have hd : depthAfter (n + 1) t.kind = n + 1 := by
      unfold depthAfter
      split <;> simp_all
    refine runs_closeBraces_step he (by omega) (by simp [hu]) ?_
    rw [hd]
    exact ih hu h
  | @group left right inner ts hl _ hr _ ih₁ ih₂ =>
    rw [List.cons_append, List.append_assoc, List.cons_append]
    -- one level deeper up to `right`, and back for the rest
    have hright : Runs (closeBraces (n + 2) : Parser σ Nat) (right :: (ts ++ us)) stop vs := by
      refine runs_closeBraces_step (by rw [hr]; decide) ?_ (by simp [hu]) ?_
      · rw [hr]; simp [depthAfter]
      · rw [hr]; exact ih₂ hu h
    refine runs_closeBraces_step (by rw [hl]; decide) ?_ (by simp) ?_
    · rw [hl]; simp [depthAfter]
    · rw [hl]; exact ih₁ (by simp) hright

/-- A group in braces is taken as a whole, and its end is that of its last brace. -/
theorem runs_group {left right : Token} {inner : List Token} (hl : left.kind = .leftBrace)
    (hi : Balanced inner) (hr : right.kind = .rightBrace) (hv : vs ≠ []) :
    Runs (closeBraces 0 : Parser σ Nat) (left :: (inner ++ right :: vs)) right.stop vs := by
  refine runs_closeBraces_step (by rw [hl]; decide) ?_ (by simp) ?_
  · rw [hl]; simp [depthAfter]
  · rw [hl]
    refine runs_balanced (n := 0) hi (by simp) (runs_closeBraces_last (by rw [hr]; decide) ?_ hv)
    rw [hr]; rfl

/-- A `;` ends a skipped item. -/
theorem runs_skipEnd_semicolon {semi : Token} (stop : Nat) (hs : semi.kind = .semicolon)
    (hv : vs ≠ []) : Runs (skipEnd stop : Parser σ Nat) (semi :: vs) semi.stop vs := by
  unfold skipEnd
  apply runs_kind_bind
  rw [hs]
  exact (runs_advance (by rw [hs]; decide) hv).bind (.pure _ _)

/-- A group in braces ends a skipped item, and a `;` behind it is taken with it. -/
theorem runs_skipEnd_group {left right : Token} {inner semi : List Token} (stop : Nat)
    (hl : left.kind = .leftBrace) (hi : Balanced inner) (hr : right.kind = .rightBrace)
    (hs : SemicolonOption semi) (hv : Begins (fun k => semi = [] → k ≠ .semicolon) vs) :
    ∃ n, Runs (skipEnd stop : Parser σ Nat) (left :: (inner ++ right :: (semi ++ vs))) n vs := by
  have hne := ne_nil_of_begins hv
  unfold skipEnd
  cases hs with
  | none =>
    obtain ⟨t, rest, rfl, ht⟩ := hv
    refine ⟨right.stop, runs_kind_bind ?_⟩
    rw [hl]
    refine (runs_group hl hi hr (by simp)).bind (runs_kind_bind ?_)
    rw [if_neg (ht rfl)]
    exact .pure _ _
  | @some semi hk =>
    refine ⟨semi.stop, runs_kind_bind ?_⟩
    rw [hl]
    refine (runs_group hl hi hr (by simp)).bind (runs_kind_bind ?_)
    rw [if_pos hk]
    exact (runs_advance (by rw [hk]; decide) hne).bind (.pure _ _)

/-- Before the brace that closes the block, nothing is taken. -/
theorem runs_skipEnd_rightBrace {right : Token} (stop : Nat) (hr : right.kind = .rightBrace) :
    Runs (skipEnd stop : Parser σ Nat) (right :: vs) stop (right :: vs) := by
  unfold skipEnd
  apply runs_kind_bind
  rw [hr]
  exact .pure _ _

/-- A skipped item is a run of plain tokens and what ends it. -/
theorem runs_skipItem {run : List Token} (hp : Plain run) (hu : Begins (·.isPlain = false) us)
    (hend : ∀ stop, ∃ n, Runs (skipEnd stop : Parser σ Nat) us n vs) :
    Runs (skipItem : Parser σ Unit) (run ++ us) () vs := by
  unfold skipItem
  refine runs_get_bind fun s => ?_
  refine (runs_plain hp hu).bind ?_
  obtain ⟨n, hn⟩ := hend (run.getLast?.getD s.current).stop
  exact hn.bind (runs_warn _ _)

/-! ### Requests -/

theorem bodyDecl_begins {text : String} (hD : BodyDecl us text) : Begins (· = .body) us := by
  obtain ⟨h⟩ := hD
  simp only [kinds_cons_eq_cons, kinds_nil, and_true] at h
  exact ⟨_, _, rfl, h.1⟩

/-- On the body of a request its parser returns the text, for any method. -/
theorem runs_body (m : Method) {text : String} (hD : BodyDecl us text) (hv : vs ≠ []) :
    Runs (body m : Parser σ String) (us ++ vs) text vs := by
  obtain @⟨kw, eq, value, semi, h⟩ := hD
  simp only [kinds_cons_eq_cons, kinds_nil, and_true] at h
  obtain ⟨h₁, h₂, h₃, h₄⟩ := h
  unfold body
  refine (runs_expect h₁ (by decide) (by simp)).bind ?_
  refine (runs_expect h₂ (by decide) (by simp)).bind ?_
  refine (runs_expect h₃ (by decide) (by simp)).bind ?_
  refine (runs_expect h₄ (by decide) hv).bind ?_
  cases m.sendsBody
  · exact (runs_warn _ _).bind (.pure _ _)
  · exact .pure _ _

/-- A header declaration in a block is read as such. -/
theorem runs_blockItem_header (m : Method) {hd : Header} (hD : HeaderDecl us hd) (hv : vs ≠ []) :
    Runs (blockItem m : Parser σ Request.Item) (us ++ vs) (.header hd) vs := by
  obtain ⟨t, rest, rfl, ht⟩ := headerDecl_begins hD
  unfold blockItem
  apply runs_kind_bind
  rw [ht]
  exact (runs_header hD hv).bind (.pure _ _)

/-- A body in a block is read as such. -/
theorem runs_blockItem_body (m : Method) {text : String} (hD : BodyDecl us text) (hv : vs ≠ []) :
    Runs (blockItem m : Parser σ Request.Item) (us ++ vs) (.body text) vs := by
  obtain ⟨t, rest, rfl, ht⟩ := bodyDecl_begins hD
  unfold blockItem
  apply runs_kind_bind
  rw [ht]
  exact (runs_body m hD hv).bind (.pure _ _)

/-- What begins with neither is read as a skipped item. -/
theorem runs_blockItem_skipped (m : Method) (hb : Begins Unknown ts)
    (h : Runs (skipItem : Parser σ Unit) ts () vs) :
    Runs (blockItem m : Parser σ Request.Item) ts .skipped vs := by
  obtain ⟨t, rest, rfl, hh, hbody, -⟩ := hb
  intro s e hs
  rw [blockItem_of_unknown (by rw [hs.current_eq]; exact hh) (by rw [hs.current_eq]; exact hbody)]
  have hitem : Runs (skipItem >>= fun _ => pure .skipped : Parser σ Request.Item) (t :: rest)
      .skipped vs := h.bind (.pure _ _)
  exact hitem hs

/-- A skipped item is not empty and does not begin at the end of the text. -/
theorem skipped_begins (h : Skipped ts) : Begins (· ≠ .eof) ts := by
  cases h with
  | @semicolon run semi hp hs =>
    cases run with
    | nil => exact ⟨semi, [], rfl, by rw [hs]; decide⟩
    | cons t run => exact ⟨t, _, rfl, ne_eof_of_isPlain (hp t (by simp))⟩
  | @group run inner semi left right hp hl hi hr hs =>
    cases run with
    | nil => exact ⟨left, _, rfl, by rw [hl]; decide⟩
    | cons t run => exact ⟨t, _, rfl, ne_eof_of_isPlain (hp t (by simp))⟩

theorem plain_begins (hb : Begins Unknown ts) (hp : Plain ts) : Begins (· ≠ .eof) ts := by
  obtain ⟨t, rest, rfl, -⟩ := hb
  exact ⟨t, rest, rfl, ne_eof_of_isPlain (hp t (by simp))⟩

/-- A `;` where an item could begin is an item by itself. -/
theorem BlockItems.of_semicolon {items : List Request.Item} {semi : Token}
    (hs : semi.kind = .semicolon) (hD : BlockItems (semi :: us) items) : BlockItems us items := by
  have hplain : ∀ run rest : List Token, Plain run → run ++ rest = semi :: us → run = [] := by
    intro run rest hp heq
    cases run with
    | nil => rfl
    | cons t run =>
      have ht := hp t (by simp)
      rw [(List.cons.inj heq).1, hs] at ht
      exact absurd ht (by decide)
  -- of all items only a run that is empty up to its `;` begins with one
  generalize hts : semi :: us = ts at hD
  cases hD with
  | nil => cases hts
  | header h =>
    obtain ⟨t, rest, rfl, ht⟩ := headerDecl_begins h
    rw [← (List.cons.inj hts).1, hs] at ht
    cases ht
  | body h =>
    obtain ⟨t, rest, rfl, ht⟩ := bodyDecl_begins h
    rw [← (List.cons.inj hts).1, hs] at ht
    cases ht
  | skipped hb h hs' =>
    cases h with
    | @semicolon run semi' hp hk =>
      obtain rfl := hplain run _ hp (by rw [hts, List.append_assoc])
      obtain ⟨-, rfl⟩ := List.cons.inj hts
      exact hs'
    | @group run inner semi' left right hp hl hi hr hk =>
      obtain rfl := hplain run _ hp (by rw [hts, List.append_assoc])
      rw [← (List.cons.inj hts).1, hs] at hl
      cases hl
  | unended hb hp =>
    rw [hplain ts [] hp (by rw [hts, List.append_nil])] at hts
    cases hts

/-- On an unknown item the loop over a block goes on. -/
theorem begins_more (hb : Begins Unknown ts) (he : Begins (· ≠ .eof) ts) :
    Begins (blockMore ·) ts := by
  obtain ⟨t, rest, rfl, -, -, hr⟩ := hb
  obtain ⟨t', rest', ht, he⟩ := he
  obtain ⟨rfl, rfl⟩ := List.cons.inj ht
  exact ⟨t, rest, rfl, by simp [hr, he]⟩

theorem begins_append {P : Kind → Prop} (h : Begins P ts) : Begins P (ts ++ us) := by
  obtain ⟨t, rest, rfl, ht⟩ := h
  exact ⟨t, rest ++ us, rfl, ht⟩

theorem begins_mono {P Q : Kind → Prop} (h : Begins P ts) (hPQ : ∀ k, P k → Q k) : Begins Q ts := by
  obtain ⟨t, rest, rfl, ht⟩ := h
  exact ⟨t, rest, rfl, hPQ _ ht⟩

theorem begins_append_right {right : Token} (us : List Token) :
    Begins (fun _ => True) (us ++ right :: vs) := by
  cases us with
  | nil => exact ⟨right, vs, rfl, trivial⟩
  | cons u us => exact ⟨u, us ++ right :: vs, rfl, trivial⟩

/-- What tokens begin with does not depend on what follows one of them. -/
theorem begins_append_cons {P : Kind → Prop} {run xs ys : List Token}
    (h : Begins P (run ++ t :: xs)) : Begins P (run ++ t :: ys) := by
  obtain ⟨u, rest, hu, hP⟩ := h
  cases run with
  | nil => exact ⟨t, ys, rfl, by rw [(List.cons.inj hu).1]; exact hP⟩
  | cons v run => exact ⟨v, run ++ t :: ys, rfl, by rw [(List.cons.inj hu).1]; exact hP⟩

/-- A skipped item that a `;` ends. -/
theorem runs_blockItem_semicolon (m : Method) {run : List Token} {semi : Token} (hp : Plain run)
    (hs : semi.kind = .semicolon) (hb : Begins Unknown (run ++ [semi])) (hv : vs ≠ []) :
    Runs (blockItem m : Parser σ Request.Item) (run ++ [semi] ++ vs) .skipped vs := by
  refine runs_blockItem_skipped m (begins_append hb) ?_
  rw [List.append_assoc]
  exact runs_skipItem hp ⟨semi, vs, rfl, by rw [hs]; decide⟩
    fun stop => ⟨semi.stop, runs_skipEnd_semicolon stop hs hv⟩

/-- A skipped item that a group in braces ends. -/
theorem runs_blockItem_group (m : Method) {run inner semi : List Token} {left right : Token}
    (hp : Plain run) (hl : left.kind = .leftBrace) (hi : Balanced inner)
    (hr : right.kind = .rightBrace) (hs : SemicolonOption semi)
    (hb : Begins Unknown (run ++ left :: (inner ++ right :: semi)))
    (hv : Begins (fun k => semi = [] → k ≠ .semicolon) vs) :
    Runs (blockItem m : Parser σ Request.Item) (run ++ left :: (inner ++ right :: semi) ++ vs)
      .skipped vs := by
  refine runs_blockItem_skipped m (begins_append hb) ?_
  simp only [List.append_assoc, List.cons_append]
  exact runs_skipItem hp ⟨left, _, rfl, by rw [hl]; decide⟩
    fun stop => runs_skipEnd_group stop hl hi hr hs hv

/-- A run that nothing ends, before the brace that closes the block. -/
theorem runs_blockItem_unended (m : Method) {right : Token} (hb : Begins Unknown us) (hp : Plain us)
    (hr : right.kind = .rightBrace) :
    Runs (blockItem m : Parser σ Request.Item) (us ++ right :: vs) .skipped (right :: vs) :=
  runs_blockItem_skipped m (begins_append hb) (runs_skipItem hp ⟨right, vs, rfl, by rw [hr]; decide⟩
    fun stop => ⟨stop, runs_skipEnd_rightBrace stop hr⟩)

/-- **The items of a block are read**, in the parser's own division into items. -/
theorem runs_blockItems (m : Method) (vs : List Token) {items : List Request.Item} {right : Token}
    (hr : right.kind = .rightBrace) (hD : BlockItems us items) :
    ∃ all, Runs (many blockMore (blockItem m) : Parser σ (List Request.Item))
      (us ++ right :: vs) all (right :: vs) ∧ all.filter (· ≠ .skipped) = items := by
  induction hn : us.length using Nat.strongRecOn generalizing us items with
  | ind n ih =>
  -- an item that is read leaves fewer tokens, from which the rest of the block is read
  have step : ∀ {ts ws : List Token} {item : Request.Item} {rest : List Request.Item},
      (ts ++ ws).length = n → Begins (blockMore ·) ts →
      Runs (blockItem m : Parser σ Request.Item) (ts ++ (ws ++ right :: vs)) item
        (ws ++ right :: vs) → BlockItems ws rest →
      ∃ all, Runs (many blockMore (blockItem m) : Parser σ (List Request.Item))
        (ts ++ ws ++ right :: vs) all (right :: vs) ∧
          all.filter (· ≠ .skipped) = [item].filter (· ≠ .skipped) ++ rest := by
    intro ts ws item rest hlen hb hitem hrest
    have hpos : 0 < ts.length := List.length_pos_iff.2 (ne_nil_of_begins hb)
    rw [List.length_append] at hlen
    obtain ⟨all, hall, hkept⟩ := ih ws.length (by omega) hrest rfl
    refine ⟨item :: all, ?_, ?_⟩
    · rw [List.append_assoc]
      refine runs_many_cons (begins_append hb) hitem ?_ hall
      have hsplit : (ts ++ (ws ++ right :: vs)).length = ts.length + (ws ++ right :: vs).length :=
        List.length_append
      omega
    · rw [← hkept, ← List.filter_append]
      rfl
  cases hD with
  | nil => exact ⟨[], runs_many_nil ⟨right, vs, rfl, by rw [hr]; decide⟩, rfl⟩
  | header h hs =>
    obtain ⟨t, tl, rfl, ht⟩ := headerDecl_begins h
    exact step hn ⟨t, tl, rfl, by rw [ht]; decide⟩ (runs_blockItem_header m h (by simp)) hs
  | body h hs =>
    obtain ⟨t, tl, rfl, ht⟩ := bodyDecl_begins h
    exact step hn ⟨t, tl, rfl, by rw [ht]; decide⟩ (runs_blockItem_body m h (by simp)) hs
  | @skipped ts ws items hb h hs =>
    have hmore := begins_more hb (skipped_begins h)
    cases h with
    | semicolon hp hk => exact step hn hmore (runs_blockItem_semicolon m hp hk hb (by simp)) hs
    | @group run inner semi left right' hp hl hi hr' hk =>
      cases hk with
      | some hk =>
        exact step hn hmore (runs_blockItem_group m hp hl hi hr' (.some hk) hb
          (begins_mono (begins_append_right ws) (by simp))) hs
      | none =>
        cases ws with
        | nil =>
          exact step hn hmore (runs_blockItem_group m hp hl hi hr' .none hb
            ⟨right, vs, rfl, fun _ => by rw [hr]; decide⟩) hs
        | cons w ws =>
          by_cases hw : w.kind = .semicolon
          · -- the parser takes this `;` with the group
            have hcut : run ++ left :: (inner ++ [right']) ++ w :: ws =
                run ++ left :: (inner ++ right' :: [w]) ++ ws := by simp
            rw [hcut] at hn ⊢
            exact step hn (begins_append_cons hmore)
              (runs_blockItem_group m hp hl hi hr' (.some hw) (begins_append_cons hb)
                (begins_mono (begins_append_right ws) (by simp)))
              (BlockItems.of_semicolon hw hs)
          · exact step hn hmore (runs_blockItem_group m hp hl hi hr' .none hb
              ⟨w, ws ++ right :: vs, rfl, fun _ => hw⟩) hs
  | unended hb hp =>
    have hlen : (us ++ []).length = n := by rw [List.append_nil]; exact hn
    have hall := step hlen (begins_more hb (plain_begins hb hp))
      (runs_blockItem_unended m hb hp hr) .nil
    simpa using hall

/-- On a block its parser returns the items of the grammar, and skipped ones between them. -/
theorem runs_block (m : Method) {items : List Request.Item} (hD : BlockOption us items)
    (hv : Begins (· ≠ .leftBrace) vs) :
    ∃ all, Runs (block m : Parser σ (List Request.Item)) (us ++ vs) all vs ∧
      all.filter (· ≠ .skipped) = items := by
  unfold block
  cases hD with
  | none =>
    obtain ⟨t, rest, rfl, ht⟩ := hv
    refine ⟨[], runs_kind_bind ?_, rfl⟩
    rw [if_neg ht]
    exact .pure _ _
  | @some left right ts items hl hi hr =>
    obtain ⟨all, hall, hkept⟩ := runs_blockItems (σ := σ) m vs hr hi
    refine ⟨all, ?_, hkept⟩
    simp only [List.cons_append, List.append_assoc, List.nil_append]
    apply runs_kind_bind
    rw [if_pos hl]
    refine (runs_advance (by rw [hl]; decide) (by simp)).bind (hall.bind ?_)
    exact (runs_expect hr (by decide) (ne_nil_of_begins hv)).bind (.pure _ _)

/-- What may follow a request: neither a block nor a `;`, which it would take for its own. -/
def AfterRequest (k : Kind) : Prop := k ≠ .leftBrace ∧ k ≠ .semicolon

/-- On a request its parser returns it, if what follows cannot be taken for a part of it. -/
theorem runs_request {r : Request} (hD : RequestDecl us r) (hv : Begins AfterRequest vs) :
    Runs (request : Parser σ Request) (us ++ vs) r vs := by
  obtain @⟨m, kw, path, block, semi, items, h, hB, hS⟩ := hD
  simp only [kinds_cons_eq_cons, kinds_nil, and_true] at h
  obtain ⟨h₁, h₂⟩ := h
  -- no block follows a request without one, with or without its `;`
  have hnext : Begins (· ≠ .leftBrace) (semi ++ vs) := by
    cases hS with
    | none => exact begins_mono hv fun _ hk => hk.1
    | some hs => exact ⟨_, vs, rfl, by rw [hs]; decide⟩
  obtain ⟨all, hall, hkept⟩ := runs_block (σ := σ) m hB hnext
  have hm : kw.kind.method? = some m := by rw [h₁]; rfl
  unfold request
  simp only [List.cons_append, List.append_assoc]
  apply runs_kind_bind
  rw [hm]
  refine (runs_advance (by rw [h₁]; simp) (by simp)).bind ?_
  refine (runs_expect h₂ (by decide) (by simp [ne_nil_of_begins hv])).bind ?_
  refine hall.bind ?_
  rw [Request.foldl_add, ← Request.Item.filterMap_header?_kept, ← Request.Item.filterMap_body?_kept,
    hkept]
  cases hS with
  | none =>
    obtain ⟨t, rest, rfl, ht⟩ := hv
    apply runs_kind_bind
    rw [if_neg ht.2]
    simpa [Headers.ofList] using Runs.pure _ _
  | some hs =>
    apply runs_kind_bind
    rw [if_pos hs]
    refine (runs_advance (by rw [hs]; decide) (ne_nil_of_begins hv)).bind ?_
    simpa [Headers.ofList] using Runs.pure _ vs

theorem requestDecl_begins {r : Request} (hD : RequestDecl us r) :
    Begins (·.method?.isSome) us := by
  obtain ⟨h, -, -⟩ := hD
  simp only [kinds_cons_eq_cons, kinds_nil, and_true] at h
  exact ⟨_, _, rfl, by rw [h.1]; rfl⟩

/-! ### Assertions and tests -/

/-- An assertion begins with a token on which the loop over assertions goes on. -/
theorem assertionDecl_begins {a : Assertion} (hD : AssertionDecl us a) :
    Begins (fun k => decide (k = .expect)) us := by
  cases hD with
  | status h | headerEquals h | headerContains h | bodyContains h =>
    simp only [kinds_cons_eq_cons, kinds_nil, and_true] at h
    exact ⟨_, _, rfl, by rw [h.1]; decide⟩

/-- On an assertion its parser returns it. -/
theorem runs_assertion {a : Assertion} (hD : AssertionDecl us a) (hv : vs ≠ []) :
    Runs (assertion : Parser σ Assertion) (us ++ vs) a vs := by
  unfold assertion expectation
  cases hD with
  | status h hc =>
    simp only [kinds_cons_eq_cons, kinds_nil, and_true] at h
    obtain ⟨h₁, h₂, h₃, h₄, h₅⟩ := h
    refine (runs_expect h₁ (by decide) (by simp)).bind (Runs.bind (runs_kind_bind ?_)
      ((runs_expect h₅ (by decide) hv).bind (.pure _ _)))
    rw [h₂]
    refine (runs_advance (by rw [h₂]; decide) (by simp)).bind ?_
    refine (runs_expect h₃ (by decide) (by simp)).bind ?_
    refine (runs_expect h₄ (by decide) (by simp)).bind ?_
    rw [if_pos (by omega)]
    exact .pure _ _
  | headerEquals h | headerContains h =>
    -- the two differ in the token between the name and the value only
    simp only [kinds_cons_eq_cons, kinds_nil, and_true] at h
    obtain ⟨h₁, h₂, h₃, h₄, h₅, h₆⟩ := h
    refine (runs_expect h₁ (by decide) (by simp)).bind (Runs.bind (runs_kind_bind ?_)
      ((runs_expect h₆ (by decide) hv).bind (.pure _ _)))
    rw [h₂]
    refine (runs_advance (by rw [h₂]; decide) (by simp)).bind ?_
    refine (runs_expect h₃ (by decide) (by simp)).bind (runs_kind_bind ?_)
    rw [h₄]
    refine (runs_advance (by rw [h₄]; decide) (by simp)).bind ?_
    exact (runs_expect h₅ (by decide) (by simp)).bind (.pure _ _)
  | bodyContains h =>
    simp only [kinds_cons_eq_cons, kinds_nil, and_true] at h
    obtain ⟨h₁, h₂, h₃, h₄, h₅⟩ := h
    refine (runs_expect h₁ (by decide) (by simp)).bind (Runs.bind (runs_kind_bind ?_)
      ((runs_expect h₅ (by decide) hv).bind (.pure _ _)))
    rw [h₂]
    refine (runs_advance (by rw [h₂]; decide) (by simp)).bind ?_
    refine (runs_expect h₃ (by decide) (by simp)).bind ?_
    exact (runs_expect h₄ (by decide) (by simp)).bind (.pure _ _)

/-- What may follow a statement: what may follow its request, and no assertion. -/
def AfterStatement (k : Kind) : Prop := AfterRequest k ∧ k ≠ .expect

/-- On a statement its parser returns it, if neither a part of the request nor another assertion
follows. -/
theorem runs_statement {st : Statement} (hD : StatementDecl us st)
    (hv : Begins AfterStatement vs) :
    Runs (statement : Parser σ Statement) (us ++ vs) st vs := by
  -- the request and its assertions, of which there may be none
  have key : ∀ {ts ws : List Token} {r : Request} {as : List Assertion}, RequestDecl ts r →
      Many AssertionDecl ws as →
      Runs (statement : Parser σ Statement) (ts ++ (ws ++ vs)) (.of r as) vs := by
    intro ts ws r as hr ha
    have hnext : Begins AfterRequest (ws ++ vs) := by
      cases ha with
      | nil => exact begins_mono hv fun _ hk => hk.1
      | cons h _ =>
        obtain ⟨t, rest, rfl, ht⟩ := assertionDecl_begins h
        have hk : t.kind = .expect := by simpa using ht
        exact ⟨t, _, rfl, by rw [hk]; exact ⟨by decide, by decide⟩⟩
    unfold statement
    refine (runs_request hr hnext).bind (Runs.bind ?_ (.pure _ _))
    refine runs_many (Q := fun _ => True) (fun _ _ => assertionDecl_begins)
      (fun _ _ _ hD hb => runs_assertion hD (ne_nil_of_begins hb)) (fun _ _ => trivial) ha ?_
    exact begins_mono hv fun _ hk => ⟨trivial, by simp [hk.2]⟩
  cases hD with
  | request h => exact key h .nil
  | @checked ts ws r as h ha hne =>
    obtain ⟨a, as, rfl⟩ := List.exists_cons_of_ne_nil hne
    rw [List.append_assoc]
    exact key h ha

/-- A statement begins with a method, as its request does. -/
theorem statementDecl_begins {st : Statement} (hD : StatementDecl us st) :
    Begins (·.method?.isSome) us := by
  cases hD with
  | request h => exact requestDecl_begins h
  | checked h => exact begins_append (requestDecl_begins h)

/-- The next statement can follow a statement. -/
theorem afterStatement_of_method {k : Kind} (h : k.method?.isSome) : AfterStatement k := by
  obtain ⟨m, hm⟩ := Option.isSome_iff_exists.1 h
  rw [Token.Kind.method?_eq_some hm]
  exact ⟨⟨by simp, by simp⟩, by simp⟩

theorem testDecl_begins {t : Test} (hD : TestDecl us t) :
    Begins (fun k => decide (k = .test)) us := by
  obtain ⟨h, -⟩ := hD
  simp only [kinds_cons_eq_cons, kinds_nil, and_true] at h
  exact ⟨_, _, rfl, by rw [h.1]; decide⟩

/-- On a test its parser returns it. -/
theorem runs_test {t : Test} (hD : TestDecl us t) (hv : vs ≠ []) :
    Runs (test : Parser σ Test) (us ++ vs) t vs := by
  obtain @⟨kw, name, left, right, ts, statements, h, hs⟩ := hD
  simp only [kinds_cons_eq_cons, kinds_nil, and_true] at h
  obtain ⟨h₁, h₂, h₃, h₄⟩ := h
  unfold test
  simp only [List.cons_append, List.append_assoc, List.nil_append]
  refine (runs_expect h₁ (by decide) (by simp)).bind ?_
  refine (runs_expect h₂ (by decide) (by simp)).bind ?_
  refine (runs_expect h₃ (by decide) (by simp)).bind ?_
  refine Runs.bind (runs_many (fun _ _ => statementDecl_begins) (fun _ _ _ => runs_statement)
    (fun _ => afterStatement_of_method) hs ⟨right, vs, rfl, ?_, by rw [h₄]; rfl⟩) ?_
  · rw [h₄]; exact ⟨⟨by decide, by decide⟩, by decide⟩
  · exact (runs_close h₄ (by decide) hv).bind (.pure _ _)

/-- **On the tokens of a test description the parser returns its suite.** -/
theorem runs_suite {suite : Suite} (hD : File ts suite) :
    ∃ vs, Runs (Parser.suite : Parser σ Suite) ts suite vs := by
  obtain @⟨cs, vs, us, eof, config, vars, tests, hc, hv, ht, he⟩ := hD
  refine ⟨[eof], ?_⟩
  -- each part is followed by the next one that is there
  have ht' : Begins (fun k => k = .test ∨ k = .eof) (us ++ [eof]) := by
    cases ht with
    | nil => exact ⟨eof, [], rfl, .inr he⟩
    | cons h _ =>
      obtain ⟨t, rest, rfl, hk⟩ := testDecl_begins h
      exact ⟨t, _, rfl, .inl (by simpa using hk)⟩
  have hv' : Begins (· ≠ .config) (vs ++ (us ++ [eof])) := by
    cases hv with
    | nil =>
      refine begins_mono ht' fun k hk => ?_
      rcases hk with rfl | rfl <;> decide
    | cons h _ =>
      obtain ⟨t, rest, rfl, hk⟩ := variableDecl_begins h
      exact ⟨t, _, rfl, by rw [hk]; decide⟩
  unfold Parser.suite
  simp only [List.append_assoc]
  refine (runs_config? hc hv').bind ?_
  refine Runs.bind (runs_many (Q := fun _ => True)
    (fun _ _ h => begins_mono (variableDecl_begins h) (by simp))
    (fun _ _ _ hD hb => runs_variableDecl hD (ne_nil_of_begins hb)) (fun _ _ => trivial) hv
    (begins_mono ht' fun k hk => ⟨trivial, by rcases hk with rfl | rfl <;> decide⟩)) ?_
  refine Runs.bind (runs_many (Q := fun _ => True) (fun _ _ => testDecl_begins)
    (fun _ _ _ hD hb => runs_test hD (ne_nil_of_begins hb)) (fun _ _ => trivial) ht
    ⟨eof, [], rfl, trivial, by rw [he]; decide⟩) ?_
  exact (runs_close_eof he).bind (.pure _ _)

end Parser

end HttpSuite
