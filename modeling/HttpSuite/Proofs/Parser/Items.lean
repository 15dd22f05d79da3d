import HttpSuite.Proofs.Parser.Invariant

/-!
# The items of a block and their warnings

How a request block is divided into items, said without a parser, and which warning an item gives.
The grammar leaves some divisions open, since they do not matter to the suite; here each item is
taken as far as it goes, so that a `;` behind a skipped group belongs to the group.

* `Grammar.ItemBefore`: the tokens of one item, by what stands behind it.
* `Grammar.warningOn`: the warning on an item, if it gives one.
* `Parser.blockItem_divides`: the parser takes one item and raises just its warning.
* `Parser.blockItem_silent_of_error`: it raises none on an item that it does not come to the end of.
-/

namespace HttpSuite

open Token (Kind)

namespace Grammar

/-- A skipped item before the tokens `after`. -/
inductive SkippedBefore : List Token → List Token → Prop
  | semicolon {run after : List Token} {semi : Token} (hp : Plain run)
      (hs : semi.kind = .semicolon) : SkippedBefore (run ++ [semi]) after
  | group {run inner semi after : List Token} {left right : Token} (hp : Plain run)
      (hl : left.kind = .leftBrace) (hi : Balanced inner) (hr : right.kind = .rightBrace)
      (hs : SemicolonOption semi) (ha : semi = [] → ∀ t ∈ after.head?, t.kind ≠ .semicolon) :
      SkippedBefore (run ++ left :: (inner ++ right :: semi)) after
  | unended {run after : List Token} (hp : Plain run) (ha : Begins (· = .rightBrace) after) :
      SkippedBefore run after

/-- **An item of a request block** before the tokens `after`. -/
inductive ItemBefore : List Token → List Token → Prop
  | header {ts after : List Token} {hd : Header} (h : HeaderDecl ts hd) : ItemBefore ts after
  | body {ts after : List Token} {text : String} (h : BodyDecl ts text) : ItemBefore ts after
  | skipped {ts after : List Token} (hb : Begins Unknown ts) (h : SkippedBefore ts after) :
      ItemBefore ts after

/-- **The warning on an item** in the block of a request with the method `m`. A skipped item is
reported from the start of its first token to the end of its last one, a body that is not sent at
its keyword. -/
def warningOn (m : Method) : List Token → Option Warning
  | [] => none
  | first :: rest =>
    if first.kind = .header then none
    else if first.kind = .body then
      if m = .get ∨ m = .delete then some ⟨.unsentBody m, first.pos, first.stop⟩ else none
    else some ⟨.skippedItem first.kind first.text, first.pos, (rest.getLast?.getD first).stop⟩

/-- A header brings no warning. -/
theorem warningOn_header {m : Method} {ts : List Token} {hd : Header} (h : HeaderDecl ts hd) :
    warningOn m ts = none := by
  obtain ⟨h⟩ := h
  simp only [kinds_cons_eq_cons] at h
  rw [warningOn, if_pos h.1]

/-- A body brings one if the method is GET or DELETE. -/
theorem warningOn_body {m : Method} {first : Token} {rest : List Token} (hk : first.kind = .body) :
    warningOn m (first :: rest) =
      if m = .get ∨ m = .delete then some ⟨.unsentBody m, first.pos, first.stop⟩ else none := by
  rw [warningOn, if_neg (by rw [hk]; decide), if_pos hk]

/-- An unknown item brings one, from its first token to the end of its last. -/
theorem warningOn_skipped {m : Method} {first : Token} {rest : List Token}
    (hk : Unknown first.kind) :
    warningOn m (first :: rest) =
      some ⟨.skippedItem first.kind first.text, first.pos, (rest.getLast?.getD first).stop⟩ := by
  rw [warningOn, if_neg hk.1, if_neg hk.2.1]

/-- The warning on an item begins where its first token does, and ends where one of its tokens
does. -/
theorem exists_of_warningOn {m : Method} {item : List Token} {w : Warning}
    (h : warningOn m item = some w) : ∃ first rest last, item = first :: rest ∧
      last ∈ first :: rest ∧ w.pos = first.pos ∧ w.stop = last.stop := by
  cases item with
  | nil => cases h
  | cons first rest =>
    rw [warningOn] at h
    split at h
    · cases h
    · split at h
      · split at h
        · rw [← Option.some.inj h]
          exact ⟨first, rest, first, rfl, List.mem_cons_self, rfl, rfl⟩
        · cases h
      · rw [← Option.some.inj h]
        exact ⟨first, rest, rest.getLast?.getD first, rfl,
          List.mem_of_getLast? (List.getLast?_cons ..), rfl, rfl⟩

/-- An item begins with a token at which a block goes on. -/
theorem ItemBefore.begins {ts after : List Token} (h : ItemBefore ts after) :
    Begins (Parser.blockMore ·) ts := by
  cases h with
  | header h => exact Parser.begins_mono (Parser.headerDecl_begins h) (by rintro _ rfl; decide)
  | body h => exact Parser.begins_mono (Parser.bodyDecl_begins h) (by rintro _ rfl; decide)
  | skipped hb h =>
    refine Parser.begins_more hb ?_
    cases h with
    | semicolon hp hs => exact Parser.skipped_begins (.semicolon hp hs)
    | group hp hl hi hr hs => exact Parser.skipped_begins (.group hp hl hi hr hs)
    | unended hp => exact Parser.plain_begins hb hp

end Grammar

open Grammar

namespace Parser

variable {σ α β : Type} [TokenSource σ] {s s' : State σ} {ts vs : List Token}
  {e : Option LexError} {p : Parser σ α} {f : α → Parser σ β} {a : α}

/-! ### What is raised on the way -/

/-- What follows a silent parser finds the warnings as they were. -/
theorem Silent.bind_meets {P : State σ → Prop} {r : List Warning} (hp : Silent p)
    (hr : s.raised = r)
    (hf : ∀ a s', s'.raised = r → Outcome.Meets P (fun _ s'' => s''.raised = r) (f a s')) :
    Outcome.Meets P (fun _ s' => s'.raised = r) ((p >>= f) s) := by
  have hmeets := hp.meets s
  cases h : p s with
  | error err s' =>
    rw [h] at hmeets
    rw [bind_of_error h]
    exact hmeets.trans hr
  | ok a s' =>
    rw [h] at hmeets
    rw [bind_of_ok h]
    exact hf a s' (hmeets.trans hr)

theorem silent_advance : Silent (advance : Parser σ Token) := fun _ => Invariant.keeps_advance

theorem silent_expect {k : Kind} : Silent (expect k : Parser σ Token) :=
  fun _ => Invariant.keeps_expect

theorem silent_header : Silent (header : Parser σ Header) := fun _ => Invariant.keeps_header

theorem silent_plain : Silent (many Kind.isPlain advance : Parser σ (List Token)) :=
  fun _ => Invariant.keeps_many Invariant.keeps_advance

theorem silent_skipEnd (stop : Nat) : Silent (skipEnd stop : Parser σ Nat) :=
  fun _ => Invariant.keeps_skipEnd stop

/-! ### Skipped items -/

/-- **The end of a skipped item**, with the offset where the item ends. -/
theorem skipEnd_divides {stop n : Nat} (hs : s.Sees ts e) (h : skipEnd stop s = .ok n s') :
    ∃ us vs, ts = us ++ vs ∧ s'.Sees vs e ∧ (∀ run, Plain run → SkippedBefore (run ++ us) vs) ∧
      n = (us.getLast?.map Token.stop).getD stop := by
  unfold skipEnd at h
  rw [kind_bind] at h
  cases hk : s.current.kind with
  | semicolon =>
    simp only [hk, bind_eq_ok, pure_eq_ok] at h
    obtain ⟨semi, s₁, h₁, rfl, rfl⟩ := h
    obtain ⟨rfl, vs, rfl, hs₁⟩ := advance_sound hs (by rw [hk]; decide) h₁
    exact ⟨[s.current], vs, rfl, hs₁, fun run hp => .semicolon hp hk, rfl⟩
  | leftBrace =>
    simp only [hk, bind_eq_ok, kind_bind] at h
    obtain ⟨stop', s₁, h₁, h⟩ := h
    obtain ⟨inner, right, vs, rfl, hi, hr, hs₁⟩ := closeBraces_zero_sound hs hk h₁
    -- the offset is that of the brace, by the run over the same tokens
    obtain ⟨s₂, h₂, -⟩ := runs_group hk hi hr hs₁.ne_nil hs
    rw [h₁] at h₂
    obtain ⟨rfl, rfl⟩ := EStateM.Result.ok.inj h₂
    by_cases hsemi : s₁.current.kind = .semicolon
    · simp only [hsemi, if_true, bind_eq_ok, pure_eq_ok] at h
      obtain ⟨semi, s₂, h₂, rfl, rfl⟩ := h
      obtain ⟨rfl, vs, rfl, hs₂⟩ := advance_sound hs₁ (by rw [hsemi]; decide) h₂
      refine ⟨s.current :: (inner ++ [right, s₁.current]), vs, by simp, hs₂, fun run hp => ?_, ?_⟩
      · exact .group hp hk hi hr (.some hsemi) (by simp)
      · simp [List.getLast?_cons]
    · simp only [hsemi, if_false, pure_eq_ok] at h
      obtain ⟨rfl, rfl⟩ := h
      refine ⟨s.current :: (inner ++ [right]), vs, by simp, hs₁, fun run hp => ?_, ?_⟩
      · refine .group hp hk hi hr .none fun _ t ht => ?_
        rw [hs₁.head?] at ht
        rw [← Option.some.inj ht]
        exact hsemi
      · simp [List.getLast?_cons]
  | rightBrace =>
    simp only [hk, pure_eq_ok] at h
    obtain ⟨rfl, rfl⟩ := h
    refine ⟨[], ts, rfl, hs, fun run hp => ?_, rfl⟩
    obtain ⟨rest, rfl, -⟩ := hs
    rw [List.append_nil]
    exact .unended hp ⟨_, rest, rfl, hk⟩
  | _ => simp [hk] at h

/-- A skipped item is one, and raises its warning. -/
theorem skipItem_divides (m : Method) {u : Unit} (hs : s.Sees ts e) (hk : Unknown s.current.kind)
    (h : skipItem s = .ok u s') :
    ∃ us vs, ts = us ++ vs ∧ s'.Sees vs e ∧ ItemBefore us vs ∧
      s'.raised = (warningOn m us).toList ++ s.raised := by
  obtain ⟨item, after, hts, hs', ⟨first, rest, rfl, -⟩, -⟩ := skipItem_sound hs hk h
  obtain rfl : first = s.current := by
    rw [hts] at hs
    exact hs.current_eq.symm
  unfold skipItem at h
  simp only [get_bind, bind_eq_ok] at h
  obtain ⟨passed, s₁, h₁, stop, s₂, h₂, h⟩ := h
  obtain rfl := (EStateM.Result.ok.inj h).2
  have hraised : s₂.raised = s.raised :=
    ((silent_skipEnd _).raised_eq h₂).trans (silent_plain.raised_eq h₁)
  obtain ⟨run, vs, rfl, hm, hs₁⟩ := many_sound plain_sound hs trivial h₁
  obtain ⟨rfl, hp⟩ := plain_of_many hm
  obtain ⟨us, ws, rfl, hs₂, hskip, rfl⟩ := skipEnd_divides hs₁ h₂
  -- both ways to take the item apart give the same tokens
  obtain ⟨rfl, -⟩ := hs'.unique hs₂.warn
  rw [← List.append_assoc] at hts
  have hitem := List.append_cancel_right hts
  have hskip := hskip run hp
  rw [hitem] at hskip
  refine ⟨s.current :: rest, after, by rw [← hitem, List.append_assoc], hs',
    .skipped ⟨s.current, rest, rfl, hk⟩ hskip, ?_⟩
  have hlast : ((us.getLast?.map Token.stop).getD (run.getLast?.getD s.current).stop) =
      (rest.getLast?.getD s.current).stop := by
    have hget : (us.getLast?.or run.getLast?) = some (rest.getLast?.getD s.current) := by
      rw [← List.getLast?_append, hitem, List.getLast?_cons]
    cases hus : us.getLast? with
    | some t =>
      rw [hus] at hget
      rw [← Option.some.inj hget]
      rfl
    | none =>
      rw [hus, Option.none_or] at hget
      rw [hget]
      rfl
  rw [warningOn_skipped hk, ← hlast, ← hraised]
  rfl

/-! ### Items -/

/-- The body of a request is one, and raises its warning if there is one on it. -/
theorem body_divides (m : Method) {text : String} (hs : s.Sees ts e)
    (h : body m s = .ok text s') :
    ∃ us vs, ts = us ++ vs ∧ s'.Sees vs e ∧ BodyDecl us text ∧
      s'.raised = (warningOn m us).toList ++ s.raised := by
  obtain ⟨us, vs, rfl, hD, hs'⟩ := body_sound m hs trivial h
  refine ⟨us, vs, rfl, hs', hD, ?_⟩
  unfold body at h
  simp only [bind_eq_ok] at h
  obtain ⟨kw, s₁, h₁, eq, s₂, h₂, value, s₃, h₃, semi, s₄, h₄, h⟩ := h
  -- the tokens of the body raise nothing; the warning comes from the method alone
  have hraised : s₄.raised = s.raised := by
    rw [silent_expect.raised_eq h₄, silent_expect.raised_eq h₃, silent_expect.raised_eq h₂,
      silent_expect.raised_eq h₁]
  have hend : s'.raised = if m = .get ∨ m = .delete then
      ⟨.unsentBody m, kw.pos, kw.stop⟩ :: s.raised else s.raised := by
    rw [← hraised]
    cases m <;> obtain rfl := (EStateM.Result.ok.inj h).2 <;> rfl
  obtain ⟨-, ws, hts, -⟩ := expect_sound hs h₁ (by decide)
  obtain @⟨kw', eq', value', semi', hD⟩ := hD
  obtain ⟨rfl, -⟩ := List.cons.inj hts
  simp only [kinds_cons_eq_cons] at hD
  rw [hend, warningOn_body hD.1]
  split <;> rfl

/-- **The parser takes one item and raises its warning**, if it gives one. -/
theorem blockItem_divides {m : Method} {item : Request.Item} (hs : s.Sees ts e)
    (hr : s.current.kind ≠ .rightBrace) (h : blockItem m s = .ok item s') :
    ∃ us vs, ts = us ++ vs ∧ s'.Sees vs e ∧ ItemBefore us vs ∧
      s'.raised = (warningOn m us).toList ++ s.raised := by
  by_cases hh : s.current.kind = .header
  · simp only [blockItem, kind_bind, hh, bind_eq_ok, pure_eq_ok] at h
    obtain ⟨hd, s₁, h₁, rfl, rfl⟩ := h
    obtain ⟨us, vs, rfl, hD, hs₁⟩ := header_sound hs trivial h₁
    refine ⟨us, vs, rfl, hs₁, .header hD, ?_⟩
    rw [warningOn_header hD, silent_header.raised_eq h₁]
    rfl
  by_cases hb : s.current.kind = .body
  · simp only [blockItem, kind_bind, hb, bind_eq_ok, pure_eq_ok] at h
    obtain ⟨text, s₁, h₁, rfl, rfl⟩ := h
    obtain ⟨us, vs, rfl, hs₁, hD, hraised⟩ := body_divides m hs h₁
    exact ⟨us, vs, rfl, hs₁, .body hD, hraised⟩
  · simp only [blockItem_of_unknown hh hb, bind_eq_ok, pure_eq_ok] at h
    obtain ⟨u, s₁, h₁, rfl, rfl⟩ := h
    exact skipItem_divides m hs ⟨hh, hb, hr⟩ h₁

/-- **An item that fails raises nothing**: its warning comes after its last token. -/
theorem blockItem_silent_of_error (m : Method) (s : State σ) :
    Outcome.Meets (fun _ => True) (fun _ s' => s'.raised = s.raised) (blockItem m s) := by
  by_cases hh : s.current.kind = .header
  · simp only [blockItem, kind_bind, hh]
    exact silent_header.bind_meets rfl fun _ _ _ => trivial
  by_cases hb : s.current.kind = .body
  · simp only [blockItem, kind_bind, hb, body, bind_assoc]
    refine silent_expect.bind_meets rfl fun kw s₁ h₁ => ?_
    refine silent_expect.bind_meets h₁ fun _ s₂ h₂ => ?_
    refine silent_expect.bind_meets h₂ fun _ s₃ h₃ => ?_
    refine silent_expect.bind_meets h₃ fun _ s₄ h₄ => ?_
    split <;> trivial
  · rw [blockItem_of_unknown hh hb, skipItem, bind_assoc, get_bind, bind_assoc]
    refine silent_plain.bind_meets rfl fun _ s₁ h₁ => ?_
    rw [bind_assoc]
    exact (silent_skipEnd _).bind_meets h₁ fun _ s₂ h₂ => trivial

/-- On the tokens of an item the parser takes them. -/
theorem runs_item (m : Method) {us : List Token} (h : ItemBefore us vs) (hv : vs ≠ []) :
    ∃ item, Runs (blockItem m : Parser σ Request.Item) (us ++ vs) item vs := by
  cases h with
  | header h => exact ⟨_, runs_blockItem_header m h hv⟩
  | body h => exact ⟨_, runs_blockItem_body m h hv⟩
  | skipped hb h =>
    cases h with
    | semicolon hp hs => exact ⟨_, runs_blockItem_semicolon m hp hs hb hv⟩
    | group hp hl hi hr hs ha =>
      obtain ⟨t, rest, rfl⟩ := List.exists_cons_of_ne_nil hv
      exact ⟨_, runs_blockItem_group m hp hl hi hr hs hb ⟨t, rest, rfl, fun hn => ha hn t rfl⟩⟩
    | unended hp ha =>
      obtain ⟨right, rest, rfl, hr⟩ := ha
      exact ⟨_, runs_blockItem_unended m hb hp hr⟩

/-- **On the tokens of an item the parser raises its warning** and no other one. -/
theorem blockItem_of_item {m : Method} {us : List Token} (h : ItemBefore us vs) (hv : vs ≠ [])
    (hs : s.Sees (us ++ vs) e) :
    ∃ item s', blockItem m s = .ok item s' ∧ s'.Sees vs e ∧
      s'.raised = (warningOn m us).toList ++ s.raised := by
  obtain ⟨item, hruns⟩ := runs_item (σ := σ) m h hv
  obtain ⟨s', hok, hs', -⟩ := hruns hs
  have hr : s.current.kind ≠ .rightBrace := by
    obtain ⟨t, rest, rfl, ht⟩ := h.begins
    rw [hs.current_eq]
    simp only [decide_eq_true_eq] at ht
    exact ht.1
  obtain ⟨us', vs', heq, hs'', -, hraised⟩ := blockItem_divides hs hr hok
  obtain ⟨rfl, -⟩ := hs'.unique hs''
  obtain rfl := List.append_cancel_right heq
  exact ⟨item, s', hok, hs', hraised⟩

end Parser

end HttpSuite
