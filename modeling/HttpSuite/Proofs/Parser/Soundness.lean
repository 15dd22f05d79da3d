import HttpSuite.Proofs.Parser.Reading

/-!
# What the parser accepts is in the grammar

Production by production, a value that the parser returns is derived by the tokens that it took.
The loops need no more than `many_sound`. The one invariant of its own is that of `closeBraces`:
with `n` braces open it takes tokens that close them all (`Closes`), and what opens on the way is
balanced.

* `Parser.suite_sound`: a suite that the parser returns is a `Grammar.File` of all its tokens.
-/

namespace HttpSuite

open Token (Kind)
open Grammar

/-! ### Semantic actions -/

/-- Adding items one by one keeps the last base URL and inserts all headers in order. -/
theorem Config.foldl_add (items : List Config.Item) (c : Config) :
    items.foldl Config.add c =
      { baseUrl := (items.filterMap Config.Item.baseUrl?).getLast?.or c.baseUrl
        headers := (items.filterMap Config.Item.header?).foldl Headers.insert c.headers } := by
  induction items generalizing c with
  | nil => rfl
  | cons item items ih =>
    rw [List.foldl_cons, ih, List.filterMap_cons, List.filterMap_cons]
    cases item with
    | baseUrl url =>
      cases hl : (items.filterMap Config.Item.baseUrl?).getLast? <;>
        simp [Config.add, Config.Item.baseUrl?, Config.Item.header?, List.getLast?_cons, hl]
    | header h => simp [Config.add, Config.Item.baseUrl?, Config.Item.header?]

/-- Adding items one by one keeps the last body and inserts all headers in order. -/
theorem Request.foldl_add (items : List Request.Item) (r : Request) :
    items.foldl Request.add r =
      { r with
        headers := (items.filterMap Request.Item.header?).foldl Headers.insert r.headers
        body := (items.filterMap Request.Item.body?).getLast?.or r.body } := by
  induction items generalizing r with
  | nil => rfl
  | cons item items ih =>
    rw [List.foldl_cons, ih, List.filterMap_cons, List.filterMap_cons]
    cases item with
    | header h => simp [Request.add, Request.Item.body?, Request.Item.header?]
    | body text =>
      cases hl : (items.filterMap Request.Item.body?).getLast? <;>
        simp [Request.add, Request.Item.body?, Request.Item.header?, List.getLast?_cons, hl]
    | skipped => simp [Request.add, Request.Item.body?, Request.Item.header?]

/-- Items that are skipped declare no header. -/
theorem Request.Item.filterMap_header?_kept (items : List Request.Item) :
    (items.filter (· ≠ .skipped)).filterMap header? = items.filterMap header? := by
  induction items with
  | nil => rfl
  | cons item items ih => cases item <;> simp [List.filterMap_cons, header?, ← ih]

theorem Request.Item.filterMap_body?_kept (items : List Request.Item) :
    (items.filter (· ≠ .skipped)).filterMap body? = items.filterMap body? := by
  induction items with
  | nil => rfl
  | cons item items ih => cases item <;> simp [List.filterMap_cons, body?, ← ih]

theorem Token.Kind.method?_eq_some {k : Kind} {m : Method} (h : k.method? = some m) :
    k = .method m := by
  cases k <;> simp_all [Token.Kind.method?]

namespace Parser

variable {σ : Type} [TokenSource σ] {s s' : State σ} {ts us vs : List Token}
  {e : Option LexError} {t : Token}

/-! ### Configuration and variables -/

theorem header_sound : Sound (header : Parser σ Header) HeaderDecl := by
  intro s s' ts e hd hs _ h
  unfold header at h
  simp only [bind_eq_ok, pure_eq_ok] at h
  obtain ⟨kw, s₁, h₁, name, s₂, h₂, eq, s₃, h₃, value, s₄, h₄, semi, s₅, h₅, rfl, rfl⟩ := h
  obtain ⟨k₁, vs, rfl, hs₁⟩ := expect_sound hs h₁ (by decide)
  obtain ⟨k₂, vs, rfl, hs₂⟩ := expect_sound hs₁ h₂ (by decide)
  obtain ⟨k₃, vs, rfl, hs₃⟩ := expect_sound hs₂ h₃ (by decide)
  obtain ⟨k₄, vs, rfl, hs₄⟩ := expect_sound hs₃ h₄ (by decide)
  obtain ⟨k₅, vs, rfl, hs₅⟩ := expect_sound hs₄ h₅ (by decide)
  exact ⟨[kw, name, eq, value, semi], vs, rfl, .intro (by simp [*]), hs₅⟩

theorem configItem_sound : Sound (configItem : Parser σ Config.Item) ConfigItem := by
  intro s s' ts e item hs _ h
  unfold configItem at h
  rw [kind_bind] at h
  by_cases hk : s.current.kind = .baseUrl
  · rw [if_pos hk] at h
    simp only [bind_eq_ok, pure_eq_ok] at h
    obtain ⟨kw, s₁, h₁, eq, s₂, h₂, url, s₃, h₃, semi, s₄, h₄, rfl, rfl⟩ := h
    obtain ⟨rfl, vs, rfl, hs₁⟩ := advance_sound hs (by rw [hk]; decide) h₁
    obtain ⟨k₂, vs, rfl, hs₂⟩ := expect_sound hs₁ h₂ (by decide)
    obtain ⟨k₃, vs, rfl, hs₃⟩ := expect_sound hs₂ h₃ (by decide)
    obtain ⟨k₄, vs, rfl, hs₄⟩ := expect_sound hs₃ h₄ (by decide)
    exact ⟨[s.current, eq, url, semi], vs, rfl, .baseUrl (by simp [*]), hs₄⟩
  · rw [if_neg hk] at h
    simp only [bind_eq_ok, pure_eq_ok] at h
    obtain ⟨hd, s₁, h₁, rfl, rfl⟩ := h
    obtain ⟨us, vs, rfl, hD, hs₁⟩ := header_sound hs trivial h₁
    exact ⟨us, vs, rfl, .header hD, hs₁⟩

/-- What is read as the configuration is one, with the last base URL and all headers. -/
theorem config_sound : Sound (config : Parser σ Config) ConfigBlock := by
  intro s s' ts e c hs _ h
  unfold config at h
  simp only [bind_eq_ok, pure_eq_ok] at h
  obtain ⟨kw, s₁, h₁, left, s₂, h₂, items, s₃, h₃, right, s₄, h₄, rfl, rfl⟩ := h
  obtain ⟨k₁, vs, rfl, hs₁⟩ := expect_sound hs h₁ (by decide)
  obtain ⟨k₂, vs, rfl, hs₂⟩ := expect_sound hs₁ h₂ (by decide)
  obtain ⟨us, vs, rfl, hD, hs₃⟩ := many_sound (configItem_sound.soundFrom _) hs₂ trivial h₃
  obtain ⟨k₄, vs, rfl, hs₄⟩ := close_sound hs₃ h₄ (by decide)
  refine ⟨kw :: left :: (us ++ [right]), vs, by simp, ?_, hs₄⟩
  rw [Config.foldl_add]
  simpa [Headers.ofList] using ConfigBlock.intro (by simp [*]) hD

theorem config?_sound : Sound (config? : Parser σ (Option Config)) ConfigOption := by
  intro s s' ts e c hs _ h
  unfold config? at h
  rw [kind_bind] at h
  by_cases hk : s.current.kind = .config
  · rw [if_pos hk] at h
    simp only [bind_eq_ok, pure_eq_ok] at h
    obtain ⟨c, s₁, h₁, rfl, rfl⟩ := h
    obtain ⟨us, vs, rfl, hD, hs₁⟩ := config_sound hs trivial h₁
    exact ⟨us, vs, rfl, .some hD, hs₁⟩
  · rw [if_neg hk, pure_eq_ok] at h
    obtain ⟨rfl, rfl⟩ := h
    exact ⟨[], ts, rfl, .none, hs⟩

theorem variableDecl_sound : Sound (variableDecl : Parser σ Variable) VariableDecl := by
  intro s s' ts e v hs _ h
  unfold variableDecl at h
  simp only [bind_eq_ok, kind_bind] at h
  obtain ⟨kw, s₁, h₁, name, s₂, h₂, eq, s₃, h₃, h⟩ := h
  obtain ⟨k₁, vs, rfl, hs₁⟩ := expect_sound hs h₁ (by decide)
  obtain ⟨k₂, vs, rfl, hs₂⟩ := expect_sound hs₁ h₂ (by decide)
  obtain ⟨k₃, vs, rfl, hs₃⟩ := expect_sound hs₂ h₃ (by decide)
  by_cases hk : s₃.current.kind = .str ∨ s₃.current.kind = .number
  · simp only [if_pos hk, bind_eq_ok, pure_eq_ok] at h
    obtain ⟨value, s₄, h₄, semi, s₅, h₅, rfl, rfl⟩ := h
    have hne : s₃.current.kind ≠ .eof := by rcases hk with hk | hk <;> rw [hk] <;> decide
    obtain ⟨rfl, vs, rfl, hs₄⟩ := advance_sound hs₃ hne h₄
    obtain ⟨k₅, vs, rfl, hs₅⟩ := expect_sound hs₄ h₅ (by decide)
    exact ⟨[kw, name, eq, s₃.current, semi], vs, rfl, .intro (by simp [*]) hk, hs₅⟩
  · simp [if_neg hk, bind_eq_ok] at h

/-! ### Skipped items -/

theorem plain_sound : SoundFrom (fun k => k.isPlain) (advance : Parser σ Token)
    (fun us t => us = [t] ∧ t.kind.isPlain) := by
  intro s s' ts e t hs hk h
  have hne : s.current.kind ≠ .eof := by
    intro he; rw [he] at hk; exact absurd hk (by decide)
  obtain ⟨rfl, vs, rfl, hs₁⟩ := advance_sound hs hne h
  exact ⟨[s.current], vs, rfl, ⟨rfl, hk⟩, hs₁⟩

/-- The tokens of a loop over single tokens are its answers. -/
theorem plain_of_many {passed : List Token}
    (h : Many (fun us t => us = [t] ∧ t.kind.isPlain) us passed) : us = passed ∧ Plain us := by
  induction h with
  | nil => exact ⟨rfl, by simp [Plain]⟩
  | cons ha _ ih =>
    obtain ⟨rfl, hk⟩ := ha
    obtain ⟨rfl, hp⟩ := ih
    exact ⟨rfl, by simpa [Plain, hk] using hp⟩

/-- Tokens that close `n` open braces, the last one being the brace that closes the last of them. -/
inductive Closes : Nat → List Token → Prop
  | zero : Closes 0 []
  | succ {n : Nat} {inner us : List Token} {right : Token} (hi : Balanced inner)
      (hr : right.kind = .rightBrace) (hs : Closes n us) : Closes (n + 1) (inner ++ right :: us)

/-- A token before tokens that close all braces takes part in closing them. -/
theorem Closes.cons {n : Nat} (he : t.kind ≠ .eof)
    (h : Closes (depthAfter (n + 1) t.kind) us) : Closes (n + 1) (t :: us) := by
  by_cases hl : t.kind = .leftBrace
  · rw [hl] at h
    -- the brace that `t` opens is closed by the first of the braces below it
    cases h with
    | @succ _ inner us right hi hr hs =>
      cases hs with
      | @succ _ inner' us' right' hi' hr' hs' =>
        have := Closes.succ (.group hl hi hr hi') hr' hs'
        simpa using this
  · by_cases hr : t.kind = .rightBrace
    · rw [hr] at h
      exact .succ .nil hr h
    · have hd : depthAfter (n + 1) t.kind = n + 1 := by
        unfold depthAfter
        split <;> simp_all
      rw [hd] at h
      cases h with
      | succ hi hr' hs => exact .succ (.token hl hr he hi) hr' hs

/-- Taking a token leaves fewer of them, so loops come to an end. -/
theorem advance_remaining_lt (hk : s.current.kind ≠ .eof) (h : advance s = .ok t s') :
    s'.remaining < s.remaining := by
  unfold advance at h
  rw [if_neg hk] at h
  split at h
  · rename_i hn
    cases h
    exact TokenSource.remaining_lt hn
  · cases h
  · cases h

/-- **Open braces are closed.** -/
theorem closeBraces_sound {n stop : Nat} (hs : s.Sees ts e)
    (h : closeBraces (n + 1) s = .ok stop s') :
    ∃ us vs, ts = us ++ vs ∧ Closes (n + 1) us ∧ s'.Sees vs e := by
  -- the depth is a variable for the induction; it stays positive until the last brace
  generalize hd : n + 1 = depth at h
  fun_induction closeBraces depth s generalizing n ts with
  | case1 depth s hk => cases h
  | case2 depth s hk err s₁ ha => cases h
  | case3 depth s hk t s₁ ha h0 =>
    cases h
    obtain ⟨rfl, vs, rfl, hs₁⟩ := advance_sound hs hk ha
    subst hd
    refine ⟨[s.current], vs, rfl, .cons hk ?_, hs₁⟩
    rw [h0]; exact .zero
  | case4 depth s hk t s₁ ha h0 hlt ih =>
    obtain ⟨rfl, vs, rfl, hs₁⟩ := advance_sound hs hk ha
    subst hd
    obtain ⟨m, hm⟩ := Nat.exists_eq_succ_of_ne_zero h0
    obtain ⟨us, ws, rfl, hc, hs₂⟩ := ih hs₁ hm.symm h
    exact ⟨s.current :: us, ws, rfl, .cons hk hc, hs₂⟩
  | case5 depth s hk t s₁ ha h0 hlt => exact absurd (advance_remaining_lt hk ha) hlt

/-- A group in braces is closed where its first brace is. -/
theorem closeBraces_zero_sound {stop : Nat} (hs : s.Sees ts e) (hk : s.current.kind = .leftBrace)
    (h : closeBraces 0 s = .ok stop s') :
    ∃ inner right vs, ts = s.current :: (inner ++ right :: vs) ∧ Balanced inner ∧
      right.kind = .rightBrace ∧ s'.Sees vs e := by
  have hne : s.current.kind ≠ .eof := by rw [hk]; decide
  unfold closeBraces at h
  rw [if_neg hne] at h
  cases ha : advance s with
  | error err s₁ => simp [ha] at h
  | ok left s₁ =>
    have hlt := advance_remaining_lt hne ha
    obtain ⟨rfl, vs, rfl, hs₁⟩ := advance_sound hs hne ha
    simp only [ha, hk, depthAfter, hlt, if_true, Nat.zero_add, Nat.one_ne_zero, if_false] at h
    obtain ⟨us, vs, rfl, hc, hs₂⟩ := closeBraces_sound (n := 0) hs₁ h
    cases hc with
    | @succ _ inner us right hi hr hz =>
      cases hz
      exact ⟨inner, right, vs, by simp, hi, hr, hs₂⟩

/-- The end of a skipped item completes it, whatever plain tokens came before. Where nothing is
taken, the block is about to be closed. -/
theorem skipEnd_sound {stop n : Nat} (hs : s.Sees ts e) (h : skipEnd stop s = .ok n s') :
    ∃ us vs, ts = us ++ vs ∧ s'.Sees vs e ∧
      ((us ≠ [] ∧ ∀ run, Plain run → Skipped (run ++ us)) ∨
        (us = [] ∧ s'.current.kind = .rightBrace)) := by
  unfold skipEnd at h
  rw [kind_bind] at h
  cases hk : s.current.kind with
  | semicolon =>
    simp only [hk, bind_eq_ok, pure_eq_ok] at h
    obtain ⟨semi, s₁, h₁, rfl, rfl⟩ := h
    obtain ⟨rfl, vs, rfl, hs₁⟩ := advance_sound hs (by rw [hk]; decide) h₁
    exact ⟨[s.current], vs, rfl, hs₁, .inl ⟨by simp, fun run hp => .semicolon hp hk⟩⟩
  | leftBrace =>
    simp only [hk, bind_eq_ok, kind_bind] at h
    obtain ⟨stop', s₁, h₁, h⟩ := h
    obtain ⟨inner, right, vs, rfl, hi, hr, hs₁⟩ := closeBraces_zero_sound hs hk h₁
    -- a `;` behind the group is taken if it is there, and makes no difference to what was skipped
    by_cases hsemi : s₁.current.kind = .semicolon
    · simp only [hsemi, if_true, bind_eq_ok, pure_eq_ok] at h
      obtain ⟨semi, s₂, h₂, rfl, rfl⟩ := h
      obtain ⟨rfl, vs, rfl, hs₂⟩ := advance_sound hs₁ (by rw [hsemi]; decide) h₂
      refine ⟨s.current :: (inner ++ [right, s₁.current]), vs, by simp, hs₂, .inl ⟨by simp, ?_⟩⟩
      intro run hp
      exact .group hp hk hi hr (.some hsemi)
    · simp only [hsemi, if_false, pure_eq_ok] at h
      obtain ⟨rfl, rfl⟩ := h
      refine ⟨s.current :: (inner ++ [right]), vs, by simp, hs₁, .inl ⟨by simp, ?_⟩⟩
      intro run hp
      exact .group hp hk hi hr .none
  | rightBrace =>
    simp only [hk, pure_eq_ok] at h
    obtain ⟨rfl, rfl⟩ := h
    -- nothing is taken, so this is no item yet: what ends it is the brace that is still to come
    exact ⟨[], ts, rfl, hs, .inr ⟨rfl, hk⟩⟩
  | _ => simp [hk] at h

/-- **A skipped item is one of the grammar**, or a run that the closing brace of its block ends. -/
theorem skipItem_sound {u : Unit} (hs : s.Sees ts e) (hk : Unknown s.current.kind)
    (h : skipItem s = .ok u s') :
    ∃ us vs, ts = us ++ vs ∧ s'.Sees vs e ∧ Begins Unknown us ∧
      (Skipped us ∨ (Plain us ∧ s'.current.kind = .rightBrace)) := by
  unfold skipItem at h
  simp only [get_bind, bind_eq_ok] at h
  obtain ⟨passed, s₁, h₁, stop, s₂, h₂, h⟩ := h
  obtain ⟨run, vs, rfl, hm, hs₁⟩ := many_sound plain_sound hs trivial h₁
  obtain ⟨-, hp⟩ := plain_of_many hm
  obtain ⟨us, ws, rfl, hs₂, hend⟩ := skipEnd_sound hs₁ h₂
  cases h
  have hhead := hs.head?
  rw [← List.append_assoc] at hhead
  refine ⟨run ++ us, ws, by rw [List.append_assoc], hs₂.warn, ?_, ?_⟩
  · cases hrun : run ++ us with
    | nil =>
      -- an item without a token would stand at the closing brace itself
      obtain ⟨-, hus⟩ := List.append_eq_nil_iff.1 hrun
      obtain ⟨hne, -⟩ | ⟨-, hr⟩ := hend
      · exact absurd hus hne
      · rw [hrun, List.nil_append, hs₂.head?] at hhead
        rw [Option.some.inj hhead] at hr
        exact absurd hr hk.2.2
    | cons t rest =>
      rw [hrun] at hhead
      exact ⟨t, rest, rfl, by rw [Option.some.inj hhead]; exact hk⟩
  · obtain ⟨-, hsk⟩ | ⟨rfl, hr⟩ := hend
    · exact .inl (hsk run hp)
    · rw [List.append_nil]
      exact .inr ⟨hp, hr⟩

/-! ### Requests -/

/-- What is read as a body is one, for a method that sends it or not. -/
theorem body_sound (m : Method) : Sound (body m : Parser σ String) BodyDecl := by
  intro s s' ts e text hs _ h
  unfold body at h
  simp only [bind_eq_ok] at h
  obtain ⟨kw, s₁, h₁, eq, s₂, h₂, value, s₃, h₃, semi, s₄, h₄, h⟩ := h
  obtain ⟨k₁, vs, rfl, hs₁⟩ := expect_sound hs h₁ (by decide)
  obtain ⟨k₂, vs, rfl, hs₂⟩ := expect_sound hs₁ h₂ (by decide)
  obtain ⟨k₃, vs, rfl, hs₃⟩ := expect_sound hs₂ h₃ (by decide)
  obtain ⟨k₄, vs, rfl, hs₄⟩ := expect_sound hs₃ h₄ (by decide)
  have hend : text = value.text ∧ s'.Sees vs e := by
    by_cases hm : m.sendsBody
    · simp only [hm, Bool.not_true, Bool.false_eq_true, if_false, pure_eq_ok] at h
      obtain ⟨rfl, rfl⟩ := h
      exact ⟨rfl, hs₄⟩
    · simp only [hm, Bool.not_false, if_true] at h
      cases h
      exact ⟨rfl, hs₄.warn⟩
  obtain ⟨rfl, hs'⟩ := hend
  exact ⟨[kw, eq, value, semi], vs, rfl, .intro (by simp [*]), hs'⟩

/-- What begins with neither `header` nor `body` is skipped. -/
theorem blockItem_of_unknown {m : Method} (hh : s.current.kind ≠ .header)
    (hb : s.current.kind ≠ .body) :
    blockItem m s = (skipItem >>= fun _ => pure .skipped : Parser σ Request.Item) s := by
  unfold blockItem
  rw [kind_bind]
  generalize s.current.kind = k at *
  cases k <;> first | contradiction | rfl

/-- An item of a block: one that the grammar keeps, or one that is skipped. -/
theorem blockItem_sound {m : Method} {item : Request.Item} (hs : s.Sees ts e)
    (hr : s.current.kind ≠ .rightBrace) (h : blockItem m s = .ok item s') :
    ∃ us vs, ts = us ++ vs ∧ s'.Sees vs e ∧
      ((∃ hd, item = .header hd ∧ HeaderDecl us hd) ∨
        (∃ text, item = .body text ∧ BodyDecl us text) ∨
        (item = .skipped ∧ Begins Unknown us ∧
          (Skipped us ∨ (Plain us ∧ s'.current.kind = .rightBrace)))) := by
  by_cases hh : s.current.kind = .header
  · simp only [blockItem, kind_bind, hh, bind_eq_ok, pure_eq_ok] at h
    obtain ⟨hd, s₁, h₁, rfl, rfl⟩ := h
    obtain ⟨us, vs, rfl, hD, hs₁⟩ := header_sound hs trivial h₁
    exact ⟨us, vs, rfl, hs₁, .inl ⟨hd, rfl, hD⟩⟩
  by_cases hb : s.current.kind = .body
  · simp only [blockItem, kind_bind, hb, bind_eq_ok, pure_eq_ok] at h
    obtain ⟨text, s₁, h₁, rfl, rfl⟩ := h
    obtain ⟨us, vs, rfl, hD, hs₁⟩ := body_sound m hs trivial h₁
    exact ⟨us, vs, rfl, hs₁, .inr (.inl ⟨text, rfl, hD⟩)⟩
  · simp only [blockItem_of_unknown hh hb, bind_eq_ok, pure_eq_ok] at h
    obtain ⟨u, s₁, h₁, rfl, rfl⟩ := h
    obtain ⟨us, vs, rfl, hs₁, hD⟩ := skipItem_sound hs ⟨hh, hb, hr⟩ h₁
    exact ⟨us, vs, rfl, hs₁, .inr (.inr ⟨rfl, hD⟩)⟩

/-- The kinds at which a block goes on. -/
abbrev blockMore (k : Kind) : Bool := k ≠ .rightBrace ∧ k ≠ .eof

/-- The items that are read between braces are those of a block, once the skipped ones are left out.
-/
theorem blockItems_sound {m : Method} {items : List Request.Item} (hs : s.Sees ts e)
    (h : many blockMore (blockItem m) s = .ok items s') :
    ∃ us vs, ts = us ++ vs ∧ BlockItems us (items.filter (· ≠ .skipped)) ∧ s'.Sees vs e := by
  fun_induction many blockMore (blockItem m) s generalizing ts items s' with
  | case1 s hm err s₁ hi => cases h
  | case2 s hm item s₁ hi hlt items₁ s₂ hrec ih =>
    cases h
    obtain ⟨us, vs, rfl, hs₁, hitem⟩ := blockItem_sound hs (by simp at hm; exact hm.1) hi
    obtain ⟨us', ws, rfl, hD, hs₂⟩ := ih hs₁ hrec
    rcases hitem with ⟨hd, rfl, hH⟩ | ⟨text, rfl, hB⟩ | ⟨rfl, hb, hS | ⟨hp, hr⟩⟩
    · exact ⟨us ++ us', ws, by simp, by simpa using BlockItems.header hH hD, hs₂⟩
    · exact ⟨us ++ us', ws, by simp, by simpa using BlockItems.body hB hD, hs₂⟩
    · exact ⟨us ++ us', ws, by simp, by simpa using BlockItems.skipped hb hS hD, hs₂⟩
    · -- the loop stops at the brace that ended the item
      rw [many_of_not_more (by rw [hr]; decide)] at hrec
      cases hrec
      exact ⟨us, _, rfl, by simpa using BlockItems.unended hb hp, hs₁⟩
  | case3 s hm item s₁ hi hlt err s₂ hrec ih => cases h
  | case4 s hm item s₁ hi hlt =>
    -- nothing was taken, so the loop ends with this item
    cases h
    obtain ⟨us, vs, rfl, hs₁, hitem⟩ := blockItem_sound hs (by simp at hm; exact hm.1) hi
    rcases hitem with ⟨hd, rfl, hH⟩ | ⟨text, rfl, hB⟩ | ⟨rfl, hb, hS | ⟨hp, hr⟩⟩
    · exact ⟨us, vs, rfl, by simpa using BlockItems.header hH .nil, hs₁⟩
    · exact ⟨us, vs, rfl, by simpa using BlockItems.body hB .nil, hs₁⟩
    · exact ⟨us, vs, rfl, by simpa using BlockItems.skipped hb hS .nil, hs₁⟩
    · exact ⟨us, vs, rfl, by simpa using BlockItems.unended hb hp, hs₁⟩
  | case5 s hm =>
    cases h
    exact ⟨[], ts, rfl, .nil, hs⟩

/-- What is read as a block is one, once the skipped items are left out. -/
theorem block_sound (m : Method) : Sound (block m : Parser σ (List Request.Item))
    (fun us items => BlockOption us (items.filter (· ≠ .skipped))) := by
  intro s s' ts e items hs _ h
  unfold block at h
  rw [kind_bind] at h
  by_cases hk : s.current.kind = .leftBrace
  · simp only [hk, if_true, bind_eq_ok, pure_eq_ok] at h
    obtain ⟨left, s₁, h₁, items, s₂, h₂, right, s₃, h₃, rfl, rfl⟩ := h
    obtain ⟨rfl, vs, rfl, hs₁⟩ := advance_sound hs (by rw [hk]; decide) h₁
    obtain ⟨us, vs, rfl, hD, hs₂⟩ := blockItems_sound hs₁ h₂
    obtain ⟨hr, vs, rfl, hs₃⟩ := expect_sound hs₂ h₃ (by decide)
    exact ⟨s.current :: (us ++ [right]), vs, by simp, .some hk hD hr, hs₃⟩
  · simp only [hk, if_false, pure_eq_ok] at h
    obtain ⟨rfl, rfl⟩ := h
    exact ⟨[], ts, rfl, .none, hs⟩

/-- What is read as a request is one. -/
theorem request_sound : Sound (request : Parser σ Request) RequestDecl := by
  intro s s' ts e r hs _ h
  unfold request at h
  rw [kind_bind] at h
  cases hm : s.current.kind.method? with
  | none => simp [hm] at h
  | some m =>
    have hk := Token.Kind.method?_eq_some hm
    simp only [hm, bind_eq_ok, kind_bind] at h
    obtain ⟨kw, s₁, h₁, path, s₂, h₂, items, s₃, h₃, h⟩ := h
    obtain ⟨rfl, vs, rfl, hs₁⟩ := advance_sound hs (by rw [hk]; simp) h₁
    obtain ⟨k₂, vs, rfl, hs₂⟩ := expect_sound hs₁ h₂ (by decide)
    obtain ⟨block, vs, rfl, hB, hs₃⟩ := block_sound m hs₂ trivial h₃
    -- the `;` is taken if it is there; the request does not depend on it
    have hend : ∃ semi ws, vs = semi ++ ws ∧ SemicolonOption semi ∧ s'.Sees ws e ∧
        r = items.foldl Request.add { method := m, path := path.text, span := s.current.span } := by
      by_cases hsemi : s₃.current.kind = .semicolon
      · simp only [hsemi, if_true, bind_eq_ok, pure_eq_ok] at h
        obtain ⟨semi, s₄, h₄, rfl, rfl⟩ := h
        obtain ⟨rfl, ws, rfl, hs₄⟩ := advance_sound hs₃ (by rw [hsemi]; decide) h₄
        exact ⟨[s₃.current], ws, rfl, .some hsemi, hs₄, rfl⟩
      · simp only [hsemi, if_false, pure_eq_ok] at h
        obtain ⟨rfl, rfl⟩ := h
        exact ⟨[], vs, rfl, .none, hs₃, rfl⟩
    obtain ⟨semi, ws, rfl, hS, hs', rfl⟩ := hend
    refine ⟨s.current :: path :: (block ++ semi), ws, by simp, ?_, hs'⟩
    rw [Request.foldl_add, ← Request.Item.filterMap_header?_kept,
      ← Request.Item.filterMap_body?_kept]
    simpa [Headers.ofList] using RequestDecl.intro (m := m) (by simp [*]) hB hS

/-! ### Assertions and tests -/

/-- What is read between `expect` and its `;` makes an assertion with them. -/
theorem expectation_sound : Sound (expectation : Parser σ Assertion)
    (fun us a => ∀ kw semi : Token, kw.kind = .expect → semi.kind = .semicolon →
      AssertionDecl (kw :: (us ++ [semi])) a) := by
  intro s s' ts e a hs _ h
  unfold expectation at h
  rw [kind_bind] at h
  cases hk : s.current.kind with
  | status =>
    simp only [hk, bind_eq_ok, statusCode] at h
    obtain ⟨subject, s₁, h₁, eq, s₂, h₂, number, s₃, h₃, h⟩ := h
    obtain ⟨rfl, vs, rfl, hs₁⟩ := advance_sound hs (by rw [hk]; decide) h₁
    obtain ⟨k₂, vs, rfl, hs₂⟩ := expect_sound hs₁ h₂ (by decide)
    obtain ⟨k₃, vs, rfl, hs₃⟩ := expect_sound hs₂ h₃ (by decide)
    -- a number that does not fit is an error, so a status that was read fits
    by_cases hc : decimal number.text.toList < 65536
    · simp only [hc, if_true, pure_eq_ok] at h
      obtain ⟨rfl, rfl⟩ := h
      refine ⟨[s.current, eq, number], vs, rfl, ?_, hs₃⟩
      intro kw semi hkw hsemi
      exact .status (by simp [*]) (by omega)
    · rw [if_neg hc] at h; cases h
  | header =>
    simp only [hk, bind_eq_ok, headerCheck, kind_bind] at h
    obtain ⟨subject, s₁, h₁, name, s₂, h₂, h⟩ := h
    obtain ⟨rfl, vs, rfl, hs₁⟩ := advance_sound hs (by rw [hk]; decide) h₁
    obtain ⟨k₂, vs, rfl, hs₂⟩ := expect_sound hs₁ h₂ (by decide)
    -- the comparison decides which of the two assertions on a header it is
    cases hc : s₂.current.kind with
    | equals =>
      simp only [hc, bind_eq_ok, pure_eq_ok] at h
      obtain ⟨eq, s₃, h₃, value, s₄, h₄, rfl, rfl⟩ := h
      obtain ⟨rfl, vs, rfl, hs₃⟩ := advance_sound hs₂ (by rw [hc]; decide) h₃
      obtain ⟨k₄, vs, rfl, hs₄⟩ := expect_sound hs₃ h₄ (by decide)
      refine ⟨[s.current, name, s₂.current, value], vs, rfl, ?_, hs₄⟩
      intro kw semi hkw hsemi
      exact .headerEquals (by simp [*])
    | contains =>
      simp only [hc, bind_eq_ok, pure_eq_ok] at h
      obtain ⟨contains, s₃, h₃, value, s₄, h₄, rfl, rfl⟩ := h
      obtain ⟨rfl, vs, rfl, hs₃⟩ := advance_sound hs₂ (by rw [hc]; decide) h₃
      obtain ⟨k₄, vs, rfl, hs₄⟩ := expect_sound hs₃ h₄ (by decide)
      refine ⟨[s.current, name, s₂.current, value], vs, rfl, ?_, hs₄⟩
      intro kw semi hkw hsemi
      exact .headerContains (by simp [*])
    | _ => simp [hc] at h
  | body =>
    simp only [hk, bind_eq_ok, pure_eq_ok] at h
    obtain ⟨subject, s₁, h₁, contains, s₂, h₂, value, s₃, h₃, rfl, rfl⟩ := h
    obtain ⟨rfl, vs, rfl, hs₁⟩ := advance_sound hs (by rw [hk]; decide) h₁
    obtain ⟨k₂, vs, rfl, hs₂⟩ := expect_sound hs₁ h₂ (by decide)
    obtain ⟨k₃, vs, rfl, hs₃⟩ := expect_sound hs₂ h₃ (by decide)
    refine ⟨[s.current, contains, value], vs, rfl, ?_, hs₃⟩
    intro kw semi hkw hsemi
    exact .bodyContains (by simp [*])
  | _ => simp [hk] at h

/-- What is read as an assertion is one. -/
theorem assertion_sound : Sound (assertion : Parser σ Assertion) AssertionDecl := by
  intro s s' ts e a hs _ h
  unfold assertion at h
  simp only [bind_eq_ok, pure_eq_ok] at h
  obtain ⟨kw, s₁, h₁, a, s₂, h₂, semi, s₃, h₃, rfl, rfl⟩ := h
  obtain ⟨k₁, vs, rfl, hs₁⟩ := expect_sound hs h₁ (by decide)
  obtain ⟨us, vs, rfl, hD, hs₂⟩ := expectation_sound hs₁ trivial h₂
  obtain ⟨k₃, vs, rfl, hs₃⟩ := expect_sound hs₂ h₃ (by decide)
  exact ⟨kw :: (us ++ [semi]), vs, by simp, hD kw semi k₁ k₃, hs₃⟩

theorem statement_sound : Sound (statement : Parser σ Statement) StatementDecl := by
  intro s s' ts e st hs _ h
  unfold statement at h
  simp only [bind_eq_ok, pure_eq_ok] at h
  obtain ⟨r, s₁, h₁, as, s₂, h₂, rfl, rfl⟩ := h
  obtain ⟨us, vs, rfl, hR, hs₁⟩ := request_sound hs trivial h₁
  obtain ⟨ws, vs, rfl, hA, hs₂⟩ := many_sound (assertion_sound.soundFrom _) hs₁ trivial h₂
  -- whether there are assertions decides which of the two statements it is
  cases hA with
  | nil => exact ⟨us, vs, rfl, .request hR, hs₂⟩
  | cons ha has => exact ⟨_, vs, by simp, .checked hR (.cons ha has) (by simp), hs₂⟩

theorem test_sound : Sound (test : Parser σ Test) TestDecl := by
  intro s s' ts e t hs _ h
  unfold test at h
  simp only [bind_eq_ok, pure_eq_ok] at h
  obtain ⟨kw, s₁, h₁, name, s₂, h₂, left, s₃, h₃, sts, s₄, h₄, right, s₅, h₅, rfl, rfl⟩ := h
  obtain ⟨k₁, vs, rfl, hs₁⟩ := expect_sound hs h₁ (by decide)
  obtain ⟨k₂, vs, rfl, hs₂⟩ := expect_sound hs₁ h₂ (by decide)
  obtain ⟨k₃, vs, rfl, hs₃⟩ := expect_sound hs₂ h₃ (by decide)
  obtain ⟨us, vs, rfl, hD, hs₄⟩ := many_sound (statement_sound.soundFrom _) hs₃ trivial h₄
  obtain ⟨k₅, vs, rfl, hs₅⟩ := close_sound hs₄ h₅ (by decide)
  exact ⟨kw :: name :: left :: (us ++ [right]), vs, by simp, .intro (by simp [*]) hD, hs₅⟩

/-- **A suite that the parser returns is described by all the tokens before it.** -/
theorem suite_sound {suite : Suite} (hs : s.Sees ts e) (h : Parser.suite s = .ok suite s') :
    File ts suite := by
  unfold Parser.suite at h
  simp only [bind_eq_ok, pure_eq_ok] at h
  obtain ⟨c, s₁, h₁, vars, s₂, h₂, tests, s₃, h₃, eof, s₄, h₄, rfl, rfl⟩ := h
  obtain ⟨cs, vs, rfl, hc, hs₁⟩ := config?_sound hs trivial h₁
  obtain ⟨vs, ws, rfl, hv, hs₂⟩ := many_sound (variableDecl_sound.soundFrom _) hs₁ trivial h₂
  obtain ⟨us, ws, rfl, ht, hs₃⟩ := many_sound (test_sound.soundFrom _) hs₂ trivial h₃
  -- the end of the text is taken without being passed, so `close_sound` does not apply
  unfold close at h₄
  rw [kind_bind] at h₄
  by_cases hk : s₃.current.kind = .eof
  · rw [hs₃.eq_of_eof hk]
    have := File.intro hc hv ht hk
    simpa [Variables.ofList] using this
  · rw [if_neg hk] at h₄
    exact absurd h₄ unexpected_ne_ok

end Parser

end HttpSuite
