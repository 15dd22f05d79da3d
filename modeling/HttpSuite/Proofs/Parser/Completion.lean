import HttpSuite.Proofs.Parser.Agreement

/-!
# What is expected can follow

Where the parser meets a token that it did not expect, it names the kinds of token that it would
have taken. Each of them can stand there: with a token of that kind, and some more after it, what
was read before becomes a test description.

Languages are sets of token lists here. A production is followed through what is left of its
language: after the tokens `us`, the lists `vs` such that `us ++ vs` belongs to it
(`MendsAt.bind`). An item of a request block that is skipped may break off at any depth of braces;
`closeBraces_mendsAt` closes them all.

* `Parser.Continues`: a token of some kind can follow, and the rest can be supplied.
* `Parser.MendsAt`: every kind that a failing run names can follow what the run took.
* `Parser.suite_mends`: this for the parser of test descriptions.
-/

namespace HttpSuite

open Token (Kind)
open Grammar

/-- A token of a kind. Any text would do for it, provided that it is one of that kind. -/
def Token.sample (k : Kind) : Token where
  kind := k
  text := k.fixedText?.getD (match k with
    | .ident | .varRef => "x"
    | .number => "0"
    | _ => "")
  pos := {}
  stop := 0

@[simp]
theorem Token.kind_sample (k : Kind) : (sample k).kind = k := rfl

/-- A text can have a token of every kind but the end of the text. -/
theorem Token.sample_isLexable {k : Kind} (hk : k ≠ .eof) :
    (sample k).word.isLexable = true := by
  cases k with
  | eof => exact absurd rfl hk
  | method m => cases m <;> decide
  | _ => decide

namespace Grammar

/-- Tokens that a text can have, its end left out. -/
def Lexable (ts : List Token) : Prop := ∀ t ∈ ts, t.word.isLexable = true

/-- Tokens of these kinds. -/
def samples (ks : List Kind) : List Token := ks.map Token.sample

@[simp]
theorem kinds_samples (ks : List Kind) : kinds (samples ks) = ks := by
  simp [kinds, samples, Function.comp_def]

/-- Sample tokens can stand in a text, unless the end of the text is among them. -/
theorem lexable_samples (ks : List Kind) (h : .eof ∉ ks) : Lexable (samples ks) := by
  intro t ht
  obtain ⟨k, hk, rfl⟩ := List.mem_map.1 ht
  exact Token.sample_isLexable fun he => h (he ▸ hk)

theorem Lexable.append {ts us : List Token} (ht : Lexable ts) (hu : Lexable us) :
    Lexable (ts ++ us) := by
  intro t h
  rcases List.mem_append.1 h with h | h
  · exact ht t h
  · exact hu t h

/-- Two lists of items make one list. -/
theorem Many.append {α : Type} {D : List Token → α → Prop} {ts us : List Token} {as bs : List α}
    (h : Many D ts as) (h' : Many D us bs) : Many D (ts ++ us) (as ++ bs) := by
  induction h with
  | nil => exact h'
  | cons ha _ ih => simpa using Many.cons ha ih

/-- The lists of tokens that a production derives. -/
def Derived {α : Type} (D : List Token → α → Prop) (ts : List Token) : Prop := ∃ a, D ts a

theorem kinds_eq_cons {ts : List Token} {k : Kind} {ks : List Kind} :
    kinds ts = k :: ks ↔ ∃ t rest, ts = t :: rest ∧ t.kind = k ∧ kinds rest = ks := by
  cases ts <;> simp [kinds, and_assoc]

theorem kinds_eq_nil {ts : List Token} : kinds ts = [] ↔ ts = [] := by
  simp [kinds]

/-- Every list of tokens of the kinds `ks` belongs to the language `L`. -/
def Admits (L : List Token → Prop) (ks : List Kind) : Prop := ∀ ts, kinds ts = ks → L ts

/-- What is left of a language after its first token. -/
theorem Admits.tail {L : List Token → Prop} {t : Token} {k : Kind} {ks : List Kind}
    (h : Admits L (k :: ks)) (ht : t.kind = k) : Admits (fun vs => L (t :: vs)) ks :=
  fun ts hts => h (t :: ts) (by simp [ht, hts])

end Grammar

namespace Parser

variable {σ α β : Type} {L M : List Token → Prop} {us : List Token} {k : Kind} {ks : List Kind}

/-- **A token of kind `k` can follow** the tokens `us` in the language `L`: with it and some more
tokens of a text they belong to `L`. -/
def Continues (L : List Token → Prop) (us : List Token) (k : Kind) : Prop :=
  ∃ u ws, u.kind = k ∧ Lexable (u :: ws) ∧ L (us ++ u :: ws)

/-- What can follow in one language can follow in another one to whose texts its own can be
completed. -/
theorem Continues.mono (h : Continues L us k)
    (hLM : ∀ ts, L ts → ∃ ws, Lexable ws ∧ M (ts ++ ws)) : Continues M us k := by
  obtain ⟨u, ws, hu, hw, hL⟩ := h
  obtain ⟨xs, hx, hM⟩ := hLM _ hL
  exact ⟨u, ws ++ xs, hu, hw.append hx, by simpa using hM⟩

/-- What can follow in what is left behind some tokens can follow behind these. -/
theorem Continues.prepend (ts : List Token) (h : Continues (fun vs => L (ts ++ vs)) us k) :
    Continues L (ts ++ us) k := by
  obtain ⟨u, ws, hu, hw, hL⟩ := h
  exact ⟨u, ws, hu, hw, by simpa using hL⟩

theorem bind_eq_error {s s'' : State σ} {p : Parser σ α} {f : α → Parser σ β} {err : ParseError} :
    (p >>= f) s = .error err s'' ↔
      p s = .error err s'' ∨ ∃ a s', p s = .ok a s' ∧ f a s' = .error err s'' := by
  cases hp : p s with
  | error err' s' => simp [bind_of_error hp]
  | ok a s' =>
    rw [bind_of_ok hp]
    constructor
    · intro hf; exact .inr ⟨a, s', rfl, hf⟩
    · rintro (herr | ⟨a', s₁, ha, hf⟩)
      · cases herr
      · cases ha; exact hf

variable [TokenSource σ]

/-- **A run that can be mended.** If `p` meets an unexpected token on its way from `s`, every kind
of token that it names instead can follow what it took, in the language `L`. -/
def MendsAt (p : Parser σ α) (L : List Token → Prop) (s : State σ) : Prop :=
  ∀ ⦃ts : List Token⦄ ⦃e : Option LexError⦄ ⦃x : Expected⦄ ⦃t : Token⦄ ⦃s' : State σ⦄,
    s.Sees ts e → p s = .error (.unexpected x t) s' →
      ∃ us vs, ts = us ++ t :: vs ∧ ∀ k ∈ x.kinds, Continues L us k

variable {s : State σ} {p : Parser σ α} {x : Expected}

/-! ### Steps and sequences -/

/-- A run that can be mended in one language can be in any to which its texts can be completed. -/
theorem MendsAt.mono (h : MendsAt p L s) (hLM : ∀ ts, L ts → ∃ ws, Lexable ws ∧ M (ts ++ ws)) :
    MendsAt p M s := by
  intro ts e x t s' hs herr
  obtain ⟨us, vs, rfl, hc⟩ := h hs herr
  exact ⟨us, vs, rfl, fun k hk => (hc k hk).mono hLM⟩

theorem mendsAt_pure (a : α) : MendsAt (pure a : Parser σ α) L s := by
  intro ts e x t s' hs herr
  cases herr

/-- Taking a token is never refused by the parser. -/
theorem advance_ne_unexpected {s' : State σ} {t : Token} :
    (advance : Parser σ Token) s ≠ .error (.unexpected x t) s' := by
  unfold advance
  split
  · simp
  · split <;> simp

/-- Taking a token names no kinds. -/
theorem mendsAt_advance : MendsAt (advance : Parser σ Token) L s :=
  fun _ _ _ _ _ _ herr => absurd herr advance_ne_unexpected

/-- What is named where nothing has been taken must be able to begin the language. -/
theorem mendsAt_unexpected (h : ∀ k ∈ x.kinds, Continues L [] k) :
    MendsAt (unexpected x : Parser σ α) L s := by
  intro ts e x t s' hs herr
  obtain ⟨rest, rfl, -⟩ := hs
  cases herr
  exact ⟨[], rest, rfl, h⟩

theorem MendsAt.kind_bind {f : Kind → Parser σ α} (h : MendsAt (f s.current.kind) L s) :
    MendsAt (kind >>= f) L s := h

/-- **Sequences.** The second part is mended in what the first part has left of the language. -/
theorem MendsAt.bind {D : List Token → α → Prop} {f : α → Parser σ β} (hD : Sound p D)
    (hp : MendsAt p L s)
    (hf : ∀ us a s', D us a → p s = .ok a s' → MendsAt (f a) (fun vs => L (us ++ vs)) s') :
    MendsAt (p >>= f) L s := by
  intro ts e x t s'' hs herr
  rcases bind_eq_error.1 herr with herr | ⟨a, s', ha, herr⟩
  · exact hp hs herr
  · obtain ⟨us, vs, rfl, hd, hs'⟩ := hD hs trivial ha
    obtain ⟨us', vs', rfl, hc⟩ := hf us a s' hd ha hs' herr
    exact ⟨us ++ us', vs', by simp, fun k hk => (hc k hk).prepend _⟩

/-- Taking a token of a kind takes that token alone. -/
theorem expect_sound_one (hk : k ≠ .eof) :
    Sound (expect k : Parser σ Token) fun us t => us = [t] ∧ t.kind = k := by
  intro s s' ts e t hs _ h
  obtain ⟨ht, vs, rfl, hs'⟩ := expect_sound hs h hk
  exact ⟨[t], vs, rfl, ⟨rfl, ht⟩, hs'⟩

/-- A list that does not end where it should is reported at the current token. -/
theorem close_eq_unexpected {y : Expected} {t : Token} {s' : State σ}
    (h : (close k x : Parser σ Token) s = .error (.unexpected y t) s') : y = x ∧ t = s.current := by
  unfold close at h
  rw [kind_bind] at h
  split at h
  · exact absurd h advance_ne_unexpected
  · cases h
    exact ⟨rfl, rfl⟩

/-- The end of a list, where the named kinds can stand too. -/
theorem mendsAt_close (h : ∀ k' ∈ x.kinds, Continues L [] k') :
    MendsAt (close k x : Parser σ Token) L s := by
  unfold close
  apply MendsAt.kind_bind
  split
  · exact mendsAt_advance
  · exact mendsAt_unexpected h

/-- A token can follow if some tokens after it complete the language. -/
theorem Continues.of_samples (ks : List Kind) (h : L (us ++ samples (k :: ks)))
    (he : .eof ∉ k :: ks) : Continues L us k :=
  ⟨.sample k, samples ks, rfl, lexable_samples _ he, h⟩

/-- A token that is expected, in a language that goes on with tokens of the kinds `ks`. -/
theorem mendsAt_expect (ks : List Kind) (hL : L (samples (k :: ks))) (he : .eof ∉ k :: ks) :
    MendsAt (expect k : Parser σ Token) L s := by
  rw [expect_eq_close]
  apply mendsAt_close
  intro k' hk'
  obtain rfl : k' = k := by simpa [Expected.kinds] using hk'
  exact .of_samples ks hL he

/-- **A token of a fixed kind and what follows it.** The kinds `ks` complete the language if the
token is missing, and what follows is mended in what is left of the language. -/
theorem mendsAt_expect_bind {f : Token → Parser σ α} (ks : List Kind)
    (hL : L (samples (k :: ks))) (he : .eof ∉ k :: ks)
    (hf : ∀ t s', t.kind = k → MendsAt (f t) (fun vs => L (t :: vs)) s') :
    MendsAt (expect k >>= f) L s := by
  have hk : k ≠ .eof := fun h => he (by simp [h])
  refine MendsAt.bind (expect_sound_one hk) (mendsAt_expect ks hL he) ?_
  rintro us t s' ⟨rfl, ht⟩ -
  exact hf t s' ht

/-- The same where the language takes any tokens of these kinds. -/
theorem mendsAt_expect_admits {f : Token → Parser σ α} (hL : Admits L (k :: ks))
    (he : .eof ∉ k :: ks)
    (hf : ∀ t s', t.kind = k → Admits (fun vs => L (t :: vs)) ks →
      MendsAt (f t) (fun vs => L (t :: vs)) s') :
    MendsAt (expect k >>= f) L s := by
  refine mendsAt_expect_bind _ (hL _ (kinds_samples _)) he fun t s' ht => ?_
  exact hf t s' ht (hL.tail ht)

/-- A token that is looked at and taken, and what follows it. -/
theorem mendsAt_advance_bind {f : Token → Parser σ α} (hk : s.current.kind ≠ .eof)
    (hf : ∀ s', MendsAt (f s.current) (fun vs => L (s.current :: vs)) s') :
    MendsAt (advance >>= f) L s := by
  intro ts e x t s'' hs herr
  rcases bind_eq_error.1 herr with herr | ⟨a, s', ha, herr⟩
  · exact mendsAt_advance hs herr
  · obtain ⟨rfl, vs, rfl, hs'⟩ := advance_sound hs hk ha
    obtain ⟨us, vs, rfl, hc⟩ := hf s' hs' herr
    exact ⟨s.current :: us, vs, rfl, fun k hk => (hc k hk).prepend [s.current]⟩

/-! ### Loops -/

/-- A loop breaks off within an item, after complete ones. -/
theorem mendsAt_many {D : List Token → α → Prop} {more : Kind → Bool} {item : Parser σ α}
    (hD : SoundFrom (more ·) item D)
    (hitem : ∀ s : State σ, more s.current.kind → MendsAt item (Derived D) s) :
    MendsAt (many more item) (Derived (Many D)) s := by
  intro ts e x t s' hs herr
  -- only a round that fails, or one behind it, ends in an error
  fun_induction many more item s generalizing ts s' with
  | case1 s hm err s₁ hi =>
    cases herr
    obtain ⟨us, vs, rfl, hc⟩ := hitem s hm hs hi
    refine ⟨us, vs, rfl, fun k hk => (hc k hk).mono ?_⟩
    rintro ts ⟨a, ha⟩
    exact ⟨[], by simp [Lexable], [a], .cons ha .nil⟩
  | case2 s hm a s₁ hi hlt as₁ s₂ hrec ih => cases herr
  | case3 s hm a s₁ hi hlt err s₂ hrec ih =>
    cases herr
    obtain ⟨us, vs, rfl, ha, hs₁⟩ := hD hs hm hi
    obtain ⟨us', vs', rfl, hc⟩ := ih hs₁ hrec
    refine ⟨us ++ us', vs', by simp, fun k hk => ?_⟩
    obtain ⟨u, ws, hu, hw, as, has⟩ := hc k hk
    exact ⟨u, ws, hu, hw, a :: as, by simpa using Many.cons ha has⟩
  | case4 s hm a s₁ hi hlt => cases herr
  | case5 s hm => cases herr

/-- A list of items up to the token that ends it. At its end, every kind that is expected ends the
list or begins one more item. -/
theorem mendsAt_many_close {D : List Token → α → Prop} {more : Kind → Bool} {item : Parser σ α}
    {g : List α → β} (hD : Sound item D) (hitem : ∀ s : State σ, MendsAt item (Derived D) s)
    (hk : k ≠ .eof) (hL : ∀ us as t, Many D us as → t.kind = k → L (us ++ [t]))
    (hx : ∀ k' ∈ x.kinds, k' = k ∨ Continues (Derived D) [] k') :
    MendsAt (many more item >>= fun as => close k x >>= fun _ => pure (g as)) L s := by
  have hend : Lexable [.sample k] := lexable_samples [k] (by simpa using hk.symm)
  refine MendsAt.bind (many_sound (hD.soundFrom _)) ?_ ?_
  · refine (mendsAt_many (hD.soundFrom _) fun s _ => hitem s).mono ?_
    rintro ts ⟨as, has⟩
    exact ⟨[.sample k], hend, hL _ as _ has rfl⟩
  · intro us as s' has _ ts e x' t s'' hs herr
    rcases bind_eq_error.1 herr with herr | ⟨u, s₁, -, herr⟩
    · refine mendsAt_close (fun k' hk' => ?_) hs herr
      rcases hx k' hk' with rfl | hc
      · exact ⟨.sample k', [], rfl, hend, hL us as _ has rfl⟩
      · refine hc.mono ?_
        rintro ts ⟨a, ha⟩
        have hmany : Many D (us ++ (ts ++ [])) (as ++ [a]) := has.append (.cons ha .nil)
        exact ⟨[.sample k], hend, by simpa using hL _ _ (.sample k) hmany rfl⟩
    · cases herr

/-! ### Configuration and variables -/

theorem admits_header : Admits (Derived HeaderDecl) [.header, .str, .equals, .str, .semicolon] := by
  intro ts h
  simp only [kinds_eq_cons, kinds_eq_nil] at h
  obtain ⟨kw, _, rfl, h₁, name, _, rfl, h₂, eq, _, rfl, h₃, value, _, rfl, h₄, semi, _, rfl, h₅,
    rfl⟩ := h
  exact ⟨_, .intro (by simp [*])⟩

/-- In a header declaration each kind that is named is the only one that can stand there. -/
theorem header_mendsAt (s : State σ) :
    MendsAt (header : Parser σ Header) (Derived HeaderDecl) s := by
  unfold header
  refine mendsAt_expect_admits admits_header (by decide) fun _ _ _ hL => ?_
  refine mendsAt_expect_admits hL (by decide) fun _ _ _ hL => ?_
  refine mendsAt_expect_admits hL (by decide) fun _ _ _ hL => ?_
  refine mendsAt_expect_admits hL (by decide) fun _ _ _ hL => ?_
  exact mendsAt_expect_admits hL (by decide) fun _ _ _ _ => mendsAt_pure _

theorem admits_baseUrl : Admits (Derived ConfigItem) [.baseUrl, .equals, .str, .semicolon] := by
  intro ts h
  simp only [kinds_eq_cons, kinds_eq_nil] at h
  obtain ⟨kw, _, rfl, h₁, eq, _, rfl, h₂, url, _, rfl, h₃, semi, _, rfl, h₄, rfl⟩ := h
  exact ⟨_, .baseUrl (by simp [*])⟩

/-- An item of the configuration that is no base URL is to be a header. -/
theorem configItem_mendsAt (s : State σ) :
    MendsAt (configItem : Parser σ Config.Item) (Derived ConfigItem) s := by
  unfold configItem
  apply MendsAt.kind_bind
  split
  · rename_i hk
    refine mendsAt_advance_bind (by rw [hk]; decide) fun _ => ?_
    refine mendsAt_expect_admits (admits_baseUrl.tail hk) (by decide) fun _ _ _ hL => ?_
    refine mendsAt_expect_admits hL (by decide) fun _ _ _ hL => ?_
    exact mendsAt_expect_admits hL (by decide) fun _ _ _ _ => mendsAt_pure _
  · refine MendsAt.bind header_sound ((header_mendsAt s).mono ?_) fun _ _ _ _ _ => mendsAt_pure _
    rintro ts ⟨hd, h⟩
    exact ⟨[], by simp [Lexable], _, .header (by simpa using h)⟩

/-- Between the items of the configuration another item or the closing brace can follow. -/
theorem config_mendsAt (s : State σ) :
    MendsAt (config : Parser σ Config) (Derived ConfigBlock) s := by
  have hL : Admits (Derived ConfigBlock) [.config, .leftBrace, .rightBrace] := by
    intro ts h
    simp only [kinds_eq_cons, kinds_eq_nil] at h
    obtain ⟨kw, _, rfl, h₁, left, _, rfl, h₂, right, _, rfl, h₃, rfl⟩ := h
    have hblock := ConfigBlock.intro (by simp [*] : kinds [kw, left, right] = _) .nil
    exact ⟨_, hblock⟩
  unfold config
  refine mendsAt_expect_admits hL (by decide) fun kw _ h₁ hL => ?_
  refine mendsAt_expect_admits hL (by decide) fun left _ h₂ _ => ?_
  refine mendsAt_many_close configItem_sound configItem_mendsAt (by decide) ?_ ?_
  · intro us items right hi hr
    exact ⟨_, .intro (by simp [*]) hi⟩
  · -- a base URL or a header could have come, or the end
    intro k hk
    simp only [Expected.kinds, List.mem_cons, List.not_mem_nil, or_false] at hk
    rcases hk with rfl | rfl | rfl
    · exact .inr (.of_samples _ (admits_baseUrl _ (kinds_samples _)) (by decide))
    · refine .inr (.of_samples [.str, .equals, .str, .semicolon] ?_ (by decide))
      obtain ⟨hd, h⟩ := admits_header _ (kinds_samples _)
      exact ⟨_, .header h⟩
    · exact .inl rfl

theorem config?_mendsAt (s : State σ) :
    MendsAt (config? : Parser σ (Option Config)) (Derived ConfigOption) s := by
  unfold config?
  apply MendsAt.kind_bind
  split
  · refine MendsAt.bind config_sound ((config_mendsAt s).mono ?_) fun _ _ _ _ _ => mendsAt_pure _
    rintro ts ⟨c, h⟩
    exact ⟨[], by simp [Lexable], _, .some (by simpa using h)⟩
  · exact mendsAt_pure _

theorem admits_variable (hk : k = .str ∨ k = .number) :
    Admits (Derived VariableDecl) [.letVar, .ident, .equals, k, .semicolon] := by
  intro ts h
  simp only [kinds_eq_cons, kinds_eq_nil] at h
  obtain ⟨kw, _, rfl, h₁, name, _, rfl, h₂, eq, _, rfl, h₃, value, _, rfl, h₄, semi, _, rfl, h₅,
    rfl⟩ := h
  exact ⟨_, .intro (by simp [*]) (h₄ ▸ hk)⟩

/-- The value of a variable can be a text or a number, and both are named. -/
theorem variableDecl_mendsAt (s : State σ) :
    MendsAt (variableDecl : Parser σ Variable) (Derived VariableDecl) s := by
  -- the kind of the value is open until it is read
  have hL (k : Kind) (hk : k = .str ∨ k = .number) := admits_variable hk
  unfold variableDecl
  refine mendsAt_expect_bind _ (hL .str (.inl rfl) _ (kinds_samples _)) (by decide) ?_
  intro kw _ h₁
  replace hL (k : Kind) (hk : k = .str ∨ k = .number) := (hL k hk).tail h₁
  refine mendsAt_expect_bind _ (hL .str (.inl rfl) _ (kinds_samples _)) (by decide) ?_
  intro name _ h₂
  replace hL (k : Kind) (hk : k = .str ∨ k = .number) := (hL k hk).tail h₂
  refine mendsAt_expect_bind _ (hL .str (.inl rfl) _ (kinds_samples _)) (by decide) ?_
  intro eq s h₃
  replace hL (k : Kind) (hk : k = .str ∨ k = .number) := (hL k hk).tail h₃
  apply MendsAt.kind_bind
  dsimp only
  split
  · rename_i hk
    have hne : s.current.kind ≠ .eof := by rcases hk with hk | hk <;> rw [hk] <;> decide
    refine mendsAt_advance_bind hne fun _ => ?_
    exact mendsAt_expect_admits ((hL _ hk).tail rfl) (by decide) fun _ _ _ _ => mendsAt_pure _
  · intro ts e x t s' hs herr
    rcases bind_eq_error.1 herr with herr | ⟨_, _, herr, -⟩
    · refine mendsAt_unexpected (fun k hk => ?_) hs herr
      have hk' : k = .str ∨ k = .number := by simpa [Expected.kinds] using hk
      exact .of_samples _ (hL k hk' _ (kinds_samples _)) (by rcases hk' with rfl | rfl <;> decide)
    · exact absurd herr unexpected_ne_ok

/-! ### Request blocks -/

/-- As many closing braces as there are open ones close them. -/
theorem closes_samples (n : Nat) : Closes n (samples (List.replicate n .rightBrace)) := by
  induction n with
  | zero => exact .zero
  | succ n ih =>
    have hclose := Closes.succ .nil (Token.kind_sample .rightBrace) ih
    exact hclose

/-- **Open braces can be closed**, however many there are. -/
theorem closeBraces_mendsAt (n : Nat) (s : State σ) :
    MendsAt (closeBraces (n + 1) : Parser σ Nat) (Closes (n + 1)) s := by
  -- by what is left in the source: a token may open another brace
  induction hm : s.remaining using Nat.strongRecOn generalizing s n with
  | ind m ih =>
  rw [closeBraces_eq]
  apply MendsAt.kind_bind
  split
  · apply mendsAt_unexpected
    intro k hk
    obtain rfl : k = .rightBrace := by simpa [Expected.kinds] using hk
    refine .of_samples (.replicate n .rightBrace) (closes_samples (n + 1)) ?_
    simp [List.mem_replicate]
  · rename_i hk
    intro ts e x t s'' hs herr
    rcases bind_eq_error.1 herr with herr | ⟨u, s', hu, herr⟩
    · exact mendsAt_advance hs herr
    · have hlt := advance_remaining_lt hk hu
      obtain ⟨rfl, vs, rfl, hs'⟩ := advance_sound hs hk hu
      split at herr
      · cases herr
      · rename_i hd
        obtain ⟨d, hd⟩ := Nat.exists_eq_succ_of_ne_zero hd
        rw [hd] at herr
        obtain ⟨us, vs, rfl, hc⟩ := ih _ (hm ▸ hlt) d s' rfl hs' herr
        refine ⟨s.current :: us, vs, rfl, fun k hk' => ?_⟩
        obtain ⟨w, ws, hw, hl, hclose⟩ := hc k hk'
        exact ⟨w, ws, hw, hl, .cons hk (hd ▸ hclose)⟩

/-- The items of a request block and the brace that closes it. -/
def ClosedItems (ts : List Token) : Prop :=
  ∃ us items right, ts = us ++ [right] ∧ BlockItems us items ∧ right.kind = .rightBrace

/-- A closing brace ends the items of a block. -/
theorem closedItems_append {us : List Token} {items : List Request.Item} (h : BlockItems us items) :
    ClosedItems (us ++ [.sample .rightBrace]) :=
  ⟨us, items, _, rfl, h, rfl⟩

theorem lexable_rightBrace : Lexable [.sample .rightBrace] :=
  lexable_samples [.rightBrace] (by decide)

/-- A group in braces that is skipped. -/
theorem closeBraces_zero_mendsAt (hk : s.current.kind = .leftBrace) :
    MendsAt (closeBraces 0 : Parser σ Nat)
      (fun ts => ∃ left inner right, ts = left :: (inner ++ [right]) ∧ left.kind = .leftBrace ∧
        Balanced inner ∧ right.kind = .rightBrace) s := by
  have hne : s.current.kind ≠ .eof := by rw [hk]; decide
  rw [closeBraces_eq]
  apply MendsAt.kind_bind
  rw [if_neg hne]
  refine mendsAt_advance_bind hne fun s' => ?_
  rw [hk]
  refine (closeBraces_mendsAt 0 s').mono ?_
  rintro ts (_ | ⟨hi, hr, _ | _⟩)
  exact ⟨[], by simp [Lexable], _, _, _, by simp, hk, hi, hr⟩

/-- Where a skipped item cannot end, closing its block makes it one that nothing ends. -/
theorem skipEnd_mendsAt {run : List Token} {stop : Nat} (hp : Plain run)
    (hb : run ≠ [] → Begins Unknown run) (hstop : s.current.kind.isPlain = false)
    (he : run = [] → s.current.kind ≠ .eof) :
    MendsAt (skipEnd stop : Parser σ Nat) (fun vs => ClosedItems (run ++ vs)) s := by
  unfold skipEnd
  apply MendsAt.kind_bind
  split
  · rename_i hk
    exact mendsAt_advance_bind (by rw [hk]; decide) fun _ => mendsAt_pure _
  · rename_i hk
    intro ts e x t s'' hs herr
    rcases bind_eq_error.1 herr with herr | ⟨stop', s', -, herr⟩
    · refine (closeBraces_zero_mendsAt hk).mono ?_ hs herr
      rintro ts ⟨left, inner, right, rfl, hl, hi, hr⟩
      refine ⟨[.sample .rightBrace], lexable_rightBrace, ?_⟩
      have hbegins : Begins Unknown (run ++ left :: (inner ++ [right])) := by
        cases run with
        | nil => exact ⟨left, _, rfl, by rw [hl]; decide, by rw [hl]; decide, by rw [hl]; decide⟩
        | cons t run => exact begins_append (hb (by simp))
      have hitem := BlockItems.skipped hbegins (.group hp hl hi hr .none) .nil
      simpa using closedItems_append hitem
    · -- only a `;` may still be taken
      rw [kind_bind] at herr
      split at herr
      · rcases bind_eq_error.1 herr with herr | ⟨_, _, -, herr⟩
        · exact absurd herr advance_ne_unexpected
        · cases herr
      · cases herr
  · exact mendsAt_pure _
  · rename_i hs hl hr
    apply mendsAt_unexpected
    intro k hk
    obtain rfl : k = .rightBrace := by simpa [Expected.kinds] using hk
    -- the text ends within the run, whose block can be closed
    have heof : s.current.kind = .eof := by
      generalize s.current.kind = c at *
      cases c <;> simp_all [Kind.isPlain]
    have hne : run ≠ [] := fun h => he h heof
    exact ⟨.sample .rightBrace, [], rfl, lexable_rightBrace,
      closedItems_append (.unended (hb hne) hp)⟩

/-- Plain tokens are passed over without any being expected. -/
theorem plainRun_ne_unexpected {s' : State σ} {t : Token} :
    (many Kind.isPlain advance : Parser σ (List Token)) s ≠ .error (.unexpected x t) s' := by
  intro herr
  fun_induction many Kind.isPlain advance s with
  | case1 s hm err s₁ hi =>
    cases herr
    exact advance_ne_unexpected hi
  | case2 => cases herr
  | case3 s hm t s₁ hi hlt err s₂ hrec ih =>
    cases herr
    exact ih hrec
  | case4 => cases herr
  | case5 => cases herr

/-- A run of plain tokens goes on as far as it can. -/
theorem plainRun_stops {s' : State σ} {run : List Token}
    (h : (many Kind.isPlain advance : Parser σ (List Token)) s = .ok run s') :
    s'.current.kind.isPlain = false := by
  fun_induction many Kind.isPlain advance s generalizing run with
  | case1 => cases h
  | case2 s hm t s₁ hi hlt run₁ s₂ hrec ih =>
    cases h
    exact ih hrec
  | case3 => cases h
  | case4 s hm t s₁ hi hlt =>
    exact absurd (advance_remaining_lt (ne_eof_of_isPlain hm) hi) hlt
  | case5 s hm =>
    cases h
    simpa using hm

/-- An item that is skipped can break off anywhere, and be completed with its block. -/
theorem skipItem_mendsAt (hk : Unknown s.current.kind) (he : s.current.kind ≠ .eof) :
    MendsAt (skipItem : Parser σ Unit) ClosedItems s := by
  intro ts e x t s'' hs herr
  unfold skipItem at herr
  rw [get_bind] at herr
  rcases bind_eq_error.1 herr with herr | ⟨passed, s', hrun, herr⟩
  -- the run of plain tokens ends without an error, so the error is about the end of the item
  · exact absurd herr plainRun_ne_unexpected
  rcases bind_eq_error.1 herr with herr | ⟨stop, s₁, -, herr⟩
  · obtain ⟨run, vs, rfl, hm, hs'⟩ := many_sound plain_sound hs trivial hrun
    have hhead := hs.head?
    obtain ⟨-, hp⟩ := plain_of_many hm
    have hb : run ≠ [] → Begins Unknown run := by
      intro hne
      obtain ⟨u, rest, rfl⟩ := List.exists_cons_of_ne_nil hne
      exact ⟨u, rest, rfl, by rw [Option.some.inj hhead]; exact hk⟩
    have heof : run = [] → s'.current.kind ≠ .eof := by
      rintro rfl
      rw [List.nil_append, hs'.head?] at hhead
      rwa [Option.some.inj hhead]
    obtain ⟨us, vs, rfl, hc⟩ := skipEnd_mendsAt hp hb (plainRun_stops hrun) heof hs' herr
    exact ⟨run ++ us, vs, by simp, fun k hk => (hc k hk).prepend _⟩
  · cases herr

/-- In the body of a request each kind that is named is the only one that can stand there. -/
theorem body_mendsAt (m : Method) (s : State σ) :
    MendsAt (body m : Parser σ String) (Derived BodyDecl) s := by
  have hL : Admits (Derived BodyDecl) [.body, .equals, .str, .semicolon] := by
    intro ts h
    simp only [kinds_eq_cons, kinds_eq_nil] at h
    obtain ⟨kw, _, rfl, h₁, eq, _, rfl, h₂, value, _, rfl, h₃, semi, _, rfl, h₄, rfl⟩ := h
    exact ⟨_, .intro (by simp [*])⟩
  unfold body
  refine mendsAt_expect_admits hL (by decide) fun _ _ _ hL => ?_
  refine mendsAt_expect_admits hL (by decide) fun _ _ _ hL => ?_
  refine mendsAt_expect_admits hL (by decide) fun _ _ _ hL => ?_
  refine mendsAt_expect_admits hL (by decide) fun _ _ _ hL => ?_
  intro ts e x t s' hs herr
  split at herr <;> cases herr

/-- An item of a block that breaks off can be ended, and the block closed after it. -/
theorem blockItem_mendsAt (m : Method) (hk : blockMore s.current.kind) :
    MendsAt (blockItem m : Parser σ Request.Item) ClosedItems s := by
  have hmore : s.current.kind ≠ .rightBrace ∧ s.current.kind ≠ .eof := by simpa using hk
  by_cases hh : s.current.kind = .header
  · unfold blockItem
    apply MendsAt.kind_bind
    rw [hh]
    refine MendsAt.bind header_sound ((header_mendsAt s).mono ?_) fun _ _ _ _ _ => mendsAt_pure _
    rintro ts ⟨hd, h⟩
    exact ⟨_, lexable_rightBrace, by simpa using closedItems_append (.header h .nil)⟩
  by_cases hb : s.current.kind = .body
  · unfold blockItem
    apply MendsAt.kind_bind
    rw [hb]
    refine MendsAt.bind (body_sound m) ((body_mendsAt m s).mono ?_) fun _ _ _ _ _ => mendsAt_pure _
    rintro ts ⟨text, h⟩
    exact ⟨_, lexable_rightBrace, by simpa using closedItems_append (.body h .nil)⟩
  -- any other item is unknown, and skipped
  · intro ts e x t s'' hs herr
    rw [blockItem_of_unknown hh hb] at herr
    rcases bind_eq_error.1 herr with herr | ⟨_, _, -, herr⟩
    · exact skipItem_mendsAt ⟨hh, hb, hmore.1⟩ hmore.2 hs herr
    · cases herr

/-- Items that break off can be completed with the brace that closes their block. -/
theorem blockItems_mendsAt (m : Method) :
    MendsAt (many blockMore (blockItem m) : Parser σ (List Request.Item)) ClosedItems s := by
  intro ts e x t s' hs herr
  fun_induction many blockMore (blockItem m) s generalizing ts s' with
  | case1 s hm err s₁ hi =>
    cases herr
    exact blockItem_mendsAt m hm hs hi
  | case2 => cases herr
  | case3 s hm item s₁ hi hlt err s₂ hrec ih =>
    cases herr
    obtain ⟨us, vs, rfl, hs₁, hitem⟩ := blockItem_sound hs (by simp at hm; exact hm.1) hi
    obtain ⟨us', vs', rfl, hc⟩ := ih hs₁ hrec
    refine ⟨us ++ us', vs', by simp, fun k hk => ?_⟩
    obtain ⟨u, ws, hu, hw, zs, items, right, heq, hi', hr'⟩ := hc k hk
    refine ⟨u, ws, hu, hw, ?_⟩
    rw [List.append_assoc, heq, ← List.append_assoc]
    rcases hitem with ⟨hd, -, hD⟩ | ⟨text, -, hD⟩ | ⟨-, hb, hS | ⟨hp, hr⟩⟩
    · exact ⟨us ++ zs, _, right, rfl, .header hD hi', hr'⟩
    · exact ⟨us ++ zs, _, right, rfl, .body hD hi', hr'⟩
    · exact ⟨us ++ zs, _, right, rfl, .skipped hb hS hi', hr'⟩
    · -- the loop has stopped at the brace that ended the item
      rw [many_of_not_more (by rw [hr]; decide)] at hrec
      cases hrec
  | case4 => cases herr
  | case5 => cases herr

/-- A block that is not there names nothing, as a request can do without it. -/
theorem block_mendsAt (m : Method) (s : State σ) :
    MendsAt (block m : Parser σ (List Request.Item)) (Derived BlockOption) s := by
  unfold block
  apply MendsAt.kind_bind
  split
  · rename_i hl
    -- items that are closed are a block, and need nothing more
    have hclosed : ∀ ts, ClosedItems ts →
        ∃ ws, Lexable ws ∧ Derived BlockOption (s.current :: (ts ++ ws)) := by
      rintro ts ⟨us, items, right, rfl, hi, hr⟩
      exact ⟨[], by simp [Lexable], items, by simpa using BlockOption.some hl hi hr⟩
    refine mendsAt_advance_bind (by rw [hl]; decide) fun s' => ?_
    intro ts e x t s'' hs herr
    rcases bind_eq_error.1 herr with herr | ⟨items, s₁, hitems, herr⟩
    · exact (blockItems_mendsAt m).mono hclosed hs herr
    rcases bind_eq_error.1 herr with herr | ⟨_, _, -, herr⟩
    · obtain ⟨us, vs, rfl, hi, hs₁⟩ := blockItems_sound hs hitems
      have hend := mendsAt_expect [] (s := s₁)
        (L := fun vs => Derived BlockOption (s.current :: (us ++ vs))) ⟨_, .some hl hi rfl⟩
        (by decide)
      obtain ⟨us', vs, rfl, hc⟩ := hend hs₁ herr
      exact ⟨us ++ us', vs, by simp, fun k hk => (hc k hk).prepend _⟩
    · cases herr
  · exact mendsAt_pure _

/-! ### Requests, assertions and tests -/

theorem admits_request (m : Method) : Admits (Derived RequestDecl) [.method m, .str] := by
  intro ts h
  simp only [kinds_eq_cons, kinds_eq_nil] at h
  obtain ⟨kw, _, rfl, h₁, path, _, rfl, h₂, rfl⟩ := h
  exact ⟨_, .intro (m := m) (by simp [*]) .none .none⟩

/-- Every method can begin a request. -/
theorem continues_request {k : Kind} (hk : k ∈ Expected.methodKinds) :
    Continues (Derived RequestDecl) [] k := by
  have hm : ∃ m, k = .method m := by
    simp only [Expected.methodKinds, List.mem_cons, List.not_mem_nil, or_false] at hk
    rcases hk with rfl | rfl | rfl | rfl <;> exact ⟨_, rfl⟩
  obtain ⟨m, rfl⟩ := hm
  exact .of_samples _ (admits_request m _ (kinds_samples _)) (by simp)

/-- A request that breaks off has a method, or is to begin with one. -/
theorem request_mendsAt (s : State σ) :
    MendsAt (request : Parser σ Request) (Derived RequestDecl) s := by
  unfold request
  apply MendsAt.kind_bind
  split
  · exact mendsAt_unexpected fun k hk => continues_request hk
  · rename_i m hm
    have hk := Token.Kind.method?_eq_some hm
    refine mendsAt_advance_bind (by rw [hk]; simp) fun _ => ?_
    refine mendsAt_expect_admits ((admits_request m).tail hk) (by decide) fun path s' h₂ _ => ?_
    refine MendsAt.bind (block_sound m) ((block_mendsAt m s').mono ?_) fun _ _ s₁ _ _ => ?_
    · rintro ts ⟨items, h⟩
      exact ⟨[], by simp [Lexable], _, .intro (m := m) (by simp [*]) h .none⟩
    · -- the `;` is optional
      apply MendsAt.kind_bind
      dsimp only
      split
      · rename_i hsemi
        exact mendsAt_advance_bind (by rw [hsemi]; decide) fun _ => mendsAt_pure _
      · exact mendsAt_pure _

/-- What stands between `expect` and the `;` of an assertion. -/
def Expectation (us : List Token) : Prop :=
  ∀ kw semi : Token, kw.kind = .expect → semi.kind = .semicolon →
    Derived AssertionDecl (kw :: (us ++ [semi]))

theorem expectation_status : Expectation (samples [.status, .equals, .number]) := by
  intro kw semi hkw hsemi
  exact ⟨_, .status (by simp [*]) (by decide)⟩

/-- A header is compared in two ways, and both are completed by a text. -/
theorem admits_headerCheck (hk : k = .equals ∨ k = .contains) :
    Admits Expectation [.header, .str, k, .str] := by
  intro ts h kw semi hkw hsemi
  simp only [kinds_eq_cons, kinds_eq_nil] at h
  obtain ⟨subject, _, rfl, h₁, name, _, rfl, h₂, op, _, rfl, h₃, value, _, rfl, h₄, rfl⟩ := h
  rcases hk with rfl | rfl
  · exact ⟨_, .headerEquals (by simp [*])⟩
  · exact ⟨_, .headerContains (by simp [*])⟩

theorem admits_bodyCheck : Admits Expectation [.body, .contains, .str] := by
  intro ts h kw semi hkw hsemi
  simp only [kinds_eq_cons, kinds_eq_nil] at h
  obtain ⟨subject, _, rfl, h₁, op, _, rfl, h₂, value, _, rfl, h₃, rfl⟩ := h
  exact ⟨_, .bodyContains (by simp [*])⟩

/-- The number of a status that does not fit names no kinds. -/
theorem statusCode_mendsAt (hL : L (samples [.number])) :
    MendsAt (statusCode : Parser σ Assertion) L s := by
  unfold statusCode
  refine mendsAt_expect_bind [] hL (by decide) fun number _ _ => ?_
  -- a number out of range is another error
  intro ts e x t s' hs herr
  dsimp only at herr
  split at herr <;> cases herr

/-- After the name of a header both comparisons can follow. -/
theorem headerCheck_mendsAt (hL : ∀ k, k = .equals ∨ k = .contains → Admits L [.str, k, .str])
    (s : State σ) : MendsAt (headerCheck : Parser σ Assertion) L s := by
  unfold headerCheck
  refine mendsAt_expect_bind _ (hL .equals (.inl rfl) _ (kinds_samples _)) (by decide) ?_
  intro name s' hname
  have hL' (k : Kind) (h : k = .equals ∨ k = .contains) := (hL k h).tail hname
  apply MendsAt.kind_bind
  split
  · rename_i hc
    refine mendsAt_advance_bind (by rw [hc]; decide) fun _ => ?_
    exact mendsAt_expect_admits ((hL' _ (.inl hc)).tail rfl) (by decide)
      fun _ _ _ _ => mendsAt_pure _
  · rename_i hc
    refine mendsAt_advance_bind (by rw [hc]; decide) fun _ => ?_
    exact mendsAt_expect_admits ((hL' _ (.inr hc)).tail rfl) (by decide)
      fun _ _ _ _ => mendsAt_pure _
  · apply mendsAt_unexpected
    intro k hk
    have hk' : k = .equals ∨ k = .contains := by simpa [Expected.kinds] using hk
    exact .of_samples _ (hL' k hk' _ (kinds_samples _)) (by rcases hk' with rfl | rfl <;> decide)

/-- What is expected is a status, a header or a body, and all three are named. -/
theorem expectation_mendsAt (s : State σ) :
    MendsAt (expectation : Parser σ Assertion) Expectation s := by
  unfold expectation
  apply MendsAt.kind_bind
  split
  · rename_i hk
    refine mendsAt_advance_bind (by rw [hk]; decide) fun _ => ?_
    refine mendsAt_expect_bind [.number] ?_ (by decide) fun eq _ heq => statusCode_mendsAt ?_
    · intro kw semi hkw hsemi
      exact ⟨_, .status (by simp [*]) (by decide)⟩
    · intro kw semi hkw hsemi
      exact ⟨_, .status (by simp [*]) (by decide)⟩
  · rename_i hk
    refine mendsAt_advance_bind (by rw [hk]; decide) fun _ => ?_
    exact headerCheck_mendsAt (fun k h => (admits_headerCheck h).tail hk) _
  · rename_i hk
    refine mendsAt_advance_bind (by rw [hk]; decide) fun _ => ?_
    refine mendsAt_expect_admits (admits_bodyCheck.tail hk) (by decide) fun _ _ _ hL => ?_
    exact mendsAt_expect_admits hL (by decide) fun _ _ _ _ => mendsAt_pure _
  -- nothing that can be expected stands here; each of the three kinds is completed by a sample
  · apply mendsAt_unexpected
    intro k hk
    simp only [Expected.kinds, List.mem_cons, List.not_mem_nil, or_false] at hk
    rcases hk with rfl | rfl | rfl
    · exact .of_samples _ expectation_status (by decide)
    · exact .of_samples _ (admits_headerCheck (.inl rfl) _ (kinds_samples _)) (by decide)
    · exact .of_samples _ (admits_bodyCheck _ (kinds_samples _)) (by decide)

theorem lexable_semicolon : Lexable [.sample .semicolon] :=
  lexable_samples [.semicolon] (by decide)

/-- An assertion that breaks off can be completed with its `;`. -/
theorem assertion_mendsAt (s : State σ) :
    MendsAt (assertion : Parser σ Assertion) (Derived AssertionDecl) s := by
  unfold assertion
  refine mendsAt_expect_bind [.body, .contains, .str, .semicolon] ?_ (by decide) ?_
  · exact admits_bodyCheck _ (kinds_samples _) (.sample .expect) (.sample .semicolon) rfl rfl
  intro kw s' hkw
  refine MendsAt.bind expectation_sound ((expectation_mendsAt s').mono ?_) fun us a s₁ ha _ => ?_
  · intro ts h
    exact ⟨[.sample .semicolon], lexable_semicolon, h kw _ hkw rfl⟩
  · refine mendsAt_expect_bind [] ?_ (by decide) fun _ _ _ => mendsAt_pure _
    exact ⟨a, ha kw _ hkw rfl⟩

/-- A request makes a statement with any assertions that follow it, or none. -/
theorem statementDecl_of {us vs : List Token} {r : Request} {as : List Assertion}
    (hr : RequestDecl us r) (ha : Many AssertionDecl vs as) : Derived StatementDecl (us ++ vs) := by
  cases ha with
  | nil => exact ⟨_, by simpa using StatementDecl.request hr⟩
  | cons h hs => exact ⟨_, .checked hr (.cons h hs) (by simp)⟩

/-- A statement breaks off in its request or in one of its assertions. -/
theorem statement_mendsAt (s : State σ) :
    MendsAt (statement : Parser σ Statement) (Derived StatementDecl) s := by
  unfold statement
  refine MendsAt.bind request_sound ((request_mendsAt s).mono ?_) fun us r s' hr _ => ?_
  · rintro ts ⟨r, hr⟩
    exact ⟨[], by simp [Lexable], statementDecl_of hr .nil⟩
  · refine MendsAt.bind (many_sound (assertion_sound.soundFrom _)) ?_
      fun _ _ _ _ _ => mendsAt_pure _
    refine (mendsAt_many (assertion_sound.soundFrom _) fun s _ => assertion_mendsAt s).mono ?_
    rintro ts ⟨as, ha⟩
    exact ⟨[], by simp [Lexable], by simpa using statementDecl_of hr ha⟩

theorem admits_test : Admits (Derived TestDecl) [.test, .ident, .leftBrace, .rightBrace] := by
  intro ts h
  simp only [kinds_eq_cons, kinds_eq_nil] at h
  obtain ⟨kw, _, rfl, h₁, name, _, rfl, h₂, left, _, rfl, h₃, right, _, rfl, h₄, rfl⟩ := h
  have htest := TestDecl.intro (by simp [*] : kinds [kw, name, left, right] = _) .nil
  exact ⟨_, htest⟩

/-- Between the statements of a test another request or the closing brace can follow. -/
theorem test_mendsAt (s : State σ) :
    MendsAt (test : Parser σ Test) (Derived TestDecl) s := by
  unfold test
  refine mendsAt_expect_admits admits_test (by decide) fun kw _ h₁ hL => ?_
  refine mendsAt_expect_admits hL (by decide) fun name _ h₂ hL => ?_
  refine mendsAt_expect_admits hL (by decide) fun left _ h₃ _ => ?_
  refine mendsAt_many_close statement_sound statement_mendsAt (by decide) ?_ ?_
  · intro us sts right hs hr
    exact ⟨_, .intro (by simp [*]) hs⟩
  · intro k hk
    rcases List.mem_append.1 hk with hk | hk
    · refine .inr ((continues_request hk).mono ?_)
      rintro ts ⟨r, hr⟩
      exact ⟨[], by simp [Lexable], statementDecl_of hr .nil⟩
    · exact .inl (by simpa using hk)

/-! ### Test descriptions -/

/-- The tokens of a test description without the end of the text. -/
def Contents (ts : List Token) : Prop := ∀ eof : Token, eof.kind = .eof → Derived File (ts ++ [eof])

/-- What has been read of a test description makes one with the end of the text. -/
theorem contents_of {cs vs ts : List Token} {c : Option Config} {vars : List Variable}
    {tests : List Test} (hc : ConfigOption cs c) (hv : Many VariableDecl vs vars)
    (ht : Many TestDecl ts tests) : Contents (cs ++ (vs ++ ts)) := by
  intro eof he
  exact ⟨_, by simpa using File.intro hc hv ht he⟩

/-- After the configuration, variables and tests another test can follow. -/
theorem continues_test {cs vs ts : List Token} {c : Option Config} {vars : List Variable}
    {tests : List Test} (hc : ConfigOption cs c) (hv : Many VariableDecl vs vars)
    (ht : Many TestDecl ts tests) : Continues Contents (cs ++ (vs ++ ts)) .test := by
  refine .of_samples [.ident, .leftBrace, .rightBrace] ?_ (by decide)
  obtain ⟨test, htest⟩ := admits_test _ (kinds_samples _)
  simpa using contents_of hc hv (ht.append (.cons htest .nil))

theorem continues_variable {cs vs : List Token} {c : Option Config} {vars : List Variable}
    (hc : ConfigOption cs c) (hv : Many VariableDecl vs vars) :
    Continues Contents (cs ++ vs) .letVar := by
  refine .of_samples [.ident, .equals, .str, .semicolon] ?_ (by decide)
  obtain ⟨var, hvar⟩ := admits_variable (.inl rfl) _ (kinds_samples _)
  simpa using contents_of hc (hv.append (.cons hvar .nil)) .nil

/-- At the end of a list of declarations, what is expected depends on whether a test has come. -/
theorem continues_end {cs vs ts : List Token} {c : Option Config} {vars : List Variable}
    {tests : List Test} (hc : ConfigOption cs c) (hv : Many VariableDecl vs vars)
    (ht : Many TestDecl ts tests)
    (hk : k ∈ (if tests.isEmpty then Expected.declaration else .test).kinds) :
    (k = .eof ∧ Contents (cs ++ (vs ++ ts))) ∨ Continues Contents (cs ++ (vs ++ ts)) k := by
  cases tests with
  | nil =>
    cases ht
    simp only [List.isEmpty_nil, if_true, Expected.kinds, List.mem_cons, List.not_mem_nil,
      or_false] at hk
    rcases hk with rfl | rfl | rfl
    · exact .inr (by simpa using continues_variable hc hv)
    · exact .inr (continues_test hc hv .nil)
    · exact .inl ⟨rfl, contents_of hc hv .nil⟩
  | cons test tests =>
    simp only [List.isEmpty_cons, Bool.false_eq_true, if_false, Expected.kinds, List.mem_cons,
      List.not_mem_nil, or_false] at hk
    rcases hk with rfl | rfl
    · exact .inr (continues_test hc hv ht)
    · exact .inl ⟨rfl, contents_of hc hv ht⟩

/-- **What the parser expects can follow.** Where it meets an unexpected token, each kind that it
names is the end of the text and the text could end there, or a token of that kind can follow. -/
theorem suite_mends {ts : List Token} {e : Option LexError} {t : Token} {s' : State σ}
    (hs : s.Sees ts e) (herr : Parser.suite s = .error (.unexpected x t) s') :
    ∃ us vs, ts = us ++ t :: vs ∧
      ∀ k ∈ x.kinds, (k = .eof ∧ Contents us) ∨ Continues Contents us k := by
  unfold Parser.suite at herr
  rcases bind_eq_error.1 herr with herr | ⟨c, s₁, hconfig, herr⟩
  · obtain ⟨us, vs, rfl, hm⟩ := config?_mendsAt s hs herr
    refine ⟨us, vs, rfl, fun k hk => .inr ((hm k hk).mono ?_)⟩
    rintro ts ⟨c, hc⟩
    exact ⟨[], by simp [Lexable], by simpa using contents_of hc .nil .nil⟩
  -- the configuration has been read, so what is missing is missing behind it
  obtain ⟨cs, vs, rfl, hc, hs₁⟩ := config?_sound hs trivial hconfig
  rcases bind_eq_error.1 herr with herr | ⟨vars, s₂, hvars, herr⟩
  · obtain ⟨us, vs, rfl, hm⟩ :=
      mendsAt_many (variableDecl_sound.soundFrom _) (fun s _ => variableDecl_mendsAt s) hs₁ herr
    refine ⟨cs ++ us, vs, by simp, fun k hk => .inr (((hm k hk).mono ?_).prepend _)⟩
    rintro ts ⟨vars, hv⟩
    exact ⟨[], by simp [Lexable], by simpa using contents_of hc hv .nil⟩
  -- so have the variables
  obtain ⟨vs, ws, rfl, hv, hs₂⟩ := many_sound (variableDecl_sound.soundFrom _) hs₁ trivial hvars
  rcases bind_eq_error.1 herr with herr | ⟨tests, s₃, htests, herr⟩
  · obtain ⟨us, ws, rfl, hm⟩ :=
      mendsAt_many (test_sound.soundFrom _) (fun s _ => test_mendsAt s) hs₂ herr
    refine ⟨cs ++ vs ++ us, ws, by simp, fun k hk => .inr (((hm k hk).mono ?_).prepend _)⟩
    rintro ts ⟨tests, ht⟩
    exact ⟨[], by simp [Lexable], by simpa using contents_of hc hv ht⟩
  -- all tests have been read: the text does not end where it could, or go on with another part
  obtain ⟨us, ws, rfl, ht, hs₃⟩ := many_sound (test_sound.soundFrom _) hs₂ trivial htests
  rcases bind_eq_error.1 herr with herr | ⟨_, _, -, herr⟩
  · obtain ⟨rest, rfl, -⟩ := hs₃
    obtain ⟨rfl, rfl⟩ := close_eq_unexpected herr
    exact ⟨cs ++ (vs ++ us), rest, by simp, fun k hk => continues_end hc hv ht hk⟩
  · cases herr

end Parser

end HttpSuite
