import HttpSuite.Proofs.Code.Writing
import HttpSuite.Proofs.Parser.Warnings
import HttpSuite.Proofs.Suite.WellFormed

/-!
# Every well-formed suite is the parse of some text

A suite is printed word by word, each request with a block of its headers and its body. The text
that spells these words is read back to the suite, places apart, and the parser has nothing to warn
about in it but the bodies of requests whose method sends none.

* `Suite.words`: the words of a suite.
* `Suite.unsent`: the warnings that cannot be avoided.
* `Suite.parse_print`: what parsing the printed suite gives.
* `Suite.wellFormed_iff_parsed`: the parsed suites are the well-formed ones.
-/

namespace HttpSuite

open Token (Kind)
open Grammar

/-! ### Words -/

/-- The word of a keyword or a punctuation mark. -/
def Word.fixed (k : Kind) : Word := ⟨k, k.fixedText?.getD ""⟩

/-- The word of a quoted text. -/
def Word.quoted (text : String) : Word := ⟨.str, text⟩

/-- The word of a name. -/
def Word.ident (text : String) : Word := ⟨.ident, text⟩

/-- The word of a number. -/
def Word.number (n : Nat) : Word := ⟨.number, toString n⟩

open Word (fixed quoted ident number)

/-- The words of a header declaration. -/
def Header.words (h : Header) : List Word :=
  [fixed .header, quoted h.name, fixed .equals, quoted h.value, fixed .semicolon]

/-- The words of an item of a configuration. -/
def Config.Item.words : Config.Item → List Word
  | .baseUrl url => [fixed .baseUrl, fixed .equals, quoted url.value, fixed .semicolon]
  | .header h => h.words

/-- The items that make up a configuration. -/
def Config.items (c : Config) : List Config.Item :=
  c.baseUrl.toList.map .baseUrl ++ c.headers.entries.map .header

/-- The words of a configuration, the base URL first. -/
def Config.words (c : Config) : List Word :=
  fixed .config :: fixed .leftBrace :: (c.items.flatMap Config.Item.words ++ [fixed .rightBrace])

/-- The words of a variable. Its value is quoted, also where it is a number. -/
def Variable.words (v : Variable) : List Word :=
  [fixed .letVar, ident v.name, fixed .equals, quoted v.value, fixed .semicolon]

/-- The words of an item of a request. A `;` alone is an item that is skipped. -/
def Request.Item.words : Request.Item → List Word
  | .header h => h.words
  | .body text => [fixed .body, fixed .equals, quoted text, fixed .semicolon]
  | .skipped => [fixed .semicolon]

/-- The items that make up the block of a request. -/
def Request.items (r : Request) : List Request.Item :=
  r.headers.entries.map .header ++ r.body.toList.map .body

/-- The words of a request. A block is written also where it is empty. -/
def Request.words (r : Request) : List Word :=
  fixed (.method r.method) :: quoted r.path :: fixed .leftBrace ::
    (r.items.flatMap Request.Item.words ++ [fixed .rightBrace])

/-- The words of an assertion. -/
def Assertion.words : Assertion → List Word
  | .status code _ => [fixed .expect, fixed .status, fixed .equals, number code, fixed .semicolon]
  | .headerEquals name value _ => [fixed .expect, fixed .header, quoted name, fixed .equals,
      quoted value, fixed .semicolon]
  | .headerContains name substring _ => [fixed .expect, fixed .header, quoted name,
      fixed .contains, quoted substring, fixed .semicolon]
  | .bodyContains substring => [fixed .expect, fixed .body, fixed .contains, quoted substring,
      fixed .semicolon]

/-- The words of a request with its assertions. -/
def Statement.words (st : Statement) : List Word :=
  st.sent.words ++ st.assertions.flatMap Assertion.words

/-- The words of a test. -/
def Test.words (t : Test) : List Word :=
  fixed .test :: ident t.name :: fixed .leftBrace ::
    (t.statements.flatMap Statement.words ++ [fixed .rightBrace])

/-- **The words of a suite.** -/
def Suite.words (f : Suite) : List Word :=
  f.config.toList.flatMap Config.words ++ f.vars.entries.flatMap Variable.words ++
    f.tests.flatMap Test.words

/-- A suite as a text. -/
def Suite.print (f : Suite) : String := String.ofList (Word.print f.words)

/-! ### The printed words are words of a text -/

@[simp]
theorem Word.isLexable_quoted (text : String) : (quoted text).isLexable = true := rfl

@[simp]
theorem Word.isLexable_ident (text : String) : (ident text).isLexable = isName text := rfl

@[simp]
theorem Word.isLexable_fixed (k : Kind) :
    (fixed k).isLexable = (k.fixedText?.isSome || k == .str) := by
  cases k <;> simp [isLexable, fixed, Kind.fixedText?, isName, isNameShaped]

/-- A number is a run of digits. -/
@[simp]
theorem Word.isLexable_number (n : Nat) : (number n).isLexable = true := by
  have hne : (toString n).toList ≠ [] := by
    rw [Nat.toString_eq_repr, Nat.toList_repr]
    exact Nat.toDigits_ne_nil
  simpa [isLexable, number, hne] using fun c => Code.isDigit_of_mem_toString c

theorem Header.words_isLexable (h : Header) : ∀ w ∈ h.words, w.isLexable = true := by
  simp [words, Kind.fixedText?]

/-- The texts of a configuration stand in quotes, so any will do. -/
theorem Config.words_isLexable (c : Config) : ∀ w ∈ c.words, w.isLexable = true := by
  have hitem (item : Config.Item) : ∀ w ∈ item.words, w.isLexable = true := by
    cases item with
    | baseUrl url => simp [Config.Item.words, Kind.fixedText?]
    | header h => exact h.words_isLexable
  simpa [words, Kind.fixedText?, or_imp, forall_and] using fun w item _ => hitem item w

theorem Variable.words_isLexable {v : Variable} (h : isName v.name = true) :
    ∀ w ∈ v.words, w.isLexable = true := by
  simp [words, Kind.fixedText?, h]

theorem Request.words_isLexable (r : Request) : ∀ w ∈ r.words, w.isLexable = true := by
  have hitem (item : Request.Item) : ∀ w ∈ item.words, w.isLexable = true := by
    cases item with
    | header h => exact h.words_isLexable
    | body text => simp [Request.Item.words, Kind.fixedText?]
    | skipped => simp [Request.Item.words, Kind.fixedText?]
  simpa [words, Kind.fixedText?, or_imp, forall_and] using fun w item _ => hitem item w

theorem Assertion.words_isLexable (a : Assertion) : ∀ w ∈ a.words, w.isLexable = true := by
  cases a <;> simp [words, Kind.fixedText?]

theorem Test.words_isLexable {t : Test} (h : isName t.name = true) :
    ∀ w ∈ t.words, w.isLexable = true := by
  have hst (st : Statement) : ∀ w ∈ st.words, w.isLexable = true := by
    intro w hw
    rcases List.mem_append.1 hw with hw | hw
    · exact st.sent.words_isLexable w hw
    · obtain ⟨a, -, hw⟩ := List.mem_flatMap.1 hw
      exact a.words_isLexable w hw
  simpa [words, Kind.fixedText?, h, or_imp, forall_and] using fun w st _ => hst st w

/-- **Every word of a well-formed suite can be written.** -/
theorem Suite.words_isLexable {f : Suite} (h : f.WellFormed) :
    ∀ w ∈ f.words, w.isLexable = true := by
  intro w hw
  simp only [words, List.mem_append, List.mem_flatMap] at hw
  rcases hw with (⟨c, -, hw⟩ | ⟨v, hv, hw⟩) | ⟨t, ht, hw⟩
  · exact c.words_isLexable w hw
  · exact Variable.words_isLexable (h.names v hv) w hw
  · exact Test.words_isLexable (h.tests t ht).name w hw

/-! ### Places play no part in what is read -/

/-- An item of a configuration without its place. -/
def Config.Item.erase : Config.Item → Config.Item
  | .baseUrl url => .baseUrl url.erase
  | .header h => .header h.erase

/-- An item of a request without its place. -/
def Request.Item.erase : Request.Item → Request.Item
  | .header h => .header h.erase
  | .body text => .body text
  | .skipped => .skipped

/-- A header is inserted by its name, wherever it stands. -/
theorem Headers.erase_insert (t : Headers) (h : Header) :
    (t.insert h).erase = t.erase.insert h.erase := by
  simp only [Headers.erase, Headers.insert, Headers.mk.injEq]
  exact Table.map_put fun _ => rfl

/-- Adding items without their places adds nothing else. -/
theorem Config.erase_foldl_add (items : List Config.Item) (c : Config) :
    (items.foldl Config.add c).erase = (items.map Config.Item.erase).foldl Config.add c.erase := by
  induction items generalizing c with
  | nil => rfl
  | cons item items ih =>
    have hadd : (c.add item).erase = c.erase.add item.erase := by
      cases item <;> simp [Config.add, Config.erase, Config.Item.erase, Headers.erase_insert]
    rw [List.foldl_cons, ih, hadd, List.map_cons, List.foldl_cons]

/-- Adding items of a request without their places adds nothing else. -/
theorem Request.erase_foldl_add (items : List Request.Item) (r : Request) :
    (items.foldl Request.add r).erase =
      (items.map Request.Item.erase).foldl Request.add r.erase := by
  induction items generalizing r with
  | nil => rfl
  | cons item items ih =>
    have hadd : (r.add item).erase = r.erase.add item.erase := by
      cases item <;> simp [Request.add, Request.erase, Request.Item.erase, Headers.erase_insert]
    rw [List.foldl_cons, ih, hadd, List.map_cons, List.foldl_cons]

/-- A table whose names all differ is written by its own entries. -/
theorem Headers.ofList_entries {t : Headers} (h : t.Distinct) : Headers.ofList t.entries = t := by
  have hput : Table.putAll Header.key t.entries [] = t.entries := Table.putAll_of_nodup h
  rw [← Headers.entries_ofList] at hput
  exact congrArg Headers.mk hput

/-- A table of variables is filled again with its entries. -/
theorem Variables.ofList_entries {t : Variables} (h : (t.entries.map Variable.name).Nodup) :
    Variables.ofList t.entries = t := by
  have hput : Table.putAll Variable.name t.entries [] = t.entries := Table.putAll_of_nodup h
  rw [← Variables.entries_ofList] at hput
  exact congrArg Variables.mk hput

/-- A configuration is made of its items again. -/
theorem Config.foldl_items {c : Config} (h : c.headers.Distinct) :
    c.items.foldl Config.add {} = c := by
  have hurl : c.items.filterMap Config.Item.baseUrl? = c.baseUrl.toList := by
    simp [items, List.filterMap_map, Function.comp_def, Config.Item.baseUrl?]
  have hheaders : c.items.filterMap Config.Item.header? = c.headers.entries := by
    simp [items, List.filterMap_map, Function.comp_def, Config.Item.header?]
  have htable : c.headers.entries.foldl Headers.insert {} = c.headers := Headers.ofList_entries h
  rw [Config.foldl_add, hurl, hheaders, htable]
  cases c with
  | mk url headers => cases url <;> rfl

/-- A request is made of its items again. -/
theorem Request.foldl_items {r : Request} (h : r.headers.Distinct) :
    r.items.foldl Request.add { method := r.method, path := r.path, span := r.span } = r := by
  have hbody : r.items.filterMap Request.Item.body? = r.body.toList := by
    simp [items, List.filterMap_map, Function.comp_def, Request.Item.body?]
  have hheaders : r.items.filterMap Request.Item.header? = r.headers.entries := by
    simp [items, List.filterMap_map, Function.comp_def, Request.Item.header?]
  have htable : r.headers.entries.foldl Headers.insert {} = r.headers := Headers.ofList_entries h
  rw [Request.foldl_add, hbody, hheaders, htable]
  obtain ⟨method, path, headers, body, span⟩ := r
  cases body <;> rfl

theorem Statement.erase_of (r : Request) (as : List Assertion) :
    (Statement.of r as).erase = .of r.erase (as.map Assertion.erase) := by
  cases as <;> rfl

theorem Statement.of_sent {st : Statement} (h : st.IsChecked) : .of st.sent st.assertions = st := by
  cases st with
  | request r => rfl
  | checked r as =>
    obtain ⟨a, as, rfl⟩ := List.exists_cons_of_ne_nil h
    rfl

/-- A number is read as it is written. -/
theorem decimal_toString (n : Nat) : decimal (toString n).toList = n := by
  rw [Nat.toString_eq_repr, Nat.toList_repr]
  exact Nat.ofDigitChars_toDigits (by decide) (by decide)

/-! ### Tokens with these words -/

section Tokens

variable {ts us : List Token} {t : Token} {w : Word} {ws ws' : List Word}

theorem words_eq_nil : words ts = [] ↔ ts = [] := by
  simp [words]

/-- Tokens with these words, taken apart at the first one. -/
theorem words_eq_cons :
    words ts = w :: ws ↔ ∃ t rest, ts = t :: rest ∧ t.word = w ∧ words rest = ws := by
  cases ts <;> simp [and_assoc]

/-- Tokens with these words, taken apart where the words are. -/
theorem words_eq_append :
    words ts = ws ++ ws' ↔ ∃ us vs, ts = us ++ vs ∧ words us = ws ∧ words vs = ws' := by
  simp [words, List.map_eq_append_iff]

/-- The token of a keyword or a punctuation mark. -/
@[simp]
theorem Token.word_eq_fixed {k : Kind} :
    t.word = fixed k ↔ t.kind = k ∧ t.text = k.fixedText?.getD "" := by
  simp [word, fixed]

/-- The token of a quoted text. -/
@[simp]
theorem Token.word_eq_quoted {text : String} :
    t.word = quoted text ↔ t.kind = .str ∧ t.text = text := by
  simp [word, quoted]

@[simp]
theorem Token.word_eq_ident {text : String} :
    t.word = ident text ↔ t.kind = .ident ∧ t.text = text := by
  simp [word, ident]

@[simp]
theorem Token.word_eq_number {n : Nat} :
    t.word = number n ↔ t.kind = .number ∧ t.text = toString n := by
  simp [word, number]

namespace Grammar

/-- Items that are read one by one are read from their words one after another. What is read agrees
with what was printed in the property `e`. -/
theorem many_of_words {α β : Type} {D : List Token → α → Prop} {w : α → List Word}
    {e : α → β} {xs : List α}
    (h : ∀ x ∈ xs, ∀ us, words us = w x → ∃ a, D us a ∧ e a = e x)
    (hts : words ts = xs.flatMap w) : ∃ as, Many D ts as ∧ as.map e = xs.map e := by
  induction xs generalizing ts with
  | nil =>
    obtain rfl := words_eq_nil.1 hts
    exact ⟨[], .nil, rfl⟩
  | cons x xs ih =>
    rw [List.flatMap_cons] at hts
    obtain ⟨us, vs, rfl, hus, hvs⟩ := words_eq_append.1 hts
    obtain ⟨a, hD, ha⟩ := h x (by simp) us hus
    obtain ⟨as, hDs, has⟩ := ih (fun y hy => h y (by simp [hy])) hvs
    exact ⟨a :: as, .cons hD hDs, by rw [List.map_cons, List.map_cons, ha, has]⟩

/-- Tokens with the words of a header declare that header, in some place. -/
theorem exists_headerDecl {h : Header} (hw : words us = h.words) :
    ∃ hd, HeaderDecl us hd ∧ hd.erase = h.erase := by
  simp only [Header.words, words_eq_cons, words_eq_nil, Token.word_eq_fixed,
    Token.word_eq_quoted] at hw
  obtain ⟨kw, _, rfl, ⟨h₁, -⟩, n, _, rfl, ⟨h₂, hn⟩, eq, _, rfl, ⟨h₃, -⟩, v, _, rfl, ⟨h₄, hv⟩,
    semi, _, rfl, ⟨h₅, -⟩, rfl⟩ := hw
  exact ⟨_, .intro (by simp [*]), by simp [Header.erase, hn, hv]⟩

theorem exists_configItem {item : Config.Item} (hw : words us = item.words) :
    ∃ item', ConfigItem us item' ∧ item'.erase = item.erase := by
  cases item with
  | baseUrl url =>
    simp only [Config.Item.words, words_eq_cons, words_eq_nil, Token.word_eq_fixed,
      Token.word_eq_quoted] at hw
    obtain ⟨kw, _, rfl, ⟨h₁, -⟩, eq, _, rfl, ⟨h₂, -⟩, v, _, rfl, ⟨h₃, hv⟩, semi, _, rfl, ⟨h₄, -⟩,
      rfl⟩ := hw
    exact ⟨_, .baseUrl (by simp [*]), by simp [Config.Item.erase, BaseUrl.erase, hv]⟩
  | header h =>
    obtain ⟨hd, hD, he⟩ := exists_headerDecl hw
    exact ⟨_, .header hD, by simp [Config.Item.erase, he]⟩

/-- Tokens with the words of a configuration are that configuration. -/
theorem exists_configBlock {c : Config} (hw : words us = c.words) (hd : c.headers.Distinct) :
    ∃ c', ConfigBlock us c' ∧ c'.erase = c.erase := by
  simp only [Config.words, words_eq_cons, words_eq_append, words_eq_nil,
    Token.word_eq_fixed] at hw
  obtain ⟨kw, _, rfl, ⟨h₁, -⟩, left, _, rfl, ⟨h₂, -⟩, ts, _, rfl, hts, right, _, rfl, ⟨h₃, -⟩,
    rfl⟩ := hw
  obtain ⟨items, hD, he⟩ := many_of_words (e := Config.Item.erase)
    (fun _ _ _ => exists_configItem) hts
  refine ⟨items.foldl Config.add {}, ?_, ?_⟩
  · rw [Config.foldl_add]
    simpa [Headers.ofList] using ConfigBlock.intro (by simp [*]) hD
  · rw [Config.erase_foldl_add, he, ← Config.erase_foldl_add, Config.foldl_items hd]

/-- The same of a configuration that may be missing. -/
theorem exists_configOption {c : Option Config} (hw : words us = c.toList.flatMap Config.words)
    (hd : ∀ x, c = Option.some x → x.headers.Distinct) :
    ∃ c', ConfigOption us c' ∧ c'.map Config.erase = c.map Config.erase := by
  cases c with
  | none =>
    obtain rfl := words_eq_nil.1 hw
    exact ⟨_, .none, rfl⟩
  | some c =>
    obtain ⟨c', hD, he⟩ := exists_configBlock (by simpa using hw) (hd c rfl)
    exact ⟨_, .some hD, by simp [he]⟩

/-- Tokens with the words of a variable declare it. A variable has no place. -/
theorem variableDecl_of_words {v : Variable} (hw : words us = v.words) : VariableDecl us v := by
  simp only [Variable.words, words_eq_cons, words_eq_nil, Token.word_eq_fixed,
    Token.word_eq_ident, Token.word_eq_quoted] at hw
  obtain ⟨kw, _, rfl, ⟨h₁, -⟩, n, _, rfl, ⟨h₂, hn⟩, eq, _, rfl, ⟨h₃, -⟩, x, _, rfl, ⟨h₄, hx⟩,
    semi, _, rfl, ⟨h₅, -⟩, rfl⟩ := hw
  obtain ⟨name, value⟩ := v
  subst hn hx
  exact .intro (by simp [*]) (.inl h₄)

theorem bodyDecl_of_words {text : String} (hw : words us = (Request.Item.body text).words) :
    BodyDecl us text := by
  simp only [Request.Item.words, words_eq_cons, words_eq_nil, Token.word_eq_fixed,
    Token.word_eq_quoted] at hw
  obtain ⟨kw, _, rfl, ⟨h₁, -⟩, eq, _, rfl, ⟨h₂, -⟩, v, _, rfl, ⟨h₃, rfl⟩, semi, _, rfl, ⟨h₄, -⟩,
    rfl⟩ := hw
  exact .intro (by simp [*])

/-- Tokens with the words of an assertion make it, if the number of a status fits. -/
theorem exists_assertionDecl {a : Assertion} (hw : words us = a.words) (hf : a.Fits) :
    ∃ a', AssertionDecl us a' ∧ a'.erase = a.erase := by
  -- the words fix the kinds of the tokens one by one, and with them the assertion
  cases a with
  | status code span =>
    simp only [Assertion.words, words_eq_cons, words_eq_nil, Token.word_eq_fixed,
      Token.word_eq_number] at hw
    obtain ⟨kw, _, rfl, ⟨h₁, -⟩, sub, _, rfl, ⟨h₂, -⟩, eq, _, rfl, ⟨h₃, -⟩, n, _, rfl, ⟨h₄, hn⟩,
      semi, _, rfl, ⟨h₅, -⟩, rfl⟩ := hw
    have hcode : decimal n.text.toList = code := by rw [hn, decimal_toString]
    exact ⟨_, .status (by simp [*]) (by rw [hcode]; exact hf), by simp [Assertion.erase, hcode]⟩
  | headerEquals name value span =>
    simp only [Assertion.words, words_eq_cons, words_eq_nil, Token.word_eq_fixed,
      Token.word_eq_quoted] at hw
    obtain ⟨kw, _, rfl, ⟨h₁, -⟩, sub, _, rfl, ⟨h₂, -⟩, n, _, rfl, ⟨h₃, hn⟩, eq, _, rfl, ⟨h₄, -⟩,
      v, _, rfl, ⟨h₅, hv⟩, semi, _, rfl, ⟨h₆, -⟩, rfl⟩ := hw
    exact ⟨_, .headerEquals (by simp [*]), by simp [Assertion.erase, hn, hv]⟩
  | headerContains name value span =>
    simp only [Assertion.words, words_eq_cons, words_eq_nil, Token.word_eq_fixed,
      Token.word_eq_quoted] at hw
    obtain ⟨kw, _, rfl, ⟨h₁, -⟩, sub, _, rfl, ⟨h₂, -⟩, n, _, rfl, ⟨h₃, hn⟩, eq, _, rfl, ⟨h₄, -⟩,
      v, _, rfl, ⟨h₅, hv⟩, semi, _, rfl, ⟨h₆, -⟩, rfl⟩ := hw
    exact ⟨_, .headerContains (by simp [*]), by simp [Assertion.erase, hn, hv]⟩
  | bodyContains value =>
    simp only [Assertion.words, words_eq_cons, words_eq_nil, Token.word_eq_fixed,
      Token.word_eq_quoted] at hw
    obtain ⟨kw, _, rfl, ⟨h₁, -⟩, sub, _, rfl, ⟨h₂, -⟩, eq, _, rfl, ⟨h₃, -⟩, v, _, rfl, ⟨h₄, hv⟩,
      semi, _, rfl, ⟨h₅, -⟩, rfl⟩ := hw
    exact ⟨_, .bodyContains (by simp [*]), by simp [Assertion.erase, hv]⟩

end Grammar

end Tokens

/-! ### Bodies that are not sent -/

/-- The warning on a body, if the method sends none. -/
def Method.unsent (m : Method) : List Warning.Cause := if m.sendsBody then [] else [.unsentBody m]

/-- The warnings on an item of a request with the method `m`. -/
def Request.Item.unsent (m : Method) : Request.Item → List Warning.Cause
  | .body _ => m.unsent
  | _ => []

/-- The warning on the body of a request, if it has one that is not sent. -/
def Request.unsent (r : Request) : List Warning.Cause :=
  if r.body.isSome then r.method.unsent else []

/-- The warning on the request of a statement. -/
def Statement.unsent (st : Statement) : List Warning.Cause := st.sent.unsent

/-- The warnings on the requests of a test. -/
def Test.unsent (t : Test) : List Warning.Cause := t.statements.flatMap Statement.unsent

/-- **The warnings that cannot be avoided**: one for each body of a GET or DELETE request. -/
def Suite.unsent (f : Suite) : List Warning.Cause := f.tests.flatMap Test.unsent

theorem Request.Item.unsent_erase (m : Method) (item : Request.Item) :
    item.erase.unsent m = item.unsent m := by
  cases item <;> rfl

/-- The body is the only item of a request that can bring a warning. -/
theorem Request.unsent_items (r : Request) :
    r.items.flatMap (Request.Item.unsent r.method) = r.unsent := by
  cases hb : r.body <;> simp [items, unsent, hb, Request.Item.unsent, List.flatMap_map]

theorem Request.unsent_erase (r : Request) : r.erase.unsent = r.unsent := rfl

theorem Statement.unsent_erase (st : Statement) : st.erase.unsent = st.unsent := by
  cases st <;> rfl

/-- Warnings on bodies have nothing to do with places in the tree. -/
theorem Test.unsent_erase (t : Test) : t.erase.unsent = t.unsent := by
  simp [unsent, erase, List.flatMap_map, Statement.unsent_erase]

/-- Lists that agree up to `e` give the same where `c` does not see a difference. -/
theorem flatMap_eq_of_map_eq {α γ : Type} {e : α → α} {c : α → List γ} {xs ys : List α}
    (hc : ∀ x, c (e x) = c x) (h : xs.map e = ys.map e) : xs.flatMap c = ys.flatMap c := by
  have hmap (zs : List α) : zs.flatMap c = (zs.map e).flatMap c := by
    simp [List.flatMap_map, hc]
  rw [hmap xs, hmap ys, h]

/-! ### Reading back -/

namespace Parser

variable {σ : Type} [TokenSource σ] {us vs : List Token}

/-- The parser of a body raises the warning on it, if the method sends none. -/
theorem emits_body (m : Method) {text : String} (hD : BodyDecl us text) (hv : vs ≠ []) :
    Emits (body m : Parser σ String) (us ++ vs) text vs m.unsent := by
  obtain @⟨kw, eq, value, semi, h⟩ := hD
  simp only [kinds_cons_eq_cons, kinds_nil, and_true] at h
  obtain ⟨h₁, h₂, h₃, h₄⟩ := h
  unfold body
  refine quiet_expect.emits_bind (runs_expect h₁ (by decide) (by simp)) ?_
  refine quiet_expect.emits_bind (runs_expect h₂ (by decide) (by simp)) ?_
  refine quiet_expect.emits_bind (runs_expect h₃ (by decide) (by simp)) ?_
  refine quiet_expect.emits_bind (runs_expect h₄ (by decide) hv) ?_
  unfold Method.unsent
  cases m.sendsBody with
  | true => exact .pure _ _
  | false => exact (emits_warn _ _).bind (.pure _ _)

theorem emits_blockItem_header (m : Method) {hd : Header} (hD : HeaderDecl us hd) (hv : vs ≠ []) :
    Emits (blockItem m : Parser σ Request.Item) (us ++ vs) (.header hd) vs [] := by
  obtain ⟨t, rest, rfl, ht⟩ := headerDecl_begins hD
  unfold blockItem
  apply emits_kind_bind
  rw [ht]
  exact quiet_header.emits_bind (runs_header hD hv) (.pure _ _)

/-- So does the parser of items, on a body. -/
theorem emits_blockItem_body (m : Method) {text : String} (hD : BodyDecl us text) (hv : vs ≠ []) :
    Emits (blockItem m : Parser σ Request.Item) (us ++ vs) (.body text) vs m.unsent := by
  obtain ⟨t, rest, rfl, ht⟩ := bodyDecl_begins hD
  unfold blockItem
  apply emits_kind_bind
  rw [ht]
  exact (emits_body m hD hv).bind_nil (.pure _ _)

/-- A block raises what its items raise, in order. -/
theorem emits_block (m : Method) {left right : Token} {ts : List Token} {items : List Request.Item}
    (hl : left.kind = .leftBrace)
    (hD : Many (Item (blockItem m : Parser σ Request.Item) (blockMore ·) (fun _ => True)
      (Request.Item.unsent m)) ts items)
    (hr : right.kind = .rightBrace) (hv : vs ≠ []) :
    Emits (block m : Parser σ (List Request.Item)) (left :: (ts ++ right :: vs)) items vs
      (items.flatMap (Request.Item.unsent m)) := by
  unfold block
  apply emits_kind_bind
  rw [if_pos hl]
  refine quiet_advance.emits_bind (runs_advance (by rw [hl]; decide) (by simp)) ?_
  refine Emits.bind_nil (emits_many hD (fun _ _ => trivial)
    ⟨right, vs, rfl, trivial, by rw [hr]; decide⟩) ?_
  exact quiet_expect.emits_bind (runs_expect hr (by decide) hv) (.pure _ _)

/-- An item of a printed request is read back. -/
theorem exists_blockItem {r : Request} {item : Request.Item} (hm : item ∈ r.items)
    (hw : words us = item.words) :
    ∃ item', Item (blockItem r.method : Parser σ Request.Item) (blockMore ·) (fun _ => True)
      (Request.Item.unsent r.method) us item' ∧ item'.erase = item.erase := by
  cases item with
  | header h =>
    obtain ⟨hd, hD, he⟩ := exists_headerDecl hw
    refine ⟨.header hd, ⟨begins_mono (headerDecl_begins hD) ?_, fun vs hv => ?_⟩,
      by simp [Request.Item.erase, he]⟩
    · rintro k rfl; decide
    · exact emits_blockItem_header r.method hD (ne_nil_of_begins hv)
  | body text =>
    have hD := bodyDecl_of_words hw
    refine ⟨.body text, ⟨begins_mono (bodyDecl_begins hD) ?_, fun vs hv => ?_⟩, rfl⟩
    · rintro k rfl; decide
    · exact emits_blockItem_body r.method hD (ne_nil_of_begins hv)
  | skipped => simp [Request.items] at hm

/-- A printed request is read back, with a warning if it has a body that is not sent. -/
theorem exists_request {r : Request} (hw : words us = r.words) (hd : r.headers.Distinct) :
    ∃ r', Item (request : Parser σ Request) (·.method?.isSome) (· ≠ .semicolon) Request.unsent us
      r' ∧ r'.erase = r.erase := by
  simp only [Request.words, words_eq_cons, words_eq_append, words_eq_nil, Token.word_eq_fixed,
    Token.word_eq_quoted] at hw
  obtain ⟨kw, _, rfl, ⟨h₁, -⟩, path, _, rfl, ⟨h₂, hpath⟩, left, _, rfl, ⟨h₃, -⟩, ts, _, rfl, hts,
    right, _, rfl, ⟨h₄, -⟩, rfl⟩ := hw
  obtain ⟨items, hD, he⟩ := many_of_words (e := Request.Item.erase)
    (fun _ hm _ => exists_blockItem (σ := σ) hm) hts
  generalize hr : items.foldl Request.add { method := r.method, path := path.text, span := kw.span }
    = r'
  -- places apart, the items that were read are those that were printed
  have herase : r'.erase = r.erase := by
    rw [← hr, Request.erase_foldl_add, he, hpath]
    have := congrArg Request.erase (Request.foldl_items hd)
    rwa [Request.erase_foldl_add] at this
  have hunsent : items.flatMap (Request.Item.unsent r.method) = r'.unsent := by
    rw [flatMap_eq_of_map_eq (Request.Item.unsent_erase r.method) he, Request.unsent_items,
      ← Request.unsent_erase, ← herase, Request.unsent_erase]
  have hm : kw.kind.method? = some r.method := by rw [h₁]; rfl
  refine ⟨r', ⟨⟨kw, _, rfl, by simp [hm]⟩, fun vs hv => ?_⟩, herase⟩
  obtain ⟨t, rest, rfl, ht⟩ := hv
  unfold request
  simp only [List.cons_append, List.append_assoc, List.nil_append]
  apply emits_kind_bind
  rw [hm, ← hunsent]
  refine quiet_advance.emits_bind (runs_advance (by rw [h₁]; simp) (by simp)) ?_
  refine quiet_expect.emits_bind (runs_expect h₂ (by decide) (by simp)) ?_
  refine (emits_block r.method h₃ hD h₄ (by simp)).bind_nil (emits_kind_bind ?_)
  rw [if_neg ht, hr]
  exact .pure _ _

/-- A printed statement is read back. -/
theorem exists_statement {st : Statement} (hw : words us = st.words) (h : st.WellFormed) :
    ∃ st', Item (statement : Parser σ Statement) (·.method?.isSome) AfterStatement Statement.unsent
      us st' ∧ st'.erase = st.erase := by
  obtain ⟨ts, ws, rfl, hts, hws⟩ := words_eq_append.1 hw
  obtain ⟨r, ⟨hb, hr⟩, hre⟩ := exists_request (σ := σ) hts h.headers
  obtain ⟨as, ha, hae⟩ := many_of_words (e := Assertion.erase)
    (fun a hm _ hw => exists_assertionDecl hw (h.fits a hm)) hws
  refine ⟨.of r as, ⟨begins_append hb, fun vs hv => ?_⟩, ?_⟩
  · -- no `;` follows the block, for an assertion or the next statement does
    have hnext : Begins (· ≠ .semicolon) (ws ++ vs) := by
      cases ha with
      | nil => exact begins_mono hv fun _ hk => hk.1.2
      | cons ha _ =>
        refine begins_append (begins_append (begins_mono (assertionDecl_begins ha) fun k hk => ?_))
        rw [of_decide_eq_true hk]
        decide
    have hunsent : (Statement.of r as).unsent = r.unsent := by
      rw [Statement.unsent, Statement.sent_of]
    unfold statement
    rw [List.append_assoc, hunsent]
    refine (hr hnext).bind_nil ((quiet_many quiet_assertion).emits_bind ?_ (.pure _ _))
    refine runs_many (Q := fun _ => True) (fun _ _ => assertionDecl_begins)
      (fun _ _ _ hD hb => runs_assertion hD (ne_nil_of_begins hb)) (fun _ _ => trivial) ha ?_
    exact begins_mono hv fun _ hk => ⟨trivial, by simp [hk.2]⟩
  · rw [Statement.erase_of, hre, hae, ← Statement.erase_of, Statement.of_sent h.checked]

/-- A printed test is read back. -/
theorem exists_test {t : Test} (hw : words us = t.words) (h : t.WellFormed) :
    ∃ t', Item (test : Parser σ Test) (fun k => decide (k = .test)) (fun _ => True) Test.unsent us
      t' ∧ t'.erase = t.erase := by
  simp only [Test.words, words_eq_cons, words_eq_append, words_eq_nil, Token.word_eq_fixed,
    Token.word_eq_ident] at hw
  obtain ⟨kw, _, rfl, ⟨h₁, -⟩, n, _, rfl, ⟨h₂, hn⟩, left, _, rfl, ⟨h₃, -⟩, ts, _, rfl, hts,
    right, _, rfl, ⟨h₄, -⟩, rfl⟩ := hw
  obtain ⟨sts, hD, he⟩ := many_of_words (e := Statement.erase)
    (fun st hm _ hw => exists_statement (σ := σ) hw (h.statements st hm)) hts
  refine ⟨⟨n.text, n.span, sts⟩, ⟨⟨kw, _, rfl, by simp [h₁]⟩, fun vs hv => ?_⟩,
    by simp [Test.erase, hn, he]⟩
  unfold test Test.unsent
  simp only [List.cons_append, List.append_assoc, List.nil_append]
  refine quiet_expect.emits_bind (runs_expect h₁ (by decide) (by simp)) ?_
  refine quiet_expect.emits_bind (runs_expect h₂ (by decide) (by simp)) ?_
  refine quiet_expect.emits_bind (runs_expect h₃ (by decide) (by simp)) ?_
  refine Emits.bind_nil (emits_many hD (fun _ => afterStatement_of_method)
    ⟨right, vs, rfl, ?_, by rw [h₄]; rfl⟩) ?_
  · rw [h₄]; exact ⟨⟨by decide, by decide⟩, by decide⟩
  · exact quiet_close.emits_bind (runs_close h₄ (by decide) (ne_nil_of_begins hv)) (.pure _ _)

/-- **A printed suite is read back**, with the warnings that cannot be avoided. -/
theorem exists_suite {f : Suite} {ts : List Token} (hw : words ts = f.words ++ [.finish])
    (h : f.WellFormed) :
    ∃ g vs, Emits (suite : Parser σ Suite) ts g vs f.unsent ∧ g.erase = f.erase := by
  simp only [Suite.words, words_eq_append, words_eq_cons, words_eq_nil] at hw
  obtain ⟨_, _, rfl, ⟨_, ts, rfl, ⟨cs, vs, rfl, hcs, hvs⟩, hts⟩, eof, _, rfl, he, rfl⟩ := hw
  have hk : eof.kind = .eof := congrArg Word.kind he
  obtain ⟨config, hc, hce⟩ := exists_configOption hcs h.config
  obtain ⟨vars, hv, hve⟩ := many_of_words (w := Variable.words) (e := id)
    (fun v _ _ hw => ⟨v, variableDecl_of_words hw, rfl⟩) hvs
  obtain ⟨tests, ht, hte⟩ := many_of_words (e := Test.erase)
    (fun t hm _ hw => exists_test (σ := σ) hw (h.tests t hm)) hts
  rw [List.map_id, List.map_id] at hve
  -- each part is followed by the next one that is there
  have ht' : Begins (fun k => k = .test ∨ k = .eof) (ts ++ [eof]) := by
    cases ht with
    | nil => exact ⟨eof, [], rfl, .inr hk⟩
    | cons h _ =>
      exact begins_append (begins_append (begins_mono h.1 fun k hk => .inl (of_decide_eq_true hk)))
  have hv' : Begins (· ≠ .config) (vs ++ (ts ++ [eof])) := by
    cases hv with
    | nil => exact begins_mono ht' fun k hk => by rcases hk with rfl | rfl <;> decide
    | cons h _ =>
      exact begins_append (begins_append (begins_mono (variableDecl_begins h)
        fun k hk => by rw [hk]; decide))
  refine ⟨{ config := config, vars := .ofList vars, tests := tests }, [eof], ?_, ?_⟩
  · have hunsent : f.unsent = tests.flatMap Test.unsent :=
      (flatMap_eq_of_map_eq Test.unsent_erase hte).symm
    unfold suite
    rw [hunsent]
    simp only [List.append_assoc]
    refine quiet_config?.emits_bind (runs_config? hc hv') ?_
    refine (quiet_many quiet_variableDecl).emits_bind (runs_many (Q := fun _ => True)
      (fun _ _ h => begins_mono (variableDecl_begins h) (by simp))
      (fun _ _ _ hD hb => runs_variableDecl hD (ne_nil_of_begins hb)) (fun _ _ => trivial) hv
      (begins_mono ht' fun k hk => ⟨trivial, by rcases hk with rfl | rfl <;> decide⟩)) ?_
    refine Emits.bind_nil (emits_many ht (fun _ _ => trivial)
      ⟨eof, [], rfl, trivial, by rw [hk]; decide⟩) ?_
    exact quiet_close.emits_bind (runs_close_eof hk) (.pure _ _)
  · simp [Suite.erase, hce, hte, hve, Variables.ofList_entries h.distinct]

end Parser

/-- **Parsing a printed suite** gives the suite back, places apart, and warns about the bodies that
are not sent only. -/
theorem Suite.parse_print {f : Suite} (h : f.WellFormed) :
    ∃ g, (Suite.parse f.print).result = .ok g ∧ g.erase = f.erase ∧
      ((Suite.parse f.print).warnings.map Warning.cause).Perm f.unsent := by
  obtain ⟨htokens, -, hwarnings⟩ := Word.lexing_print (Suite.words_isLexable h)
  obtain ⟨g, vs, hemits, hg⟩ := Parser.exists_suite (σ := Lexer) htokens h
  have hne : (Lexing.ofString f.print).tokens ≠ [] := by
    intro hnil
    unfold print at hnil
    simp [hnil] at htokens
  obtain ⟨hok, hperm⟩ := Suite.parse_of_emits hwarnings hne hemits
  exact ⟨g, hok, hg, hperm⟩

/-- **The parsed suites are the well-formed ones**, places apart. Each of them is the parse of a
text on which no warning is raised but one for each body of a GET or DELETE request. -/
theorem Suite.wellFormed_iff_parsed (f : Suite) :
    ((∃ source g, (Suite.parse source).result = .ok g ∧ g.erase = f.erase) ↔ f.WellFormed) ∧
    ((∃ source g, (Suite.parse source).result = .ok g ∧ g.erase = f.erase ∧
      ((Suite.parse source).warnings.map Warning.cause).Perm f.unsent) ↔ f.WellFormed) := by
  have hwf {source : String} {g : Suite} (hok : (Suite.parse source).result = .ok g)
      (hg : g.erase = f.erase) : f.WellFormed := by
    rw [← Suite.wellFormed_erase, ← hg, Suite.wellFormed_erase]
    exact Suite.wellFormed_of_parse hok
  refine ⟨⟨?_, fun h => ?_⟩, ⟨?_, fun h => ?_⟩⟩
  · rintro ⟨source, g, hok, hg⟩
    exact hwf hok hg
  · obtain ⟨g, hok, hg, -⟩ := Suite.parse_print h
    exact ⟨f.print, g, hok, hg⟩
  · rintro ⟨source, g, hok, hg, -⟩
    exact hwf hok hg
  · exact ⟨f.print, Suite.parse_print h⟩

end HttpSuite
