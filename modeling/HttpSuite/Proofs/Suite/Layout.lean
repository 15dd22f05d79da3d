import HttpSuite.Proofs.Parser.Moving
import HttpSuite.Proofs.Parser.Replay

/-!
# Layout does not matter

What a text parses to depends on its words only, places apart: a derivation stays one if the places
of its tokens are forgotten, and it then describes the suite without places. So layout may be put
into a text wherever a token starts.

* `Grammar.File.erase`: a test description without places.
* `Suite.SameAnswer`: the same suite places apart, or the same error about the same words.
* `Suite.sameAnswer_of_alike`: texts of the same words have the same answer.
* `Suite.layout_free`: layout changes neither the words of a text nor its answer.
-/

namespace HttpSuite

open Token (Kind)
open Grammar

/-! ### Derivations without places -/

/-- A token without its place. -/
def Token.erase (t : Token) : Token := { t with pos := {}, stop := 0 }

/-- Everything is moved to the same place: for tokens this is `Token.erase`. -/
def Move.forget : Move := ⟨fun _ => {}, fun _ => 0⟩

/-- Tokens with the same words are the same without their places. -/
theorem map_erase_eq {ts us : List Token} (h : words ts = words us) :
    ts.map Token.erase = us.map Token.erase := by
  have herase (ts : List Token) :
      ts.map Token.erase = (words ts).map fun w => ⟨w.kind, w.text, {}, 0⟩ := by
    rw [words, List.map_map]
    rfl
  rw [herase, herase, h]

/-- The configuration that its items make up. -/
theorem Config.foldl_add_empty (items : List Config.Item) :
    items.foldl Config.add {} =
      { baseUrl := (items.filterMap Config.Item.baseUrl?).getLast?
        headers := .ofList (items.filterMap Config.Item.header?) } := by
  rw [Config.foldl_add, Option.or_none]
  rfl

/-- The request that the items of its block make up. -/
theorem Request.foldl_add_empty (items : List Request.Item) (m : Method) (path : String)
    (span : Span) :
    items.foldl Request.add { method := m, path := path, span := span } =
      { method := m
        path := path
        headers := .ofList (items.filterMap Request.Item.header?)
        body := (items.filterMap Request.Item.body?).getLast?
        span := span } := by
  rw [Request.foldl_add, Option.or_none]
  rfl

namespace Grammar

variable {ts : List Token}

theorem Many.erase {α : Type} {D : List Token → α → Prop} {f : α → α} {as : List α}
    (hD : ∀ ⦃ts a⦄, D ts a → D (ts.map Token.erase) (f a)) (h : Many D ts as) :
    Many D (ts.map Token.erase) (as.map f) := by
  induction h with
  | nil => exact .nil
  | cons ha _ ih =>
    rw [List.map_append, List.map_cons]
    exact .cons (hD ha) ih

theorem HeaderDecl.erase {hd : Header} (h : HeaderDecl ts hd) :
    HeaderDecl (ts.map Token.erase) hd.erase := by
  obtain ⟨hk⟩ := h
  exact .intro hk

theorem ConfigItem.erase {item : Config.Item} (h : ConfigItem ts item) :
    ConfigItem (ts.map Token.erase) item.erase := by
  cases h with
  | baseUrl hk => exact .baseUrl hk
  | header h => exact .header h.erase

theorem ConfigBlock.erase {c : Config} (h : ConfigBlock ts c) :
    ConfigBlock (ts.map Token.erase) c.erase := by
  obtain @⟨kw, left, right, us, items, hk, hi⟩ := h
  rw [← Config.foldl_add_empty, Config.erase_foldl_add]
  simp only [List.map_cons, List.map_append, List.map_nil]
  have hi' := hi.erase fun _ _ => ConfigItem.erase
  rw [show Config.erase {} = {} from rfl, Config.foldl_add_empty]
  exact .intro hk hi'

theorem ConfigOption.erase {c : Option Config} (h : ConfigOption ts c) :
    ConfigOption (ts.map Token.erase) (c.map Config.erase) := by
  cases h with
  | none => exact .none
  | some h => exact .some h.erase

theorem VariableDecl.erase {v : Variable} (h : VariableDecl ts v) :
    VariableDecl (ts.map Token.erase) v := by
  obtain ⟨hk, hv⟩ := h
  exact .intro hk hv

/-- Braces have their partners wherever they stand. -/
theorem Balanced.erase (h : Balanced ts) : Balanced (ts.map Token.erase) :=
  h.move (ρ := .forget)

theorem Plain.erase (h : Plain ts) : Plain (ts.map Token.erase) :=
  h.move (ρ := .forget)

theorem Begins.erase {P : Kind → Prop} (h : Begins P ts) : Begins P (ts.map Token.erase) :=
  h.move (ρ := .forget)

theorem SemicolonOption.erase (h : SemicolonOption ts) :
    SemicolonOption (ts.map Token.erase) :=
  h.move (ρ := .forget)

/-- What is skipped is a matter of kinds. -/
theorem Skipped.erase (h : Skipped ts) : Skipped (ts.map Token.erase) := by
  cases h with
  | semicolon hp hs =>
    rw [List.map_append]
    exact .semicolon hp.erase hs
  | group hp hl hi hr hs =>
    rw [List.map_append, List.map_cons, List.map_append, List.map_cons]
    exact .group hp.erase hl hi.erase hr hs.erase

theorem BodyDecl.erase {text : String} (h : BodyDecl ts text) :
    BodyDecl (ts.map Token.erase) text :=
  h.move (ρ := .forget)

/-- The items of a block without their places, the skipped ones among them. -/
theorem BlockItems.erase {items : List Request.Item} (h : BlockItems ts items) :
    BlockItems (ts.map Token.erase) (items.map Request.Item.erase) := by
  induction h with
  | nil => exact .nil
  | header h _ ih =>
    rw [List.map_append]
    exact .header h.erase ih
  | body h _ ih =>
    rw [List.map_append]
    exact .body h.erase ih
  | skipped hb h _ ih =>
    rw [List.map_append]
    exact .skipped hb.erase h.erase ih
  | unended hb hp => exact .unended hb.erase hp.erase

theorem BlockOption.erase {items : List Request.Item} (h : BlockOption ts items) :
    BlockOption (ts.map Token.erase) (items.map Request.Item.erase) := by
  cases h with
  | none => exact .none
  | some hl hi hr =>
    rw [List.map_cons, List.map_append]
    exact .some hl hi.erase hr

theorem RequestDecl.erase {r : Request} (h : RequestDecl ts r) :
    RequestDecl (ts.map Token.erase) r.erase := by
  obtain @⟨m, kw, path, block, semi, items, hk, hb, hs⟩ := h
  rw [← Request.foldl_add_empty, Request.erase_foldl_add]
  simp only [List.map_cons, List.map_append]
  change RequestDecl _ ((items.map Request.Item.erase).foldl Request.add
    { method := m, path := path.text, span := kw.erase.span })
  rw [Request.foldl_add_empty]
  exact .intro hk hb.erase hs.erase

/-- The number of a status fits wherever it stands. -/
theorem AssertionDecl.erase {a : Assertion} (h : AssertionDecl ts a) :
    AssertionDecl (ts.map Token.erase) a.erase := by
  cases h with
  | status hk hc => exact .status hk hc
  | headerEquals hk => exact .headerEquals hk
  | headerContains hk => exact .headerContains hk
  | bodyContains hk => exact .bodyContains hk

theorem StatementDecl.erase {st : Statement} (h : StatementDecl ts st) :
    StatementDecl (ts.map Token.erase) st.erase := by
  cases h with
  | request h => exact .request h.erase
  | checked h ha hne =>
    rw [List.map_append]
    exact .checked h.erase (ha.erase fun _ _ => AssertionDecl.erase) (by simpa using hne)

theorem TestDecl.erase {t : Test} (h : TestDecl ts t) :
    TestDecl (ts.map Token.erase) t.erase := by
  obtain ⟨hk, hs⟩ := h
  simp only [List.map_cons, List.map_append, List.map_nil]
  exact .intro hk (hs.erase fun _ _ => StatementDecl.erase)

/-- **A test description without places** describes the suite without places. -/
theorem File.erase {f : Suite} (h : File ts f) : File (ts.map Token.erase) f.erase := by
  obtain @⟨cs, vs, us, eof, config, vars, tests, hc, hv, ht, he⟩ := h
  have hv' := hv.erase (f := id) fun _ _ => VariableDecl.erase
  rw [List.map_id] at hv'
  simp only [List.map_append, List.map_cons, List.map_nil]
  exact .intro hc.erase hv' (ht.erase fun _ _ => TestDecl.erase) he

end Grammar

/-! ### Texts of the same words -/

/-- The same answer: suites that differ in their places only, or errors of one kind about the same
words. -/
inductive Suite.SameAnswer : Except ParseError Suite → Except ParseError Suite → Prop
  | ok {f g : Suite} (h : f.erase = g.erase) : SameAnswer (.ok f) (.ok g)
  | error {x y : ParseError} (h : x.Alike y) : SameAnswer (.error x) (.error y)

/-- A source that replays the tokens without their places supplies them. -/
theorem Supplies.erase {σ : Type} [TokenSource σ] {src : σ} {c : Token} {ts : List Token}
    {e : Option LexError} (h : Supplies src c ts e) :
    Supplies (⟨ts.map Token.erase, e⟩ : Replay) c.erase (ts.map Token.erase) e := by
  induction h with
  | finish hk => exact .finish hk
  | fail hk _ => exact .fail hk rfl
  | step hk _ _ ih => exact .step hk rfl ih

namespace Parser

variable {σ τ : Type} [TokenSource σ] [TokenSource τ] {s s' : State σ} {r r' : State τ}
  {ts us : List Token} {e e' : Option LexError} {f g : Suite} {err : ParseError}

/-- Runs over tokens of the same words return the same suite, places apart. -/
theorem erase_eq_of_words_eq (hs : s.Sees ts e) (hr : r.Sees us e') (hw : words ts = words us)
    (hf : suite s = .ok f s') (hg : suite r = .ok g r') : f.erase = g.erase := by
  have hfile := (suite_sound hs hf).erase
  have hfile' := (suite_sound hr hg).erase
  rw [← map_erase_eq hw] at hfile'
  -- both suites without places are what one run over the tokens without places returns
  obtain ⟨rest, rfl, hsup⟩ := hs
  have hm : State.Sees
      { source := (⟨rest.map Token.erase, e⟩ : Replay), current := s.current.erase }
      ((s.current :: rest).map Token.erase) e := ⟨_, rfl, hsup.erase⟩
  obtain ⟨_, hruns⟩ := runs_suite (σ := Replay) hfile
  obtain ⟨_, hruns'⟩ := runs_suite (σ := Replay) hfile'
  obtain ⟨m, hm₁, -⟩ := hruns hm
  obtain ⟨m', hm₂, -⟩ := hruns' hm
  rw [hm₁] at hm₂
  exact (EStateM.Result.ok.inj hm₂).1

/-- A run over tokens of the same words, with an error after them or not as well, ends alike. -/
theorem suite_alike_of_words_eq (hs : s.Sees ts e) (hr : r.Sees us e')
    (hw : words us = words ts) (he : e'.isSome = e.isSome) :
    Outcome.Alike Any (suite s) (suite r) := by
  obtain ⟨front, rest, rfl, hleaves, hrep⟩ := repeats_suite (τ := τ) s hs
  refine (hrep hr ?_).1
  by_cases hne : rest = []
  · subst hne
    refine ⟨by simp [hw], fun _ => ⟨by simpa using hw, ?_⟩⟩
    -- a run that came to the end of its tokens failed there
    rw [he]
    match hsuite : suite s, hleaves with
    | .ok _ _, hleaves => exact absurd rfl hleaves.1.ne_nil
    | .error (.unexpected _ _) _, hleaves => exact absurd rfl hleaves.1.ne_nil
    | .error (.statusOutOfRange _) _, hleaves => exact absurd rfl (State.Sees.ne_nil hleaves)
    | .error (.lexical _) _, hleaves => rw [hleaves.2]; rfl
    | .error .exhausted _, hleaves => exact hleaves.elim
  · exact .of_words_eq hw hne

end Parser

/-- **Texts of the same words have the same answer.** -/
theorem Suite.sameAnswer_of_alike {source source' : String}
    (h : (Lexing.ofString source').Alike (Lexing.ofString source)) :
    SameAnswer (Suite.parse source').result (Suite.parse source).result := by
  obtain ⟨hw, he⟩ := h
  rcases Suite.parse_runs source' with ⟨s, hs, hres⟩ | ⟨l, hnil, -, hres⟩
  · rcases Suite.parse_runs source with ⟨r, hr, hres'⟩ | ⟨-, hnil, -⟩
    · rw [hres, hres']
      have halike := Parser.suite_alike_of_words_eq hs hr hw.symm he.symm
      cases hsuite : Parser.suite s with
      | ok f s' =>
        rw [hsuite] at halike
        obtain ⟨g, r', hsuite', -⟩ := halike.of_ok
        rw [hsuite']
        exact .ok (Parser.erase_eq_of_words_eq hs hr hw hsuite hsuite')
      | error x s' =>
        rw [hsuite] at halike
        obtain ⟨y, r', hsuite', hxy⟩ := halike.of_error
        rw [hsuite']
        exact .error hxy
    · rw [hnil, words_nil, words_eq_nil] at hw
      exact absurd hw hs.ne_nil
  -- neither text has a token before its open quote
  · rcases Suite.parse_runs source with ⟨r, hr, -⟩ | ⟨l', -, -, hres'⟩
    · rw [hnil, words_nil, eq_comm, words_eq_nil] at hw
      exact absurd hw hr.ne_nil
    · rw [hres, hres']
      exact .error .lexical

/-- **Layout does not matter.** Where a token of a text starts, its end or a quote that is never
closed, blank characters and closed comments may be put in: the text keeps its words and lexes to
its end or not as before, and it parses to the same suite, places apart, or with the same error
about the same words. -/
theorem Suite.layout_free {source : String} {k : Nat} {w : List Char}
    (hk : k ∈ (Lexing.ofString source).starts) (hw : Layout w) :
    (∃ a b, source.toList = a ++ b ∧ byteLength a = k) ∧
      ∀ a b, source.toList = a ++ b → byteLength a = k →
        (Lexing.ofString (String.ofList (a ++ w ++ b))).Alike (Lexing.ofString source) ∧
          SameAnswer (Suite.parse (String.ofList (a ++ w ++ b))).result
            (Suite.parse source).result := by
  have hd := Lexing.divided source
  refine ⟨?_, fun a b hab ha => ?_⟩
  · obtain ⟨a, b, hab, ha⟩ := hd.exists_split hk
    exact ⟨a, b, hab, by simpa using ha⟩
  · rw [hab] at hd
    obtain ⟨m, hm, halike⟩ := hd.insert (by simpa [ha] using hk) hw {}
    rw [← List.append_assoc, ← String.toList_ofList (l := a ++ w ++ b), Lexing.divided_iff] at hm
    rw [hm] at halike
    exact ⟨halike, Suite.sameAnswer_of_alike halike⟩

/-- A comment behind a lone slash, which becomes part of it. -/
theorem Suite.layout_free_after_slash :
    1 ∈ (Lexing.ofString "/test t\x7b\x7d").starts ∧ Layout ['/', '/', '"', '\n'] ∧
      (Lexing.ofString "///\"\ntest t\x7b\x7d").Alike (Lexing.ofString "/test t\x7b\x7d") ∧
      SameAnswer (Suite.parse "///\"\ntest t\x7b\x7d").result
        (Suite.parse "/test t\x7b\x7d").result := by
  have htest : Written .test ['t', 'e', 's', 't'] ['t', 'e', 's', 't'] :=
    written_of_isNameShaped (show isNameShaped "test" = true by decide)
  have hname : Written .ident ['t'] ['t'] :=
    written_of_isNameShaped (show isNameShaped "t" = true by decide)
  have hd : Divided {} ['/', 't', 'e', 's', 't', ' ', 't', '\x7b', '\x7d'] _ :=
    .stray (.unknown (by decide) (by decide) (by decide) (by decide) (by decide) rfl (by decide))
      (.token htest (by decide) (.blank (by decide) (.token hname (by decide)
        (.token (.mark rfl) (by decide) (.token (.mark rfl) (by decide) .finish)))))
  have hk : 1 ∈ (Lexing.ofString "/test t\x7b\x7d").starts := by
    have hlexing : _ = Lexing.ofString "/test t\x7b\x7d" := Lexing.divided_iff.1 hd
    rw [← hlexing]
    decide
  have hw : Layout ['/', '/', '"', '\n'] :=
    .comment (show '\n' ∉ ['"'] by decide) .nil
  exact ⟨hk, hw, (Suite.layout_free hk hw).2 ['/'] ['t', 'e', 's', 't', ' ', 't', '\x7b', '\x7d']
    (by decide) (by decide)⟩

end HttpSuite
