import HttpSuite.Proofs.Code.Literal
import HttpSuite.Proofs.Token.Division

/-!
# Words and their spelling

A word is a token without its place. Which words a lexer can give is decidable (`Word.isLexable`),
and a text that spells any list of them lexes to just these words.

* `Lexing.word_isLexable`: every token but the end of a text is such a word.
* `Code.literal_delimits`: a string literal in front of any text is read back.
* `Word.lexing_print`: words that are printed one after another are read back, without a warning.
-/

namespace HttpSuite

open Token (Kind)
open Text

/-- A token without its place. -/
structure Word where
  kind : Kind
  text : String
  deriving DecidableEq, Repr

/-- The word of a token. -/
def Token.word (t : Token) : Word := ⟨t.kind, t.text⟩

/-- The words of a list of tokens. -/
def words (ts : List Token) : List Word := ts.map Token.word

@[simp]
theorem words_nil : words [] = [] := rfl

@[simp]
theorem words_cons (t : Token) (ts : List Token) : words (t :: ts) = t.word :: words ts := rfl

@[simp]
theorem words_append (ts us : List Token) : words (ts ++ us) = words ts ++ words us := by
  simp [words]

/-- The word of the end of a text. -/
def Word.finish : Word := ⟨.eof, ""⟩

/-- A letter or an underscore, then name characters: a name or a keyword. -/
def isNameShaped (text : String) : Bool :=
  match text.toList with
  | [] => false
  | c :: cs => isNameStart c && cs.all isNameChar

/-- A name is no keyword. -/
def isName (text : String) : Bool :=
  isNameShaped text && !(Kind.keywords.map Prod.fst).contains text

/-- The text of the tokens of a kind, if they all have the same. -/
def Token.Kind.fixedText? : Kind → Option String
  | .config => some "config"
  | .baseUrl => some "base_url"
  | .header => some "header"
  | .letVar => some "let"
  | .test => some "test"
  | .method m => some m.name
  | .expect => some "expect"
  | .status => some "status"
  | .body => some "body"
  | .contains => some "contains"
  | .equals => some "="
  | .semicolon => some ";"
  | .leftBrace => some "\x7b"
  | .rightBrace => some "\x7d"
  | .leftParen => some "("
  | .rightParen => some ")"
  | .ident | .str | .number | .varRef | .eof => none

namespace Word

/-- Is this the word of a token that some text has? The end of a text is left out. -/
def isLexable (w : Word) : Bool :=
  match w.kind with
  | .ident => isName w.text
  | .str => true
  | .number => !w.text.toList.isEmpty && w.text.toList.all Char.isDigit
  | .varRef => !w.text.toList.isEmpty && w.text.toList.all isNameChar
  | k => k.fixedText? == some w.text

/-- A way to write a word. -/
def spell (w : Word) : List Char :=
  match w.kind with
  | .str => (Code.literal w.text).toList
  | .varRef => '$' :: w.text.toList
  | _ => w.text.toList

/-- Words written one after another. -/
def print (ws : List Word) : List Char := ws.flatMap fun w => ' ' :: w.spell

end Word

/-! ### Words of tokens are lexable -/

/-- A text shaped like a name is a name start and name characters after it. -/
theorem isNameShaped_iff {text : String} :
    isNameShaped text = true ↔ ∃ c cs, text.toList = c :: cs ∧ isNameStart c = true ∧
      ∀ d ∈ cs, isNameChar d = true := by
  unfold isNameShaped
  cases ht : text.toList with
  | nil => simp
  | cons c cs =>
    simp only [Bool.and_eq_true, List.all_eq_true, List.cons.injEq]
    constructor
    · rintro ⟨hc, hcs⟩
      exact ⟨c, cs, ⟨rfl, rfl⟩, hc, hcs⟩
    · rintro ⟨d, ds, ⟨rfl, rfl⟩, hc, hcs⟩
      exact ⟨hc, hcs⟩

/-- A name is shaped like one and is no keyword. -/
theorem isName_iff {text : String} :
    isName text = true ↔ isNameShaped text = true ∧ text ∉ Kind.keywords.map Prod.fst := by
  simp [isName]

/-- A keyword or a name can be a token with its own text. -/
theorem Token.Kind.ofWord_isLexable {text : String} (h : isNameShaped text = true) :
    Word.isLexable ⟨.ofWord text, text⟩ = true := by
  rcases Kind.ofWord_cases text with ⟨hk, hn⟩ | hm
  · rw [hk]
    exact isName_iff.2 ⟨h, hn⟩
  · have hall : ∀ p ∈ Kind.keywords, Word.isLexable ⟨p.2, p.1⟩ = true := by decide
    exact hall _ hm

/-- What is written as a token can be one. -/
theorem Written.isLexable {k : Kind} {text slice : List Char} (h : Written k text slice) :
    Word.isLexable ⟨k, String.ofList text⟩ = true := by
  cases h with
  | quoted => rfl
  | reference hne h => simpa [Word.isLexable, hne] using h
  | word hc h => exact Kind.ofWord_isLexable (isNameShaped_iff.2 ⟨_, _, by simp, hc, h⟩)
  | number hne h => simpa [Word.isLexable, hne] using h
  | mark h =>
    unfold Kind.punctuation? at h
    split at h <;> cases h <;> decide

/-- **Every token of a text** but its end is a word that can be written. -/
theorem Lexing.word_isLexable {source : String} {t : Token} (h : t ∈ (ofString source).tokens)
    (hk : t.kind ≠ .eof) : t.word.isLexable = true := by
  obtain ⟨slice, -, ⟨he, -⟩ | hw⟩ := (Lexing.standsIn_of_mem h).selects
  · exact absurd he hk
  · simpa [Token.word] using hw.isLexable

/-! ### Spelling -/

/-- An escape of generated code means the same in a source text. -/
theorem Text.unescape_of_code {c e : Char} (h : Code.unescape? e = some c) : unescape e = [c] := by
  unfold Code.unescape? at h
  split at h <;> cases h <;> rfl

/-- A string literal is a quoted text of the same content. -/
theorem Text.decodes_escape (text : List Char) :
    Decodes (text.flatMap Code.escapeChar) text := by
  induction text with
  | nil => exact .nil
  | cons c cs ih =>
    rw [List.flatMap_cons]
    rcases Code.escapeChar_cases c with ⟨e, he, hu⟩ | ⟨he, hb, hq⟩
    · rw [he]
      have := Decodes.escape (c := e) ih
      rwa [unescape_of_code hu] at this
    · rw [he]
      exact .plain hq hb ih

/-- A literal of generated code is a quoted text of a source. -/
theorem Code.written_literal (text : String) :
    Written .str text.toList (literal text).toList := by
  rw [toList_literal]
  exact .quoted (Text.decodes_escape text.toList)

theorem Code.next_literal (text rest : String) :
    (Lexer.ofString (literal text ++ rest)).next =
      (some (.ok ⟨.str, text, {}, (literal text).utf8ByteSize⟩),
        { rest := rest.toList, pos := Position.advance {} (literal text).toList }) := by
  have hfront : Front.of (Lexer.ofString (literal text ++ rest)).rest =
      .lexeme .str text.toList (literal text).toList rest.toList := by
    simpa [Lexer.ofString] using Front.of_written (written_literal text) fun _ _ => rfl
  rw [Lexer.next_of_not_finished rfl, Lexer.scan_of_lexeme hfront]
  simp [Lexer.ofString, Lexer.skip, byteLength_toList]

/-- **String literals delimit themselves.** In front of any text, a literal is read as the text that
it stands for and nothing of what follows is taken, by the rules of string literals and by the lexer
alike: the first token is the quoted text, and its bytes are those of the literal. A literal holds no
line break and no tab. -/
theorem Code.literal_delimits (text rest : String) :
    readLiteral ((literal text).toList ++ rest.toList) = some (text.toList, rest.toList) ∧
    (Lexer.ofString (literal text ++ rest)).next =
      (some (.ok ⟨.str, text, {}, (literal text).utf8ByteSize⟩),
        { rest := rest.toList, pos := Position.advance {} (literal text).toList }) ∧
    ∀ c ∈ ['\n', '\r', '\t'], c ∉ (literal text).toList :=
  ⟨readLiteral_literal text rest.toList, next_literal text rest, fun _ hc => not_mem_literal hc text⟩

/-- What is shaped like a name is written as it is. -/
theorem written_of_isNameShaped {text : String} (h : isNameShaped text = true) :
    Written (.ofWord text) text.toList text.toList := by
  obtain ⟨c, cs, ht, hc, hcs⟩ := isNameShaped_iff.1 h
  have := Written.word hc hcs
  rwa [← ht, String.ofList_toList] at this

/-- A text that belongs to a kind is a keyword or a punctuation mark. -/
theorem Token.Kind.fixedText?_cases {k : Kind} {text : String} (h : k.fixedText? = some text) :
    (text, k) ∈ Kind.keywords ∨ ∃ c, text.toList = [c] ∧ Kind.punctuation? c = some k := by
  cases k with
  | equals | semicolon | leftBrace | rightBrace | leftParen | rightParen =>
    cases h
    exact .inr ⟨_, rfl, rfl⟩
  | ident | str | number | varRef | eof => cases h
  | method m => cases m <;> cases h <;> exact .inl (by decide)
  | config | baseUrl | header | letVar | test | expect | status | body | contains =>
    cases h
    exact .inl (by decide)

/-- Keywords and punctuation marks are written as they are. -/
theorem Token.Kind.written_fixedText {k : Kind} {text : String} (h : k.fixedText? = some text) :
    Written k text.toList text.toList := by
  rcases Kind.fixedText?_cases h with hm | ⟨c, ht, hc⟩
  · have hall : ∀ p ∈ Kind.keywords, isNameShaped p.1 = true ∧ Kind.ofWord p.1 = p.2 := by decide
    obtain ⟨hshape, hkind⟩ := hall _ hm
    have := written_of_isNameShaped hshape
    rwa [hkind] at this
  · rw [ht]
    exact .mark hc

namespace Word

variable {w : Word} {ws : List Word}

/-- A word is written as it is spelled. -/
theorem written_spell (h : w.isLexable = true) : Written w.kind w.text.toList w.spell := by
  obtain ⟨k, text⟩ := w
  -- the four kinds whose text varies, then the keywords and marks
  by_cases hs : k = .str
  · subst hs
    exact Code.written_literal text
  by_cases hv : k = .varRef
  · subst hv
    obtain ⟨hne, hall⟩ : text.toList ≠ [] ∧ ∀ c ∈ text.toList, isNameChar c = true := by
      simpa [isLexable] using h
    exact .reference hne hall
  by_cases hn : k = .number
  · subst hn
    obtain ⟨hne, hall⟩ : text.toList ≠ [] ∧ ∀ c ∈ text.toList, c.isDigit = true := by
      simpa [isLexable] using h
    exact .number hne hall
  by_cases hi : k = .ident
  · subst hi
    obtain ⟨hshape, hkw⟩ := isName_iff.1 h
    have hkind : Kind.ofWord text = .ident := by
      rcases Kind.ofWord_cases text with ⟨hk, -⟩ | hm
      · exact hk
      · exact absurd (List.mem_map_of_mem hm) hkw
    have := written_of_isNameShaped hshape
    rwa [hkind] at this
  · have hfixed : k.fixedText? = some text := by
      cases k <;> simp_all [isLexable]
    have hspell : spell ⟨k, text⟩ = text.toList := by
      cases k <;> simp_all [spell]
    rw [hspell]
    exact Kind.written_fixedText hfixed

/-- Words are printed with a blank behind each, so every token ends there. -/
theorem endsBefore_print (k : Kind) (ws : List Word) : k.EndsBefore (print ws) := by
  intro c hc
  cases ws with
  | nil => simp [print] at hc
  | cons w ws =>
    obtain rfl : ' ' = c := by simpa [print] using hc
    cases k <;> rfl

/-- **Words that are printed are read back.** -/
theorem divided_print (h : ∀ w ∈ ws, w.isLexable = true) (p : Position) :
    ∃ l, Divided p (print ws) l ∧ words l.tokens = ws ++ [finish] ∧ l.failure = none ∧
      l.warnings = [] := by
  induction ws generalizing p with
  | nil => exact ⟨_, .finish, rfl, rfl, rfl⟩
  | cons w ws ih =>
    obtain ⟨hw, hws⟩ := List.forall_mem_cons.1 h
    obtain ⟨l, hl, htokens, hfailure, hwarnings⟩ := ih hws ((p.advance [' ']).advance w.spell)
    refine ⟨_, .blank (by decide) (.token (written_spell hw) (endsBefore_print _ ws) hl), ?_,
      hfailure, hwarnings⟩
    simp [Token.word, htokens]

/-- **Printed words are read back**, with no warning and no failure. -/
theorem lexing_print (h : ∀ w ∈ ws, w.isLexable = true) :
    words (Lexing.ofString (String.ofList (print ws))).tokens = ws ++ [finish] ∧
      (Lexing.ofString (String.ofList (print ws))).failure = none ∧
      (Lexing.ofString (String.ofList (print ws))).warnings = [] := by
  obtain ⟨l, hl, htokens, hfailure, hwarnings⟩ := divided_print h {}
  rw [← String.toList_ofList (l := print ws)] at hl
  obtain rfl := Lexing.divided_iff.1 hl
  exact ⟨htokens, hfailure, hwarnings⟩

end Word

end HttpSuite
