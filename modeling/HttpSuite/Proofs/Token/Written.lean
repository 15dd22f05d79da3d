import HttpSuite.Proofs.Token.Lexing

/-!
# How tokens are written

The written form of every kind of token, said without a lexer, and which characters may not follow
it. What stands between tokens is said in the same way: blank characters, comments, and characters
that no token can begin with.

* `Text.Decodes`: what the inside of a quoted text stands for.
* `Written`: how a token is written. `Token.Kind.EndsBefore`: nothing follows that would be part of
  it.
* `Front.of_eq_iff`: these rules determine the front of a text.
-/

namespace HttpSuite

open Token (Kind)

namespace Text

/-- What the inside of a quoted text stands for. A quote inside it has a backslash before it. -/
inductive Decodes : List Char → List Char → Prop
  | nil : Decodes [] []
  | plain {c : Char} {body text : List Char} (hq : c ≠ '"') (hb : c ≠ '\\')
      (h : Decodes body text) : Decodes (c :: body) (c :: text)
  | escape {c : Char} {body text : List Char} (h : Decodes body text) :
      Decodes ('\\' :: c :: body) (unescape c ++ text)

/-- After an opening quote, no quote closes the text. -/
def Unclosed (cs : List Char) : Prop :=
  ∀ ⦃body rest text : List Char⦄, Decodes body text → cs ≠ body ++ '"' :: rest

namespace Quoted

/-- What is read in quotes is what their inside decodes to. -/
theorem decodes_of_read {cs : List Char} {q : Quoted} (h : read cs = some q) :
    ∃ body, cs = body ++ '"' :: q.rest ∧ q.slice = body ++ ['"'] ∧ Decodes body q.content := by
  fun_induction read cs generalizing q with
  | case1 => simp at h
  | case2 rest =>
    cases h
    exact ⟨[], rfl, rfl, .nil⟩
  | case3 => simp at h
  | case4 c rest ih =>
    obtain ⟨p, hp, rfl⟩ := Option.map_eq_some_iff.1 h
    obtain ⟨body, rfl, hs, hd⟩ := ih hp
    exact ⟨'\\' :: c :: body, rfl, by simp [push, hs], .escape hd⟩
  | case5 c rest hq hlast hb ih =>
    obtain ⟨p, hp, rfl⟩ := Option.map_eq_some_iff.1 h
    obtain ⟨body, rfl, hs, hd⟩ := ih hp
    refine ⟨c :: body, rfl, by simp [push, hs], .plain ?_ ?_ hd⟩
    · exact fun hc => hq hc
    · intro hc
      cases body with
      | nil => exact hb _ _ hc rfl
      | cons d body => exact hb _ _ hc rfl

/-- The inside of quotes is read as what it decodes to, whatever follows it. -/
theorem read_of_decodes {body text : List Char} (h : Decodes body text) (rest : List Char) :
    read (body ++ '"' :: rest) = some ⟨text, body ++ ['"'], rest⟩ := by
  induction h with
  | nil => rfl
  | @plain c body text hq hb _ ih =>
    rw [List.cons_append, read, ih]
    · rfl
    · exact hq
    · intro hc; exact absurd hc hb
    · intro d tl hc; exact absurd hc hb
  | @escape c body text _ ih =>
    rw [List.cons_append, List.cons_append, read, ih]
    rfl

/-- Nothing is read exactly where a quote is never closed. -/
theorem read_eq_none_iff {cs : List Char} : read cs = none ↔ Unclosed cs := by
  constructor
  · rintro h body rest text hd rfl
    rw [read_of_decodes hd] at h
    cases h
  · intro h
    cases hr : read cs with
    | none => rfl
    | some q =>
      obtain ⟨body, hcs, -, hd⟩ := decodes_of_read hr
      exact absurd hcs (h hd)

end Quoted

/-! ### Classes of characters -/

/-- No number is in two lists of ranges that have nothing in common. -/
theorem inRanges_disjoint {a b : List (Nat × Nat)} {n : Nat}
    (h : ∀ r ∈ a, ∀ q ∈ b, r.2 < q.1 ∨ q.2 < r.1) (ha : inRanges a n = true) :
    inRanges b n = false := by
  obtain ⟨r, hr, hr₁, hr₂⟩ := inRanges_iff.1 ha
  cases hb : inRanges b n with
  | false => rfl
  | true =>
    obtain ⟨q, hq, hq₁, hq₂⟩ := inRanges_iff.1 hb
    have := h r hr q hq
    omega

theorem isAlpha_iff {c : Char} :
    c.isAlpha = true ↔ (65 ≤ c.toNat ∧ c.toNat ≤ 90) ∨ (97 ≤ c.toNat ∧ c.toNat ≤ 122) := by
  delta Char.isAlpha Char.isUpper Char.isLower
  simp [UInt32.le_iff_toNat_le]

theorem isDigit_iff {c : Char} : c.isDigit = true ↔ 48 ≤ c.toNat ∧ c.toNat ≤ 57 := by
  simp [Char.isDigit, UInt32.le_iff_toNat_le]

/-- A letter is not blank. -/
theorem isBlank_of_isAlphabetic {c : Char} (h : isAlphabetic c = true) : isBlank c = false := by
  cases hb : isBlank c with
  | false => rfl
  | true =>
    unfold isAlphabetic at h
    split at h
    · -- the blank characters of ASCII stand before the letters
      obtain ⟨r, hr, hr₁, hr₂⟩ := inRanges_iff.1 hb
      have hbound : ∀ r ∈ Blank.ranges, r.2 ≤ 32 ∨ 128 ≤ r.1 := by decide
      have := hbound r hr
      have := isAlpha_iff.1 h
      omega
    · rw [inRanges_disjoint (by decide +kernel) hb] at h
      cases h

theorem isAlphabetic_of_isDigit {c : Char} (h : c.isDigit = true) : isAlphabetic c = false := by
  have hd := isDigit_iff.1 h
  unfold isAlphabetic
  rw [if_pos (by omega)]
  cases ha : c.isAlpha with
  | false => rfl
  | true =>
    have := isAlpha_iff.1 ha
    omega

theorem isBlank_of_isDigit {c : Char} (h : c.isDigit = true) : isBlank c = false := by
  cases hb : isBlank c with
  | false => rfl
  | true =>
    obtain ⟨r, hr, hr₁, hr₂⟩ := inRanges_iff.1 hb
    have hbound : ∀ r ∈ Blank.ranges, r.2 < 48 ∨ 57 < r.1 := by decide
    have := hbound r hr
    have := isDigit_iff.1 h
    omega

end Text

open Text

theorem isBlank_of_isNameStart {c : Char} (h : isNameStart c = true) : isBlank c = false := by
  simp only [isNameStart, Bool.or_eq_true, beq_iff_eq] at h
  rcases h with h | rfl
  · exact isBlank_of_isAlphabetic h
  · decide

/-- A digit begins no name, so numbers and names are told apart. -/
theorem isNameStart_of_isDigit {c : Char} (h : c.isDigit = true) : isNameStart c = false := by
  simp only [isNameStart, isAlphabetic_of_isDigit h, Bool.false_or, beq_eq_false_iff_ne]
  rintro rfl
  exact absurd h (by decide)

/-! ### Tokens -/

/-- Would `c`, right after a token of that kind, be part of it? -/
def Token.Kind.continuedBy : Kind → Char → Bool
  | .str, _ | .equals, _ | .semicolon, _ | .leftBrace, _ | .rightBrace, _ | .leftParen, _
  | .rightParen, _ | .eof, _ => false
  | .number, c => c.isDigit
  | _, c => isNameChar c

/-- A token of that kind ends where the text goes on with `after`. -/
def Token.Kind.EndsBefore (k : Kind) (after : List Char) : Prop :=
  ∀ c ∈ after.head?, k.continuedBy c = false

instance (k : Kind) : (after : List Char) → Decidable (k.EndsBefore after)
  | [] => .isTrue fun _ hc => nomatch hc
  | c :: _ => decidable_of_iff (k.continuedBy c = false) (by simp [Token.Kind.EndsBefore])

/-- **How a token is written**: its kind, its text, and its characters in the source. -/
inductive Written : Kind → List Char → List Char → Prop
  | quoted {text body : List Char} (h : Decodes body text) :
      Written .str text ('"' :: (body ++ ['"']))
  | reference {name : List Char} (hne : name ≠ []) (h : ∀ c ∈ name, isNameChar c = true) :
      Written .varRef name ('$' :: name)
  | word {c : Char} {cs : List Char} (hc : isNameStart c = true)
      (h : ∀ d ∈ cs, isNameChar d = true) :
      Written (.ofWord (String.ofList (c :: cs))) (c :: cs) (c :: cs)
  | number {digits : List Char} (hne : digits ≠ []) (h : ∀ c ∈ digits, c.isDigit = true) :
      Written .number digits digits
  | mark {c : Char} {k : Kind} (h : Kind.punctuation? c = some k) : Written k [c] [c]

/-- The kinds of words: the keywords and the names. -/
theorem Token.Kind.ofWord_cases (word : String) :
    (Kind.ofWord word = .ident ∧ word ∉ Kind.keywords.map Prod.fst) ∨
      (word, Kind.ofWord word) ∈ Kind.keywords := by
  unfold Kind.ofWord
  cases hl : Kind.keywords.lookup word with
  | none =>
    refine .inl ⟨rfl, fun hw => ?_⟩
    obtain ⟨p, hp, rfl⟩ := List.mem_map.1 hw
    have := List.lookup_eq_none_iff.1 hl p hp
    simp at this
  | some k =>
    obtain ⟨l₁, l₂, hk, -⟩ := List.lookup_eq_some_iff.1 hl
    exact .inr (by rw [hk]; simp)

/-- A keyword or a name goes on with name characters. -/
theorem Token.Kind.continuedBy_ofWord (word : String) (c : Char) :
    (Kind.ofWord word).continuedBy c = isNameChar c := by
  rcases Kind.ofWord_cases word with ⟨hk, -⟩ | hm
  · rw [hk]; rfl
  · simp only [Kind.keywords, List.mem_cons, Prod.mk.injEq, List.not_mem_nil, or_false] at hm
    rcases hm with ⟨-, hk⟩ | ⟨-, hk⟩ | ⟨-, hk⟩ | ⟨-, hk⟩ | ⟨-, hk⟩ | ⟨-, hk⟩ | ⟨-, hk⟩ | ⟨-, hk⟩ |
      ⟨-, hk⟩ | ⟨-, hk⟩ | ⟨-, hk⟩ | ⟨-, hk⟩ | ⟨-, hk⟩ <;> rw [hk] <;> rfl

/-- Every token takes up at least one character. -/
theorem Written.slice_ne_nil {k : Kind} {text slice : List Char} (h : Written k text slice) :
    slice ≠ [] := by
  cases h with
  | quoted | reference | word | mark => simp
  | number hne => exact hne

/-! ### What stands between tokens -/

/-- A character that no token can begin with: a `$` without a name, or one that begins no token, is
not blank and is not the first slash of a comment. -/
inductive Stray : Warning.Cause → Char → List Char → Prop
  | dollar {after : List Char} (h : Kind.EndsBefore .varRef after) : Stray .bareDollar '$' after
  | unknown {c : Char} {after : List Char} (hb : isBlank c = false) (hq : c ≠ '"') (hd : c ≠ '$')
      (hw : isNameStart c = false) (hn : c.isDigit = false) (hp : Kind.punctuation? c = none)
      (hs : c = '/' → after.head? ≠ some '/') : Stray (.unknownChar c) c after

/-- Nothing of the line is left. -/
def AtLineEnd (cs : List Char) : Prop := ∀ c ∈ cs.head?, c = '\n'

namespace Front

/-- The front of a text, by the written forms of what may stand there. -/
inductive Stands : List Char → Front → Prop
  | finish : Stands [] .finish
  | blank {c : Char} {rest : List Char} (h : isBlank c = true) :
      Stands (c :: rest) (.blank [c] rest)
  | comment {body rest : List Char} (hb : '\n' ∉ body) (he : AtLineEnd rest) :
      Stands ('/' :: '/' :: (body ++ rest)) (.blank ('/' :: '/' :: body) rest)
  | stray {cause : Warning.Cause} {c : Char} {rest : List Char} (h : Stray cause c rest) :
      Stands (c :: rest) (.stray cause c rest)
  | lexeme {k : Kind} {text slice rest : List Char} (h : Written k text slice)
      (he : k.EndsBefore rest) : Stands (slice ++ rest) (.lexeme k text slice rest)
  | unclosed {rest : List Char} (h : Unclosed rest) : Stands ('"' :: rest) .unclosed

theorem Stands.lexeme_of_eq {k : Kind} {cs text slice rest : List Char} (hs : slice ++ rest = cs)
    (h : Written k text slice) (he : k.EndsBefore rest) :
    Stands cs (.lexeme k text slice rest) :=
  hs ▸ .lexeme h he

/-- A run up to a character that does not belong to it. -/
theorem takeWhile_append_of_stop {p : Char → Bool} {a b : List Char} (ha : ∀ c ∈ a, p c = true)
    (hb : ∀ c ∈ b.head?, p c = false) :
    (a ++ b).takeWhile p = a ∧ (a ++ b).dropWhile p = b := by
  rw [List.takeWhile_append_of_pos ha, List.dropWhile_append_of_pos ha]
  cases b with
  | nil => simp
  | cons c b =>
    have hc : p c = false := hb c (by simp)
    simp [hc]

theorem of_mem_takeWhile {p : Char → Bool} {cs : List Char} :
    ∀ c ∈ cs.takeWhile p, p c = true :=
  List.all_eq_true.1 List.all_takeWhile

theorem head?_dropWhile {p : Char → Bool} (cs : List Char) :
    ∀ c ∈ (cs.dropWhile p).head?, p c = false := by
  intro c hc
  have := List.head?_dropWhile_not p cs
  rw [Option.mem_def.1 hc] at this
  simpa using this

/-- **A token is found where it is written**, if the text does not go on with it. -/
theorem of_written {k : Kind} {text slice rest : List Char} (h : Written k text slice)
    (he : k.EndsBefore rest) : of (slice ++ rest) = .lexeme k text slice rest := by
  cases h with
  | @quoted text body h =>
    have hb : isBlank '"' = false := by decide
    simp [of, hb, quoted, Quoted.read_of_decodes h]
  | reference hne h =>
    have hb : isBlank '$' = false := by decide
    obtain ⟨htake, hdrop⟩ := takeWhile_append_of_stop h he
    simp [of, hb, reference, htake, hdrop]
  | @word c cs hc h =>
    have hall : ∀ d ∈ c :: cs, isNameChar d = true :=
      List.forall_mem_cons.2 ⟨isNameChar_of_isNameStart hc, h⟩
    have hstop : ∀ d ∈ rest.head?, isNameChar d = false := fun d hd => by
      rw [← Kind.continuedBy_ofWord]; exact he d hd
    obtain ⟨htake, hdrop⟩ := takeWhile_append_of_stop hall hstop
    have hslash : c ≠ '/' := by rintro rfl; exact absurd hc (by decide)
    have hquote : c ≠ '"' := by rintro rfl; exact absurd hc (by decide)
    have hdollar : c ≠ '$' := by rintro rfl; exact absurd hc (by decide)
    rw [List.cons_append] at htake hdrop ⊢
    simp [of, isBlank_of_isNameStart hc, hslash, hquote, hdollar, hc, word, htake, hdrop]
  | @number digits hne h =>
    obtain ⟨c, cs, rfl⟩ := List.exists_cons_of_ne_nil hne
    have hc : c.isDigit = true := h c (by simp)
    obtain ⟨htake, hdrop⟩ := takeWhile_append_of_stop h he
    have hslash : c ≠ '/' := by rintro rfl; exact absurd hc (by decide)
    have hquote : c ≠ '"' := by rintro rfl; exact absurd hc (by decide)
    have hdollar : c ≠ '$' := by rintro rfl; exact absurd hc (by decide)
    rw [List.cons_append] at htake hdrop ⊢
    simp [of, isBlank_of_isDigit hc, hslash, hquote, hdollar, isNameStart_of_isDigit hc, hc, number,
      htake, hdrop]
  | @mark c k h =>
    -- the six marks are neither blank nor the beginning of anything else
    have hmark : isBlank c = false ∧ c ≠ '/' ∧ c ≠ '"' ∧ c ≠ '$' ∧ isNameStart c = false ∧
        c.isDigit = false := by
      unfold Kind.punctuation? at h
      split at h <;> first | decide | cases h
    obtain ⟨hb, hslash, hquote, hdollar, hw, hn⟩ := hmark
    simp [of, hb, hslash, hquote, hdollar, hw, hn, mark, h]

/-- What stands at the front is what the rules say. -/
theorem of_eq_of_stands {cs : List Char} {f : Front} (h : Stands cs f) : of cs = f := by
  cases h with
  | finish => rfl
  | blank h => simp [of, h]
  -- a comment begins with a slash, which is neither a blank nor a mark
  | @comment body rest hb he =>
    have hslash : isBlank '/' = false := by decide
    have hall : ∀ c ∈ '/' :: '/' :: body, (c != '\n') = true := by
      intro c hc
      simp only [List.mem_cons] at hc
      rcases hc with rfl | rfl | hc
      · decide
      · decide
      · simp only [bne_iff_ne]
        rintro rfl
        exact hb hc
    obtain ⟨htake, hdrop⟩ := takeWhile_append_of_stop hall (b := rest) fun c hc => by
      simp [he c hc]
    rw [List.cons_append, List.cons_append] at htake hdrop
    simp [of, hslash, comment, htake, hdrop]
  | @stray _ c rest h =>
    cases h with
    -- a `$` that no name follows: the longest name behind it is empty
    | dollar h =>
      have hb : isBlank '$' = false := by decide
      obtain ⟨htake, -⟩ := takeWhile_append_of_stop (p := isNameChar) (a := []) (by simp) h
      rw [List.nil_append] at htake
      simp [of, hb, reference, htake]
    | unknown hb hq hd hw hn hp hs =>
      have hslash : ¬ (c = '/' ∧ rest.head? = some '/') := fun h => hs h.1 h.2
      simp [of, hb, hslash, hq, hd, hw, hn, mark, hp]
  | lexeme h he => exact of_written h he
  | unclosed h =>
    have hb : isBlank '"' = false := by decide
    simp [of, hb, quoted, Quoted.read_eq_none_iff.2 h]

/-- A comment stands up to the end of its line. -/
theorem stands_comment {cs : List Char} (h : cs.head? = some '/') :
    Stands ('/' :: cs) (comment ('/' :: cs)) := by
  obtain ⟨cs, rfl⟩ := List.head?_eq_some_iff.1 h
  have hsplit := List.takeWhile_append_dropWhile (p := (· != '\n')) (l := cs)
  have hbody : '\n' ∉ cs.takeWhile (· != '\n') := fun hm => by
    simpa using of_mem_takeWhile _ hm
  have hstands := Stands.comment hbody fun d hd => by
    simpa using head?_dropWhile (p := (· != '\n')) cs d hd
  rw [hsplit] at hstands
  simpa [comment] using hstands

/-- A quote stands with its closing one, or is never closed. -/
theorem stands_quoted (cs : List Char) : Stands ('"' :: cs) (quoted cs) := by
  unfold quoted
  split
  · rename_i q hq
    obtain ⟨body, rfl, hslice, hd⟩ := Quoted.decodes_of_read hq
    rw [hslice]
    exact .lexeme_of_eq (by simp) (.quoted hd) (fun _ _ => rfl)
  · rename_i hq
    exact .unclosed (Quoted.read_eq_none_iff.1 hq)

/-- A reference stands with the longest name after its `$`, or is a bare `$`. -/
theorem stands_reference (cs : List Char) : Stands ('$' :: cs) (reference cs) := by
  have hsplit := List.takeWhile_append_dropWhile (p := isNameChar) (l := cs)
  unfold reference
  split
  · -- what follows a `$` without a name is no name character
    rename_i hname
    rw [hname, List.nil_append] at hsplit
    exact .stray (.dollar fun d hd =>
      head?_dropWhile (p := isNameChar) cs d (by rw [hsplit]; exact hd))
  · rename_i hne
    exact .lexeme_of_eq (by rw [List.cons_append, hsplit]) (.reference hne of_mem_takeWhile)
      (head?_dropWhile cs)

/-- A word stands up to the first character that is none of a name. -/
theorem stands_word {c : Char} (cs : List Char) (hc : isNameStart c = true) :
    Stands (c :: cs) (word (c :: cs)) := by
  have hsplit := List.takeWhile_append_dropWhile (p := isNameChar) (l := c :: cs)
  have htake : (c :: cs).takeWhile isNameChar = c :: cs.takeWhile isNameChar :=
    List.takeWhile_cons_of_pos (isNameChar_of_isNameStart hc)
  have hwritten := Written.word hc fun d (hd : d ∈ cs.takeWhile isNameChar) =>
    of_mem_takeWhile d hd
  rw [← htake] at hwritten
  exact .lexeme_of_eq hsplit hwritten fun d hd => by
    rw [Kind.continuedBy_ofWord]; exact head?_dropWhile (c :: cs) d hd

/-- A number stands up to the first character that is no digit. -/
theorem stands_number {c : Char} (cs : List Char) (hc : c.isDigit = true) :
    Stands (c :: cs) (number (c :: cs)) := by
  have hsplit := List.takeWhile_append_dropWhile (p := Char.isDigit) (l := c :: cs)
  exact .lexeme_of_eq hsplit (.number (by simp [hc]) of_mem_takeWhile) (head?_dropWhile (c :: cs))

theorem stands_punctuation {c : Char} {k : Kind} (cs : List Char)
    (hk : Kind.punctuation? c = some k) : Stands (c :: cs) (.lexeme k [c] [c] cs) := by
  have hends : k.EndsBefore cs := fun d _ => by
    unfold Kind.punctuation? at hk
    split at hk <;> cases hk <;> rfl
  exact Stands.lexeme (.mark hk) hends

/-- The rules cover every text. -/
theorem stands_of (cs : List Char) : Stands cs (of cs) := by
  match cs with
  | [] => exact .finish
  | c :: cs =>
    -- in the order in which the front is decided; the last case has all the others excluded
    simp only [of]
    split
    · rename_i hb
      exact .blank hb
    rename_i hb
    split
    · rename_i hc
      obtain ⟨rfl, hhead⟩ : c = '/' ∧ cs.head? = some '/' := by simpa using hc
      exact stands_comment hhead
    rename_i hs
    split
    · rename_i hc
      obtain rfl : c = '"' := by simpa using hc
      exact stands_quoted cs
    rename_i hquote
    split
    · rename_i hc
      obtain rfl : c = '$' := by simpa using hc
      exact stands_reference cs
    rename_i hdollar
    split
    · rename_i hc
      exact stands_word cs hc
    rename_i hword
    split
    · rename_i hc
      exact stands_number cs hc
    rename_i hdigit
    unfold mark
    split
    · rename_i k hk
      exact stands_punctuation cs hk
    · rename_i hk
      refine .stray (.unknown (by simpa using hb) (by simpa using hquote) (by simpa using hdollar)
        (by simpa using hword) (by simpa using hdigit) hk fun hc => ?_)
      simpa [hc] using hs

/-- **The rules determine the front of a text.** -/
theorem of_eq_iff {cs : List Char} {f : Front} : of cs = f ↔ Stands cs f :=
  ⟨fun h => h ▸ stands_of cs, of_eq_of_stands⟩

end Front

end HttpSuite
