import HttpSuite.Proofs.Token.Written

/-!
# Every character of a text is accounted for

A text is divided into tokens and what lies between them: blank characters, comments, and characters
that are passed over with a warning on each. The division is said here without a lexer; it exists
for every text, it is the only one, and it is the complete lexing of the text.

* `Divided`: the tokens, the warnings and the error of a text.
* `Lexing.divided_iff`: the division of a text is its lexing.
* `Divided.standsIn`: tokens, warnings and the error of a text stand in their places.
* `Lexing.accounts_for`: what that says of the bytes of the source.
-/

namespace HttpSuite

open Token (Kind)
open Text

/-- **The division of a text** that begins at the place `p`. -/
inductive Divided : Position → List Char → Lexing → Prop
  | finish {p : Position} : Divided p [] { tokens := [.endOfInput p] }
  | blank {p : Position} {c : Char} {rest : List Char} {l : Lexing} (hc : isBlank c = true)
      (h : Divided (p.advance [c]) rest l) : Divided p (c :: rest) l
  | comment {p : Position} {body rest : List Char} {l : Lexing} (hb : '\n' ∉ body)
      (he : AtLineEnd rest) (h : Divided (p.advance ('/' :: '/' :: body)) rest l) :
      Divided p ('/' :: '/' :: (body ++ rest)) l
  | stray {p : Position} {cause : Warning.Cause} {c : Char} {rest : List Char} {l : Lexing}
      (hc : Stray cause c rest) (h : Divided (p.advance [c]) rest l) :
      Divided p (c :: rest)
        { l with warnings := ⟨cause, p, p.offset + c.utf8Size⟩ :: l.warnings }
  | token {p : Position} {k : Kind} {text slice rest : List Char} {l : Lexing}
      (hw : Written k text slice) (he : k.EndsBefore rest) (h : Divided (p.advance slice) rest l) :
      Divided p (slice ++ rest)
        { l with tokens := ⟨k, String.ofList text, p, p.offset + byteLength slice⟩ :: l.tokens }
  | unclosed {p : Position} {rest : List Char} (h : Unclosed rest) :
      Divided p ('"' :: rest) { failure := some (.unterminated p) }

/-- Every text has a division. -/
theorem exists_divided (p : Position) (cs : List Char) : ∃ l, Divided p cs l := by
  induction hn : cs.length using Nat.strongRecOn generalizing p cs with
  | ind n ih =>
  have hlt := @Front.rest_length_lt cs
  generalize hf : Front.of cs = f at hlt
  cases Front.of_eq_iff.1 hf with
  | finish => exact ⟨_, .finish⟩
  | @blank c rest hc =>
    obtain ⟨l, hl⟩ := ih rest.length (hn ▸ hlt (by simp)) (p.advance [c]) rest rfl
    exact ⟨l, .blank hc hl⟩
  | @comment body rest hb he =>
    obtain ⟨l, hl⟩ := ih rest.length (hn ▸ hlt (by simp)) (p.advance ('/' :: '/' :: body)) rest rfl
    exact ⟨l, .comment hb he hl⟩
  | @stray cause c rest hc =>
    obtain ⟨l, hl⟩ := ih rest.length (hn ▸ hlt (by simp)) (p.advance [c]) rest rfl
    exact ⟨_, .stray hc hl⟩
  | @lexeme k text slice rest hw he =>
    obtain ⟨l, hl⟩ := ih rest.length (hn ▸ hlt (by simp)) (p.advance slice) rest rfl
    exact ⟨_, .token hw he hl⟩
  | unclosed h => exact ⟨_, .unclosed h⟩

/-! ### The lexer divides its text -/

namespace Lexer

variable {l m : Lexer}

/-- Lexers that find the same token next run alike. -/
theorem run_eq_of_scan_eq (hl : l.finished = false) (hm : m.finished = false)
    (h : l.scan = m.scan) : l.run = m.run := by
  have hn := next_of_not_finished hl
  have hn' := next_of_not_finished hm
  rw [h] at hn
  cases hs : m.scan.1 with
  | ok t =>
    rw [hs] at hn hn'
    rw [run_of_ok hn, run_of_ok hn']
  | error e =>
    rw [hs] at hn hn'
    rw [run_of_error hn, run_of_error hn']

theorem scan_of_blank {slice rest : List Char} (h : Front.of l.rest = .blank slice rest) :
    l.scan = (l.skip slice rest).scan := by
  rw [scan]
  split <;> simp_all

/-- A stray character is skipped with a warning at its place. -/
theorem scan_of_stray {cause : Warning.Cause} {c : Char} {rest : List Char}
    (h : Front.of l.rest = .stray cause c rest) :
    l.scan = ((l.warn cause c).skip [c] rest).scan := by
  rw [scan]
  split <;> simp_all

/-- A token begins where the lexer is and ends behind its slice. -/
theorem scan_of_lexeme {k : Kind} {text slice rest : List Char}
    (h : Front.of l.rest = .lexeme k text slice rest) :
    l.scan = (.ok ⟨k, String.ofList text, l.pos, l.pos.offset + byteLength slice⟩,
      l.skip slice rest) := by
  rw [scan]
  split <;> simp_all

theorem scan_of_finish (h : Front.of l.rest = .finish) :
    l.scan = (.ok (.endOfInput l.pos), l.close) := by
  rw [scan]
  split <;> simp_all

/-- An error names the place of the quote, and the lexer is finished. -/
theorem scan_of_unclosed (h : Front.of l.rest = .unclosed) :
    l.scan = (.error (.unterminated l.pos), l.close) := by
  rw [scan]
  split <;> simp_all

/-- **The run of a lexer is the division of its text**, with the warnings that it already had before
the others. -/
theorem run_of_divided {p : Position} {cs : List Char} {x : Lexing} (h : Divided p cs x)
    (hp : l.pos = p) (hr : l.rest = cs) (hf : l.finished = false) :
    l.run = { x with warnings := l.warnings ++ x.warnings } := by
  -- blanks, comments and stray characters are passed within one reading step, so that the run is
  -- that of the lexer behind them; a token is a step of its own
  induction h generalizing l with
  | finish =>
    have hs := scan_of_finish (l := l) (by rw [hr]; rfl)
    have hn := next_of_not_finished hf
    rw [hs] at hn
    rw [run_of_ok hn, run_of_finished rfl, hp]
    simp [close, warnings]
  | @blank p c rest x hc _ ih =>
    have hfront : Front.of (c :: rest) = .blank [c] rest := Front.of_eq_of_stands (.blank hc)
    rw [← hr] at hfront
    rw [run_eq_of_scan_eq (m := l.skip [c] rest) hf hf (scan_of_blank hfront)]
    exact ih (by rw [skip, hp]) rfl hf
  | @comment p body rest x hb he _ ih =>
    have hfront := Front.of_eq_of_stands (.comment hb he)
    rw [← hr] at hfront
    rw [run_eq_of_scan_eq (m := l.skip ('/' :: '/' :: body) rest) hf hf (scan_of_blank hfront)]
    exact ih (by rw [skip, hp]) rfl hf
  | @stray p cause c rest x hc _ ih =>
    have hfront := Front.of_eq_of_stands (.stray hc)
    rw [← hr] at hfront
    rw [run_eq_of_scan_eq (m := (l.warn cause c).skip [c] rest) hf hf (scan_of_stray hfront),
      ih (l := (l.warn cause c).skip [c] rest) (by simp [skip, warn, hp]) rfl hf]
    simp [hp]
  | @token p k text slice rest x hw he _ ih =>
    have hfront := Front.of_eq_of_stands (.lexeme hw he)
    rw [← hr] at hfront
    have hn := next_of_not_finished hf
    rw [scan_of_lexeme hfront] at hn
    have hrest := ih (l := l.skip slice rest) (by rw [skip, hp]) rfl hf
    rw [run_of_ok hn]
    simp [hrest, hp]
  | unclosed h =>
    have hfront := Front.of_eq_of_stands (.unclosed h)
    rw [← hr] at hfront
    have hn := next_of_not_finished hf
    rw [scan_of_unclosed hfront] at hn
    rw [run_of_error hn, hp]
    simp [close, warnings]

/-- The warnings that a lexer has are among those of its run. -/
theorem exists_run_warnings (l : Lexer) : ∃ ws, l.run.warnings = l.warnings ++ ws := by
  cases hf : l.finished with
  | true => exact ⟨[], by rw [run_of_finished hf, List.append_nil]⟩
  | false =>
    obtain ⟨x, hx⟩ := exists_divided l.pos l.rest
    exact ⟨x.warnings, by rw [run_of_divided hx rfl rfl hf]⟩

end Lexer

/-- A text has one division only. -/
theorem Divided.unique {p : Position} {cs : List Char} {l m : Lexing} (h : Divided p cs l)
    (h' : Divided p cs m) : l = m := by
  have hl := Lexer.run_of_divided (l := { rest := cs, pos := p }) h rfl rfl rfl
  have hm := Lexer.run_of_divided (l := { rest := cs, pos := p }) h' rfl rfl rfl
  exact hl.symm.trans hm

/-- **The division of a text is its lexing.** -/
theorem Lexing.divided_iff {source : String} {l : Lexing} :
    Divided {} source.toList l ↔ l = ofString source := by
  have hrun : ∀ {x : Lexing}, Divided {} source.toList x → ofString source = x := fun h => by
    rw [ofString, Lexer.run_of_divided h rfl rfl rfl]
    rfl
  constructor
  · exact fun h => (hrun h).symm
  · rintro rfl
    obtain ⟨x, hx⟩ := exists_divided {} source.toList
    rwa [hrun hx]

/-- The tokens, warnings and failure of a text divide it. -/
theorem Lexing.divided (source : String) : Divided {} source.toList (ofString source) :=
  Lexing.divided_iff.2 rfl

/-! ### Bytes -/

/-- The bytes of a span in a text, both ends of which stand between characters. -/
def Span.Selects (s : Span) (source text : List Char) : Prop :=
  ∃ before after, source = before ++ text ++ after ∧ s.start = byteLength before ∧
    s.stop = byteLength (before ++ text)

/-- A token in its place in a text: the end of the text, or the written form of a token that what
follows does not make longer. Its line and column are those of the place as well. -/
def Token.StandsIn (t : Token) (source : List Char) : Prop :=
  ∃ before slice after, source = before ++ slice ++ after ∧ t.pos = Position.advance {} before ∧
    t.stop = byteLength (before ++ slice) ∧
    (t = .endOfInput t.pos ∧ slice = [] ∧ after = [] ∨
      Written t.kind t.text.toList slice ∧ t.kind.EndsBefore after)

/-- A warning in its place in a text: on one character. -/
def Warning.StandsIn (w : Warning) (source : List Char) : Prop :=
  ∃ before c after, source = before ++ c :: after ∧ w.pos = Position.advance {} before ∧
    w.stop = byteLength (before ++ [c])

/-- A lexical error in its place in a text: at a quote that nothing closes. -/
def LexError.StandsIn (e : LexError) (source : List Char) : Prop :=
  ∃ before rest, source = before ++ '"' :: rest ∧ Unclosed rest ∧
    e.pos = Position.advance {} before

/-- Spans that follow one another, none of them beginning before `start`. -/
def InOrder (start : Nat) (ss : List Span) : Prop :=
  (∀ s ∈ ss, start ≤ s.start) ∧ ss.Pairwise fun a b => a.stop ≤ b.start

namespace InOrder

variable {n m : Nat} {s : Span} {ss : List Span}

theorem nil : InOrder n [] := ⟨by simp, .nil⟩

theorem mono (h : InOrder m ss) (hnm : n ≤ m) : InOrder n ss :=
  ⟨fun s hs => Nat.le_trans hnm (h.1 s hs), h.2⟩

theorem cons (hn : n ≤ s.start) (hs : s.start ≤ s.stop) (h : InOrder s.stop ss) :
    InOrder n (s :: ss) := by
  refine ⟨?_, List.pairwise_cons.2 h⟩
  intro r hr
  rcases List.mem_cons.1 hr with rfl | hr
  · exact hn
  · have := h.1 r hr
    omega

end InOrder

namespace Divided

variable {p : Position} {cs : List Char} {l : Lexing}

/-- **Everything stands in its place**, if the text begins behind `before`. -/
theorem standsIn (h : Divided p cs l) (before : List Char)
    (hp : p = Position.advance {} before) :
    (∀ t ∈ l.tokens, t.StandsIn (before ++ cs)) ∧ (∀ w ∈ l.warnings, w.StandsIn (before ++ cs)) ∧
      ∀ e ∈ l.failure, e.StandsIn (before ++ cs) := by
  -- what is passed over or taken joins the text before
  have hjoin : ∀ {p : Position} {before : List Char} (slice : List Char),
      p = Position.advance {} before → p.advance slice = Position.advance {} (before ++ slice) :=
    fun slice hp => by rw [Position.advance_append, ← hp]
  induction h generalizing before with
  | @finish p =>
    refine ⟨?_, by simp, by simp⟩
    intro t ht
    obtain rfl := List.mem_singleton.1 ht
    refine ⟨before, [], [], by simp, hp, ?_, .inl ⟨rfl, rfl, rfl⟩⟩
    simp [Token.endOfInput, hp, Position.advance_offset]
  | @blank p c rest l hc _ ih =>
    have hrest := ih _ (hjoin [c] hp)
    rwa [List.append_assoc] at hrest
  | @comment p body rest l hb he _ ih =>
    have hrest := ih _ (hjoin ('/' :: '/' :: body) hp)
    rwa [List.append_assoc] at hrest
  | @stray p cause c rest l hc _ ih =>
    have hrest := ih _ (hjoin [c] hp)
    rw [List.append_assoc] at hrest
    obtain ⟨htokens, hwarnings, hfailure⟩ := hrest
    refine ⟨htokens, ?_, hfailure⟩
    intro w hw
    rcases List.mem_cons.1 hw with rfl | hw
    · refine ⟨before, c, rest, rfl, hp, ?_⟩
      simp [hp, Position.advance_offset]
    · exact hwarnings w hw
  | @token p k text slice rest l hw he _ ih =>
    have hrest := ih _ (hjoin slice hp)
    rw [List.append_assoc] at hrest
    obtain ⟨htokens, hwarnings, hfailure⟩ := hrest
    refine ⟨?_, hwarnings, hfailure⟩
    intro t ht
    rcases List.mem_cons.1 ht with rfl | ht
    · refine ⟨before, slice, rest, by simp, hp, ?_, .inr ⟨by simpa using hw, he⟩⟩
      simp [hp, Position.advance_offset]
    · exact htokens t ht
  | @unclosed p rest h =>
    refine ⟨by simp, by simp, ?_⟩
    intro e he
    obtain rfl := Option.some.inj he
    exact ⟨before, rest, rfl, h, hp⟩

/-- A warning is on one character. -/
theorem warning_selects (h : Divided p cs l) (before : List Char)
    (hp : p = Position.advance {} before) :
    ∀ w ∈ l.warnings, ∃ c, w.span.Selects (before ++ cs) [c] := by
  intro w hw
  obtain ⟨front, c, back, hsplit, hpos, hstop⟩ := (h.standsIn before hp).2.1 w hw
  refine ⟨c, front, back, by simp [hsplit], ?_, hstop⟩
  simp [Warning.span, hpos, Position.advance_offset]

/-- Tokens follow one another, and so do warnings. -/
theorem inOrder (h : Divided p cs l) :
    InOrder p.offset (l.tokens.map Token.span) ∧
      InOrder p.offset (l.warnings.map Warning.span) := by
  have hle : ∀ (p : Position) (cs : List Char), p.offset ≤ (p.advance cs).offset := fun p cs => by
    rw [Position.advance_offset]; omega
  induction h with
  | finish => exact ⟨.cons (Nat.le_refl _) (Nat.le_refl _) .nil, .nil⟩
  | @blank p c rest l hc _ ih => exact ⟨ih.1.mono (hle p [c]), ih.2.mono (hle p [c])⟩
  | comment _ _ _ ih => exact ⟨ih.1.mono (hle _ _), ih.2.mono (hle _ _)⟩
  | @stray p cause c rest l hc _ ih =>
    refine ⟨ih.1.mono (hle p [c]), .cons (Nat.le_refl _) (Nat.le_add_right _ _) (ih.2.mono ?_)⟩
    simp [Warning.span]
  | @token p k text slice rest l hw he _ ih =>
    refine ⟨.cons (Nat.le_refl _) (Nat.le_add_right _ _) (ih.1.mono ?_), ih.2.mono (hle _ _)⟩
    simp [Token.span, Position.advance_offset]
  | unclosed => exact ⟨.nil, .nil⟩

end Divided

/-- The span of a token selects what it is written as; that of the end is empty. -/
theorem Token.StandsIn.selects {t : Token} {source : List Char} (h : t.StandsIn source) :
    ∃ slice, t.span.Selects source slice ∧
      (t.kind = .eof ∧ slice = [] ∨ Written t.kind t.text.toList slice) := by
  obtain ⟨before, slice, after, rfl, hp, hs, hw⟩ := h
  refine ⟨slice, ⟨before, after, rfl, ?_, hs⟩, ?_⟩
  · simp [Token.span, hp, Position.advance_offset]
  · rcases hw with ⟨ht, hslice, -⟩ | ⟨hw, -⟩
    · exact .inl ⟨by rw [ht]; rfl, hslice⟩
    · exact .inr hw

theorem byteLength_pos {cs : List Char} (h : cs ≠ []) : 0 < byteLength cs := by
  obtain ⟨c, cs, rfl⟩ := List.exists_cons_of_ne_nil h
  have := c.utf8Size_pos
  simp only [byteLength_cons]
  omega

/-- A token other than the end of the text takes up bytes. -/
theorem Token.StandsIn.start_lt_stop {t : Token} {source : List Char} (h : t.StandsIn source)
    (hk : t.kind ≠ .eof) : t.span.start < t.span.stop := by
  obtain ⟨slice, ⟨before, after, -, hstart, hstop⟩, ⟨he, -⟩ | hw⟩ := h.selects
  · exact absurd he hk
  · have := byteLength_pos hw.slice_ne_nil
    rw [hstart, hstop, byteLength_append]
    omega

namespace Lexing

variable {source : String} {t : Token}

/-- Every token stands in the text. -/
theorem standsIn_of_mem (h : t ∈ (ofString source).tokens) : t.StandsIn source.toList :=
  ((Lexing.divided source).standsIn [] rfl).1 t h

/-- **The spans of the tokens are in order**, one behind the other. -/
theorem tokens_inOrder (source : String) : InOrder 0 ((ofString source).tokens.map Token.span) :=
  (Lexing.divided source).inOrder.1

/-- **The lexer loses and invents nothing.** The lexing of a text is its one division into tokens
and what may lie between them. Every token stands in the text as its kind is written, at its own
bytes, and no two tokens overlap; every warning is on one character, and no two are on the same. -/
theorem accounts_for (source : String) :
    (∀ l, Divided {} source.toList l ↔ l = ofString source) ∧
      (∀ t ∈ (ofString source).tokens,
        t.StandsIn source.toList ∧ (t.kind ≠ .eof → t.span.start < t.span.stop)) ∧
      ((ofString source).tokens.map Token.span).Pairwise (fun a b => a.stop ≤ b.start) ∧
      (∀ w ∈ (ofString source).warnings, ∃ c, w.span.Selects source.toList [c]) ∧
      ((ofString source).warnings.map Warning.span).Pairwise (fun a b => a.stop ≤ b.start) := by
  have hd := Lexing.divided source
  refine ⟨fun l => Lexing.divided_iff, ?_, hd.inOrder.1.2, ?_, hd.inOrder.2.2⟩
  · intro t ht
    exact ⟨standsIn_of_mem ht, (standsIn_of_mem ht).start_lt_stop⟩
  · exact hd.warning_selects [] rfl

end Lexing

end HttpSuite
