import Mathlib
import HttpSuite.Proofs.Parser.Completion
import HttpSuite.Proofs.Parser.Exactness

/-!
# Syntax errors stand at the first bad token

An unexpected token is reported where the text before it could still have become a test
description and the text up to it cannot, and what the report names as expected is what could have
come there.

* `Suite.parse_cases`: a parse is a run over the tokens of the text, unless there is none.
* `Suite.parse_of_contents`: tokens of a test description are those of a text that parses.
* `Expected.describe_eq`: the words of a report name the kinds of token that are meant.
* `Suite.refuses_of_unexpected`: what a report of an unexpected token says.
-/

namespace HttpSuite

open Token (Kind)
open Grammar

/-- What a run returned or failed with. -/
def Parser.Outcome.result {σ α : Type} : Parser.Outcome σ α → Except ParseError α
  | .ok a _ => .ok a
  | .error err _ => .error err

/-- **A parse is a run over the tokens of the text**, if there is a first one. -/
theorem Suite.parse_cases (source : String) :
    (∃ s : Parser.State Lexer,
      s.Sees (Lexing.ofString source).tokens (Lexing.ofString source).failure ∧
        (Suite.parse source).result = Parser.Outcome.result (Parser.suite s)) ∨
    ((Lexing.ofString source).tokens = [] ∧
      ∃ err, (Suite.parse source).result = .error (.lexical err)) := by
  rcases Lexer.run_supplies (l := Lexer.ofString source) rfl with
    ⟨t, ts, l, hn, hts, hsup⟩ | ⟨err, l, hn, hts, -⟩
  · refine .inl ⟨{ source := l, current := t }, ⟨ts, hts, hsup⟩, ?_⟩
    unfold Suite.parse Parser.start
    rw [show TokenSource.next (Lexer.ofString source) = (some (.ok t), l) from hn]
    dsimp only
    cases Parser.suite ({ source := l, current := t } : Parser.State Lexer) <;> rfl
  · exact .inr ⟨hts, err, Suite.parse_of_next_error hn⟩

/-! ### Texts with given tokens -/

theorem Word.ne_eof_of_isLexable {w : Word} (h : w.isLexable = true) : w.kind ≠ .eof := by
  intro hk
  simp [Word.isLexable, hk, Kind.fixedText?] at h

theorem Replay.supplies {eof t : Token} {ts : List Token} (he : eof.kind = .eof)
    (h : ∀ u ∈ t :: ts, u.kind ≠ .eof) :
    Supplies (⟨ts ++ [eof], none⟩ : Replay) t (ts ++ [eof]) none := by
  induction ts generalizing t with
  | nil => exact .step (h t (by simp)) rfl (.finish he)
  | cons u ts ih => exact .step (h t (by simp)) rfl (ih fun v hv => h v (by simp [hv]))

theorem Replay.exists_sees {eof : Token} {ts : List Token} (he : eof.kind = .eof)
    (h : ∀ u ∈ ts, u.kind ≠ .eof) : ∃ s : Parser.State Replay, s.Sees (ts ++ [eof]) none := by
  cases ts with
  | nil => exact ⟨{ source := ⟨[], none⟩, current := eof }, [], rfl, .finish he⟩
  | cons t ts =>
    exact ⟨{ source := ⟨ts ++ [eof], none⟩, current := t }, ts ++ [eof], rfl, Replay.supplies he h⟩

/-- **Tokens of a test description are those of a text that parses.** -/
theorem Suite.parse_of_contents {ts : List Token} (hts : Parser.Contents ts) (hl : Lexable ts) :
    ∃ source suite, words (Lexing.ofString source).tokens = words ts ++ [.finish] ∧
      (Suite.parse source).result = .ok suite := by
  obtain ⟨suite, hfile⟩ := hts (.endOfInput {}) rfl
  have hwords : ∀ w ∈ words ts, w.isLexable = true := by simpa [words, Lexable] using hl
  obtain ⟨htokens, -⟩ := Word.lexing_print hwords
  generalize String.ofList (Word.print (words ts)) = source at htokens
  -- the tokens as they are given parse, and those of the text have the same words
  have heof : (Token.endOfInput {}).kind = .eof := rfl
  obtain ⟨s, hs⟩ := Replay.exists_sees heof fun u hu => Word.ne_eof_of_isLexable (hl u hu)
  obtain ⟨_, hruns⟩ := Parser.runs_suite (σ := Replay) hfile
  obtain ⟨s', hok, -⟩ := hruns hs
  obtain ⟨us, vs, heq, hleaves, hrep⟩ := Parser.repeats_suite (τ := Lexer) s hs
  rw [hok] at hleaves hrep
  have hwords : words (Lexing.ofString source).tokens = words (us ++ vs) := by
    rw [htokens, ← heq, words_append]
    rfl
  rcases Suite.parse_cases source with ⟨r, hr, hres⟩ | ⟨hnil, -⟩
  · obtain ⟨suite', r', hsuite, -⟩ := (hrep hr (.of_words_eq hwords hleaves.1.ne_nil)).1.of_ok
    exact ⟨source, suite', htokens, by rw [hres, hsuite]; rfl⟩
  · rw [hnil] at htokens
    simp at htokens

/-! ### The tokens before an unexpected one -/

/-- Only the last token ends the text. -/
theorem Supplies.ne_eof_of_mem {σ : Type} [TokenSource σ] {src : σ} {c t u : Token}
    {rest us vs : List Token} {e : Option LexError} (h : Supplies src c rest e)
    (heq : c :: rest = us ++ t :: vs) (hu : u ∈ us) : u.kind ≠ .eof := by
  induction h generalizing us with
  | finish => cases us <;> simp_all
  | fail => cases us <;> simp_all
  | step hk hn hs ih =>
    cases us with
    | nil => simp at hu
    | cons w us =>
      obtain ⟨rfl, hrest⟩ := List.cons.inj heq
      rcases List.mem_cons.1 hu with rfl | hu
      · exact hk
      · exact ih hrest hu

variable {source : String} {t : Token}

theorem Lexing.ne_eof_of_mem {u : Token} {us vs : List Token}
    (h : (ofString source).tokens = us ++ t :: vs) (hu : u ∈ us) : u.kind ≠ .eof := by
  rcases Suite.parse_cases source with ⟨s, ⟨rest, hts, hsup⟩, -⟩ | ⟨hnil, -⟩
  · exact hsup.ne_eof_of_mem (hts.symm.trans h) hu
  · rw [hnil] at h
    simp at h

/-- A token of a text does not come again. -/
theorem Lexing.not_mem_before {us vs : List Token} (h : (ofString source).tokens = us ++ t :: vs) :
    t ∉ us := by
  intro ht
  have hk := Lexing.ne_eof_of_mem h ht
  have hmem : t ∈ (ofString source).tokens := by simp [h]
  have hlt := (Lexing.standsIn_of_mem hmem).start_lt_stop hk
  have horder := (Lexing.tokens_inOrder source).2
  rw [h, List.map_append, List.pairwise_append] at horder
  have hle := horder.2.2 t.span (List.mem_map_of_mem ht) t.span (by simp)
  omega

/-- The tokens before a token are determined by it. -/
theorem Lexing.before_unique {us vs us' vs' : List Token}
    (h : (ofString source).tokens = us ++ t :: vs)
    (h' : (ofString source).tokens = us' ++ t :: vs') : us = us' := by
  have hn := Lexing.not_mem_before h
  have hn' := Lexing.not_mem_before h'
  rcases List.append_eq_append_iff.1 (h.symm.trans h') with ⟨as, rfl, heq⟩ | ⟨as, rfl, heq⟩
  · cases as with
    | nil => simp
    | cons a as =>
      obtain ⟨rfl, -⟩ := List.cons.inj heq
      exact absurd (by simp) hn'
  · cases as with
    | nil => simp
    | cons a as =>
      obtain ⟨rfl, -⟩ := List.cons.inj heq
      exact absurd (by simp) hn

/-! ### What a report says -/

/-- Items in words: commas between them, and `or` before the last one. -/
def listing : List String → String
  | [] => ""
  | [a] => a
  | [a, b] => a ++ " or " ++ b
  | a :: rest => a ++ ", " ++ listing rest

/-- How a description names one kind of token. -/
def Token.Kind.part (k : Kind) : String × List Kind := (k.describe, [k])

/-- How a description names the four methods. -/
def Expected.methodPart : String × List Kind := ("HTTP method", methodKinds)

/-- The parts of a description, each with the kinds of token that it names. -/
def Expected.parts : Expected → List (String × List Kind)
  | kind k => [k.part]
  | declaration => [Kind.letVar.part, Kind.test.part, Kind.eof.part]
  | test => [Kind.test.part, Kind.eof.part]
  | configItem => [Kind.baseUrl.part, Kind.header.part, Kind.rightBrace.part]
  | value => [Kind.str.part, Kind.number.part]
  | statement => [methodPart, Kind.rightBrace.part]
  | method => [methodPart]
  | subject => [Kind.status.part, Kind.header.part, Kind.body.part]
  | comparison => [Kind.equals.part, Kind.contains.part]

/-- **The words of an expectation name its kinds**, one after another. -/
theorem Expected.describe_eq (x : Expected) :
    x.describe = listing (x.parts.map Prod.fst) ∧ x.kinds = x.parts.flatMap Prod.snd := by
  cases x with
  | kind k => exact ⟨rfl, rfl⟩
  | _ => exact ⟨by decide, rfl⟩

/-- What is meant by an unexpected token after the tokens `before`. -/
structure Suite.Refuses (before : List Token) (x : Expected) (t : Token) : Prop where
  /-- No text that begins like this is accepted; each is refused at this place for this reason. -/
  stuck : ∀ source : String, words (before ++ [t]) <+: words (Lexing.ofString source).tokens →
    ∃ u, (Suite.parse source).result = .error (.unexpected x u) ∧ u.word = t.word
  /-- Every kind of token that is expected comes next in a text that is accepted. -/
  expected : ∀ k ∈ x.kinds, ∃ source suite front u rest,
    (Lexing.ofString source).tokens = front ++ u :: rest ∧ words front = words before ∧
      u.kind = k ∧ (Suite.parse source).result = .ok suite

theorem Suite.run_of_unexpected {x : Expected}
    (h : (Suite.parse source).result = .error (.unexpected x t)) :
    ∃ s s' : Parser.State Lexer,
      s.Sees (Lexing.ofString source).tokens (Lexing.ofString source).failure ∧
        Parser.suite s = .error (.unexpected x t) s' := by
  rcases Suite.parse_cases source with ⟨s, hs, hres⟩ | ⟨-, err, hres⟩
  · rw [h] at hres
    cases hsuite : Parser.suite s with
    | ok suite s' => rw [hsuite] at hres; cases hres
    | error err s' => rw [hsuite] at hres; cases hres; exact ⟨s, s', hs, hsuite⟩
  · rw [hres] at h; cases h

/-- The words up to an unexpected token decide that it is reported. -/
theorem Suite.stuck_of_unexpected {x : Expected}
    (h : (Suite.parse source).result = .error (.unexpected x t)) {before after : List Token}
    (hts : (Lexing.ofString source).tokens = before ++ t :: after) (source' : String)
    (hbegins : words (before ++ [t]) <+: words (Lexing.ofString source').tokens) :
    ∃ u, (Suite.parse source').result = .error (.unexpected x u) ∧ u.word = t.word := by
  obtain ⟨s, s', hs, herr⟩ := Suite.run_of_unexpected h
  obtain ⟨us, vs, heq, hleaves, hrep⟩ := Parser.repeats_suite (τ := Lexer) s hs
  rw [herr] at hleaves hrep
  obtain ⟨⟨rest, rfl, -⟩, rfl⟩ := hleaves
  obtain rfl := Lexing.before_unique hts heq
  rcases Suite.parse_cases source' with ⟨r, hr, hres⟩ | ⟨hnil, -⟩
  · obtain ⟨u, r', hsuite, hw⟩ := (hrep hr ⟨hbegins, by simp⟩).1.of_unexpected
    exact ⟨u, by rw [hres, hsuite]; rfl, hw⟩
  · rw [hnil] at hbegins
    simp at hbegins

/-- A text that is accepted, by the word that comes after some tokens. -/
theorem Suite.exists_front {suite : Suite} {before : List Token} {w : Word} {ws : List Word}
    (hwords : words (Lexing.ofString source).tokens = words before ++ w :: ws)
    (hok : (Suite.parse source).result = .ok suite) :
    ∃ source suite front u rest, (Lexing.ofString source).tokens = front ++ u :: rest ∧
      words front = words before ∧ u.kind = w.kind ∧ (Suite.parse source).result = .ok suite := by
  obtain ⟨front, back, htokens, hfront, hback⟩ := List.map_eq_append_iff.1 hwords
  obtain ⟨u, rest, rfl, hu, -⟩ := List.map_eq_cons_iff.1 hback
  exact ⟨source, suite, front, u, rest, htokens, hfront, congrArg Word.kind hu, hok⟩

/-- **A syntax error is reported at the first token that cannot be continued**, and everything that
is named as expected could have come there. -/
theorem Suite.refuses_of_unexpected {x : Expected}
    (h : (Suite.parse source).result = .error (.unexpected x t)) :
    t ∈ (Lexing.ofString source).tokens ∧
      ∀ before after, (Lexing.ofString source).tokens = before ++ t :: after →
        Suite.Refuses before x t := by
  obtain ⟨s, s', hs, herr⟩ := Suite.run_of_unexpected h
  obtain ⟨us, vs, hts, hmends⟩ := Parser.suite_mends hs herr
  refine ⟨by simp [hts], fun before after hbefore => ?_⟩
  obtain rfl := Lexing.before_unique hbefore hts
  have hlex : Lexable before := by
    intro u hu
    have hmem : u ∈ (Lexing.ofString source).tokens := by simp [hts, hu]
    exact Lexing.word_isLexable hmem (Lexing.ne_eof_of_mem hts hu)
  refine ⟨Suite.stuck_of_unexpected h hbefore, fun k hk => ?_⟩
  rcases hmends k hk with ⟨rfl, hend⟩ | ⟨u, ws, rfl, hw, hcont⟩
  · obtain ⟨source', suite, hwords, hok⟩ := Suite.parse_of_contents hend hlex
    exact Suite.exists_front hwords hok
  · obtain ⟨source', suite, hwords, hok⟩ := Suite.parse_of_contents hcont (hlex.append hw)
    rw [words_append, List.append_assoc] at hwords
    exact Suite.exists_front hwords hok

/-- A text that ends two braces deep in an item that is skipped: the braces can be closed. -/
theorem Suite.refuses_of_unexpected_in_group :
    ∃ (source : String) (t : Token) (before after : List Token),
      source = "test t \x7b GET \"/\" \x7b retry \x7b 3 \x7b" ∧
      (Suite.parse source).result = .error (.unexpected (.kind .rightBrace) t) ∧
      (Lexing.ofString source).tokens = before ++ t :: after ∧
      Suite.Refuses before (.kind .rightBrace) t := by
  have hp : (Suite.parse "test t \x7b GET \"/\" \x7b retry \x7b 3 \x7b").result =
      .error (.unexpected (.kind .rightBrace) (.endOfInput ⟨30, 1, 31⟩)) := by
    cbv
  obtain ⟨hmem, hrefuses⟩ := Suite.refuses_of_unexpected hp
  obtain ⟨before, after, hts⟩ := List.append_of_mem hmem
  exact ⟨_, _, before, after, rfl, hp, hts, hrefuses before after hts⟩

end HttpSuite
