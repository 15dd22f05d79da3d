import HttpSuite.Proofs.Parser.Reading

/-!
# Complete lexings

What the tokens of a whole text are, and that a parser over a lexer that works on demand sees just
these tokens.

* `Front.of_lexeme_cases`: which lexemes stand at the front of a text.
* `Lexer.scan_cases`: what one reading step can give.
* `Lexer.mem_run_tokens`: every token is the end of the text or the lexeme at the front of a rest
  of it.
* `Lexer.run_supplies`: a lexer supplies the tokens of its complete run, and the error after them.
-/

namespace HttpSuite

open Token (Kind)
open Text

theorem Token.Kind.ofWord_ne_eof (word : String) : Kind.ofWord word ≠ .eof := by
  unfold Kind.ofWord
  cases hl : Kind.keywords.lookup word with
  | none => simp
  | some k =>
    obtain ⟨l₁, l₂, hk, -⟩ := List.lookup_eq_some_iff.1 hl
    have hmem : (word, k) ∈ Kind.keywords := by rw [hk]; simp
    have hall : ∀ p ∈ Kind.keywords, p.2 ≠ .eof := by decide
    exact hall _ hmem

theorem Token.Kind.punctuation?_ne_eof {c : Char} {k : Kind} (h : Kind.punctuation? c = some k) :
    k ≠ .eof := by
  unfold Kind.punctuation? at h
  split at h <;> cases h <;> decide

namespace Front

variable {cs text slice rest : List Char} {k : Kind}

/-- **The lexemes**: quoted texts, references, words, numbers and punctuation marks. -/
theorem of_lexeme_cases (h : of cs = .lexeme k text slice rest) :
    (∃ cs' q, cs = '"' :: cs' ∧ Quoted.read cs' = some q ∧ k = .str ∧ text = q.content ∧
      slice = '"' :: q.slice ∧ rest = q.rest) ∨
    (∃ cs', cs = '$' :: cs' ∧ k = .varRef ∧ text = cs'.takeWhile isNameChar ∧ text ≠ [] ∧
      slice = '$' :: text ∧ rest = cs'.dropWhile isNameChar) ∨
    (∃ c cs', cs = c :: cs' ∧ isNameStart c = true ∧ k = .ofWord (String.ofList text) ∧
      text = cs.takeWhile isNameChar ∧ slice = text ∧ rest = cs.dropWhile isNameChar) ∨
    (∃ c cs', cs = c :: cs' ∧ c.isDigit = true ∧ k = .number ∧
      text = cs.takeWhile Char.isDigit ∧ slice = text ∧ rest = cs.dropWhile Char.isDigit) ∨
    (∃ c, cs = c :: rest ∧ Kind.punctuation? c = some k ∧ text = [c] ∧ slice = [c]) := by
  match cs with
  | [] => cases h
  | c :: cs =>
    simp only [of] at h
    -- whitespace and comments are no lexemes
    split at h
    · cases h
    split at h
    · cases h
    split at h
    · rename_i hc
      obtain rfl : c = '"' := by simpa using hc
      unfold quoted at h
      split at h
      · rename_i q hq
        cases h
        exact .inl ⟨cs, q, rfl, hq, rfl, rfl, rfl, rfl⟩
      · cases h
    split at h
    · rename_i hc
      obtain rfl : c = '$' := by simpa using hc
      unfold reference at h
      split at h
      · cases h
      · rename_i name hname
        cases h
        exact .inr (.inl ⟨cs, rfl, rfl, rfl, hname, rfl, rfl⟩)
    split at h
    · rename_i hc
      unfold word at h
      cases h
      exact .inr (.inr (.inl ⟨c, cs, rfl, hc, rfl, rfl, rfl, rfl⟩))
    split at h
    · rename_i hc
      unfold number at h
      cases h
      exact .inr (.inr (.inr (.inl ⟨c, cs, rfl, hc, rfl, rfl, rfl, rfl⟩)))
    · unfold mark at h
      split at h
      · rename_i k' hk
        cases h
        exact .inr (.inr (.inr (.inr ⟨c, rfl, hk, rfl, rfl⟩)))
      · cases h

theorem of_lexeme_ne_eof (h : of cs = .lexeme k text slice rest) : k ≠ .eof := by
  rcases of_lexeme_cases h with ⟨_, _, _, _, rfl, _⟩ | ⟨_, _, rfl, _⟩ | ⟨_, _, _, _, rfl, _⟩ |
    ⟨_, _, _, _, rfl, _⟩ | ⟨_, _, hk, _⟩
  · decide
  · decide
  · exact Kind.ofWord_ne_eof _
  · decide
  · exact Kind.punctuation?_ne_eof hk

/-- A name has name characters only. -/
theorem of_lexeme_ident (h : of cs = .lexeme .ident text slice rest) :
    ∀ c ∈ text, isNameChar c = true := by
  have hword : text = cs.takeWhile isNameChar := by
    rcases of_lexeme_cases h with ⟨_, _, _, _, hk, _⟩ | ⟨_, _, hk, _⟩ | ⟨_, _, _, _, _, ht, _⟩ |
      ⟨_, _, _, _, hk, _⟩ | ⟨_, _, hk, _⟩
    · cases hk
    · cases hk
    · exact ht
    · cases hk
    · unfold Kind.punctuation? at hk
      split at hk <;> cases hk
  intro c hc
  rw [hword] at hc
  exact List.all_eq_true.1 List.all_takeWhile c hc

end Front

namespace Lexer

variable {l l' : Lexer} {t : Token}

/-- **One reading step** gives the end of the text and finishes, or the lexeme at the front of a
rest of the text and goes on, or an error. -/
theorem scan_cases (l : Lexer) :
    (∃ p, l.scan.1 = .ok (.endOfInput p) ∧ l.scan.2.finished = true) ∨
    (∃ k text slice rest cs p, Front.of cs = .lexeme k text slice rest ∧
      l.scan.1 = .ok ⟨k, String.ofList text, p, p.offset + byteLength slice⟩ ∧
      l.scan.2.finished = l.finished) ∨
    (∃ e, l.scan.1 = .error e) := by
  fun_induction scan l with
  | case1 l h => exact .inl ⟨l.pos, rfl, rfl⟩
  | case2 l h => exact .inr (.inr ⟨_, rfl⟩)
  | case3 l slice rest h ih => exact ih
  | case4 l cause c rest h ih => exact ih
  | case5 l kind text slice rest h =>
    exact .inr (.inl ⟨kind, text, slice, rest, l.rest, l.pos, h, rfl, rfl⟩)

theorem next_of_finished (h : l.finished = true) : l.next = (none, l) := by
  unfold next
  rw [if_pos h]

theorem next_of_not_finished (h : l.finished = false) : l.next = (some l.scan.1, l.scan.2) := by
  unfold next
  rw [if_neg (by simp [h])]

theorem run_of_finished (h : l.finished = true) : l.run = { warnings := l.warnings } := by
  unfold run
  split
  · rename_i l' hn
    rw [next_of_finished h] at hn
    cases hn
    rfl
  · rename_i hn; rw [next_of_finished h] at hn; cases hn
  · rename_i hn; rw [next_of_finished h] at hn; cases hn

theorem run_of_ok (h : l.next = (some (.ok t), l')) :
    l.run = { l'.run with tokens := t :: l'.run.tokens } := by
  rw [run]
  split
  · rename_i hn; rw [h] at hn; cases hn
  · rename_i hn; rw [h] at hn; cases hn
  · rename_i hn
    rw [h] at hn
    cases hn
    rfl

theorem run_of_error {e : LexError} (h : l.next = (some (.error e), l')) :
    l.run = { failure := some e, warnings := l'.warnings } := by
  rw [run]
  split
  · rename_i hn; rw [h] at hn; cases hn
  · rename_i hn
    rw [h] at hn
    cases hn
    rfl
  · rename_i hn; rw [h] at hn; cases hn

/-- **Every token of a run** is the end of the text or the lexeme at the front of a rest of it. -/
theorem mem_run_tokens (h : t ∈ l.run.tokens) :
    t.kind = .eof ∨ ∃ cs text slice rest, Front.of cs = .lexeme t.kind text slice rest ∧
      t.text = String.ofList text := by
  fun_induction run l with
  | case1 l l' hn => cases h
  | case2 l e l' hn => cases h
  | case3 l t' l' hn lexing ih =>
    rcases List.mem_cons.1 h with rfl | h
    -- a lexer that is finished answers with no token
    · have hf : l.finished = false := by
        cases hf : l.finished with
        | false => rfl
        | true => rw [next_of_finished hf] at hn; cases hn
      rw [next_of_not_finished hf] at hn
      simp only [Prod.mk.injEq, Option.some.injEq] at hn
      rcases scan_cases l with ⟨p, hp, -⟩ | ⟨k, text, slice, rest, cs, p, hfront, hp, -⟩ | ⟨e, hp⟩
      · rw [hp] at hn
        cases hn.1
        exact .inl rfl
      · rw [hp] at hn
        cases hn.1
        exact .inr ⟨cs, text, slice, rest, hfront, rfl⟩
      · rw [hp] at hn
        cases hn.1
    · exact ih h

/-- **A lexer supplies the tokens of its run**, and after them the error that ends it. -/
theorem run_supplies (hf : l.finished = false) :
    (∃ t ts l', l.next = (some (.ok t), l') ∧ l.run.tokens = t :: ts ∧
      Supplies l' t ts l.run.failure) ∨
    (∃ e l', l.next = (some (.error e), l') ∧ l.run.tokens = [] ∧ l.run.failure = some e) := by
  -- by the size of the lexer: one reading step may pass any number of blanks and comments
  induction hn : l.size using Nat.strongRecOn generalizing l with
  | ind n ih =>
  have hnext := next_of_not_finished hf
  rcases scan_cases l with ⟨p, hp, hfin⟩ | ⟨k, text, slice, rest, cs, p, hfront, hp, hfin⟩ | ⟨e, hp⟩
  · rw [hp] at hnext
    refine .inl ⟨_, [], _, hnext, ?_, ?_⟩
    · rw [run_of_ok hnext, run_of_finished hfin]
    · rw [run_of_ok hnext, run_of_finished hfin]
      exact .finish rfl
  · rw [hp] at hnext
    rw [hf] at hfin
    have hk : k ≠ .eof := Front.of_lexeme_ne_eof hfront
    have hlt : l.scan.2.size < n := by rw [← hn]; exact size_next_lt hnext
    refine .inl ⟨_, l.scan.2.run.tokens, _, hnext, ?_, ?_⟩
    · rw [run_of_ok hnext]
    · rw [run_of_ok hnext]
      rcases ih _ hlt hfin rfl with ⟨t', ts, l'', hn', hts, hsup⟩ | ⟨e, l'', hn', hts, he⟩
      · rw [hts]
        exact .step hk hn' hsup
      · rw [hts, he]
        exact .fail hk hn'
  · rw [hp] at hnext
    exact .inr ⟨e, _, hnext, by rw [run_of_error hnext], by rw [run_of_error hnext]⟩

end Lexer

/-- The names of a text have name characters only. -/
theorem Lexing.ident_text {source : String} {t : Token} (h : t ∈ (Lexing.ofString source).tokens)
    (hk : t.kind = .ident) : ∀ c ∈ t.text.toList, isNameChar c = true := by
  rcases Lexer.mem_run_tokens h with he | ⟨cs, text, slice, rest, hfront, ht⟩
  · rw [hk] at he; cases he
  · rw [hk] at hfront
    rw [ht, String.toList_ofList]
    exact Front.of_lexeme_ident hfront

end HttpSuite
