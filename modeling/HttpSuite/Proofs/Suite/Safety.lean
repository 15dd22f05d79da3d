import HttpSuite.Proofs.Parser.Fetching
import HttpSuite.Proofs.Parser.Progress
import HttpSuite.Proofs.Substitution.Slices
import HttpSuite.Proofs.Suite.Positions
import HttpSuite.Proofs.Suite.Spans

/-!
# Nothing is out of bounds

Reading a text asks for no token behind the last one, counts no brace below zero and cuts no text
within a character, and every span that is reported ends no earlier than it begins. All of it holds
however often the parser is called again after an error.

* `Span.Ordered`: a span that has a length.
* `Parser.ordering`: the warnings of a run are on such spans.
* `Suite.ReportsOrdered`: so is all that is reported on a text.
* `Suite.compilation_safe`: nothing that a compilation does can go wrong.
-/

namespace HttpSuite

open Token (Kind)
open Grammar

/-- A span that ends no earlier than it begins, so that it has a length. -/
def Span.Ordered (s : Span) : Prop := s.start ≤ s.stop

/-- A diagnostic on such spans only. -/
def Diagnostic.Ordered (d : Diagnostic) : Prop := ∀ label ∈ d.labels, label.span.Ordered

theorem Span.Selects.ordered {s : Span} {source text : List Char} (h : s.Selects source text) :
    s.Ordered := by
  obtain ⟨before, after, -, hstart, hstop⟩ := h
  rw [Span.Ordered, hstart, hstop, byteLength_append]
  omega

/-! ### Warnings -/

namespace Parser

variable {σ : Type} [TokenSource σ] {s : State σ} {ts : List Token} {e : Option LexError}
  {m : Method}

/-- The warnings of a run over tokens are on spans in order. -/
def ordering (ts : List Token) (e : Option LexError) : Invariant σ :=
  (position ts e).and (raisedOnly fun ws => ∀ w ∈ ws, w.span.Ordered)

theorem recovers_ordering : (ordering ts e : Invariant σ).Recovers :=
  Invariant.recovers_position.and (Invariant.recovers_raisedOnly _)

/-- At a brace that closes there is no item, and what is passed over is the brace alone. -/
theorem blockItem_rightBrace (hk : s.current.kind = .rightBrace) :
    blockItem m s = .ok .skipped { s with
      raised := ⟨.skippedItem .rightBrace s.current.text, s.current.pos, s.current.stop⟩ ::
        s.raised } := by
  have hend (stop : Nat) : skipEnd stop s = .ok stop s := by
    rw [skipEnd, kind_bind, hk]
    rfl
  rw [blockItem_of_unknown (by rw [hk]; decide) (by rw [hk]; decide), skipItem, bind_assoc,
    get_bind, bind_assoc, bind_of_ok (many_of_not_more (by rw [hk]; rfl)), bind_assoc,
    bind_of_ok (hend _), hk]
  rfl

section InOrder

variable (ho : ∀ t ∈ ts, t.span.Ordered)
  (hp : (ts.map Token.span).Pairwise fun a b => a.stop ≤ b.start)

include ho hp

/-- The warning on an item of the text. -/
theorem ordered_of_warningOn {us item vs : List Token} {w : Warning} (hts : ts = us ++ (item ++ vs))
    (hw : warningOn m item = some w) : w.span.Ordered := by
  obtain ⟨first, rest, last, rfl, hlast, hpos, hstop⟩ := exists_of_warningOn hw
  have hmem : ∀ t ∈ first :: rest, t ∈ ts := by
    intro t ht
    rw [hts]
    exact List.mem_append_right _ (List.mem_append_left _ ht)
  rw [Span.Ordered, Warning.span, hpos, hstop]
  have hfirst : first.pos.offset ≤ first.stop := ho first (hmem first List.mem_cons_self)
  rcases List.mem_cons.1 hlast with rfl | hrest
  · exact hfirst
  · have hlast' : last.pos.offset ≤ last.stop := ho last (hmem last hlast)
    rw [hts, List.map_append, List.cons_append, List.map_cons] at hp
    have hnext : first.stop ≤ last.pos.offset :=
      (List.pairwise_cons.1 (List.pairwise_append.1 hp).2.1).1 last.span
        (List.mem_map_of_mem (List.mem_append_left _ hrest))
    exact Nat.le_trans hfirst (Nat.le_trans hnext hlast')

/-- **Items raise their warnings on spans in order.** -/
theorem keeps_ordering (m : Method) :
    (ordering ts e : Invariant σ).Keeps (blockItem m : Parser σ Request.Item) := by
  rintro s ⟨hwithin, hraised⟩
  have hmeets := (position ts e).keeps_blockItem (fun _ _ _ _ _ h => h) m hwithin
  have hsilent := blockItem_silent_of_error m s
  cases h : blockItem m s with
  | error err s' =>
    rw [h] at hmeets hsilent
    have heq : s'.raised = s.raised := hsilent
    refine ⟨hmeets, fun w hw => hraised w ?_⟩
    rwa [heq] at hw
  | ok item s' =>
    rw [h] at hmeets
    refine ⟨hmeets, ?_⟩
    obtain ⟨us, vs, hts, hs⟩ := hwithin
    -- before a closing brace no item is read, but a warning is raised on the brace
    by_cases hk : s.current.kind = .rightBrace
    · rw [blockItem_rightBrace hk] at h
      cases h
      refine List.forall_mem_cons.2 ⟨ho s.current ?_, hraised⟩
      rw [hts]
      exact List.mem_append_right _ (List.mem_of_mem_head? hs.head?)
    · obtain ⟨item, ws, rfl, -, -, hraised'⟩ := blockItem_divides hs hk h
      intro w hw
      rw [hraised', List.mem_append, Option.mem_toList] at hw
      rcases hw with hw | hw
      · exact ordered_of_warningOn ho hp hts hw
      · exact hraised w hw

end InOrder

end Parser

/-! ### Labels -/

theorem ValidationError.LabelsHold.ordered {source : String} {f : Suite} {e : ValidationError}
    (h : e.LabelsHold source f) : e.diagnostic.Ordered := by
  have hliteral {s : Span} {text : String} (h : LiteralAt source s text) : s.Ordered := by
    obtain ⟨slice, hs, -⟩ := h
    exact hs.ordered
  have hname {s : Span} {text : String} (h : NameAt source s text) : s.Ordered :=
    Span.Selects.ordered h
  have hdigits {s : Span} {code : Nat} (h : DigitsAt source s code) : s.Ordered := by
    obtain ⟨slice, hs, -⟩ := h
    exact hs.ordered
  -- what a label is about has been found at its span, which is therefore one of the text
  intro label hl
  cases e with
  | invalidBaseUrl | invalidHeaderName | invalidHeaderValue =>
    rw [List.mem_singleton.1 hl]
    exact hliteral h.1
  | duplicateTest test first =>
    obtain ⟨htest, hfirst, -⟩ := h
    rcases List.mem_cons.1 hl with rfl | hl
    · exact hname htest
    · rw [List.mem_singleton.1 hl]
      exact hname hfirst
  | missingRequest | tooFewAssertions =>
    rw [List.mem_singleton.1 hl]
    exact hname h.1
  | statusOutOfRange =>
    rw [List.mem_singleton.1 hl]
    exact hdigits h.1

namespace Suite

variable {source : String} {x : ParseError}

/-- **All spans that are reported on a text are in order**: those of its tokens, and in the answers
and the warnings of a parser those of errors, of warnings and of problems in a suite that was read.
No answer is that a token was asked for after the last one. -/
structure ReportsOrdered (source : String) (answers : List (Except ParseError Suite))
    (warnings : List Warning) : Prop where
  fetched : .error .exhausted ∉ answers
  tokens : ∀ t ∈ (Lexing.ofString source).tokens, t.span.Ordered
  errors : ∀ x, .error x ∈ answers → x.diagnostic.Ordered
  warnings : ∀ w ∈ warnings, w.span.Ordered
  problems : ∀ f, .ok f ∈ answers → ∀ e, f.validate = .error e → e.diagnostic.Ordered

theorem tokens_ordered (source : String) :
    ∀ t ∈ (Lexing.ofString source).tokens, t.span.Ordered :=
  fun _ ht => (span_le_of_mem ht).1

/-- A run over a text, with its warnings in order. -/
def checking (source : String) : Parser.Invariant Lexer :=
  (Parser.ordering (Lexing.ofString source).tokens (Lexing.ofString source).failure).and
    (Parser.recording (Lexing.ofString source).warnings)

/-- An error is reported on a token, or on a quote. -/
theorem ordered_of_fails {s : Parser.State Lexer} (h : (checking source).fails x s) :
    x ≠ .exhausted ∧ x.diagnostic.Ordered := by
  have hstop : Parser.StopsAt _ _ x s := h.1.1
  cases x with
  | unexpected expected t =>
    obtain ⟨us, vs, hts, -⟩ := hstop
    refine ⟨by simp, List.forall_mem_singleton.2 (tokens_ordered source t ?_)⟩
    simp [hts]
  | statusOutOfRange n =>
    obtain ⟨us, vs, hts, -⟩ := hstop
    refine ⟨by simp, List.forall_mem_singleton.2 (tokens_ordered source n ?_)⟩
    simp [hts]
  | lexical e => exact ⟨by simp, List.forall_mem_singleton.2 (Nat.le_succ _)⟩
  | exhausted => exact hstop.elim

/-- The suite that is read from some state of a run was written at the end of the text. -/
theorem problems_ordered {s s' : Parser.State Lexer} {f : Suite} {e : ValidationError}
    (hw : Parser.Within (Lexing.ofString source).tokens (Lexing.ofString source).failure s)
    (h : Parser.suite s = .ok f s') (he : f.validate = .error e) : e.diagnostic.Ordered := by
  obtain ⟨us, vs, hts, hs⟩ := hw
  have hfile := Parser.suite_sound hs h
  have hpairs := (Lexing.tokens_inOrder source).2
  rw [hts, List.map_append] at hpairs
  have hspans : f.SpansHold source :=
    hfile.spansHold (by rw [hts]; exact List.subset_append_right _ _)
  have horder := hfile.tests_inOrder (List.pairwise_append.1 hpairs).2.1
  exact (Suite.labelsHold hspans horder (mem_problems_of_validate he)).ordered

theorem keeps_checking : (checking source).Keeps Parser.suite := by
  have hitems (m : Method) : (Parser.ordering (Lexing.ofString source).tokens
      (Lexing.ofString source).failure : Parser.Invariant Lexer).Keeps (Parser.blockItem m) :=
    Parser.keeps_ordering (tokens_ordered source) (Lexing.tokens_inOrder source).2 m
  exact (Parser.Invariant.keeps_suite_of_items hitems).and
    ((Parser.recording _).keeps_suite fun _ _ _ _ _ h => h)

theorem recovers_checking : (checking source).Recovers :=
  Parser.recovers_ordering.and Parser.recovers_recording

theorem warnings_ordered {s : Parser.State Lexer}
    (h : (checking source).holds s ∨ ∃ x, (checking source).fails x s) :
    ∀ w ∈ s.allWarnings, w.span.Ordered := by
  obtain ⟨hraised, n, hrec⟩ : (∀ w ∈ s.raised, w.span.Ordered) ∧
      ∃ n, s.source.Recorded (Lexing.ofString source).warnings n := by
    rcases h with ⟨⟨-, hraised⟩, hrec⟩ | ⟨x, hfails⟩
    · exact ⟨hraised, _, hrec⟩
    · exact ⟨hfails.1.2, Parser.exists_recorded (ordered_of_fails hfails).1 hfails.2⟩
  intro w hw
  rcases Parser.mem_allWarnings.1 hw with hw | hw
  · exact Nat.le_of_lt (span_of_lexer_warning (hrec.mem hw)).1
  · exact hraised w hw

/-- **What is reported call after call.** -/
theorem resume_reportsOrdered (source : String) (calls : Nat) :
    ReportsOrdered source (Suite.resume source calls).1 (Suite.resume source calls).2 := by
  unfold Suite.resume
  rcases start_cases source with ⟨s, hstart, hraised, hsees, hrec⟩ | ⟨e, l, hstart, -, he, hrec⟩
  · rw [hstart]
    have hs : (checking source).holds s := by
      refine ⟨⟨⟨[], _, rfl, hsees⟩, ?_⟩, hrec⟩
      intro w hw
      rw [hraised] at hw
      cases hw
    obtain ⟨herrors, hsuites, hlast⟩ :=
      Parser.Invariant.resume_meets keeps_checking recovers_checking hs calls
    refine ⟨?_, tokens_ordered source, ?_, warnings_ordered hlast, ?_⟩
    · intro hx
      obtain ⟨s', hfails⟩ := herrors _ hx
      exact (ordered_of_fails hfails).1 rfl
    · intro x hx
      obtain ⟨s', hfails⟩ := herrors x hx
      exact (ordered_of_fails hfails).2
    · intro f hf err herr
      obtain ⟨s₁, s₂, hholds, hsuite⟩ := hsuites f hf
      exact problems_ordered hholds.1.1 hsuite herr
  -- there is no parser without a first token, only the error of the quote that is never closed
  · rw [hstart]
    refine ⟨by simp, tokens_ordered source, ?_, ?_, by simp⟩
    · intro x hx
      cases List.mem_singleton.1 hx
      exact List.forall_mem_singleton.2 (Nat.le_succ _)
    · intro w hw
      exact Nat.le_of_lt (span_of_lexer_warning (hrec.mem hw)).1

/-- **A compilation does nothing that can go wrong.** However often the parser is called on a text,
it asks for no token after the last one and reports spans in order only, and one call is a parse. It
fetches each token once, and once more the end of the text or the error that ends it. Braces of a
skipped item are counted down only if one is open, an item that is skipped has a token, and so no
loop needs a guard to end. Substitution cuts a text between two characters only, for any table. -/
theorem compilation_safe (source : String) :
    (∀ calls, ReportsOrdered source (Suite.resume source calls).1 (Suite.resume source calls).2) ∧
      Suite.resume source 1 = ([(Suite.parse source).result], (Suite.parse source).warnings) ∧
      (∀ calls, (resumeCounted source calls).1 = (Suite.resume source calls).1 ∧
        (resumeCounted source calls).2 ≤
          ((Lexing.ofString source).tokens.filter fun t => t.kind ≠ .eof).length + 1) ∧
      (∀ stop, (Parser.skipEnd? stop : Parser Lexer (Option Nat)) = some <$> Parser.skipEnd stop) ∧
      (∀ (s s' : Parser.State Lexer) (ts : List Token) (e : Option LexError) (u : Unit),
        s.Sees ts e → Unknown s.current.kind → Parser.skipItem s = .ok u s' →
          ∃ us vs, ts = us ++ vs ∧ us ≠ [] ∧ s'.Sees vs e) ∧
      Parser.LoopsUnguarded Lexer ∧
      ∀ (t : Variables) (text : String),
        t.expandSlices? text.toList = some (t.expand text.toList) := by
  refine ⟨resume_reportsOrdered source, resume_one source, resumeCounted_spec source,
    Parser.skipEnd?_eq, ?_, Parser.loops_unguarded Lexer, fun t text => t.expandSlices?_eq _⟩
  intro s s' ts e u hs hk h
  exact Parser.skipItem_takes hs hk h

end Suite

end HttpSuite
