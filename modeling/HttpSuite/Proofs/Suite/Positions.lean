import HttpSuite.Proofs.Suite.Warnings
import HttpSuite.Proofs.Text.Position

/-!
# Every place that is told is exact

Tokens, errors and warnings carry a place, and messages spell its line and column out. Tokens have
it from the lexer, which carries it along through all that it passes over; the parser takes the
places of its errors and warnings from tokens, also when it goes on after an error.

* `Parser.marking`: a run among its tokens, with its warnings on tokens as well.
* `Diagnostic.Locates`: a message that gives the line and the column at which its label begins.
* `Suite.Located`: all errors and warnings on a text have such messages.
* `Suite.positions_exact`: the places that are told, however a text is read.
-/

namespace HttpSuite

/-! ### Warnings on tokens -/

namespace Parser

variable {σ : Type} [TokenSource σ] {ts : List Token} {e : Option LexError}

/-- Where a run is among its tokens, with its warnings on tokens as well. -/
def marking (ts : List Token) (e : Option LexError) : Invariant σ :=
  (position ts e).and (raisedOnly fun ws => ∀ w ∈ ws, ∃ t ∈ ts, w.pos = t.pos)

/-- A warning on a token is at the place of that token. -/
theorem allowsWarnings_marking : (marking ts e : Invariant σ).AllowsWarnings := by
  rintro s s' w ⟨⟨us, vs, rfl, rest, rfl, -⟩, -⟩ hw ⟨hwithin, hall⟩
  refine ⟨hwithin, ?_⟩
  intro v hv
  rcases List.mem_cons.1 hv with rfl | hv
  · exact ⟨s.current, by simp, hw⟩
  · exact hall v hv

theorem recovers_marking : (marking ts e : Invariant σ).Recovers :=
  Invariant.recovers_position.and (Invariant.recovers_raisedOnly _)

variable {s : State Lexer} {ws : List Warning} {x : ParseError}

theorem recovers_recording : (recording ws).Recovers := by
  intro x s hf h
  cases x with
  | unexpected | statusOutOfRange => exact h
  | lexical | exhausted => cases hf

/-- Wherever a run stops, its source has recorded a front of the warnings. -/
theorem exists_recorded (hx : x ≠ .exhausted) (h : RecordedAt ws x s) :
    ∃ n, s.source.Recorded ws n := by
  cases x with
  | unexpected | statusOutOfRange | lexical => exact ⟨_, h⟩
  | exhausted => exact absurd rfl hx

/-- A warning comes from the lexer or from the parser. -/
theorem mem_allWarnings {w : Warning} :
    w ∈ s.allWarnings ↔ w ∈ s.source.warnings ∨ w ∈ s.raised := by
  rw [State.allWarnings, List.mem_mergeSort, List.mem_append, State.warnings, List.mem_reverse]

end Parser

/-! ### Messages -/

/-- A message that gives the line and the column of a place, and no digit behind them. -/
inductive Position.WordedIn (p : Position) : String → Prop
  | atEnd (front : String) : WordedIn p (front ++ p.words)
  | inside (front rest : String) : WordedIn p (front ++ p.words ++ (" " ++ rest))

/-- **A diagnostic on a place of a text**: its label begins there, and its message gives the line
and the column that counting gives. -/
structure Diagnostic.Locates (source : List Char) (p : Position) (d : Diagnostic) : Prop where
  exact : p.Exact source
  label : d.labels.map (fun label => label.span.start) = [p.offset]
  message : p.WordedIn d.message

/-- What is written about a warning names its line and column. -/
theorem Warning.locates {source : List Char} {w : Warning} (hp : w.pos.Exact source) :
    w.diagnostic.Locates source w.pos := by
  refine ⟨hp, rfl, ?_⟩
  obtain ⟨cause, pos, stop⟩ := w
  cases cause with
  | bareDollar => exact .atEnd _
  | unknownChar c => exact .atEnd _
  | skippedItem kind text => exact .atEnd _
  | unsentBody method =>
    have hmessage : pos.WordedIn ("body at " ++ pos.words ++ (" " ++ "is not sent with a ") ++
        method.name ++ " request") := by
      simpa only [String.append_assoc] using Position.WordedIn.inside (p := pos) "body at "
        ("is not sent with a " ++ method.name ++ " request")
    exact hmessage

/-- The place that an error tells. -/
def ParseError.place? : ParseError → Option Position
  | .lexical e => some e.pos
  | .unexpected _ found => some found.pos
  | .statusOutOfRange number => some number.pos
  | .exhausted => none

/-- What is written about an error names its line and column, if it has a place. -/
theorem ParseError.locates {source : List Char} {x : ParseError} {p : Position}
    (hx : x.place? = some p) (hp : p.Exact source) : x.diagnostic.Locates source p := by
  cases x with
  | lexical e =>
    obtain rfl := Option.some.inj hx
    exact ⟨hp, rfl, .atEnd _⟩
  | unexpected expected found =>
    obtain rfl := Option.some.inj hx
    exact ⟨hp, rfl, .atEnd _⟩
  | statusOutOfRange number =>
    obtain rfl := Option.some.inj hx
    exact ⟨hp, rfl, .inside ("status code `" ++ number.text ++ "` at ") "is out of range"⟩
  | exhausted => cases hx

/-! ### Places of a text -/

namespace Lexing

variable {source : String} {t : Token} {w : Warning} {e : LexError}

/-- The place of a token is the one behind the text before it. -/
theorem token_exact (h : t ∈ (ofString source).tokens) : t.pos.Exact source.toList := by
  obtain ⟨before, slice, after, hsource, hpos, -⟩ := standsIn_of_mem h
  rw [hpos, hsource, List.append_assoc]
  exact Position.exact_advance before (slice ++ after)

theorem warning_exact (h : w ∈ (ofString source).warnings) : w.pos.Exact source.toList := by
  obtain ⟨before, c, after, hsource, hpos, -⟩ := ((divided source).standsIn [] rfl).2.1 w h
  rw [List.nil_append] at hsource
  rw [hpos, hsource]
  exact Position.exact_advance before (c :: after)

/-- The error of a lexer is at its quote. -/
theorem failure_exact (h : (ofString source).failure = some e) :
    e.StandsIn source.toList ∧ e.pos.Exact source.toList := by
  have hstands : e.StandsIn source.toList := ((divided source).standsIn [] rfl).2.2 e h
  refine ⟨hstands, ?_⟩
  obtain ⟨before, rest, hsource, -, hpos⟩ := hstands
  rw [hpos, hsource]
  exact Position.exact_advance before ('"' :: rest)

end Lexing

namespace Suite

/-- **All that is told about a text is located**: each error and each warning by the place where it
is, and a lexical error at the quote that nothing closes. -/
structure Located (source : String) (answers : List (Except ParseError Suite))
    (warnings : List Warning) : Prop where
  errors : ∀ x, .error x ∈ answers →
    ∃ p, x.place? = some p ∧ x.diagnostic.Locates source.toList p
  quotes : ∀ e, .error (.lexical e) ∈ answers → e.StandsIn source.toList
  warnings : ∀ w ∈ warnings, w.diagnostic.Locates source.toList w.pos

/-- A run over a text: among its tokens, with the warnings of the parser on tokens and those of the
lexer from the text. -/
def reading (source : String) : Parser.Invariant Lexer :=
  (Parser.marking (Lexing.ofString source).tokens (Lexing.ofString source).failure).and
    (Parser.recording (Lexing.ofString source).warnings)

variable {source : String} {s : Parser.State Lexer} {x : ParseError}

theorem allowsWarnings_reading : (reading source).AllowsWarnings :=
  Parser.allowsWarnings_marking.and fun _ _ _ _ _ h => h

/-- What is told about a text holds call after call. -/
theorem recovers_reading : (reading source).Recovers :=
  Parser.recovers_marking.and Parser.recovers_recording

/-- A run over a text fails at a place of the text. -/
theorem place_of_fails (h : (reading source).fails x s) :
    ∃ p, x.place? = some p ∧ p.Exact source.toList := by
  have hstop : Parser.StopsAt _ _ x s := h.1.1
  cases x with
  | unexpected expected t =>
    obtain ⟨us, vs, hts, -⟩ := hstop
    exact ⟨t.pos, rfl, Lexing.token_exact (by simp [hts])⟩
  | statusOutOfRange n =>
    obtain ⟨us, vs, hts, -⟩ := hstop
    exact ⟨n.pos, rfl, Lexing.token_exact (by simp [hts])⟩
  | lexical e => exact ⟨e.pos, rfl, (Lexing.failure_exact hstop.2).2⟩
  | exhausted => exact hstop.elim

/-- The warnings of a run over a text are on places of the text, also when it fails. -/
theorem warning_exact_of_reading (h : (reading source).holds s ∨ ∃ x, (reading source).fails x s) :
    ∀ w ∈ s.allWarnings, w.pos.Exact source.toList := by
  obtain ⟨hraised, n, hrec⟩ : (∀ w ∈ s.raised, ∃ t ∈ (Lexing.ofString source).tokens,
      w.pos = t.pos) ∧ ∃ n, s.source.Recorded (Lexing.ofString source).warnings n := by
    rcases h with ⟨⟨-, hraised⟩, hrec⟩ | ⟨x, ⟨hstop, hraised⟩, hrec⟩
    · exact ⟨hraised, _, hrec⟩
    · refine ⟨hraised, Parser.exists_recorded ?_ hrec⟩
      rintro rfl
      exact hstop
  intro w hw
  rcases Parser.mem_allWarnings.1 hw with hw | hw
  · exact Lexing.warning_exact (hrec.mem hw)
  · obtain ⟨t, ht, hpos⟩ := hraised w hw
    rw [hpos]
    exact Lexing.token_exact ht

/-- **What is told call after call.** -/
theorem resume_located (source : String) (calls : Nat) :
    Located source (Suite.resume source calls).1 (Suite.resume source calls).2 := by
  unfold Suite.resume
  rcases start_cases source with ⟨s, hstart, hraised, hsees, hrec⟩ | ⟨e, l, hstart, -, he, hrec⟩
  · rw [hstart]
    have hs : (reading source).holds s := by
      refine ⟨⟨⟨[], _, rfl, hsees⟩, ?_⟩, hrec⟩
      intro w hw
      rw [hraised] at hw
      cases hw
    obtain ⟨herrors, hlast⟩ :=
      Parser.Invariant.resume_keeps allowsWarnings_reading recovers_reading hs calls
    refine ⟨?_, ?_, ?_⟩
    · intro x hx
      obtain ⟨s', hfails⟩ := herrors x hx
      obtain ⟨p, hplace, hexact⟩ := place_of_fails hfails
      exact ⟨p, hplace, ParseError.locates hplace hexact⟩
    · intro e he
      obtain ⟨s', ⟨⟨-, hfailure⟩, -⟩, -⟩ := herrors _ he
      exact (Lexing.failure_exact hfailure).1
    · intro w hw
      exact Warning.locates (warning_exact_of_reading hlast w hw)
  -- the first token is an error already, and nothing but the lexer has run
  · rw [hstart]
    obtain ⟨hquote, hexact⟩ := Lexing.failure_exact he
    refine ⟨?_, ?_, ?_⟩
    · intro x hx
      cases List.mem_singleton.1 hx
      exact ⟨e.pos, rfl, ParseError.locates rfl hexact⟩
    · intro e' he'
      cases List.mem_singleton.1 he'
      exact hquote
    · intro w hw
      exact Warning.locates (Lexing.warning_exact (hrec.mem hw))

/-- One call is a parse. -/
theorem resume_one (source : String) :
    Suite.resume source 1 = ([(Suite.parse source).result], (Suite.parse source).warnings) := by
  unfold Suite.resume Suite.parse
  rcases Parser.start (Lexer.ofString source) with ⟨e | s, l⟩
  · rfl
  · dsimp only
    rw [Parser.resume]
    cases Parser.suite s with
    | ok suite s' => rfl
    | error e s' =>
      cases hf : e.isFatal <;> simp [hf, Parser.resume]

/-- **Positions are exact.** The place of every token of a text, the end of the text included, has
the line and the column that counting gives: one more than the newlines before it, and one more than
the characters since the last of them. The same holds of the quote at which lexing fails, and of
every error and warning, wherever a parse stops and however often it goes on after that: the message
gives the line and the column of the place where its label begins. -/
theorem positions_exact (source : String) :
    (∀ t ∈ (Lexing.ofString source).tokens,
      t.span.start = t.pos.offset ∧ t.pos.Exact source.toList) ∧
      (∀ e, (Lexing.ofString source).failure = some e →
        e.StandsIn source.toList ∧ e.pos.Exact source.toList) ∧
      (∀ w ∈ (Lexing.ofString source).warnings, w.diagnostic.Locates source.toList w.pos) ∧
      Located source [(Suite.parse source).result] (Suite.parse source).warnings ∧
      ∀ calls, Located source (Suite.resume source calls).1 (Suite.resume source calls).2 := by
  refine ⟨?_, ?_, ?_, ?_, resume_located source⟩
  · intro t ht
    exact ⟨rfl, Lexing.token_exact ht⟩
  · intro e he
    exact Lexing.failure_exact he
  · intro w hw
    exact Warning.locates (Lexing.warning_exact hw)
  · have hone := resume_located source 1
    rw [resume_one] at hone
    exact hone

end Suite

end HttpSuite
