import HttpSuite.Token.Front

/-!
# The lexer

Turns source text into tokens, one at a time and only when asked. It gives one `eof` token at the
end of the text and nothing after it; a quote that is never closed ends it as well. Warnings are
recorded for the text read so far and can be taken at any time.

* `Lexer.next`: the next token.
* `Lexer.run`: all tokens to the end, the error that ended them if one did, and the warnings.
* `Lexer.size_next_lt`: every answer leaves less to read.
-/

namespace HttpSuite

/-- An error that ends lexing. -/
inductive LexError where
  /-- A quoted text that is never closed, by the place of its opening quote. -/
  | unterminated (pos : Position)
  deriving DecidableEq, Repr

/-- The place of a lexical error. -/
def LexError.pos : LexError → Position
  | .unterminated pos => pos

/-- A lexical error as it is shown to the user. -/
def LexError.diagnostic : LexError → Diagnostic
  | .unterminated pos =>
    { message := s!"unterminated string literal starting at {pos.words}"
      code := some "testlang::lex::unterminated_string"
      help := some "close the string with a `\"`"
      labels := [⟨"string starts here", ⟨pos.offset, pos.offset + 1⟩⟩] }

/-- A lexer part of the way through a text. -/
structure Lexer where
  /-- The text that is still to be read. -/
  rest : List Char
  /-- The place where `rest` begins. -/
  pos : Position := {}
  /-- Has the end of the text or an error been given out? -/
  finished : Bool := false
  /-- The warnings that were not taken yet, the last one first. -/
  found : List Warning := []
  deriving DecidableEq, Repr

namespace Lexer

/-- The warnings that were not taken yet, in the order in which they were found. -/
def warnings (l : Lexer) : List Warning := l.found.reverse

/-- A lexer at the start of a source text. -/
def ofString (source : String) : Lexer := { rest := source.toList }

/-- Passes over `slice`. -/
def skip (l : Lexer) (slice rest : List Char) : Lexer :=
  { l with rest := rest, pos := l.pos.advance slice }

@[simp]
theorem rest_skip (l : Lexer) (slice rest : List Char) : (l.skip slice rest).rest = rest := rfl

/-- Records a warning on the character `c` at the current place. -/
def warn (l : Lexer) (cause : Warning.Cause) (c : Char) : Lexer :=
  { l with found := ⟨cause, l.pos, l.pos.offset + c.utf8Size⟩ :: l.found }

@[simp]
theorem warnings_warn (l : Lexer) (cause : Warning.Cause) (c : Char) :
    (l.warn cause c).warnings = l.warnings ++ [⟨cause, l.pos, l.pos.offset + c.utf8Size⟩] := by
  simp [warn, warnings]

@[simp]
theorem warnings_skip (l : Lexer) (slice rest : List Char) :
    (l.skip slice rest).warnings = l.warnings := rfl

/-- Marks the lexer as finished, with nothing left to read. -/
def close (l : Lexer) : Lexer := { l with rest := [], finished := true }

/-- Reads up to and including the next token. -/
def scan (l : Lexer) : Except LexError Token × Lexer :=
  match _h : Front.of l.rest with
  | .finish => (.ok (.endOfInput l.pos), l.close)
  | .unclosed => (.error (.unterminated l.pos), l.close)
  | .blank slice rest => scan (l.skip slice rest)
  | .stray cause c rest => scan ((l.warn cause c).skip [c] rest)
  | .lexeme kind text slice rest =>
    (.ok ⟨kind, String.ofList text, l.pos, l.pos.offset + byteLength slice⟩, l.skip slice rest)
termination_by l.rest.length
decreasing_by
  all_goals
    have := @Front.rest_length_lt l.rest (by simp [_h])
    simpa [_h, Front.rest, skip, warn] using this

/-- The next token or the error that ends the text; nothing once one of `eof` and an error was
given out. -/
def next (l : Lexer) : Option (Except LexError Token) × Lexer :=
  if l.finished then (none, l) else (some l.scan.1, l.scan.2)

/-- Takes the warnings recorded since the last time. -/
def takeWarnings (l : Lexer) : List Warning × Lexer := (l.warnings, { l with found := [] })

/-- A bound on the answers that are left. -/
def size (l : Lexer) : Nat := l.rest.length + if l.finished then 0 else 1

/-- A token or error leaves less to read. -/
theorem size_scan_lt (l : Lexer) : l.scan.2.size < l.rest.length + 1 := by
  fun_induction scan l with
  | case1 l h => simp [size, close]
  | case2 l h => simp [size, close]
  | case3 l slice rest h ih =>
    have := @Front.rest_length_lt l.rest (by simp [h])
    simp only [h, Front.rest] at this
    rw [rest_skip] at ih
    omega
  | case4 l cause c rest h ih =>
    have := @Front.rest_length_lt l.rest (by simp [h])
    simp only [h, Front.rest] at this
    rw [rest_skip] at ih
    omega
  | case5 l kind text slice rest h =>
    have := @Front.rest_length_lt l.rest (by simp [h])
    simp only [h, Front.rest] at this
    cases hf : l.finished <;> simp [size, skip, hf] <;> omega

/-- **Every answer leaves less to read.** -/
theorem size_next_lt {l l' : Lexer} {r : Except LexError Token} (h : l.next = (some r, l')) :
    l'.size < l.size := by
  unfold next at h
  split at h
  · simp at h
  · rename_i hf
    simp only [Prod.mk.injEq, Option.some.injEq] at h
    obtain ⟨-, rfl⟩ := h
    have := size_scan_lt l
    simpa [size, hf] using this

end Lexer

/-- A complete lexing: the tokens, the error that ended them if one did, and the warnings in the
order in which they were found. -/
structure Lexing where
  tokens : List Token := []
  failure : Option LexError := none
  warnings : List Warning := []
  deriving DecidableEq, Repr

/-- Runs a lexer to its end. -/
def Lexer.run (l : Lexer) : Lexing :=
  match _h : l.next with
  | (none, l') => { warnings := l'.warnings }
  | (some (.error e), l') => { failure := some e, warnings := l'.warnings }
  | (some (.ok t), l') =>
    let lexing := run l'
    { lexing with tokens := t :: lexing.tokens }
termination_by l.size
decreasing_by exact size_next_lt _h

/-- The complete lexing of a source text. -/
def Lexing.ofString (source : String) : Lexing := (Lexer.ofString source).run

end HttpSuite
