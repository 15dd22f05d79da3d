import HttpSuite.Token.Lexer

/-!
# Token sources

What a parser reads from: a lexer that works on demand, or a lexing that was finished before.
-/

namespace HttpSuite

/-- A supply of tokens. Every token or error leaves fewer of them. -/
class TokenSource (σ : Type) where
  /-- The next token or error; nothing when there is none left. -/
  next : σ → Option (Except LexError Token) × σ
  /-- A bound on the tokens that are left. -/
  remaining : σ → Nat
  remaining_lt : ∀ {s s' : σ} {r : Except LexError Token},
    next s = (some r, s') → remaining s' < remaining s

instance : TokenSource Lexer where
  next := Lexer.next
  remaining := Lexer.size
  remaining_lt := Lexer.size_next_lt

/-- Tokens that were all read before, and the error that follows the last of them if one does. -/
structure Replay where
  tokens : List Token
  failure : Option LexError := none
  deriving DecidableEq, Repr

namespace Replay

/-- The tokens of a complete lexing. -/
def ofLexing (l : Lexing) : Replay := ⟨l.tokens, l.failure⟩

/-- The next token, or after the last one the error. -/
def next : Replay → Option (Except LexError Token) × Replay
  | ⟨t :: ts, e⟩ => (some (.ok t), ⟨ts, e⟩)
  | ⟨[], some e⟩ => (some (.error e), ⟨[], none⟩)
  | ⟨[], none⟩ => (none, ⟨[], none⟩)

/-- The tokens and the error that are left. -/
def size (r : Replay) : Nat := r.tokens.length + r.failure.toList.length

theorem size_next_lt {r r' : Replay} {a : Except LexError Token} (h : r.next = (some a, r')) :
    r'.size < r.size := by
  obtain ⟨ts, e⟩ := r
  cases ts with
  | cons t ts =>
    simp only [next, Prod.mk.injEq] at h
    obtain ⟨-, rfl⟩ := h
    simp only [size, List.length_cons]
    omega
  | nil =>
    cases e with
    | none => simp [next] at h
    | some e =>
      simp only [next, Prod.mk.injEq] at h
      obtain ⟨-, rfl⟩ := h
      simp [size]

end Replay

instance : TokenSource Replay where
  next := Replay.next
  remaining := Replay.size
  remaining_lt := Replay.size_next_lt

end HttpSuite
