/-!
# Quoted texts

A text between double quotes. A backslash before `n`, `t`, `r`, a backslash or a quote stands for
one character; before anything else it stands for itself and the other character follows it. A
quoted text may run over several lines.

* `Quoted.read`: reads a quoted text after its opening quote.
* `Quoted.slice_append_rest`: reading splits the text, so nothing is lost.
-/

namespace HttpSuite.Text

/-- The text that a backslash and `c` stand for. -/
def unescape : Char → List Char
  | 'n' => ['\n']
  | 't' => ['\t']
  | 'r' => ['\r']
  | '\\' => ['\\']
  | '"' => ['"']
  | c => ['\\', c]

/-- A quoted text that was read: its content, the characters it took up after the opening quote
(the closing quote included) and what follows. -/
structure Quoted where
  content : List Char
  slice : List Char
  rest : List Char
  deriving DecidableEq, Repr

namespace Quoted

/-- Puts `content`, written as `slice`, before a quoted text. -/
def push (content slice : List Char) (q : Quoted) : Quoted :=
  ⟨content ++ q.content, slice ++ q.slice, q.rest⟩

/-- Reads on from just after an opening quote; `none` when no quote closes the text. -/
def read : List Char → Option Quoted
  | [] => none
  | '"' :: rest => some ⟨[], ['"'], rest⟩
  | ['\\'] => none
  | '\\' :: c :: rest => (read rest).map (push (unescape c) ['\\', c])
  | c :: rest => (read rest).map (push [c] [c])

theorem slice_append_rest {cs : List Char} {q : Quoted} (h : read cs = some q) :
    q.slice ++ q.rest = cs := by
  fun_induction read cs generalizing q with
  | case1 => simp at h
  | case2 => simp only [Option.some.injEq] at h; subst h; rfl
  | case3 => simp at h
  | case4 c rest ih =>
    obtain ⟨p, hp, rfl⟩ := Option.map_eq_some_iff.1 h
    simp [push, ih hp]
  | case5 c rest _ _ _ ih =>
    obtain ⟨p, hp, rfl⟩ := Option.map_eq_some_iff.1 h
    simp [push, ih hp]

theorem length_rest_lt {cs : List Char} {q : Quoted} (h : read cs = some q) :
    q.rest.length < cs.length + 1 := by
  have := congrArg List.length (slice_append_rest h)
  simp only [List.length_append] at this
  omega

end Quoted

end HttpSuite.Text
