import HttpSuite.Code.Literal

/-!
# String literals read back

A string literal ends at the first quote that no backslash stands before, whatever the text inside
it is, and what it is read as is that text.

* `readContent_escape`: what is read after the opening quote.
* `not_mem_literal`: no line break and no tab is in a literal.
* `readLiteral_literal`: a literal in front of any text reads back.
* `literal_append_inj`: so a text that begins with a literal tells which one, and what follows.
-/

namespace HttpSuite.Code

/-- The character that a backslash and `c` stand for in a string literal. -/
def unescape? : Char → Option Char
  | '\\' => some '\\'
  | '"' => some '"'
  | 'n' => some '\n'
  | 'r' => some '\r'
  | 't' => some '\t'
  | _ => none

/-- Puts a character before a text that was read. -/
def consText (c : Char) (r : List Char × List Char) : List Char × List Char := (c :: r.1, r.2)

/-- Reads a string literal on from just after its opening quote: its text, and what follows the
closing quote. -/
def readContent : List Char → Option (List Char × List Char)
  | [] => none
  | '"' :: rest => some ([], rest)
  | ['\\'] => none
  | '\\' :: c :: rest => (unescape? c).bind fun d => (readContent rest).map (consText d)
  | c :: rest => (readContent rest).map (consText c)

/-- Reads a string literal from the front of a text. -/
def readLiteral : List Char → Option (List Char × List Char)
  | '"' :: rest => readContent rest
  | _ => none

theorem length_of_readContent {cs : List Char} {r : List Char × List Char}
    (h : readContent cs = some r) : r.2.length < cs.length := by
  fun_induction readContent cs generalizing r with
  | case1 => simp at h
  | case2 rest =>
    cases h
    simp
  | case3 => simp at h
  | case4 c rest ih =>
    obtain ⟨d, -, hd⟩ := Option.bind_eq_some_iff.1 h
    obtain ⟨q, hq, rfl⟩ := Option.map_eq_some_iff.1 hd
    have := ih hq
    simp only [consText, List.length_cons]
    omega
  | case5 c rest _ _ _ ih =>
    obtain ⟨q, hq, rfl⟩ := Option.map_eq_some_iff.1 h
    have := ih hq
    simp only [consText, List.length_cons]
    omega

/-- A character is written as an escape that stands for it, or as itself and is no quote then. -/
theorem escapeChar_cases (c : Char) :
    (∃ e, escapeChar c = ['\\', e] ∧ unescape? e = some c) ∨
      (escapeChar c = [c] ∧ c ≠ '\\' ∧ c ≠ '"') := by
  unfold escapeChar
  split
  · exact .inl ⟨_, rfl, rfl⟩
  · exact .inl ⟨_, rfl, rfl⟩
  · exact .inl ⟨_, rfl, rfl⟩
  · exact .inl ⟨_, rfl, rfl⟩
  · exact .inl ⟨_, rfl, rfl⟩
  · rename_i hb hq _ _ _
    exact .inr ⟨rfl, hb, hq⟩

/-- Reading one character of a text as it is written. -/
theorem readContent_escapeChar (c : Char) (cs : List Char) :
    readContent (escapeChar c ++ cs) = (readContent cs).map (consText c) := by
  rcases escapeChar_cases c with ⟨e, he, hu⟩ | ⟨he, hb, hq⟩
  · rw [he]
    simp [readContent, hu]
  · rw [he, List.singleton_append, readContent]
    · exact hq
    · intro h; exact absurd h hb
    · intro d rest h; exact absurd h hb

theorem readContent_escape (cs rest : List Char) :
    readContent (cs.flatMap escapeChar ++ '"' :: rest) = some (cs, rest) := by
  induction cs with
  | nil => rfl
  | cons c cs ih => rw [List.flatMap_cons, List.append_assoc, readContent_escapeChar, ih]; rfl

theorem toList_literal (text : String) :
    (literal text).toList = '"' :: (text.toList.flatMap escapeChar ++ ['"']) := by
  simp [literal, escape]

/-- A literal is on one line and holds no tab: the characters for these are escaped. -/
theorem not_mem_literal {c : Char} (h : c ∈ ['\n', '\r', '\t']) (text : String) :
    c ∉ (literal text).toList := by
  have hescape (d : Char) : c ∉ escapeChar d := by
    unfold escapeChar
    split <;> grind
  have hquote : c ≠ '"' := by
    rintro rfl
    exact absurd h (by decide)
  rw [toList_literal]
  simp [hescape, hquote]

/-- **A literal reads back**, and reading it takes nothing of what follows. -/
theorem readLiteral_literal (text : String) (rest : List Char) :
    readLiteral ((literal text).toList ++ rest) = some (text.toList, rest) := by
  rw [toList_literal, List.cons_append, List.append_assoc]
  exact readContent_escape text.toList rest

theorem literal_append_inj {a b : String} {x y : List Char}
    (h : (literal a).toList ++ x = (literal b).toList ++ y) : a = b ∧ x = y := by
  have hr := congrArg readLiteral h
  rw [readLiteral_literal, readLiteral_literal] at hr
  simp only [Option.some.injEq, Prod.mk.injEq, String.toList_inj] at hr
  exact hr

/-- The same with a text between the literal and what follows. -/
theorem literal_append_append_inj {a b : String} {mid x y : List Char}
    (h : (literal a).toList ++ (mid ++ x) = (literal b).toList ++ (mid ++ y)) : a = b ∧ x = y := by
  obtain ⟨hab, hxy⟩ := literal_append_inj h
  exact ⟨hab, List.append_cancel_left hxy⟩

end HttpSuite.Code
