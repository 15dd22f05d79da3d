import HttpSuite.Proofs.Token.Spelling

/-!
# Layout between tokens

Blank characters and comments may be put in front of any token, of the end of a text and of a quote
that is never closed: the words stay the same, and so does whether the text can be lexed to its end.
What stands before such a place may be anything, also a lone `/` that the layout makes a comment of,
or a comment that goes on to the end of the text and takes in the first line of the layout.

* `Layout`: blank characters, and comments each closed by a newline.
* `Lexing.starts`: the offsets at which layout may be put.
* `Divided.insert`: the division of a text with layout put into it.
-/

namespace HttpSuite

open Token (Kind)
open Text

/-- **Layout**: blank characters and comments, each comment closed by a newline. -/
inductive Layout : List Char → Prop
  | nil : Layout []
  | blank {c : Char} {w : List Char} (hc : isBlank c = true) (h : Layout w) : Layout (c :: w)
  | comment {body w : List Char} (hb : '\n' ∉ body) (h : Layout w) :
      Layout ('/' :: '/' :: (body ++ '\n' :: w))

/-- The offsets at which the tokens of a text start, its end included, and at which a quote stands
that is never closed. -/
def Lexing.starts (l : Lexing) : List Nat :=
  l.tokens.map (·.pos.offset) ++ l.failure.toList.map (·.pos.offset)

/-- The same words, and both lexings or neither of them come to the end of their text. -/
def Lexing.Alike (l m : Lexing) : Prop :=
  words l.tokens = words m.tokens ∧ l.failure.isSome = m.failure.isSome

/-! ### What layout begins with -/

namespace Layout

variable {w : List Char}

/-- Layout begins with a blank or a comment. -/
theorem head? (h : Layout w) : ∀ c ∈ w.head?, isBlank c = true ∨ c = '/' := by
  cases h with
  | nil => simp
  | blank hc _ => simpa using Or.inl hc
  | comment _ _ => simp

/-- The first line of a layout, if it has more than one. -/
theorem first_line (h : Layout w) :
    '\n' ∉ w ∨ ∃ line rest, w = line ++ '\n' :: rest ∧ '\n' ∉ line ∧ Layout rest := by
  induction h with
  | nil => simp
  | @blank c w hc hw ih =>
    by_cases hn : c = '\n'
    · exact .inr ⟨[], w, by rw [hn]; rfl, by simp, hw⟩
    · rcases ih with hno | ⟨line, rest, rfl, hline, hrest⟩
      · exact .inl (by simp [Ne.symm hn, hno])
      · exact .inr ⟨c :: line, rest, rfl, by simp [Ne.symm hn, hline], hrest⟩
  | @comment body w hb hw _ =>
    exact .inr ⟨'/' :: '/' :: body, w, rfl, by simp [hb], hw⟩

end Layout

/-- A blank ends a name. -/
theorem isNameChar_of_isBlank {c : Char} (h : isBlank c = true) : isNameChar c = false := by
  cases hn : isNameChar c with
  | false => rfl
  | true =>
    simp only [isNameChar, Bool.or_eq_true, beq_iff_eq] at hn
    rcases hn with (ha | hd) | rfl
    · rw [isBlank_of_isAlphabetic ha] at h; cases h
    · rw [isBlank_of_isDigit hd] at h; cases h
    · revert h; decide

/-- No token is made longer by a blank or a slash. -/
theorem Token.Kind.not_continuedBy (k : Kind) {c : Char} (h : isBlank c = true ∨ c = '/') :
    k.continuedBy c = false := by
  have hname : isNameChar c = false := by
    rcases h with h | rfl
    · exact isNameChar_of_isBlank h
    · decide
  have hdigit : c.isDigit = false := by
    simp only [isNameChar, Bool.or_eq_false_iff] at hname
    exact hname.1.2
  cases k <;> first | rfl | exact hname | exact hdigit

/-- A token that ends before a text ends before one that begins in the same way or with a blank. -/
theorem Token.Kind.EndsBefore.of_blank {k : Kind} {a b : List Char} (h : k.EndsBefore a)
    (hb : ∀ c ∈ b.head?, c ∈ a.head? ∨ isBlank c = true) : k.EndsBefore b := by
  intro c hc
  rcases hb c hc with hc | hc
  · exact h c hc
  · exact k.not_continuedBy (.inl hc)

/-- A token that ends before a text ends before layout and that text as well. -/
theorem Token.Kind.EndsBefore.layout {k : Kind} {w b : List Char} (h : k.EndsBefore b)
    (hw : Layout w) : k.EndsBefore (w ++ b) := by
  intro c hc
  cases w with
  | nil => exact h c hc
  | cons d w => exact k.not_continuedBy (hw.head? c (by simpa using hc))

/-- Where a token ends is a matter of the next character. -/
theorem Token.Kind.EndsBefore.of_head? {k : Kind} {a b : List Char} (h : k.EndsBefore a)
    (hab : a.head? = b.head?) : k.EndsBefore b := by
  unfold EndsBefore at h ⊢
  rwa [← hab]

/-- A stray character is told by itself and the next one. -/
theorem Stray.of_head? {cause : Warning.Cause} {c : Char} {a b : List Char} (h : Stray cause c a)
    (hab : a.head? = b.head?) : Stray cause c b := by
  cases h with
  | dollar h => exact .dollar (h.of_head? hab)
  | unknown hb hq hd hw hn hp hs => exact .unknown hb hq hd hw hn hp (hab ▸ hs)

theorem byteLength_eq_zero {cs : List Char} (h : byteLength cs = 0) : cs = [] := by
  cases cs with
  | nil => rfl
  | cons c cs =>
    have := byteLength_pos (List.cons_ne_nil c cs)
    omega

/-! ### Divisions -/

namespace Lexing.Alike

variable {l m : Lexing} {t u : Token}

theorem cons (h : l.Alike m) (ht : t.word = u.word) :
    Lexing.Alike { l with tokens := t :: l.tokens } { m with tokens := u :: m.tokens } :=
  ⟨by rw [words_cons, words_cons, ht, h.1], h.2⟩

end Lexing.Alike

/-- The text `cs` is read like `l`, wherever it stands. -/
def ReadsLike (cs : List Char) (l : Lexing) : Prop :=
  ∀ p : Position, ∃ m, Divided p cs m ∧ m.Alike l

namespace ReadsLike

variable {a b cs w body : List Char} {c : Char} {l : Lexing}

/-- A blank in front changes no words. -/
theorem blank (hc : isBlank c = true) (h : ReadsLike cs l) : ReadsLike (c :: cs) l := by
  intro p
  obtain ⟨m, hm, halike⟩ := h (p.advance [c])
  exact ⟨m, .blank hc hm, halike⟩

/-- Nor does a comment that ends where the line does. -/
theorem comment (hb : '\n' ∉ body) (he : AtLineEnd cs) (h : ReadsLike cs l) :
    ReadsLike ('/' :: '/' :: (body ++ cs)) l := by
  intro p
  obtain ⟨m, hm, halike⟩ := h (p.advance ('/' :: '/' :: body))
  exact ⟨m, .comment hb he hm, halike⟩

/-- A comment that is closed by a newline. -/
theorem comment_line (hb : '\n' ∉ body) (h : ReadsLike cs l) :
    ReadsLike ('/' :: '/' :: (body ++ '\n' :: cs)) l :=
  .comment hb (by simp [AtLineEnd]) (h.blank (by decide))

/-- A stray character changes no words either. -/
theorem stray {cause : Warning.Cause} {ws : List Warning} (hc : Stray cause c cs)
    (h : ReadsLike cs l) : ReadsLike (c :: cs) { l with warnings := ws } := by
  intro p
  obtain ⟨m, hm, halike⟩ := h (p.advance [c])
  exact ⟨_, .stray hc hm, halike⟩

theorem token {k : Kind} {text slice : List Char} {t : Token} (hw : Written k text slice)
    (he : k.EndsBefore cs) (ht : t.word = ⟨k, String.ofList text⟩) (h : ReadsLike cs l) :
    ReadsLike (slice ++ cs) { l with tokens := t :: l.tokens } := by
  intro p
  obtain ⟨m, hm, halike⟩ := h (p.advance slice)
  exact ⟨_, .token hw he hm, halike.cons ht.symm⟩

/-- Layout in front of a text. -/
theorem layout (h : ReadsLike b l) (hw : Layout w) : ReadsLike (w ++ b) l := by
  induction hw with
  | nil => exact h
  | blank hc _ ih => exact ih.blank hc
  | comment hb _ ih => simpa using ih.comment_line hb

/-- Layout behind a comment: the first line becomes part of the comment. -/
theorem comment_layout (hb : '\n' ∉ body) (he : AtLineEnd b) (h : ReadsLike b l)
    (hw : Layout w) : ReadsLike ('/' :: '/' :: (body ++ (w ++ b))) l := by
  rcases hw.first_line with hno | ⟨line, rest, rfl, hline, hrest⟩
  · simpa using h.comment (show '\n' ∉ body ++ w by simp [hb, hno]) he
  · simpa using (h.layout hrest).comment_line (show '\n' ∉ body ++ line by simp [hb, hline])

/-- Layout behind a character that is passed over. A `/` is taken in by a comment that follows. -/
theorem stray_layout {cause : Warning.Cause} {ws : List Warning} (hc : Stray cause c b)
    (h : ReadsLike b l) (hw : Layout w) :
    ReadsLike (c :: (w ++ b)) { l with warnings := ws } := by
  cases hc with
  | dollar he => exact (h.layout hw).stray (.dollar (he.layout hw))
  | unknown hb hq hd hname hn hp hs =>
    by_cases hslash : c = '/' ∧ (w ++ b).head? = some '/'
    · obtain ⟨rfl, hhead⟩ := hslash
      cases hw with
      | nil => exact absurd hhead (hs rfl)
      | @blank d w hd _ =>
        obtain rfl : d = '/' := by simpa using hhead
        exact absurd hd (by decide)
      | @comment body w hb hw =>
        have := (h.layout hw).comment_line (show '\n' ∉ '/' :: body by simp [hb])
        simpa [ReadsLike, Lexing.Alike] using this
    · exact (h.layout hw).stray
        (.unknown hb hq hd hname hn hp fun hc hhead => hslash ⟨hc, hhead⟩)

end ReadsLike

namespace Divided

variable {p : Position} {a b cs w : List Char} {l : Lexing}

/-- A text is read like its own division. -/
theorem readsLike (h : Divided p cs l) : ReadsLike cs l := by
  induction h with
  | finish => exact fun _ => ⟨_, .finish, rfl, rfl⟩
  | blank hc _ ih => exact ih.blank hc
  | comment hb he _ ih => exact ih.comment hb he
  | stray hc _ ih => exact ih.stray hc
  | token hw he _ ih => exact ih.token hw he rfl
  | unclosed h => exact fun _ => ⟨_, .unclosed h, rfl, rfl⟩

/-- Nothing starts before the text does. -/
theorem le_of_mem_starts (h : Divided p cs l) {k : Nat} (hk : k ∈ l.starts) : p.offset ≤ k := by
  have hle (p : Position) (cs : List Char) : p.offset ≤ (p.advance cs).offset := by
    rw [Position.advance_offset]; omega
  induction h with
  | finish =>
    obtain rfl : k = _ := by simpa [Lexing.starts] using hk
    exact Nat.le_refl _
  | @blank p c _ _ _ _ ih => exact Nat.le_trans (hle p [c]) (ih hk)
  | comment _ _ _ ih => exact Nat.le_trans (hle _ _) (ih hk)
  | @stray p _ c _ _ _ _ ih => exact Nat.le_trans (hle p [c]) (ih hk)
  | token _ _ _ ih =>
    rcases List.mem_cons.1 hk with rfl | hk
    · exact Nat.le_refl _
    · exact Nat.le_trans (hle _ _) (ih hk)
  | @unclosed p _ _ =>
    obtain rfl : k = p.offset := by simpa [Lexing.starts, LexError.pos] using hk
    exact Nat.le_refl _

/-- A place where something starts stands between two characters. -/
theorem exists_split (h : Divided p cs l) {k : Nat} (hk : k ∈ l.starts) :
    ∃ a b, cs = a ++ b ∧ p.offset + byteLength a = k := by
  have hbehind {p : Position} (slice : List Char) {rest : List Char}
      (h : ∃ a b, rest = a ++ b ∧ (p.advance slice).offset + byteLength a = k) :
      ∃ a b, slice ++ rest = a ++ b ∧ p.offset + byteLength a = k := by
    obtain ⟨a, b, rfl, hk⟩ := h
    refine ⟨slice ++ a, b, by simp, ?_⟩
    rw [← hk, Position.advance_offset, byteLength_append, Nat.add_assoc]
  induction h with
  | finish => exact ⟨[], [], rfl, by simpa [Lexing.starts, Token.endOfInput, eq_comm] using hk⟩
  | @blank p c _ _ _ _ ih => exact hbehind (p := p) [c] (ih hk)
  | comment _ _ _ ih => exact hbehind _ (ih hk)
  | @stray p _ c _ _ _ _ ih => exact hbehind (p := p) [c] (ih hk)
  | token _ _ _ ih =>
    rcases List.mem_cons.1 hk with rfl | hk
    · exact ⟨[], _, rfl, rfl⟩
    · exact hbehind _ (ih hk)
  | unclosed _ => exact ⟨[], _, rfl, by simpa [Lexing.starts, LexError.pos, eq_comm] using hk⟩

/-- A place where something starts behind a slice lies behind the whole of it. -/
theorem split_of_mem_starts (slice : List Char) {rest : List Char}
    (h : Divided (p.advance slice) rest l) (hk : p.offset + byteLength a ∈ l.starts)
    (hcs : a ++ b = slice ++ rest) :
    ∃ a', a = slice ++ a' ∧ rest = a' ++ b ∧
      (p.advance slice).offset + byteLength a' ∈ l.starts := by
  have hle := h.le_of_mem_starts hk
  rw [Position.advance_offset] at hle ⊢
  rcases List.append_eq_append_iff.1 hcs with ⟨s, rfl, rfl⟩ | ⟨a', rfl, rfl⟩
  · rw [byteLength_append] at hle
    obtain rfl : s = [] := byteLength_eq_zero (by omega)
    exact ⟨[], by simp, rfl, by simpa using hk⟩
  · exact ⟨a', rfl, rfl, by simpa [Nat.add_assoc] using hk⟩

/-- **Layout may be put at every place where a token, the end of the text or a quote that is never
closed starts.** -/
theorem insert (h : Divided p (a ++ b) l) (hk : p.offset + byteLength a ∈ l.starts)
    (hw : Layout w) : ReadsLike (a ++ (w ++ b)) l := by
  generalize hcs : a ++ b = cs at h
  -- along the division: where `a` is used up, the layout stands in front of what is left
  induction h generalizing a with
  | finish =>
    obtain ⟨rfl, rfl⟩ := List.append_eq_nil_iff.1 hcs
    exact Divided.finish.readsLike.layout hw
  | @blank p c rest l hc h ih =>
    obtain ⟨a, rfl, rfl, hk⟩ := split_of_mem_starts [c] h hk hcs
    exact (ih hk rfl).blank hc
  | @comment p body rest l hb he h ih =>
    obtain ⟨a, rfl, rfl, hk⟩ := split_of_mem_starts _ h hk hcs
    cases a with
    | nil => simpa using h.readsLike.comment_layout hb he hw
    | cons d a =>
      have he' : AtLineEnd (d :: a ++ (w ++ b)) := he
      simpa using (ih hk rfl).comment hb he'
  | @stray p cause c rest l hc h ih =>
    obtain ⟨a, rfl, rfl, hk⟩ := split_of_mem_starts [c] h hk hcs
    cases a with
    | nil =>
      change ReadsLike (c :: (w ++ b)) _
      exact h.readsLike.stray_layout hc hw
    | cons d a => exact (ih hk rfl).stray (hc.of_head? rfl)
  | @token p k text slice rest l hs he h ih =>
    rcases List.mem_cons.1 hk with hk | hk
    · obtain rfl : a = [] := byteLength_eq_zero (by simpa using hk)
      obtain rfl : b = slice ++ rest := hcs
      exact (Divided.token hs he h).readsLike.layout hw
    · obtain ⟨a, rfl, rfl, hk⟩ := split_of_mem_starts _ h hk hcs
      have he' : k.EndsBefore (a ++ (w ++ b)) := by
        cases a with
        | nil => exact he.layout hw
        | cons d a => exact he
      rw [List.append_assoc]
      exact (ih hk rfl).token hs he' rfl
  | @unclosed p rest h =>
    obtain rfl : a = [] := byteLength_eq_zero (by simpa [Lexing.starts, LexError.pos] using hk)
    obtain rfl : b = _ := hcs
    exact (Divided.unclosed h).readsLike.layout hw

end Divided

end HttpSuite
