import HttpSuite.Proofs.Suite.Layout

/-!
# A stray character is a blank

A character that the lexer passes over with a warning does what a space in its place would do: it
parts the tokens around it and is no part of any of them. With spaces in the place of all of them a
text has the same words, lexes to its end or not as before, has no warnings from the lexer, and
parses in the same way.

* `blankOut`: spaces in the place of marked characters.
* `Lexing.blanked`: a source text with spaces in the place of its stray characters.
* `Divided.blankOut`: the division of such a text.
* `Suite.stray_is_blank`: stray characters are blanks.
-/

namespace HttpSuite

open Text

/-! ### Spaces in the place of characters -/

/-- A text that begins at the offset `n`, with a space in the place of each character whose offset is
marked. -/
def blankOut (marked : Nat → Bool) (n : Nat) : List Char → List Char
  | [] => []
  | c :: cs => (if marked n then ' ' else c) :: blankOut marked (n + c.utf8Size) cs

/-- A source text with a space in the place of each character that the lexer warns about. -/
def Lexing.blanked (source : String) : String :=
  .ofList (blankOut (fun n => (ofString source).warnings.any fun w => w.pos.offset = n) 0
    source.toList)

section

variable {marked : Nat → Bool} {n : Nat}

theorem blankOut_append (a b : List Char) :
    blankOut marked n (a ++ b) =
      blankOut marked n a ++ blankOut marked (n + byteLength a) b := by
  induction a generalizing n with
  | nil => rfl
  | cons c a ih => simp [blankOut, ih, Nat.add_assoc]

theorem blankOut_of_unmarked {cs : List Char}
    (h : ∀ k, n ≤ k → k < n + byteLength cs → marked k = false) : blankOut marked n cs = cs := by
  induction cs generalizing n with
  | nil => rfl
  | cons c cs ih =>
    have hc := c.utf8Size_pos
    rw [byteLength_cons] at h
    have hfirst : marked n = false := h n (Nat.le_refl n) (by omega)
    have hrest : blankOut marked (n + c.utf8Size) cs = cs :=
      ih fun k hk hlt => h k (by omega) (by omega)
    rw [blankOut, hfirst, hrest]
    rfl

/-- The text begins as before, or with a space. -/
theorem mem_head?_blankOut {cs : List Char} {c : Char}
    (hc : c ∈ (blankOut marked n cs).head?) : c ∈ cs.head? ∨ isBlank c = true := by
  cases cs with
  | nil => cases hc
  | cons d cs =>
    have hc : (if marked n then ' ' else d) = c := by simpa [blankOut] using hc
    split at hc
    · exact .inr (hc ▸ by decide)
    · exact .inl (by simp [hc])

end

/-! ### Divisions -/

namespace Divided

variable {p : Position} {cs slice rest : List Char} {c : Char} {l : Lexing} {marked : Nat → Bool}

/-- The marks from the beginning of a text on are the places of its warnings. -/
def Marks (l : Lexing) (n : Nat) (marked : Nat → Bool) : Prop :=
  ∀ k, n ≤ k → (marked k = true ↔ ∃ w ∈ l.warnings, w.pos.offset = k)

/-- Behind a blank character the division goes on. -/
theorem tail (h : Divided p (c :: cs) l) (hc : isBlank c = true) :
    Divided (p.advance [c]) cs l := by
  obtain ⟨m, hm⟩ := exists_divided (p.advance [c]) cs
  obtain rfl := (Divided.blank hc hm).unique h
  exact hm

theorem Marks.behind (hm : Marks l p.offset marked) (slice : List Char) :
    Marks l (p.advance slice).offset marked := by
  intro k hk
  rw [Position.advance_offset] at hk
  exact hm k (by omega)

/-- What stands before the rest of a text, and has no warning itself, stays as it is. -/
theorem blankOut_slice (h : Divided (p.advance slice) rest l) (hm : Marks l p.offset marked) :
    blankOut marked p.offset (slice ++ rest) =
      slice ++ blankOut marked (p.advance slice).offset rest := by
  have hslice : blankOut marked p.offset slice = slice := by
    refine blankOut_of_unmarked fun k hk hlt => ?_
    by_contra hmarked
    obtain ⟨w, hw, rfl⟩ := (hm k hk).1 (by simpa using hmarked)
    have hle : (p.advance slice).offset ≤ w.pos.offset :=
      h.inOrder.2.1 w.span (List.mem_map_of_mem hw)
    rw [Position.advance_offset] at hle
    omega
  rw [blankOut_append, hslice, Position.advance_offset]

/-- A newline is no stray character, so that a comment ends where it did. -/
theorem atLineEnd_blankOut (h : Divided p cs l) (hm : Marks l p.offset marked)
    (he : AtLineEnd cs) : AtLineEnd (blankOut marked p.offset cs) := by
  cases cs with
  | nil => simp [AtLineEnd, HttpSuite.blankOut]
  | cons c cs =>
    obtain rfl : c = '\n' := he c rfl
    have hrest := blankOut_slice (h.tail (by decide)) hm
    rw [List.singleton_append] at hrest
    rw [hrest]
    simp [AtLineEnd]

/-- **With spaces in the place of its stray characters** a text is read as before, wherever it
stands, and without a warning. -/
theorem blankOut (h : Divided p cs l) (hm : Marks l p.offset marked) (q : Position) :
    ∃ m, Divided q (HttpSuite.blankOut marked p.offset cs) m ∧ m.Alike l ∧ m.warnings = [] := by
  -- along the division: a stray character becomes a space, and nothing else changes
  induction h generalizing q with
  | finish => exact ⟨_, .finish, ⟨rfl, rfl⟩, rfl⟩
  | @blank p c rest l hc h ih =>
    obtain ⟨m, hd, halike, hwarnings⟩ := ih (hm.behind [c]) (q.advance [c])
    have hslice := blankOut_slice h hm
    rw [List.singleton_append] at hslice
    rw [hslice]
    exact ⟨m, .blank hc hd, halike, hwarnings⟩
  | @comment p body rest l hb he h ih =>
    obtain ⟨m, hd, halike, hwarnings⟩ := ih (hm.behind _) (q.advance ('/' :: '/' :: body))
    have hslice := blankOut_slice h hm
    rw [List.cons_append, List.cons_append] at hslice
    rw [hslice]
    exact ⟨m, .comment hb (h.atLineEnd_blankOut (hm.behind _) he) hd, halike, hwarnings⟩
  | @stray p cause c rest l hc h ih =>
    have hmarked : marked p.offset = true := (hm _ (Nat.le_refl _)).2 ⟨_, List.mem_cons_self, rfl⟩
    have hpos := c.utf8Size_pos
    have hrest : Marks l (p.advance [c]).offset marked := by
      intro k hk
      have hadvance : (p.advance [c]).offset = p.offset + c.utf8Size := by simp
      rw [hm k (by omega), List.exists_mem_cons_iff]
      exact or_iff_right (by dsimp only; omega)
    obtain ⟨m, hd, halike, hwarnings⟩ := ih hrest (q.advance [' '])
    rw [HttpSuite.blankOut, if_pos hmarked]
    exact ⟨m, .blank (by decide) (by simpa using hd), halike, hwarnings⟩
  | @token p k text slice rest l hw he h ih =>
    obtain ⟨m, hd, halike, hwarnings⟩ := ih (hm.behind slice) (q.advance slice)
    rw [blankOut_slice h hm]
    exact ⟨_, .token hw (he.of_blank fun _ => mem_head?_blankOut) hd, halike.cons rfl, hwarnings⟩
  | @unclosed p rest h =>
    have hsame : HttpSuite.blankOut marked p.offset ('"' :: rest) = '"' :: rest := by
      refine blankOut_of_unmarked fun k hk _ => ?_
      simpa using hm k hk
    rw [hsame]
    exact ⟨_, .unclosed h, ⟨rfl, rfl⟩, rfl⟩

end Divided

/-- **A stray character is a blank.** With a space in the place of each character that the lexer
warns about, a text keeps its words and lexes to its end or not as before, the lexer has no warnings
on it, and it parses to the same suite, places apart, or with the same error about the same words. -/
theorem Suite.stray_is_blank (source : String) :
    (Lexing.ofString (Lexing.blanked source)).Alike (Lexing.ofString source) ∧
      (Lexing.ofString (Lexing.blanked source)).warnings = [] ∧
      SameAnswer (Suite.parse (Lexing.blanked source)).result (Suite.parse source).result := by
  have hmarks : Divided.Marks (Lexing.ofString source) 0
      fun n => (Lexing.ofString source).warnings.any fun w => w.pos.offset = n := by
    intro k _
    simp
  obtain ⟨m, hm, halike, hwarnings⟩ := (Lexing.divided source).blankOut hmarks {}
  obtain rfl : m = Lexing.ofString (Lexing.blanked source) := by
    rw [← Lexing.divided_iff, Lexing.blanked, String.toList_ofList]
    exact hm
  exact ⟨halike, hwarnings, Suite.sameAnswer_of_alike halike⟩

end HttpSuite
