import HttpSuite.Proofs.Text.Position
import HttpSuite.Proofs.Token.Insertion

/-!
# Texts put together line by line

Nothing but an open quote goes on behind a newline: it ends every comment, every word and number,
and a lone `/` or `$` before it stays alone. So two texts with a newline between them are lexed as
each of them is by itself, if the first one is lexed to its end.

* `Divided.settled_line`: a text that is lexed to its end is settled by a newline.
* `Move.below`: the places of a text that is put below other lines.
* `Lexing.ofString_append_line`: the lexing of two texts with a newline between them.
-/

namespace HttpSuite

open Token (Kind)
open Text

/-! ### What a newline ends -/

section Newline

variable {cs : List Char} (more : List Char)

/-- The text begins as before, or with the newline. -/
theorem mem_head?_newline {c : Char} (hc : c ∈ (cs ++ '\n' :: more).head?) :
    c ∈ cs.head? ∨ c = '\n' := by
  cases cs with
  | nil => exact .inr (by simpa [eq_comm] using hc)
  | cons d cs => exact .inl hc

theorem AtLineEnd.newline (h : AtLineEnd cs) : AtLineEnd (cs ++ '\n' :: more) := by
  intro c hc
  rcases mem_head?_newline more hc with hc | rfl
  · exact h c hc
  · rfl

theorem Token.Kind.EndsBefore.newline {k : Kind} (h : k.EndsBefore cs) :
    k.EndsBefore (cs ++ '\n' :: more) := by
  refine h.of_blank fun c hc => ?_
  rcases mem_head?_newline more hc with hc | rfl
  · exact .inl hc
  · exact .inr (by decide)

theorem Stray.newline {cause : Warning.Cause} {c : Char} (h : Stray cause c cs) :
    Stray cause c (cs ++ '\n' :: more) := by
  cases h with
  | dollar h => exact .dollar (h.newline more)
  | unknown hb hq hd hw hn hp hs =>
    refine .unknown hb hq hd hw hn hp fun hc hslash => ?_
    rcases mem_head?_newline more hslash with hslash | hslash
    · exact hs hc hslash
    · exact absurd hslash (by decide)

end Newline

/-- **A newline settles a text** that is lexed to its end: whatever follows, its tokens and warnings
stay as they are. -/
theorem Divided.settled_line {p : Position} {a : List Char} {l : Lexing} (h : Divided p a l)
    (hf : l.failure = none) :
    ∃ ts, l.tokens = ts ++ [.endOfInput (p.advance a)] ∧ Settled p (a ++ ['\n']) ts l.warnings := by
  -- along the division: what stands at the front ends where it did, also if only the newline
  -- follows it
  induction h with
  | finish => exact ⟨[], rfl, .layout (.blank (by decide) .nil)⟩
  | blank hc _ ih =>
    obtain ⟨ts, hts, hsettled⟩ := ih hf
    exact ⟨ts, hts, fun more m hm => .blank hc (hsettled hm)⟩
  | @comment p body rest l hb he _ ih =>
    obtain ⟨ts, hts, hsettled⟩ := ih hf
    rw [← Position.advance_append] at hts
    refine ⟨ts, hts, fun more m hm => ?_⟩
    have hsplit : '/' :: '/' :: (body ++ rest) ++ ['\n'] =
        ('/' :: '/' :: body) ++ (rest ++ ['\n']) := by simp
    rw [hsplit, Position.advance_append] at hm
    have hrest := hsettled hm
    rw [List.append_assoc] at hrest
    simpa using Divided.comment hb (he.newline more) hrest
  | @stray p cause c rest l hc _ ih =>
    obtain ⟨ts, hts, hsettled⟩ := ih hf
    refine ⟨ts, hts, fun more m hm => ?_⟩
    have hrest := hsettled hm
    rw [List.append_assoc] at hrest
    simpa using Divided.stray (hc.newline more) hrest
  | @token p k text slice rest l hw he _ ih =>
    obtain ⟨ts, hts, hsettled⟩ := ih hf
    rw [← Position.advance_append] at hts
    refine ⟨_ :: ts, congrArg (_ :: ·) hts, ?_⟩
    rw [List.append_assoc]
    refine .token hw (fun more => ?_) hsettled
    simpa using he.newline more
  | unclosed => cases hf

/-! ### Places below other lines -/

/-- What stands below other lines is so many bytes further on and so many lines lower, in the same
columns. -/
def Move.below (bytes lines : Nat) : Move :=
  ⟨fun p => ⟨p.offset + bytes, p.line + lines, p.column⟩, fun n => n + bytes⟩

/-- The place behind a text and a newline. -/
theorem Position.advance_line (a : List Char) :
    advance {} (a ++ ['\n']) = ⟨byteLength a + 1, a.count '\n' + 2, 1⟩ := by
  have hsize : '\n'.utf8Size = 1 := by decide
  rw [advance_append, advance_eq_behind, advance_cons, advance_nil, step, if_pos rfl, hsize]
  simp only [behind, mk.injEq, true_and, and_true]
  omega

theorem Position.move_line (before a : List Char) :
    (advance {} before).move {} (advance {} (a ++ ['\n'])) =
      (Move.below (byteLength a + 1) (a.count '\n' + 1)).pos (advance {} before) := by
  obtain ⟨-, hline, hcolumn⟩ := (Reaches.refl {}).advance before
  generalize advance {} before = x at hline hcolumn
  dsimp only at hline hcolumn
  rw [advance_line]
  simp only [move, Move.below, mk.injEq]
  refine ⟨by omega, by omega, ?_⟩
  split
  · have := hcolumn ‹_›
    omega
  · rfl

theorem Move.between_line_stop (a : List Char) (n : Nat) :
    (between {} (Position.advance {} (a ++ ['\n']))).stop n =
      (below (byteLength a + 1) (a.count '\n' + 1)).stop n := by
  rw [Position.advance_line]
  rfl

/-- A text that begins behind a newline stands below the lines before it. -/
theorem Lexing.move_line (a : List Char) (source : String) :
    (ofString source).move (.between {} (Position.advance {} (a ++ ['\n']))) =
      (ofString source).move (.below (byteLength a + 1) (a.count '\n' + 1)) := by
  have hpos (before : List Char) := Position.move_line before a
  obtain ⟨htokens, hwarnings, hfailure⟩ := (divided source).standsIn [] rfl
  simp only [Lexing.move, Lexing.mk.injEq]
  refine ⟨List.map_congr_left fun t ht => ?_, ?_, List.map_congr_left fun w hw => ?_⟩
  · obtain ⟨before, -, -, -, hp, -⟩ := htokens t ht
    rw [Token.move, Token.move, Move.between_line_stop, hp]
    simp [Move.between, hpos]
  · cases hf : (ofString source).failure with
    | none => rfl
    | some e =>
      obtain ⟨before, -, -, -, hp⟩ := hfailure e hf
      cases e with
      | unterminated pos =>
        dsimp only [LexError.pos] at hp
        simp [LexError.move, Move.between, hp, hpos]
  · obtain ⟨before, -, -, -, hp, -⟩ := hwarnings w hw
    rw [Warning.move, Warning.move, Move.between_line_stop, hp]
    simp [Move.between, hpos]

/-! ### Two texts -/

/-- **Lexing distributes over lines.** A text that is lexed to its end, a newline and another text
are lexed into the tokens of the first text without its end and those of the other one, which end or
fail as they do by themselves; the warnings are those of the first and then those of the other one.
What belongs to the other text is moved by the bytes of the first and one more, and by the lines of
the first, and keeps its columns. -/
theorem Lexing.ofString_append_line {a b : String} (h : (ofString a).failure = none) :
    ∃ ts, (ofString a).tokens = ts ++ [.endOfInput (Position.advance {} a.toList)] ∧
      ofString (a ++ "\n" ++ b) =
        let below := (ofString b).move (.below (a.utf8ByteSize + 1) (a.toList.count '\n' + 1))
        { tokens := ts ++ below.tokens
          failure := below.failure
          warnings := (ofString a).warnings ++ below.warnings } := by
  obtain ⟨ts, hts, hsettled⟩ := (divided a).settled_line h
  refine ⟨ts, hts, ?_⟩
  have hb := (divided b).move (q := Position.advance {} (a.toList ++ ['\n'])) (.refl _)
  rw [Position.move_self, Lexing.move_line, byteLength_toList] at hb
  have hd := hsettled hb
  have htext : a.toList ++ ['\n'] ++ b.toList = (a ++ "\n" ++ b).toList := by simp
  rw [htext, divided_iff] at hd
  exact hd.symm

/-- Two slashes that a newline parts are no comment, and a `$` before a newline has no name. -/
theorem Lexing.ofString_append_line_slashes :
    (ofString "x//é\n$/").failure = none ∧ ofString ("x//é\n$/" ++ "\n" ++ "/y\"") =
      { tokens := [⟨.ident, "x", ⟨0, 1, 1⟩, 1⟩, ⟨.ident, "y", ⟨10, 3, 2⟩, 11⟩]
        failure := some (.unterminated ⟨11, 3, 3⟩)
        warnings := [⟨.bareDollar, ⟨6, 2, 1⟩, 7⟩, ⟨.unknownChar '/', ⟨7, 2, 2⟩, 8⟩,
          ⟨.unknownChar '/', ⟨9, 3, 1⟩, 10⟩] } := by
  have hx : Written .ident ['x'] ['x'] :=
    written_of_isNameShaped (show isNameShaped "x" = true by decide)
  have hy : Written .ident ['y'] ['y'] :=
    written_of_isNameShaped (show isNameShaped "y" = true by decide)
  have hslash {rest : List Char} (h : rest.head? ≠ some '/') :
      Stray (.unknownChar '/') '/' rest :=
    .unknown (by decide) (by decide) (by decide) (by decide) (by decide) rfl fun _ => h
  have hda : Divided {} ['x', '/', '/', 'é', '\n', '$', '/'] _ :=
    .token hx (by decide) (.comment (show '\n' ∉ ['é'] by decide) (by simp [AtLineEnd])
      (.blank (by decide) (.stray (.dollar (by decide)) (.stray (hslash (by decide)) .finish))))
  have hdb : Divided {} ['/', 'y', '"'] _ :=
    .stray (hslash (by decide)) (.token hy (by decide)
      (.unclosed (Quoted.read_eq_none_iff.1 rfl)))
  have ha : _ = ofString "x//é\n$/" := divided_iff.1 hda
  have hb : _ = ofString "/y\"" := divided_iff.1 hdb
  have hf : (ofString "x//é\n$/").failure = none := by rw [← ha]
  obtain ⟨ts, hts, heq⟩ := Lexing.ofString_append_line (b := "/y\"") hf
  have htokens : ts = [⟨.ident, "x", ⟨0, 1, 1⟩, 1⟩] := by
    rw [← ha] at hts
    exact (List.append_cancel_right (show [_] ++ [_] = _ from hts)).symm
  refine ⟨hf, heq.trans ?_⟩
  rw [← ha, ← hb, htokens]
  rfl

end HttpSuite
