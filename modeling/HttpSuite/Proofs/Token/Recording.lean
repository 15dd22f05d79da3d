import HttpSuite.Proofs.Token.Division

/-!
# What a lexer has recorded

A lexer that works on demand has read up to the token or error that it gave out last, and has
recorded the warnings of the complete lexing up to there and no other ones.

* `Divided.apart`: no two tokens or warnings of a text begin at the same place.
* `Lexing.warning_lt_eof`: the end of a text is behind all of them.
* `Lexer.Recorded`: a lexer has recorded the warnings before an offset.
* `Lexer.recorded_of_next`: it has recorded those before each answer that it gives.
-/

namespace HttpSuite

/-- **No two tokens or warnings begin at the same place**, and they come in the order of their
places. -/
theorem Divided.apart {p : Position} {cs : List Char} {l : Lexing} (h : Divided p cs l) :
    l.tokens.Pairwise (fun t u => t.pos.offset < u.pos.offset) ∧
      l.warnings.Pairwise (fun v w => v.pos.offset < w.pos.offset) ∧
      ∀ w ∈ l.warnings, ∀ t ∈ l.tokens, w.pos.offset ≠ t.pos.offset := by
  -- what follows a token or a stray character begins behind it
  have htoken : ∀ {p : Position} {cs : List Char} {l : Lexing}, Divided p cs l →
      ∀ t ∈ l.tokens, p.offset ≤ t.pos.offset := fun h t ht =>
    h.inOrder.1.1 t.span (List.mem_map_of_mem ht)
  have hwarning : ∀ {p : Position} {cs : List Char} {l : Lexing}, Divided p cs l →
      ∀ w ∈ l.warnings, p.offset ≤ w.pos.offset := fun h w hw =>
    h.inOrder.2.1 w.span (List.mem_map_of_mem hw)
  induction h with
  | finish => simp
  | blank _ _ ih => exact ih
  | comment _ _ _ ih => exact ih
  | @stray p cause c rest l hc h ih =>
    have hpos := c.utf8Size_pos
    have hadvance : (p.advance [c]).offset = p.offset + c.utf8Size := by simp
    obtain ⟨htokens, hwarnings, hne⟩ := ih
    refine ⟨htokens, List.pairwise_cons.2 ⟨fun w hw => ?_, hwarnings⟩, fun w hw t ht => ?_⟩
    · have := hwarning h w hw
      dsimp only
      omega
    · rcases List.mem_cons.1 hw with rfl | hw
      · have := htoken h t ht
        dsimp only
        omega
      · exact hne w hw t ht
  | @token p k text slice rest l hw _ h ih =>
    have hpos := byteLength_pos hw.slice_ne_nil
    have hadvance := Position.advance_offset p slice
    obtain ⟨htokens, hwarnings, hne⟩ := ih
    refine ⟨List.pairwise_cons.2 ⟨fun t ht => ?_, htokens⟩, hwarnings, fun w hw t ht => ?_⟩
    · have := htoken h t ht
      dsimp only
      omega
    · rcases List.mem_cons.1 ht with rfl | ht
      · have := hwarning h w hw
        dsimp only
        omega
      · exact hne w hw t ht
  | unclosed => simp

/-- A token is known by its place. -/
theorem Lexing.eq_of_offset_eq {source : String} {t u : Token} (ht : t ∈ (ofString source).tokens)
    (hu : u ∈ (ofString source).tokens) (h : t.pos.offset = u.pos.offset) : t = u := by
  have hlt := (divided source).apart.1
  obtain ⟨i, hi, rfl⟩ := List.getElem_of_mem ht
  obtain ⟨j, hj, rfl⟩ := List.getElem_of_mem hu
  rw [List.pairwise_iff_getElem] at hlt
  rcases Nat.lt_trichotomy i j with hij | rfl | hij
  · have := hlt i j hi hj hij
    omega
  · rfl
  · have := hlt j i hj hi hij
    omega

theorem Written.ne_eof {k : Token.Kind} {text slice : List Char} (h : Written k text slice) :
    k ≠ .eof := by
  cases h with
  | quoted | reference | number => simp
  | word => exact Token.Kind.ofWord_ne_eof _
  | mark h => exact Token.Kind.punctuation?_ne_eof h

/-- The end of a text is behind all warnings. -/
theorem Lexing.warning_lt_eof {source : String} {t : Token} {w : Warning}
    (ht : t ∈ (ofString source).tokens) (hk : t.kind = .eof)
    (hw : w ∈ (ofString source).warnings) : w.pos.offset < t.pos.offset := by
  obtain ⟨before, slice, after, hsource, hpos, -, ⟨-, rfl, rfl⟩ | ⟨hwritten, -⟩⟩ :=
    standsIn_of_mem ht
  · obtain ⟨c, front, back, hsplit, hstart, -⟩ := (divided source).warning_selects [] rfl w hw
    have hend : t.pos.offset = byteLength (front ++ [c] ++ back) := by
      rw [← hsplit, List.nil_append, hsource, hpos, Position.advance_offset]
      simp
    have hbegin : w.pos.offset = byteLength front := hstart
    have hc := c.utf8Size_pos
    rw [hend, hbegin]
    simp only [byteLength_append, byteLength_cons, byteLength_nil]
    omega
  · exact absurd hk hwritten.ne_eof

/-- The place of what a lexer answers. -/
def Lexer.place : Except LexError Token → Position
  | .ok t => t.pos
  | .error e => e.pos

namespace Lexer

variable {l l' : Lexer} {r : Except LexError Token}

/-- The warnings of a lexer are on text that it has passed. -/
def Behind (l : Lexer) : Prop := ∀ w ∈ l.warnings, w.pos.offset < l.pos.offset

/-- A lexer has recorded just those warnings of `ws`, all warnings of the text, that begin before
the offset `n`. -/
structure Recorded (ws : List Warning) (n : Nat) (l : Lexer) : Prop where
  behind : l.Behind
  run : l.run.warnings = ws
  mem_iff : ∀ w ∈ ws, w ∈ l.warnings ↔ w.pos.offset < n

/-- An error finishes the lexer. -/
theorem finished_of_error {e : LexError} (h : l.scan.1 = .error e) : l.scan.2.finished = true := by
  fun_induction scan l with
  | case1 l _ => cases h
  | case2 l _ => rfl
  | case3 l slice rest _ ih => exact ih h
  | case4 l cause c rest _ ih => exact ih h
  | case5 l kind text slice rest _ => cases h

/-- What one reading step records: it passes stray characters and stops behind its answer. -/
theorem scan_records (hl : l.Behind) :
    (∀ w ∈ l.scan.2.warnings, w.pos.offset < (place l.scan.1).offset) ∧
      (place l.scan.1).offset ≤ l.scan.2.pos.offset := by
  -- skipping moves the lexer on, so what is behind it stays behind it
  have hskip : ∀ (l : Lexer) (slice rest : List Char), l.Behind → (l.skip slice rest).Behind :=
    fun l slice rest hl w hw => by
      have := hl w hw
      rw [skip, Position.advance_offset]
      omega
  fun_induction scan l with
  | case1 l h => exact ⟨hl, Nat.le_refl _⟩
  | case2 l h => exact ⟨hl, Nat.le_refl _⟩
  | case3 l slice rest h ih => exact ih (hskip l slice rest hl)
  | case4 l cause c rest h ih =>
    refine ih fun w hw => ?_
    have hpos := c.utf8Size_pos
    have hadvance : ((l.warn cause c).skip [c] rest).pos.offset = l.pos.offset + c.utf8Size := by
      simp [skip, warn]
    rw [warnings_skip, warnings_warn, List.mem_append, List.mem_singleton] at hw
    rcases hw with hw | rfl
    · have := hl w hw
      omega
    · dsimp only
      omega
  | case5 l kind text slice rest h =>
    refine ⟨hl, ?_⟩
    simp [place, skip, Position.advance_offset]

theorem scan_of_next (h : l.next = (some r, l')) : l.scan = (r, l') := by
  unfold next at h
  split at h
  · cases h
  · obtain ⟨hr, hl⟩ := Prod.mk.inj h
    rw [← Option.some.inj hr, ← hl]

/-- An answer does not change what the whole run warns about. -/
theorem run_warnings_of_next (h : l.next = (some r, l')) :
    l'.run.warnings = l.run.warnings := by
  cases r with
  | ok t => rw [run_of_ok h]
  | error e =>
    have hf := @finished_of_error l e
    rw [scan_of_next h] at hf
    rw [run_of_error h, run_of_finished (hf rfl)]

/-- **A lexer has recorded the warnings before its answer.** -/
theorem recorded_of_next (hl : l.Behind) (h : l.next = (some r, l')) :
    Recorded l.run.warnings (place r).offset l' := by
  have hrun := run_warnings_of_next h
  obtain ⟨hbefore, hle⟩ := scan_records hl
  rw [scan_of_next h] at hbefore hle
  refine ⟨fun w hw => Nat.lt_of_lt_of_le (hbefore w hw) hle, hrun, fun w hw => ⟨hbefore w, ?_⟩⟩
  -- a warning that is still to come is behind the answer
  intro hlt
  rw [← hrun] at hw
  cases hf : l'.finished with
  | true =>
    rw [run_of_finished hf] at hw
    exact hw
  | false =>
    obtain ⟨x, hx⟩ := exists_divided l'.pos l'.rest
    rw [run_of_divided hx rfl rfl hf] at hw
    rcases List.mem_append.1 hw with hw | hw
    · exact hw
    · have hge : l'.pos.offset ≤ w.pos.offset := hx.inOrder.2.1 w.span (List.mem_map_of_mem hw)
      dsimp only at hle
      omega

end Lexer

namespace Lexer.Recorded

variable {l : Lexer} {ws : List Warning} {n : Nat}

/-- What the lexer has recorded is a front of what it warns about in the whole text. -/
theorem exists_rest (h : l.Recorded ws n) : ∃ rest, ws = l.warnings ++ rest := by
  rw [← h.run]
  exact l.exists_run_warnings

theorem mem {w : Warning} (h : l.Recorded ws n) (hw : w ∈ l.warnings) : w ∈ ws := by
  obtain ⟨rest, rfl⟩ := h.exists_rest
  exact List.mem_append_left rest hw

end Lexer.Recorded

end HttpSuite
