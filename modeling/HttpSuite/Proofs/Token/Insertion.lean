import HttpSuite.Proofs.Token.Layout
import HttpSuite.Proofs.Token.Recording

/-!
# Tokens put into a text

Behind a `;`, a `{` or a `}` other tokens may be written into a text. What stands before the place
is divided as before, what is put in into its own tokens, and what stands behind the place is
divided as before as well, moved by what was put in.

* `Move`: new places for tokens and warnings.
* `Divided.move`: the same text in another place.
* `Settled`: a text that is divided in the same way whatever follows.
* `Divided.cut`: a text is settled up to a token that nothing makes longer.
* `Spelled`: tokens written out, with layout before, between and behind them.
* `Lexing.insert`: the lexing of a text with tokens put into it.
-/

namespace HttpSuite

open Token (Kind)
open Text

/-! ### Places -/

/-- New places: for what begins at a position, and for what ends at an offset. -/
structure Move where
  pos : Position → Position
  stop : Nat → Nat

/-- Everything stays where it is. -/
def Move.rest : Move := ⟨fun p => p, fun n => n⟩

/-- A token in its new place. -/
def Token.move (ρ : Move) (t : Token) : Token :=
  { t with pos := ρ.pos t.pos, stop := ρ.stop t.stop }

/-- A warning in its new place. -/
def Warning.move (ρ : Move) (w : Warning) : Warning :=
  { w with pos := ρ.pos w.pos, stop := ρ.stop w.stop }

/-- A lexical error in its new place. -/
def LexError.move (ρ : Move) : LexError → LexError
  | .unterminated pos => .unterminated (ρ.pos pos)

/-- A lexing in its new place. -/
def Lexing.move (ρ : Move) (l : Lexing) : Lexing where
  tokens := l.tokens.map (Token.move ρ)
  failure := l.failure.map (LexError.move ρ)
  warnings := l.warnings.map (Warning.move ρ)

@[simp]
theorem Token.map_move_rest (ts : List Token) : ts.map (Token.move .rest) = ts :=
  List.map_id ts

@[simp]
theorem Warning.map_move_rest (ws : List Warning) : ws.map (Warning.move .rest) = ws :=
  List.map_id ws

namespace Position

variable {p q x : Position}

/-- The place `x` of a text that began at `p` and begins at `q` now. Only the columns of the first
line change. -/
def move (x p q : Position) : Position where
  offset := x.offset - p.offset + q.offset
  line := x.line - p.line + q.line
  column := if x.line = p.line then x.column - p.column + q.column else x.column

/-- The place `x` is in a text that begins at `p`. -/
structure Reaches (p x : Position) : Prop where
  offset : p.offset ≤ x.offset
  line : p.line ≤ x.line
  column : x.line = p.line → p.column ≤ x.column

theorem Reaches.refl (p : Position) : p.Reaches p :=
  ⟨Nat.le_refl _, Nat.le_refl _, fun _ => Nat.le_refl _⟩

/-- A place is reached character by character. -/
theorem Reaches.step (h : p.Reaches x) (c : Char) : p.Reaches (x.step c) := by
  obtain ⟨ho, hl, hc⟩ := h
  unfold Position.step
  split
  · exact ⟨by dsimp only; omega, by dsimp only; omega, by dsimp only; omega⟩
  · exact ⟨by dsimp only; omega, hl, fun h => Nat.le_succ_of_le (hc h)⟩

/-- A place is reached by going through a text. -/
theorem Reaches.advance (h : p.Reaches x) (cs : List Char) : p.Reaches (x.advance cs) := by
  induction cs generalizing x with
  | nil => exact h
  | cons c cs ih => exact ih (h.step c)

/-- Moving a place and stepping over a character commute. -/
theorem move_step (h : p.Reaches x) (c : Char) : (x.step c).move p q = (x.move p q).step c := by
  obtain ⟨ho, hl, hc⟩ := h
  unfold Position.step
  split
  · have hline : x.line + 1 ≠ p.line := by omega
    simp only [move, if_neg hline, mk.injEq, and_true]
    omega
  · simp only [move, mk.injEq, true_and]
    split
    · have := hc ‹_›
      omega
    · omega

theorem move_advance (h : p.Reaches x) (cs : List Char) :
    (x.advance cs).move p q = (x.move p q).advance cs := by
  induction cs generalizing x with
  | nil => rfl
  | cons c cs ih => rw [advance_cons, ih (h.step c), move_step h, ← advance_cons]

/-- The place that the move is about comes to its new place. -/
theorem move_self (p q : Position) : p.move p q = q := by
  simp [move]

end Position

/-- What stands behind the place `p` is put behind the place `q`. -/
def Move.between (p q : Position) : Move :=
  ⟨fun x => x.move p q, fun n => n - p.offset + q.offset⟩

/-- The end of a token moves as far as its start, on whatever line it stands. -/
theorem Move.between_stop {p q x : Position} (hx : p.Reaches x) (n : Nat) :
    (between p q).stop (x.offset + n) = (x.move p q).offset + n := by
  have := hx.offset
  simp only [between, Position.move]
  omega

/-- **The same text in another place** is divided in the same way. -/
theorem Divided.move {p q x : Position} {cs : List Char} {l : Lexing} (h : Divided x cs l)
    (hx : p.Reaches x) : Divided (x.move p q) cs (l.move (.between p q)) := by
  -- what follows a part of the text is in it as well
  have hrest {x : Position} (hx : p.Reaches x) (slice : List Char) {rest : List Char} {l : Lexing}
      (ih : p.Reaches (x.advance slice) → Divided ((x.advance slice).move p q) rest l) :
      Divided ((x.move p q).advance slice) rest l := by
    rw [← Position.move_advance hx]
    exact ih (hx.advance slice)
  induction h with
  | finish => exact .finish
  | @blank x c rest l hc _ ih => exact .blank hc (hrest hx [c] ih)
  | @comment x body rest l hb he _ ih => exact .comment hb he (hrest hx _ ih)
  | @stray x cause c rest l hc _ ih =>
    have h := Divided.stray hc (hrest hx [c] ih)
    rw [← Move.between_stop hx] at h
    exact h
  | @token x k text slice rest l hw he _ ih =>
    have h := Divided.token hw he (hrest hx slice ih)
    rw [← Move.between_stop hx] at h
    exact h
  | unclosed h => exact .unclosed h

/-! ### Texts that are settled -/

/-- **A settled text**: it is divided into the tokens `ts` and the warnings `ws`, whatever
follows. -/
def Settled (p : Position) (cs : List Char) (ts : List Token) (ws : List Warning) : Prop :=
  ∀ ⦃rest : List Char⦄ ⦃l : Lexing⦄, Divided (p.advance cs) rest l →
    Divided p (cs ++ rest) { l with tokens := ts ++ l.tokens, warnings := ws ++ l.warnings }

namespace Settled

variable {p : Position} {a b : List Char} {ts us : List Token} {vs ws : List Warning}

/-- What settles a front settles the whole, if the rest is settled from there. -/
theorem append (ha : Settled p a ts vs) (hb : Settled (p.advance a) b us ws) :
    Settled p (a ++ b) (ts ++ us) (vs ++ ws) := by
  intro rest l hl
  rw [Position.advance_append] at hl
  simpa using ha (hb hl)

/-- The text by itself. -/
theorem divided (h : Settled p a ts ws) :
    Divided p a { tokens := ts ++ [.endOfInput (p.advance a)], warnings := ws } := by
  simpa using h .finish

/-- Tokens and warnings begin before the end of the text. -/
theorem lt_of_mem (h : Settled {} a ts ws) :
    (∀ t ∈ ts, t.pos.offset < byteLength a) ∧ ∀ w ∈ ws, w.pos.offset < byteLength a := by
  have hd := h.divided
  have hwarning : ∀ t ∈ (Lexing.ofString (String.ofList a)).tokens, t.kind = .eof →
      ∀ w ∈ (Lexing.ofString (String.ofList a)).warnings, w.pos.offset < t.pos.offset :=
    fun t ht hk w hw => Lexing.warning_lt_eof ht hk hw
  have hend : (Token.endOfInput (Position.advance {} a)).pos.offset = byteLength a := by
    simp [Token.endOfInput, Position.advance_offset]
  rw [← String.toList_ofList (l := a), Lexing.divided_iff, String.toList_ofList] at hd
  constructor
  · intro t ht
    have hlt := (Lexing.divided (String.ofList a)).apart.1
    rw [← hd, List.pairwise_append] at hlt
    rw [← hend]
    exact hlt.2.2 t ht _ (List.mem_singleton.2 rfl)
  · intro w hw
    rw [← hend]
    rw [← hd] at hwarning
    exact hwarning _ (by simp) rfl w hw

/-- Layout settles nothing but places. -/
theorem layout {w : List Char} (hw : Layout w) : Settled p w [] [] := by
  induction hw generalizing p with
  | nil => exact fun _ _ h => h
  | blank hc _ ih => exact fun _ _ h => .blank hc (ih h)
  | @comment body w hb _ ih =>
    intro rest l h
    have hline : p.advance ('/' :: '/' :: (body ++ '\n' :: w)) =
        ((p.advance ('/' :: '/' :: body)).advance ['\n']).advance w := by
      simp [Position.advance_append]
    rw [hline] at h
    simpa using Divided.comment hb (by simp [AtLineEnd]) (.blank (by decide) (ih h))

/-- A token before something that does not make it longer. -/
theorem token {k : Kind} {text slice : List Char} (hw : Written k text slice)
    (he : ∀ rest, k.EndsBefore (b ++ rest)) (hb : Settled (p.advance slice) b us ws) :
    Settled p (slice ++ b)
      (⟨k, String.ofList text, p, p.offset + byteLength slice⟩ :: us) ws := by
  intro rest l h
  rw [Position.advance_append] at h
  rw [List.append_assoc]
  exact .token hw (he rest) (hb h)

end Settled

/-- A text is cut in one way only behind a number of bytes. -/
theorem append_inj_of_byteLength {a b cs ds : List Char} (h : a ++ b = cs ++ ds)
    (hlen : byteLength a = byteLength cs) : a = cs ∧ b = ds := by
  rcases List.append_eq_append_iff.1 h with ⟨s, rfl, rfl⟩ | ⟨s, rfl, rfl⟩
  all_goals
    rw [byteLength_append] at hlen
    obtain rfl : s = [] := byteLength_eq_zero (by omega)
    simp

namespace Divided

variable {p : Position} {a b cs : List Char} {l : Lexing} {before after : List Token}
  {last t : Token}

/-- A token that is not the end of the text ends behind the beginning of the text. -/
theorem lt_stop (h : Divided p cs l) (ht : t ∈ l.tokens) (hk : t.kind ≠ .eof) :
    p.offset < t.stop := by
  have hle (p : Position) (cs : List Char) : p.offset ≤ (p.advance cs).offset := by
    rw [Position.advance_offset]; omega
  induction h with
  | finish =>
    obtain rfl := List.mem_singleton.1 ht
    exact absurd rfl hk
  | @blank p c _ _ _ _ ih => exact Nat.lt_of_le_of_lt (hle p [c]) (ih ht)
  | comment _ _ _ ih => exact Nat.lt_of_le_of_lt (hle _ _) (ih ht)
  | @stray p _ c _ _ _ _ ih => exact Nat.lt_of_le_of_lt (hle p [c]) (ih ht)
  | token hw _ _ ih =>
    rcases List.mem_cons.1 ht with rfl | ht
    · have := byteLength_pos hw.slice_ne_nil
      dsimp only
      omega
    · exact Nat.lt_of_le_of_lt (hle _ _) (ih ht)
  | unclosed => cases ht

/-- The end of a token behind a slice lies behind the whole of it. -/
theorem split_of_stop (slice : List Char) {rest : List Char}
    (h : Divided (p.advance slice) rest l) (ht : t ∈ l.tokens) (hk : t.kind ≠ .eof)
    (hstop : t.stop = p.offset + byteLength a) (hcs : a ++ b = slice ++ rest) :
    ∃ d a', a = slice ++ d :: a' ∧ rest = d :: a' ++ b ∧
      t.stop = (p.advance slice).offset + byteLength (d :: a') := by
  have hlt := h.lt_stop ht hk
  rw [Position.advance_offset] at hlt ⊢
  rcases List.append_eq_append_iff.1 hcs with ⟨s, rfl, rfl⟩ | ⟨a', rfl, rfl⟩
  · rw [byteLength_append] at hlt
    omega
  · rw [byteLength_append] at hstop
    cases a' with
    | nil =>
      rw [byteLength_nil] at hstop
      omega
    | cons d a' => exact ⟨d, a', rfl, rfl, by omega⟩

/-- **A text is settled up to a token that nothing makes longer**, and what follows is divided by
itself. -/
theorem cut (h : Divided p (a ++ b) l) (hts : l.tokens = before ++ after)
    (hlast : before.getLast? = some last) (hk : last.kind ≠ .eof)
    (hends : ∀ c, last.kind.continuedBy c = false) (hstop : last.stop = p.offset + byteLength a) :
    ∃ vs ws, l.warnings = vs ++ ws ∧ Settled p a before vs ∧
      Divided (p.advance a) b { l with tokens := after, warnings := ws } := by
  generalize hcs : a ++ b = cs at h
  have hmem {ts us : List Token} (hts : ts = us ++ after) (hlast : us.getLast? = some last) :
      last ∈ ts :=
    hts ▸ List.mem_append_left _ (List.mem_of_getLast? hlast)
  -- along the division: before the end of the token is reached, the next character of `a` tells
  -- how it goes on
  induction h generalizing a before with
  | finish =>
    obtain rfl := List.mem_singleton.1 (hmem hts hlast)
    exact absurd rfl hk
  | @blank p c rest l hc h ih =>
    obtain ⟨d, a, rfl, rfl, hstop⟩ := split_of_stop [c] h (hmem hts hlast) hk hstop hcs
    obtain ⟨vs, ws, hws, hsettled, hb⟩ := ih hts hlast hstop rfl
    exact ⟨vs, ws, hws, fun rest l hl => .blank hc (hsettled hl), hb⟩
  | @comment p body rest l hbody he h ih =>
    obtain ⟨d, a, rfl, rfl, hstop⟩ := split_of_stop _ h (hmem hts hlast) hk hstop hcs
    obtain ⟨vs, ws, hws, hsettled, hb⟩ := ih hts hlast hstop rfl
    refine ⟨vs, ws, hws, fun rest l hl => ?_, by rwa [Position.advance_append]⟩
    rw [Position.advance_append] at hl
    have he' : AtLineEnd (d :: a ++ rest) := he
    simpa using Divided.comment hbody he' (hsettled hl)
  | @stray p cause c rest l hc h ih =>
    obtain ⟨d, a, rfl, rfl, hstop⟩ := split_of_stop [c] h (hmem hts hlast) hk hstop hcs
    obtain ⟨vs, ws, hws, hsettled, hb⟩ := ih hts hlast hstop rfl
    refine ⟨_ :: vs, ws, congrArg (_ :: ·) hws, fun rest l hl => ?_, hb⟩
    have hc' : Stray cause c (d :: a ++ rest) := hc.of_head? rfl
    exact .stray hc' (hsettled hl)
  | @token p k text slice rest l hw he h ih =>
    match before, hts, hlast with
    | [t], hts, hlast =>
      obtain rfl : t = last := by simpa using hlast
      obtain ⟨rfl, rfl⟩ := List.cons.inj hts
      obtain ⟨rfl, rfl⟩ := append_inj_of_byteLength hcs (by simpa using hstop.symm)
      refine ⟨[], l.warnings, rfl, ?_, h⟩
      exact fun rest l hl => .token hw (fun c _ => hends c) hl
    | t :: u :: before, hts, hlast =>
      obtain ⟨rfl, htail⟩ := List.cons.inj hts
      have hlast : (u :: before).getLast? = some last := by simpa using hlast
      obtain ⟨d, a, rfl, rfl, hstop⟩ := split_of_stop _ h (hmem htail hlast) hk hstop hcs
      obtain ⟨vs, ws, hws, hsettled, hb⟩ := ih htail hlast hstop rfl
      refine ⟨vs, ws, hws, ?_, by rwa [Position.advance_append]⟩
      exact .token hw (fun rest => he) hsettled
  | unclosed => simp at hts; simp [hts] at hlast

end Divided

/-! ### Tokens put in -/

/-- **Tokens written out** from the place `p` on, with layout before, between and behind them. -/
inductive Spelled : Position → List Char → List Token → Prop
  | nil {p : Position} {gap : List Char} (hg : Layout gap) (hne : gap ≠ []) : Spelled p gap []
  | cons {p : Position} {k : Kind} {gap text slice rest : List Char} {ts : List Token}
      (hg : Layout gap) (hne : gap ≠ []) (hw : Written k text slice)
      (h : Spelled (p.advance (gap ++ slice)) rest ts) :
      Spelled p (gap ++ slice ++ rest)
        (⟨k, String.ofList text, p.advance gap, (p.advance (gap ++ slice)).offset⟩ :: ts)

namespace Spelled

variable {p : Position} {w : List Char} {ts : List Token}

/-- It begins with layout, which makes no token longer. -/
theorem endsBefore (h : Spelled p w ts) (k : Kind) (rest : List Char) :
    k.EndsBefore (w ++ rest) := by
  have hgap {gap : List Char} (hg : Layout gap) (hne : gap ≠ []) (rest : List Char) :
      k.EndsBefore (gap ++ rest) := by
    obtain ⟨c, gap, rfl⟩ := List.exists_cons_of_ne_nil hne
    intro d hd
    exact k.not_continuedBy (hg.head? d (by simpa using hd))
  cases h with
  | nil hg hne => exact hgap hg hne rest
  | cons hg hne _ _ =>
    rw [List.append_assoc, List.append_assoc]
    exact hgap hg hne _

/-- **What is written out is settled**, without a warning. -/
theorem settled (h : Spelled p w ts) : Settled p w ts [] := by
  induction h with
  | nil hg _ => exact .layout hg
  | @cons p k gap text slice rest ts hg _ hw h ih =>
    rw [Position.advance_append] at ih h
    have htoken := Settled.token hw (h.endsBefore k) ih
    rw [List.append_assoc]
    simpa [Position.advance_append, Position.advance_offset] using
      (Settled.layout hg).append htoken

end Spelled

/-- **Tokens put into a text**: what stands before them stays, and what stands behind them is
moved. -/
theorem Lexing.insert {a b w : List Char} {before item : List Token} {vs : List Warning}
    {l : Lexing} (ha : Settled {} a before vs) (hb : Divided (Position.advance {} a) b l)
    (hw : Spelled (Position.advance {} a) w item) :
    ofString (String.ofList (a ++ w ++ b)) =
      let m := l.move (.between (Position.advance {} a) (Position.advance {} (a ++ w)))
      ⟨before ++ (item ++ m.tokens), m.failure, vs ++ m.warnings⟩ := by
  have hmove := hb.move (q := Position.advance {} (a ++ w)) (.refl _)
  rw [Position.move_self] at hmove
  have hd := (ha.append hw.settled) hmove
  rw [← String.toList_ofList (l := a ++ w ++ b), divided_iff] at hd
  simpa using hd.symm

end HttpSuite
