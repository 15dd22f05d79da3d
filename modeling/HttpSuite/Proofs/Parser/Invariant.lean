import HttpSuite.Proofs.Parser.Agreement

/-!
# Invariants of a parser

A parser touches its state in two ways only: it takes the current token, and it raises a warning. A
property of states that these two keep is kept by every production, and what it becomes when a step
fails is known wherever the parser stops. The productions are gone through once, here.

* `Parser.Invariant`: a property of states, and what becomes of it in an error.
* `Parser.Invariant.Keeps`: a parser keeps it, whether it succeeds or fails.
* `Parser.Invariant.AllowsWarnings`: it bears a warning on a token that a run has come to.
* `Parser.Invariant.keeps_suite`: the parser of test descriptions keeps every such invariant, and
  `Parser.Invariant.keeps_suite_of_items` every one that items of request blocks keep.
* `Parser.Silent`: a parser that keeps every invariant, since it raises no warning.
* `Parser.suite_stops`: where a run stops among its tokens.
* `Parser.Invariant.resume_meets`: an invariant along the calls of a parser that goes on after its
  errors.
-/

namespace HttpSuite

open Token (Kind)

namespace Parser

variable {σ α β : Type}

/-- What is left of a run that ends with `o`, if it holds in states by `P` and in errors by `Q`. -/
def Outcome.Meets (P : State σ → Prop) (Q : ParseError → State σ → Prop) : Outcome σ α → Prop
  | .ok _ s => P s
  | .error x s => Q x s

theorem Outcome.Meets.and {P P' : State σ → Prop} {Q Q' : ParseError → State σ → Prop}
    {o : Outcome σ α} (h : Outcome.Meets P Q o) (h' : Outcome.Meets P' Q' o) :
    Outcome.Meets (fun s => P s ∧ P' s) (fun x s => Q x s ∧ Q' x s) o :=
  match o, h, h' with
  | .ok _ _, h, h' => ⟨h, h'⟩
  | .error _ _, h, h' => ⟨h, h'⟩

variable [TokenSource σ]

/-- **An invariant**: what holds between two steps of a parser, and in its errors. -/
structure Invariant (σ : Type) [TokenSource σ] where
  holds : State σ → Prop
  fails : ParseError → State σ → Prop
  /-- Taking a token keeps it. -/
  advance : ∀ ⦃s : State σ⦄, holds s → Outcome.Meets holds fails (Parser.advance s)
  unexpected : ∀ ⦃s : State σ⦄ (x : Expected), holds s → fails (.unexpected x s.current) s
  /-- A number is refused after it was taken. -/
  status : ∀ ⦃s s' : State σ⦄ ⦃n : Token⦄, holds s → s.current.kind = .number →
    Parser.advance s = .ok n s' → fails (.statusOutOfRange n) s'

namespace Invariant

variable (I : Invariant σ)

/-- A parser that keeps an invariant. -/
def Keeps (p : Parser σ α) : Prop :=
  ∀ ⦃s : State σ⦄, I.holds s → Outcome.Meets I.holds I.fails (p s)

/-- The invariant bears a warning on a token that a run has come to. -/
def AllowsWarnings : Prop :=
  ∀ ⦃s s' : State σ⦄ ⦃w : Warning⦄, I.holds s → w.pos = s.current.pos → I.holds s' →
    I.holds { s' with raised := w :: s'.raised }

/-- **Two invariants together.** -/
def and (I J : Invariant σ) : Invariant σ where
  holds s := I.holds s ∧ J.holds s
  fails x s := I.fails x s ∧ J.fails x s
  advance _ hs := (I.advance hs.1).and (J.advance hs.2)
  unexpected _ x hs := ⟨I.unexpected x hs.1, J.unexpected x hs.2⟩
  status _ _ _ hs hk ha := ⟨I.status hs.1 hk ha, J.status hs.2 hk ha⟩

variable {I J : Invariant σ} {p : Parser σ α} {f : α → Parser σ β} {k : Kind} {x : Expected}

theorem AllowsWarnings.and (hI : I.AllowsWarnings) (hJ : J.AllowsWarnings) :
    (I.and J).AllowsWarnings :=
  fun _ _ _ hs hw hs' => ⟨hI hs.1 hw hs'.1, hJ hs.2 hw hs'.2⟩

/-- A parser that keeps both keeps them together. -/
theorem Keeps.and (hI : I.Keeps p) (hJ : J.Keeps p) : (I.and J).Keeps p :=
  fun _ hs => (hI hs.1).and (hJ hs.2)

theorem Keeps.pure (a : α) : I.Keeps (Pure.pure a : Parser σ α) := fun _ hs => hs

/-- **Sequences.** What follows may rely on what its first part has returned. -/
theorem Keeps.bind_meets {s : State σ} (hp : I.Keeps p) (hs : I.holds s)
    (hf : ∀ a s', p s = .ok a s' → I.holds s' → Outcome.Meets I.holds I.fails (f a s')) :
    Outcome.Meets I.holds I.fails ((p >>= f) s) := by
  have hmeets := hp hs
  cases h : p s with
  | error err s' =>
    rw [h] at hmeets
    rw [bind_of_error h]
    exact hmeets
  | ok a s' =>
    rw [h] at hmeets
    rw [bind_of_ok h]
    exact hf a s' h hmeets

/-- A sequence keeps what both its parts keep. -/
theorem Keeps.bind (hp : I.Keeps p) (hf : ∀ a, I.Keeps (f a)) : I.Keeps (p >>= f) :=
  fun _ hs => hp.bind_meets hs fun a _ _ hs' => hf a hs'

theorem keeps_kind : I.Keeps (kind : Parser σ Kind) := fun _ hs => hs

/-- Taking a token keeps an invariant by its definition. -/
theorem keeps_advance : I.Keeps (Parser.advance : Parser σ Token) := fun _ hs => I.advance hs

theorem keeps_unexpected : I.Keeps (Parser.unexpected x : Parser σ α) := fun _ hs =>
  I.unexpected x hs

theorem keeps_close : I.Keeps (close k x : Parser σ Token) := by
  refine keeps_kind.bind fun k' => ?_
  split
  · exact keeps_advance
  · exact keeps_unexpected

theorem keeps_expect : I.Keeps (expect k : Parser σ Token) := by
  rw [expect_eq_close]
  exact keeps_close

/-- Expecting a token is taking it if it is there. -/
theorem expect_eq_ok {s s' : State σ} {t : Token} :
    expect k s = .ok t s' ↔ s.current.kind = k ∧ Parser.advance s = .ok t s' := by
  unfold expect
  rw [kind_bind]
  split
  · rename_i hk
    simp [hk]
  · rename_i hk
    simp [hk]

/-- What is taken is the current token. -/
theorem advance_eq_current {s s' : State σ} {t : Token} (h : Parser.advance s = .ok t s') :
    t = s.current := by
  unfold Parser.advance at h
  split at h
  · exact (EStateM.Result.ok.inj h).1.symm
  · split at h
    · exact (EStateM.Result.ok.inj h).1.symm
    · cases h
    · cases h

/-- **Loops.** -/
theorem keeps_many {more : Kind → Bool} (hp : I.Keeps p) : I.Keeps (many more p) := by
  intro s hs
  -- the induction is on the loop itself: one case for each way in which a round can end
  fun_induction many more p s with
  | case1 s hm err s₁ hi =>
    have hmeets := hp hs
    rw [hi] at hmeets
    exact hmeets
  | case2 s hm a s₁ hi hlt as s₂ hrec ih =>
    have hmeets := hp hs
    rw [hi] at hmeets
    have hrest := ih hmeets
    rw [hrec] at hrest
    exact hrest
  | case3 s hm a s₁ hi hlt err s₂ hrec ih =>
    have hmeets := hp hs
    rw [hi] at hmeets
    have hrest := ih hmeets
    rw [hrec] at hrest
    exact hrest
  | case4 s hm a s₁ hi hlt =>
    have hmeets := hp hs
    rw [hi] at hmeets
    exact hmeets
  | case5 s hm => exact hs

/-- Closing braces keeps an invariant. The induction is on what is left in the source. -/
theorem keeps_closeBraces (depth : Nat) : I.Keeps (closeBraces depth : Parser σ Nat) := by
  intro s hs
  induction hn : s.remaining using Nat.strongRecOn generalizing s depth with
  | ind n ih =>
  rw [closeBraces_eq, kind_bind]
  split
  · exact I.unexpected _ hs
  · rename_i hk
    have hmeets := I.advance hs
    cases ha : Parser.advance s with
    | error err s' =>
      rw [ha] at hmeets
      rw [bind_of_error ha]
      exact hmeets
    | ok t s' =>
      rw [ha] at hmeets
      rw [bind_of_ok ha]
      split
      · exact hmeets
      · exact ih _ (hn ▸ advance_remaining_lt hk ha) _ hmeets rfl

/-! ### Productions that raise no warning -/

theorem keeps_header : I.Keeps (header : Parser σ Header) :=
  keeps_expect.bind fun _ => keeps_expect.bind fun _ => keeps_expect.bind fun _ =>
    keeps_expect.bind fun _ => keeps_expect.bind fun _ => .pure _

theorem keeps_configItem : I.Keeps (configItem : Parser σ Config.Item) := by
  refine keeps_kind.bind fun k => ?_
  split
  · exact keeps_advance.bind fun _ => keeps_expect.bind fun _ => keeps_expect.bind fun _ =>
      keeps_expect.bind fun _ => .pure _
  · exact keeps_header.bind fun _ => .pure _

theorem keeps_config? : I.Keeps (config? : Parser σ (Option Config)) := by
  refine keeps_kind.bind fun k => ?_
  split
  · refine Keeps.bind ?_ fun _ => .pure _
    exact keeps_expect.bind fun _ => keeps_expect.bind fun _ =>
      (keeps_many keeps_configItem).bind fun _ => keeps_close.bind fun _ => .pure _
  · exact .pure _

/-- A variable, whose value is judged before it is taken. -/
theorem keeps_variableDecl : I.Keeps (variableDecl : Parser σ Variable) := by
  refine keeps_expect.bind fun _ => keeps_expect.bind fun _ => keeps_expect.bind fun _ =>
    keeps_kind.bind fun k => ?_
  dsimp only
  split
  · exact keeps_advance.bind fun _ => keeps_expect.bind fun _ => .pure _
  · exact keeps_unexpected.bind fun _ => keeps_expect.bind fun _ => .pure _

/-- The end of a skipped item takes tokens and nothing else. -/
theorem keeps_skipEnd (stop : Nat) : I.Keeps (skipEnd stop : Parser σ Nat) := by
  refine keeps_kind.bind fun k => ?_
  split
  · exact keeps_advance.bind fun _ => .pure _
  · refine (keeps_closeBraces 0).bind fun stop' => keeps_kind.bind fun k' => ?_
    split
    · exact keeps_advance.bind fun _ => .pure _
    · exact .pure _
  · exact .pure _
  · exact keeps_unexpected

theorem keeps_headerCheck : I.Keeps (headerCheck : Parser σ Assertion) := by
  refine keeps_expect.bind fun _ => keeps_kind.bind fun k => ?_
  split
  · exact keeps_advance.bind fun _ => keeps_expect.bind fun _ => .pure _
  · exact keeps_advance.bind fun _ => keeps_expect.bind fun _ => .pure _
  · exact keeps_unexpected

/-- The one production that fails after it has taken its last token. -/
theorem keeps_statusCode : I.Keeps (statusCode : Parser σ Assertion) := by
  intro s hs
  refine keeps_expect.bind_meets hs fun n s' he hs' => ?_
  by_cases hc : decimal n.text.toList < 65536
  · rw [if_pos hc]
    exact hs'
  · rw [if_neg hc]
    obtain ⟨hk, ha⟩ := expect_eq_ok.1 he
    exact I.status hs hk ha

theorem keeps_expectation : I.Keeps (expectation : Parser σ Assertion) := by
  refine keeps_kind.bind fun k => ?_
  split
  · exact keeps_advance.bind fun _ => keeps_expect.bind fun _ => keeps_statusCode
  · exact keeps_advance.bind fun _ => keeps_headerCheck
  · exact keeps_advance.bind fun _ => keeps_expect.bind fun _ => keeps_expect.bind fun _ => .pure _
  · exact keeps_unexpected

theorem keeps_assertion : I.Keeps (assertion : Parser σ Assertion) :=
  keeps_expect.bind fun _ => keeps_expectation.bind fun _ => keeps_expect.bind fun _ => .pure _

/-! ### Productions that may raise one -/

section Warnings

variable (hw : I.AllowsWarnings)

include hw

/-- A warning on the token that was current before. -/
theorem keeps_warn {s : State σ} {w : Warning} (hs : I.holds s) (hp : w.pos = s.current.pos) :
    I.Keeps (warn w : Parser σ Unit) := fun _ hs' => hw hs hp hs'

/-- A body may raise its warning once its tokens are taken. -/
theorem keeps_body (m : Method) : I.Keeps (body m : Parser σ String) := by
  intro s hs
  refine keeps_expect.bind_meets hs fun keyword s₁ he hs₁ => ?_
  -- the warning is raised at the end, on the token that was taken first
  obtain rfl := advance_eq_current (expect_eq_ok.1 he).2
  refine (keeps_expect.bind fun _ => keeps_expect.bind fun _ => keeps_expect.bind fun _ => ?_) hs₁
  split
  · exact (keeps_warn hw hs rfl).bind fun _ => .pure _
  · exact .pure _

/-- A skipped item raises its warning when its end is known. -/
theorem keeps_skipItem : I.Keeps (skipItem : Parser σ Unit) := by
  intro s hs
  refine Keeps.bind (keeps_many keeps_advance) (fun _ => ?_) hs
  exact (keeps_skipEnd _).bind fun _ => keeps_warn hw hs rfl

/-- The items of a block are the only ones that raise warnings. -/
theorem keeps_blockItem (m : Method) : I.Keeps (blockItem m : Parser σ Request.Item) := by
  refine keeps_kind.bind fun k => ?_
  split
  · exact keeps_header.bind fun _ => .pure _
  · exact (keeps_body hw m).bind fun _ => .pure _
  · exact (keeps_skipItem hw).bind fun _ => .pure _

end Warnings

/-! ### Productions with items in them -/

section Items

variable (hi : ∀ m, I.Keeps (blockItem m : Parser σ Request.Item))

include hi

theorem keeps_block (m : Method) : I.Keeps (block m : Parser σ (List Request.Item)) := by
  refine keeps_kind.bind fun k => ?_
  split
  · exact keeps_advance.bind fun _ => (keeps_many (hi m)).bind fun _ =>
      keeps_expect.bind fun _ => .pure _
  · exact .pure _

theorem keeps_request : I.Keeps (request : Parser σ Request) := by
  refine keeps_kind.bind fun k => ?_
  split
  · exact keeps_unexpected
  · refine keeps_advance.bind fun _ => keeps_expect.bind fun _ => (keeps_block hi _).bind fun _ =>
      keeps_kind.bind fun k' => ?_
    dsimp only
    split
    · exact keeps_advance.bind fun _ => .pure _
    · exact .pure _

theorem keeps_statement : I.Keeps (statement : Parser σ Statement) :=
  (keeps_request hi).bind fun _ => (keeps_many keeps_assertion).bind fun _ => .pure _

theorem keeps_test : I.Keeps (test : Parser σ Test) :=
  keeps_expect.bind fun _ => keeps_expect.bind fun _ => keeps_expect.bind fun _ =>
    (keeps_many (keeps_statement hi)).bind fun _ => keeps_close.bind fun _ => .pure _

/-- **Every production keeps an invariant** that items of request blocks keep. -/
theorem keeps_suite_of_items : I.Keeps (suite : Parser σ Suite) :=
  keeps_config?.bind fun _ => (keeps_many keeps_variableDecl).bind fun _ =>
    (keeps_many (keeps_test hi)).bind fun _ => keeps_close.bind fun _ => .pure _

end Items

/-- **Every production keeps an invariant** that bears warnings on the tokens of a run. -/
theorem keeps_suite (hw : I.AllowsWarnings) : I.Keeps (suite : Parser σ Suite) :=
  keeps_suite_of_items (keeps_blockItem hw)

end Invariant

/-! ### Parsers that raise nothing -/

section Silent

variable {s s' : State σ} {p : Parser σ α} {a : α}

/-- Taking a token leaves the warnings as they are. -/
theorem advance_meets {P : List Warning → Prop} (hs : P s.raised) :
    Outcome.Meets (P ·.raised) (fun _ s' => P s'.raised) (advance s) := by
  unfold advance
  split
  · exact hs
  · split <;> exact hs

/-- An invariant that looks at the warnings only. -/
def raisedOnly (P : List Warning → Prop) : Invariant σ where
  holds s := P s.raised
  fails _ s := P s.raised
  advance _ hs := advance_meets hs
  unexpected _ _ hs := hs
  status := by
    intro s s' n hs _ ha
    have hmeets := advance_meets hs
    rw [ha] at hmeets
    exact hmeets

/-- **A silent parser** keeps every invariant, those that look at the warnings too. -/
def Silent (p : Parser σ α) : Prop := ∀ I : Invariant σ, I.Keeps p

/-- A silent parser leaves the warnings as they are, also where it fails. -/
theorem Silent.meets (hp : Silent p) (s : State σ) :
    Outcome.Meets (·.raised = s.raised) (fun _ s' => s'.raised = s.raised) (p s) :=
  hp (raisedOnly (· = s.raised)) rfl

/-- A silent parser that returns has raised nothing. -/
theorem Silent.raised_eq (hp : Silent p) (h : p s = .ok a s') : s'.raised = s.raised := by
  have hmeets := hp.meets s
  rw [h] at hmeets
  exact hmeets

end Silent

/-! ### Where a run stops -/

/-- A run over the tokens `ts`, which `e` follows, has come to the state `s`. -/
def Within (ts : List Token) (e : Option LexError) (s : State σ) : Prop :=
  ∃ us vs, ts = us ++ vs ∧ s.Sees vs e

/-- A run over the tokens `ts`, which `e` follows, has failed in the state `s`: at the token that it
reports, behind the number that it refuses, or at the last token if it could fetch none after it. -/
def StopsAt (ts : List Token) (e : Option LexError) : ParseError → State σ → Prop
  | .unexpected _ t, s => ∃ us vs, ts = us ++ t :: vs ∧ s.current = t ∧ s.Sees (t :: vs) e
  | .statusOutOfRange n, s => ∃ us vs, ts = us ++ n :: vs ∧ s.Sees vs e
  | .lexical l, s => (∃ us, ts = us ++ [s.current]) ∧ e = some l
  | .exhausted, _ => False

/-- Where a run is among its tokens. -/
def position (ts : List Token) (e : Option LexError) : Invariant σ where
  holds := Within ts e
  fails := StopsAt ts e
  advance := by
    rintro s ⟨us, vs, rfl, rest, rfl, hsup⟩
    unfold Parser.advance
    cases hsup with
    | finish hk =>
      rw [if_pos hk]
      exact ⟨us, _, rfl, [], rfl, .finish hk⟩
    | fail hk hn =>
      rw [if_neg hk, hn]
      exact ⟨⟨us, rfl⟩, rfl⟩
    | step hk hn hsup =>
      rw [if_neg hk, hn]
      exact ⟨us ++ [s.current], _, by simp, _, rfl, hsup⟩
  unexpected := by
    rintro s x ⟨us, vs, rfl, rest, rfl, hsup⟩
    exact ⟨us, rest, rfl, rfl, rest, rfl, hsup⟩
  status := by
    rintro s s' n ⟨us, vs, rfl, hs⟩ hk ha
    obtain ⟨rfl, ws, rfl, hs'⟩ := advance_sound hs (by rw [hk]; decide) ha
    exact ⟨us, ws, rfl, hs'⟩

/-- **Where a run stops.** -/
theorem suite_stops {s : State σ} {ts : List Token} {e : Option LexError} (hs : s.Sees ts e) :
    Outcome.Meets (Within ts e) (StopsAt ts e) (suite s) :=
  (position ts e).keeps_suite (fun _ _ _ _ _ h => h) ⟨[], ts, rfl, hs⟩

/-! ### Call after call -/

namespace Invariant

/-- The invariant holds again behind an error that the parser can go on from. -/
def Recovers (I : Invariant σ) : Prop :=
  ∀ ⦃x : ParseError⦄ ⦃s : State σ⦄, x.isFatal = false → I.fails x s → I.holds s

variable {I J : Invariant σ} {ts : List Token} {e : Option LexError}

theorem Recovers.and (hI : I.Recovers) (hJ : J.Recovers) : (I.and J).Recovers :=
  fun _ _ hf h => ⟨hI hf h.1, hJ hf h.2⟩

/-- What holds of the warnings holds behind any error. -/
theorem recovers_raisedOnly (P : List Warning → Prop) : (raisedOnly P : Invariant σ).Recovers :=
  fun _ _ _ h => h

/-- A run can go on among the same tokens. -/
theorem recovers_position : (position ts e : Invariant σ).Recovers := by
  intro x s hf h
  cases x with
  | unexpected x t =>
    obtain ⟨us, vs, hts, -, hs⟩ := h
    exact ⟨us, t :: vs, hts, hs⟩
  | statusOutOfRange n =>
    obtain ⟨us, vs, hts, hs⟩ := h
    exact ⟨us ++ [n], vs, by simp [hts], hs⟩
  | lexical l => cases hf
  | exhausted => cases hf

/-- **An invariant along all calls**: each error is one that it allows, each suite was read from a
state in which it holds, and the last state is a state between two steps or that of an error. -/
theorem resume_meets (hk : I.Keeps (suite : Parser σ Suite)) (hr : I.Recovers) {s : State σ}
    (hs : I.holds s) (calls : Nat) :
    (∀ x, .error x ∈ (resume calls s).1 → ∃ s', I.fails x s') ∧
      (∀ f, .ok f ∈ (resume calls s).1 → ∃ s₁ s₂, I.holds s₁ ∧ suite s₁ = .ok f s₂) ∧
      (I.holds (resume calls s).2 ∨ ∃ x, I.fails x (resume calls s).2) := by
  -- the induction is on the calls; what is told about the last state is a disjunction, since an
  -- error that is fatal ends the calls where it stands
  induction calls generalizing s with
  | zero =>
    refine ⟨?_, ?_, .inl hs⟩
    · intro x hx
      cases hx
    · intro f hf
      cases hf
  | succ calls ih =>
    have hmeets := hk hs
    rw [resume]
    cases h : suite s with
    | ok suite s' =>
      rw [h] at hmeets
      obtain ⟨herrors, hsuites, hlast⟩ := ih hmeets
      refine ⟨?_, ?_, hlast⟩
      · intro x hx
        rcases List.mem_cons.1 hx with hx | hx
        · cases hx
        · exact herrors x hx
      · intro f hf
        rcases List.mem_cons.1 hf with hf | hf
        · cases hf
          exact ⟨s, s', hs, h⟩
        · exact hsuites f hf
    | error err s' =>
      rw [h] at hmeets
      dsimp only
      cases hf : err.isFatal with
      | true =>
        refine ⟨?_, ?_, .inr ⟨err, hmeets⟩⟩
        · intro x hx
          cases List.mem_singleton.1 hx
          exact ⟨s', hmeets⟩
        · intro f hf
          cases List.mem_singleton.1 hf
      | false =>
        -- any other error leaves a state from which the calls go on, and there the invariant holds
        -- again
        obtain ⟨herrors, hsuites, hlast⟩ := ih (hr hf hmeets)
        refine ⟨?_, ?_, hlast⟩
        · intro x hx
          rcases List.mem_cons.1 hx with hx | hx
          · cases hx
            exact ⟨s', hmeets⟩
          · exact herrors x hx
        · intro f hf
          rcases List.mem_cons.1 hf with hf | hf
          · cases hf
          · exact hsuites f hf

/-- **An invariant along all calls** of the parser of test descriptions, which keeps it. -/
theorem resume_keeps (hw : I.AllowsWarnings) (hr : I.Recovers) {s : State σ} (hs : I.holds s)
    (calls : Nat) :
    (∀ x, .error x ∈ (resume calls s).1 → ∃ s', I.fails x s') ∧
      (I.holds (resume calls s).2 ∨ ∃ x, I.fails x (resume calls s).2) := by
  obtain ⟨herrors, -, hlast⟩ := resume_meets (keeps_suite hw) hr hs calls
  exact ⟨herrors, hlast⟩

end Invariant

end Parser

end HttpSuite
