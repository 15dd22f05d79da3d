import HttpSuite.Proofs.Parser.Items

/-!
# Loops that end

The loops of a parser are written with a guard: they go on only if an item has left less in the
source. No loop needs it. An item takes its first token whatever it does after that, and nothing
gives a token back, so each loop is the plain one. The braces of a skipped group are counted down
only as far as they were counted up.

* `Parser.Descends`: a parser that gives no token back.
* `Parser.Spends`: a parser that takes a token if it begins at one of a certain kind.
* `Parser.Spends.unguarded`: a loop without the guard, and `Parser.loops_unguarded` for all of them.
* `Parser.skipItem_takes`: a skipped item has a token.
* `Parser.skipEnd?_eq`: counting braces with a check that the count does not fall below zero.
-/

namespace HttpSuite

open Token (Kind)
open Grammar

namespace Parser

variable {σ α β : Type} [TokenSource σ] {s s' : State σ} {p : Parser σ α} {f : α → Parser σ β}
  {P Q : Kind → Prop} {k : Kind}

/-! ### What is left in the source -/

/-- At most `n` tokens are left. -/
def atMost (n : Nat) : Invariant σ where
  holds s := s.remaining ≤ n
  fails _ _ := True
  advance := by
    intro s hs
    cases h : advance s with
    | error err s' => trivial
    | ok t s' =>
      by_cases hk : s.current.kind = .eof
      · rw [advance, if_pos hk] at h
        cases h
        exact hs
      · exact Nat.le_trans (Nat.le_of_lt (advance_remaining_lt hk h)) hs
  unexpected _ _ _ := trivial
  status _ _ _ _ _ _ := trivial

/-- **A parser that gives no token back.** -/
def Descends (p : Parser σ α) : Prop := ∀ n, (atMost n : Invariant σ).Keeps p

/-- No more tokens are left than before. -/
theorem Descends.le (hp : Descends p) {a : α} (h : p s = .ok a s') :
    s'.remaining ≤ s.remaining := by
  have hmeets := hp s.remaining (s := s) (Nat.le_refl _)
  rw [h] at hmeets
  exact hmeets

/-- A silent parser gives no token back, since it keeps every invariant. -/
theorem Silent.descends (hp : Silent p) : Descends p := fun _ => hp _

theorem descends_warn (w : Warning) : Descends (warn w : Parser σ Unit) := fun _ _ hs => hs

theorem descends_blockItem (m : Method) : Descends (blockItem m : Parser σ Request.Item) :=
  fun _ => Invariant.keeps_blockItem (fun _ _ _ _ _ h => h) m

/-- **A parser that takes a token** if the current one is of a kind in `P`. -/
def Spends (P : Kind → Prop) (p : Parser σ α) : Prop :=
  ∀ ⦃s s' : State σ⦄ ⦃a : α⦄, P s.current.kind → p s = .ok a s' → s'.remaining < s.remaining

theorem Spends.mono (hp : Spends P p) (h : ∀ k, Q k → P k) : Spends Q p :=
  fun _ _ _ hk ho => hp (h _ hk) ho

/-- A sequence takes a token if its first part does. -/
theorem Spends.bind (hp : Spends P p) (hf : ∀ a, Descends (f a)) : Spends P (p >>= f) := by
  intro s s' b hk h
  obtain ⟨a, s₁, h₁, h₂⟩ := bind_eq_ok.1 h
  exact Nat.lt_of_le_of_lt ((hf a).le h₂) (hp hk h₁)

/-- What is done at a kind may rely on it. -/
theorem spends_kind {g : Kind → Parser σ α} (h : ∀ k, P k → Spends (· = k) (g k)) :
    Spends P (kind >>= g) := by
  intro s s' a hk ho
  rw [kind_bind] at ho
  exact h _ hk rfl ho

theorem spends_advance : Spends (· ≠ .eof) (advance : Parser σ Token) :=
  fun _ _ _ hk h => advance_remaining_lt hk h

theorem spends_unexpected {x : Expected} : Spends P (unexpected x : Parser σ α) :=
  fun _ _ _ _ h => absurd h unexpected_ne_ok

/-- Taking a token of a kind takes one, or fails. -/
theorem spends_expect (hk : k ≠ .eof) : Spends P (expect k : Parser σ Token) := by
  intro s s' t _ h
  obtain ⟨rfl, ha⟩ := Invariant.expect_eq_ok.1 h
  exact advance_remaining_lt hk ha

/-! ### Loops -/

/-- A loop that does not need its guard: it goes on after every item. -/
def Unguarded (more : Kind → Bool) (item : Parser σ α) : Prop :=
  many more item = do
    if more (← kind) then return (← item) :: (← many more item) else return []

/-- **A loop needs no guard** if its items take a token. -/
theorem Spends.unguarded {more : Kind → Bool} (hp : Spends (more ·) p) : Unguarded more p := by
  funext s
  rw [many, kind_bind]
  cases hm : more s.current.kind with
  | false => rfl
  | true =>
    simp only [if_true]
    cases hi : p s with
    | error err s' => rw [bind_of_error hi]
    | ok a s' =>
      rw [bind_of_ok hi]
      simp only [hp hm hi, if_true]
      cases hr : many more p s' with
      | ok as s'' => rw [bind_of_ok hr]; rfl
      | error err s'' => rw [bind_of_error hr]

/-! ### Items of loops -/

theorem descends_pure (a : α) : Descends (pure a : Parser σ α) := fun _ => .pure a

theorem Descends.bind (hp : Descends p) (hf : ∀ a, Descends (f a)) : Descends (p >>= f) :=
  fun n => (hp n).bind fun a => hf a n

theorem descends_expect : Descends (expect k : Parser σ Token) := silent_expect.descends

theorem spends_header : Spends P (header : Parser σ Header) :=
  (spends_expect (by decide)).bind fun _ => descends_expect.bind fun _ => descends_expect.bind
    fun _ => descends_expect.bind fun _ => descends_expect.bind fun _ => descends_pure _

theorem spends_configItem : Spends P (configItem : Parser σ Config.Item) := by
  refine spends_kind fun k _ => ?_
  split
  · rename_i hk
    refine (spends_advance.mono (by rintro _ rfl; rw [hk]; decide)).bind fun _ => ?_
    exact descends_expect.bind fun _ => descends_expect.bind fun _ => descends_expect.bind fun _ =>
      descends_pure _
  · exact spends_header.bind fun _ => descends_pure _

theorem spends_variableDecl : Spends P (variableDecl : Parser σ Variable) := by
  refine (spends_expect (by decide)).bind fun _ => descends_expect.bind fun _ =>
    descends_expect.bind fun _ n => Invariant.keeps_kind.bind fun k => ?_
  dsimp only
  split
  · exact Invariant.keeps_advance.bind fun _ => Invariant.keeps_expect.bind fun _ => .pure _
  · exact Invariant.keeps_unexpected.bind fun _ => Invariant.keeps_expect.bind fun _ => .pure _

theorem spends_assertion : Spends P (assertion : Parser σ Assertion) := by
  exact (spends_expect (by decide)).bind fun _ _ => Invariant.keeps_expectation.bind fun _ =>
    Invariant.keeps_expect.bind fun _ => .pure _

theorem spends_request : Spends P (request : Parser σ Request) := by
  refine spends_kind fun k _ => ?_
  split
  · exact spends_unexpected
  · rename_i m hm
    have hk : k ≠ .eof := by
      rintro rfl
      cases hm
    refine (spends_advance.mono (by rintro _ rfl; exact hk)).bind fun _ => descends_expect.bind
      fun _ n => (Invariant.keeps_block (fun m => descends_blockItem m n) m).bind fun _ =>
        Invariant.keeps_kind.bind fun k' => ?_
    dsimp only
    split
    · exact Invariant.keeps_advance.bind fun _ => .pure _
    · exact .pure _

theorem spends_statement : Spends P (statement : Parser σ Statement) :=
  spends_request.bind fun _ _ => (Invariant.keeps_many Invariant.keeps_assertion).bind fun _ =>
    .pure _

theorem spends_test : Spends P (test : Parser σ Test) :=
  (spends_expect (by decide)).bind fun _ => descends_expect.bind fun _ => descends_expect.bind
    fun _ n =>
      (Invariant.keeps_many (Invariant.keeps_statement fun m => descends_blockItem m n)).bind
        fun _ => Invariant.keeps_close.bind fun _ => .pure _

/-! ### Skipped items -/

/-- A plain token is not the end of the text, so it is taken. -/
theorem spends_plain : Spends (fun k => k.isPlain) (advance : Parser σ Token) :=
  spends_advance.mono fun _ hk => ne_eof_of_isPlain hk

/-- The first item of a loop is taken if there is one. -/
theorem spends_many {more : Kind → Bool} (hp : Spends (more ·) p) (hd : Descends p) :
    Spends (more ·) (many more p) := by
  rw [hp.unguarded]
  refine spends_kind fun k hk => ?_
  rw [if_pos hk]
  refine (hp.mono (by rintro _ rfl; exact hk)).bind fun _ n => ?_
  exact (Invariant.keeps_many (hd n)).bind fun _ => .pure _

/-- Closing braces takes a token at once. -/
theorem spends_closeBraces (depth : Nat) :
    Spends (· ≠ .eof) (closeBraces depth : Parser σ Nat) := by
  rw [closeBraces_eq]
  refine spends_kind fun k hk => ?_
  rw [if_neg hk]
  refine (spends_advance.mono (by rintro _ rfl; exact hk)).bind fun t n => ?_
  split
  · exact .pure _
  · exact Invariant.keeps_closeBraces _

/-- The end of an item takes a token unless there is only the brace behind the item. -/
theorem spends_skipEnd (stop : Nat) :
    Spends (· ≠ .rightBrace) (skipEnd stop : Parser σ Nat) := by
  refine spends_kind fun k hk => ?_
  split
  · exact (spends_advance.mono (by rintro _ rfl; decide)).bind fun _ => descends_pure _
  · refine ((spends_closeBraces 0).mono (by rintro _ rfl; decide)).bind fun stop' n =>
      Invariant.keeps_kind.bind fun k' => ?_
    split
    · exact Invariant.keeps_advance.bind fun _ => .pure _
    · exact .pure _
  · exact absurd rfl hk
  · exact spends_unexpected

/-- **A skipped item has a token.** -/
theorem spends_skipItem : Spends (· ≠ .rightBrace) (skipItem : Parser σ Unit) := by
  intro s s' u hk h
  rw [skipItem, get_bind] at h
  have hend (stop : Nat) : Descends (skipEnd stop : Parser σ Nat) := (silent_skipEnd stop).descends
  cases hp : s.current.kind.isPlain with
  | true =>
    have hplain : Spends (fun k => k.isPlain) (many Kind.isPlain advance : Parser σ (List Token)) :=
      spends_many spends_plain fun _ => Invariant.keeps_advance
    refine hplain.bind (fun passed => ?_) hp h
    exact (hend _).bind fun _ => descends_warn _
  | false =>
    obtain ⟨passed, s₁, h₁, h₂⟩ := bind_eq_ok.1 h
    rw [many_of_not_more (by simpa using hp)] at h₁
    cases h₁
    exact (spends_skipEnd _).bind (fun _ => descends_warn _) hk h₂

theorem spends_body (m : Method) : Spends P (body m : Parser σ String) := by
  refine (spends_expect (by decide)).bind fun _ => descends_expect.bind fun _ =>
    descends_expect.bind fun _ => descends_expect.bind fun _ => ?_
  split
  · exact (descends_warn _).bind fun _ => descends_pure _
  · exact descends_pure _

/-- An item of a block takes a token, unless the block is about to be closed. -/
theorem spends_blockItem (m : Method) :
    Spends (· ≠ .rightBrace) (blockItem m : Parser σ Request.Item) := by
  refine spends_kind fun k hk => ?_
  split
  · exact spends_header.bind fun _ => descends_pure _
  · exact (spends_body m).bind fun _ => descends_pure _
  · exact (spends_skipItem.mono (by rintro _ rfl; exact hk)).bind fun _ => descends_pure _

/-- The same, told by the tokens. -/
theorem skipItem_takes {ts : List Token} {e : Option LexError} {u : Unit} (hs : s.Sees ts e)
    (hk : Unknown s.current.kind) (h : skipItem s = .ok u s') :
    ∃ us vs, ts = us ++ vs ∧ us ≠ [] ∧ s'.Sees vs e := by
  obtain ⟨us, vs, hts, hs', hb, -⟩ := skipItem_sound hs hk h
  exact ⟨us, vs, hts, ne_nil_of_begins hb, hs'⟩

/-! ### Braces -/

/-- The number of open braces after a token of that kind; nothing if none is open to be closed. -/
def depthAfter? (depth : Nat) : Kind → Option Nat
  | .leftBrace => some (depth + 1)
  | .rightBrace => if depth = 0 then none else some (depth - 1)
  | _ => some depth

/-- Takes tokens as `closeBraces` does, and gives nothing if the count of open braces would fall
below zero. -/
def closeBraces? (depth : Nat) : Parser σ (Option Nat) := fun s =>
  if s.current.kind = .eof then .error (.unexpected (.kind .rightBrace) s.current) s
  else
    match advance s with
    | .error e s' => .error e s'
    | .ok t s' =>
      match depthAfter? depth t.kind with
      | none => .ok none s'
      | some depth' =>
        if depth' = 0 then .ok (some t.stop) s'
        else if s'.remaining < s.remaining then closeBraces? depth' s'
        else .ok (some t.stop) s'
termination_by s => s.remaining

/-- Passes over the end of an item as `skipEnd` does, with the count checked. -/
def skipEnd? (stop : Nat) : Parser σ (Option Nat) := do
  match ← kind with
  | .semicolon => return some (← advance).stop
  | .leftBrace => do
    match ← closeBraces? 0 with
    | none => return none
    | some stop => if (← kind) = .semicolon then return some (← advance).stop else return some stop
  | .rightBrace => return some stop
  | _ => unexpected (.kind .rightBrace)

/-- The depth of braces never falls below zero, as one is open. -/
theorem depthAfter?_eq {depth : Nat} (h : depth ≠ 0 ∨ k ≠ .rightBrace) :
    depthAfter? depth k = some (depthAfter depth k) := by
  cases k with
  | rightBrace =>
    have hd : depth ≠ 0 := h.resolve_right fun hk => hk rfl
    rw [depthAfter?, if_neg hd, depthAfter]
  | _ => rfl

/-- **The count of open braces does not fall below zero**, unless it is to begin with a brace that
closes. -/
theorem closeBraces?_eq (depth : Nat) (h : depth ≠ 0 ∨ s.current.kind ≠ .rightBrace) :
    closeBraces? depth s = (some <$> closeBraces depth) s := by
  -- between two braces the count is positive, and it ends at zero
  change closeBraces? depth s = EStateM.map some (closeBraces depth) s
  unfold EStateM.map
  fun_induction closeBraces depth s with
  | case1 depth s hk => rw [closeBraces?, if_pos hk]
  | case2 depth s hk e s' ha => rw [closeBraces?, if_neg hk, ha]
  | case3 depth s hk t s' ha h0 =>
    rw [← Invariant.advance_eq_current ha] at h
    rw [closeBraces?, if_neg hk, ha]
    simp only [depthAfter?_eq h, h0, if_true]
  | case4 depth s hk t s' ha h0 hlt ih =>
    rw [← Invariant.advance_eq_current ha] at h
    rw [closeBraces?, if_neg hk, ha]
    simp only [depthAfter?_eq h, h0, if_false, hlt, if_true]
    exact ih (.inl h0)
  | case5 depth s hk t s' ha h0 hlt => exact absurd (advance_remaining_lt hk ha) hlt

/-- **Passing over an item never counts below zero**, whatever it is. -/
theorem skipEnd?_eq (stop : Nat) :
    (skipEnd? stop : Parser σ (Option Nat)) = some <$> skipEnd stop := by
  funext s
  rw [skipEnd?, skipEnd, map_bind, kind_bind, kind_bind]
  cases hk : s.current.kind with
  | leftBrace =>
    -- the first brace opens, so that there is one to be closed
    have hbraces := closeBraces?_eq (s := s) 0 (.inr (by rw [hk]; decide))
    change closeBraces? 0 s = EStateM.map some (closeBraces 0) s at hbraces
    unfold EStateM.map at hbraces
    dsimp only
    rw [map_bind]
    cases hc : closeBraces 0 s with
    | error err s' =>
      rw [hc] at hbraces
      rw [bind_of_error hbraces, bind_of_error hc]
    | ok n s' =>
      rw [hc] at hbraces
      rw [bind_of_ok hbraces, bind_of_ok hc, map_bind]
      dsimp only
      rw [kind_bind, kind_bind]
      split <;> simp only [map_bind, map_pure]
  | semicolon => simp only [map_bind, map_pure]
  | rightBrace => simp only [map_pure]
  | _ => rfl

/-! ### All loops -/

/-- No loop of the parser needs its guard. -/
structure LoopsUnguarded (σ : Type) [TokenSource σ] : Prop where
  configItems : Unguarded (fun k => k = .baseUrl ∨ k = .header) (configItem : Parser σ Config.Item)
  declarations : Unguarded (· = .letVar) (variableDecl : Parser σ Variable)
  tests : Unguarded (· = .test) (test : Parser σ Test)
  statements : Unguarded (fun k => k.method?.isSome) (statement : Parser σ Statement)
  assertions : Unguarded (· = .expect) (assertion : Parser σ Assertion)
  blockItems : ∀ m, Unguarded (fun k => k ≠ .rightBrace ∧ k ≠ .eof)
    (blockItem m : Parser σ Request.Item)
  plainTokens : Unguarded Kind.isPlain (advance : Parser σ Token)
  braces : ∀ depth, (closeBraces depth : Parser σ Nat) = do
    if (← kind) = .eof then unexpected (.kind .rightBrace)
    else
      let t ← advance
      if depthAfter depth t.kind = 0 then return t.stop
      else closeBraces (depthAfter depth t.kind)

/-- **No loop of the parser needs its guard.** -/
theorem loops_unguarded (σ : Type) [TokenSource σ] : LoopsUnguarded σ where
  configItems := spends_configItem.unguarded
  declarations := spends_variableDecl.unguarded
  tests := spends_test.unguarded
  statements := spends_statement.unguarded
  assertions := spends_assertion.unguarded
  blockItems m := Spends.unguarded ((spends_blockItem m).mono (by simp +contextual))
  plainTokens := spends_plain.unguarded
  braces := closeBraces_eq

end Parser

end HttpSuite
