import HttpSuite.Proofs.Parser.Errors
import HttpSuite.Proofs.Parser.Noting
import HttpSuite.Proofs.Parser.Warnings
import HttpSuite.Proofs.Token.Recording

/-!
# The warnings of a parse

Warnings come from two sides: the lexer records stray characters, one token ahead of the parser, and
the parser raises those on items of request blocks. A parse returns both, by their place. None is
lost, none comes twice, and if the parse fails these are just the warnings on what was read until
then.

* `Suite.HasRead`, `Suite.HasPassed`: how far a parse came, by its result.
* `Suite.ended_of_run`: what the last state of a run holds.
* `Suite.start_cases`: how the reading of a text begins.
* `Suite.warnings_exact`: the warnings of a parse, in order and within the source.
-/

namespace HttpSuite

open Token (Kind)
open Grammar

/-- A parse of the tokens `ts` with some result has read what stands at an offset: anything if it
succeeded, and else what stands before the token or the quote that it failed at. A number is refused
when the token behind it was fetched. -/
def Suite.HasRead (ts : List Token) : Except ParseError Suite → Nat → Prop
  | .ok _, _ => True
  | .error (.unexpected _ t), n => n < t.pos.offset
  | .error (.statusOutOfRange number), n =>
    ∃ us t vs, ts = us ++ number :: t :: vs ∧ n < t.pos.offset
  | .error (.lexical e), n => n < e.pos.offset
  | .error .exhausted, _ => False

/-- A parse of the tokens `ts` with some result has passed all tokens before `after`: it has fetched
the first one of these as well. -/
def Suite.HasPassed (ts : List Token) : Except ParseError Suite → List Token → Prop
  | .ok _, _ => True
  | .error (.unexpected _ t), after => t ∈ after
  | .error (.statusOutOfRange number), after =>
    ∃ us t vs, ts = us ++ number :: t :: vs ∧ t ∈ after
  | .error (.lexical _), after => after ≠ []
  | .error .exhausted, _ => False

/-! ### What the lexer has recorded -/

namespace Parser

/-- The state that a run ends in. -/
def Outcome.state {σ α : Type} : Outcome σ α → State σ
  | .ok _ s => s
  | .error _ s => s

variable {s : State Lexer} {ws : List Warning}

/-- What the lexer has recorded when a run fails. -/
def RecordedAt (ws : List Warning) : ParseError → State Lexer → Prop
  | .lexical e, s => s.source.Recorded ws e.pos.offset
  | .exhausted, _ => True
  | _, s => s.source.Recorded ws s.current.pos.offset

theorem advance_records (hs : s.source.Recorded ws s.current.pos.offset) :
    Outcome.Meets (fun s => s.source.Recorded ws s.current.pos.offset) (RecordedAt ws)
      (advance s) := by
  unfold advance
  split
  · exact hs
  · split
    · rename_i t l hn
      have h := Lexer.recorded_of_next hs.behind hn
      rw [hs.run] at h
      exact h
    · rename_i e l hn
      have h := Lexer.recorded_of_next hs.behind hn
      rw [hs.run] at h
      exact h
    · trivial

/-- The lexer has recorded the warnings before the current token. -/
def recording (ws : List Warning) : Invariant Lexer where
  holds s := s.source.Recorded ws s.current.pos.offset
  fails := RecordedAt ws
  advance _ hs := advance_records hs
  unexpected _ _ hs := hs
  status := by
    intro s s' n hs _ ha
    have h := advance_records hs
    rw [ha] at h
    exact h

theorem suite_records (hs : s.source.Recorded ws s.current.pos.offset) :
    Outcome.Meets (fun s => s.source.Recorded ws s.current.pos.offset) (RecordedAt ws) (suite s) :=
  (recording ws).keeps_suite (fun _ _ _ _ _ h => h) hs

theorem suite_eof {σ : Type} [TokenSource σ] {s s' : State σ} {a : Suite}
    (h : suite s = .ok a s') : s'.current.kind = .eof := by
  unfold suite at h
  simp only [bind_eq_ok, pure_eq_ok] at h
  obtain ⟨c, s₁, -, vars, s₂, -, tests, s₃, -, eof, s₄, h₄, -, rfl⟩ := h
  unfold close at h₄
  rw [kind_bind] at h₄
  by_cases hk : s₃.current.kind = .eof
  · rw [if_pos hk, advance, if_pos hk] at h₄
    obtain ⟨-, rfl⟩ := EStateM.Result.ok.inj h₄
    exact hk
  · rw [if_neg hk] at h₄
    exact absurd h₄ unexpected_ne_ok

end Parser

/-! ### What the last state of a run holds -/

/-- An item that ends a text was ended by a token, which is not the end of the text. -/
theorem Grammar.ItemBefore.exists_last {item : List Token} (h : ItemBefore item []) :
    ∃ front last, item = front ++ [last] ∧ last.kind ≠ .eof := by
  cases h with
  | header h =>
    obtain @⟨kw, name, eq, value, semi, h⟩ := h
    simp only [kinds_cons_eq_cons] at h
    exact ⟨[kw, name, eq, value], semi, rfl, by rw [h.2.2.2.2.1]; decide⟩
  | body h =>
    obtain @⟨kw, eq, value, semi, h⟩ := h
    simp only [kinds_cons_eq_cons] at h
    exact ⟨[kw, eq, value], semi, rfl, by rw [h.2.2.2.1]; decide⟩
  | skipped _ h =>
    cases h with
    | @semicolon run _ semi _ hs => exact ⟨run, semi, rfl, by rw [hs]; decide⟩
    | @group run inner _ _ left right _ _ _ hr hs =>
      cases hs with
      | none => exact ⟨run ++ left :: inner, right, by simp, by rw [hr]; decide⟩
      | @some semi hs =>
        exact ⟨run ++ left :: (inner ++ [right]), semi, by simp, by rw [hs]; decide⟩
    | unended _ ha =>
      obtain ⟨t, rest, hnil, -⟩ := ha
      cases hnil

theorem Grammar.Due.ne_nil_of_file {ts before after : List Token} {w : Warning} {suite : Suite}
    (h : Due ts before after w) (hf : File ts suite) : after ≠ [] := by
  rintro rfl
  obtain ⟨m, item, hts, -, hi, -⟩ := h
  obtain ⟨front, last, rfl, hlast⟩ := hi.exists_last
  obtain ⟨-, -, -, he⟩ := hf
  rw [List.append_nil, ← List.append_assoc] at hts
  obtain ⟨-, heq⟩ := List.append_inj' hts rfl
  obtain ⟨rfl, -⟩ := List.cons.inj heq
  exact hlast he

/-- **The end of a run** over the tokens of a text with the result `r`: the lexer `l` has recorded
the warnings on what was read, and the parser has raised those that are due on what was passed. -/
structure Suite.Ended (source : String) (r : Except ParseError Suite) (l : Lexer)
    (raised : List Warning) : Prop where
  fetched : r ≠ .error .exhausted
  recorded : ∃ n, l.Recorded (Lexing.ofString source).warnings n ∧
    ∀ w ∈ (Lexing.ofString source).warnings,
      w.pos.offset < n ↔ Suite.HasRead (Lexing.ofString source).tokens r w.pos.offset
  inOrder : (raised.reverse.map Warning.pos).Sublist
    ((Lexing.ofString source).tokens.map Token.pos)
  due_iff : ∀ w, w ∈ raised ↔ ∃ before after, Due (Lexing.ofString source).tokens before after w ∧
    Suite.HasPassed (Lexing.ofString source).tokens r after

namespace Suite

variable {source : String} {s : Parser.State Lexer}

/-- What was raised is due on what was passed, if all tokens before `vs` were. -/
theorem Ended.of_logged {r : Except ParseError Suite} {l : Lexer} {us vs : List Token}
    {raised : List Warning} (hts : (Lexing.ofString source).tokens = us ++ vs)
    (hlog : Parser.Logged us vs raised) (hfetched : r ≠ .error .exhausted)
    (hrec : ∃ n, l.Recorded (Lexing.ofString source).warnings n ∧
      ∀ w ∈ (Lexing.ofString source).warnings,
        w.pos.offset < n ↔ HasRead (Lexing.ofString source).tokens r w.pos.offset)
    (hpassed : ∀ after, vs <:+ after → HasPassed (Lexing.ofString source).tokens r after)
    (hraised : ∀ before after w, Due (Lexing.ofString source).tokens before after w →
      HasPassed (Lexing.ofString source).tokens r after → w ∈ raised) :
    Ended source r l raised where
  fetched := hfetched
  recorded := hrec
  inOrder := by
    rw [hts, List.map_append]
    exact hlog.inOrder.trans (List.sublist_append_left _ _)
  due_iff w := by
    constructor
    · intro hw
      -- a warning that was raised was due at a place behind which all tokens are still to come
      obtain ⟨before, after, hafter, hdue⟩ := hlog.due w hw
      rw [← hts] at hdue
      exact ⟨before, after, hdue, hpassed after hafter⟩
    · rintro ⟨before, after, hdue, hp⟩
      exact hraised before after w hdue hp

/-- **Every run ends so**, whether it succeeds or fails. -/
theorem ended_of_run
    (hs : s.Sees (Lexing.ofString source).tokens (Lexing.ofString source).failure)
    (hr : s.raised = [])
    (hrec : s.source.Recorded (Lexing.ofString source).warnings s.current.pos.offset) :
    Ended source (Parser.Outcome.result (Parser.suite s))
      (Parser.Outcome.state (Parser.suite s)).source
      (Parser.Outcome.state (Parser.suite s)).raised := by
  have hrecords := Parser.suite_records hrec
  have hlogs := Parser.suite_logs hs hr
  have hstops := Parser.suite_stops hs
  have hraises : ∀ before after w, Due (Lexing.ofString source).tokens before after w →
      after ≠ [] → Parser.Outcome.Raises w (Parser.suite s) :=
    fun _ _ _ => Parser.suite_raises hs
  cases h : Parser.suite s with
  | ok suite s' =>
    rw [h] at hrecords hlogs hraises
    obtain ⟨us, vs, hts, ⟨rest, rfl, -⟩, hlog, -⟩ := hlogs
    have hmem : s'.current ∈ (Lexing.ofString source).tokens := by simp [hts]
    refine .of_logged hts hlog (by simp [Parser.Outcome.result]) ⟨_, hrecords, fun w hw => ?_⟩
      (fun _ _ => trivial) fun before after w hd _ => ?_
    · exact ⟨fun _ => trivial, fun _ => Lexing.warning_lt_eof hmem (Parser.suite_eof h) hw⟩
    · exact hraises before after w hd (hd.ne_nil_of_file (Parser.suite_sound hs h))
  | error err s' =>
    rw [h] at hrecords hlogs hstops hraises
    obtain ⟨us, rest, hts, hlog⟩ := hlogs
    cases err with
    | unexpected x t =>
      obtain ⟨-, -, -, rfl, -⟩ := hstops
      exact .of_logged hts hlog (by simp [Parser.Outcome.result])
        ⟨_, hrecords, fun w hw => Iff.rfl⟩ (fun after ha => ha.subset List.mem_cons_self)
        fun before after w hd hp => hraises before after w hd (List.ne_nil_of_mem hp)
    | statusOutOfRange number =>
      obtain ⟨front, _, htokens, back, rfl, -⟩ := hstops
      refine .of_logged hts hlog (by simp [Parser.Outcome.result])
        ⟨_, hrecords, fun w hw => ⟨fun hlt => ⟨front, _, back, htokens, hlt⟩, ?_⟩⟩
        (fun after ha => ⟨front, _, back, htokens, ha.subset List.mem_cons_self⟩) ?_
      · -- the number stands at one place only
        rintro ⟨front', t, back', htokens', hlt⟩
        obtain rfl := Lexing.before_unique htokens htokens'
        have heq := List.append_cancel_left (htokens.symm.trans htokens')
        obtain ⟨rfl, -⟩ := List.cons.inj (List.cons.inj heq).2
        exact hlt
      · rintro before after w hd ⟨_, t, _, -, ht⟩
        exact hraises before after w hd (List.ne_nil_of_mem ht)
    | lexical e =>
      exact .of_logged hts hlog (by simp [Parser.Outcome.result])
        ⟨_, hrecords, fun w hw => Iff.rfl⟩
        (fun after ha => List.ne_nil_of_mem (ha.subset List.mem_cons_self)) hraises
    | exhausted => exact absurd hstops id

/-! ### Both kinds of warnings together -/

variable {r : Except ParseError Suite} {l : Lexer} {raised : List Warning}

theorem Ended.recorded_pairwise (h : Ended source r l raised) :
    l.warnings.Pairwise fun v w => v.pos.offset < w.pos.offset := by
  obtain ⟨n, hrec, -⟩ := h.recorded
  obtain ⟨rest, hrest⟩ := hrec.exists_rest
  have hall := (Lexing.divided source).apart.2.1
  rw [hrest] at hall
  exact (List.pairwise_append.1 hall).1

/-- The lexer has recorded its warnings on what was read. -/
theorem Ended.recorded_iff (h : Ended source r l raised) (w : Warning) :
    w ∈ l.warnings ↔ w ∈ (Lexing.ofString source).warnings ∧
      HasRead (Lexing.ofString source).tokens r w.pos.offset := by
  obtain ⟨n, hrec, hread⟩ := h.recorded
  constructor
  · intro hw
    have hall := hrec.mem hw
    exact ⟨hall, (hread w hall).1 ((hrec.mem_iff w hall).1 hw)⟩
  · rintro ⟨hall, hr⟩
    exact (hrec.mem_iff w hall).2 ((hread w hall).2 hr)

/-- **How the reading of a text begins**: at its first token, or with the error of the lexer if
there is none. -/
theorem start_cases (source : String) :
    (∃ s, Parser.start (Lexer.ofString source) = (.ok s, s.source) ∧ s.raised = [] ∧
      s.Sees (Lexing.ofString source).tokens (Lexing.ofString source).failure ∧
      s.source.Recorded (Lexing.ofString source).warnings s.current.pos.offset) ∨
    ∃ e l, Parser.start (Lexer.ofString source) = (.error (.lexical e), l) ∧
      (Lexing.ofString source).tokens = [] ∧ (Lexing.ofString source).failure = some e ∧
      l.Recorded (Lexing.ofString source).warnings e.pos.offset := by
  have hbehind : (Lexer.ofString source).Behind := by intro w hw; cases hw
  unfold Parser.start
  rcases Lexer.run_supplies (l := Lexer.ofString source) rfl with
    ⟨t, ts, l, hn, hts, hsup⟩ | ⟨e, l, hn, hts, he⟩
  · have hrec := Lexer.recorded_of_next hbehind hn
    rw [show TokenSource.next (Lexer.ofString source) = (some (.ok t), l) from hn]
    exact .inl ⟨{ source := l, current := t }, rfl, rfl, ⟨ts, hts, hsup⟩, hrec⟩
  · have hrec := Lexer.recorded_of_next hbehind hn
    rw [show TokenSource.next (Lexer.ofString source) = (some (.error e), l) from hn]
    exact .inr ⟨e, l, rfl, hts, he, hrec⟩

/-- A parse is the run from its first state, with the warnings of the last one. -/
theorem parse_of_start (h : Parser.start (Lexer.ofString source) = (.ok s, s.source)) :
    Suite.parse source = ⟨Parser.Outcome.result (Parser.suite s),
      (Parser.Outcome.state (Parser.suite s)).allWarnings⟩ := by
  unfold Suite.parse
  rw [h]
  dsimp only
  cases Parser.suite s <;> rfl

/-- **A parse returns what was recorded and what was raised**, by their place. -/
theorem parse_ended (source : String) :
    ∃ l raised, Ended source (Suite.parse source).result l raised ∧
      (Suite.parse source).warnings.Perm (l.warnings ++ raised.reverse) ∧
      (Suite.parse source).warnings.Pairwise fun v w => v.pos.offset ≤ w.pos.offset := by
  rcases start_cases source with ⟨s, hstart, hraised, hsees, hrec⟩ | ⟨e, l, hstart, hts, -, hrec⟩
  · rw [parse_of_start hstart]
    refine ⟨_, _, ended_of_run hsees hraised hrec, List.mergeSort_perm _ _, ?_⟩
    have hsorted : (Parser.Outcome.state (Parser.suite s)).allWarnings.Pairwise
        fun v w => decide (v.pos.offset ≤ w.pos.offset) = true :=
      List.pairwise_mergeSort (fun a b c => by simp; omega) (fun a b => by simp; omega) _
    exact hsorted.imp of_decide_eq_true
  · have hended : Ended source (.error (.lexical e)) l [] := by
      refine ⟨by simp, ⟨_, hrec, fun w hw => Iff.rfl⟩, List.nil_sublist _,
        fun w => ⟨by simp, ?_⟩⟩
      -- without a token there is no item
      rintro ⟨before, after, ⟨m, item, hitem, -⟩, hne⟩
      rw [hts] at hitem
      exact absurd (List.append_eq_nil_iff.1 (List.append_eq_nil_iff.1 hitem.symm).2).2 hne
    have hparse : Suite.parse source = ⟨.error (.lexical e), l.warnings⟩ := by
      unfold Suite.parse
      rw [hstart]
    rw [hparse]
    refine ⟨l, [], hended, by simp, ?_⟩
    exact hended.recorded_pairwise.imp Nat.le_of_lt

/-- What was recorded and what was raised begin at different places. -/
theorem Ended.nodup (h : Ended source r l raised) :
    ((l.warnings ++ raised.reverse).map fun w => w.pos.offset).Nodup := by
  obtain ⟨htokens, -, hne⟩ := (Lexing.divided source).apart
  have hsub := h.inOrder.map Position.offset
  rw [List.map_map, List.map_map] at hsub
  rw [List.map_append, List.nodup_append]
  refine ⟨?_, ?_, fun a ha b hb => ?_⟩
  · exact (List.pairwise_map.2 h.recorded_pairwise).imp Nat.ne_of_lt
  · exact ((List.pairwise_map.2 htokens).sublist hsub).imp Nat.ne_of_lt
  · obtain ⟨w, hw, rfl⟩ := List.mem_map.1 ha
    obtain ⟨t, ht, rfl⟩ := List.mem_map.1 (hsub.subset hb)
    exact hne w ((h.recorded_iff w).1 hw).1 t ht

/-- A warning on a stray character is on its bytes. -/
theorem span_of_lexer_warning {w : Warning} (hw : w ∈ (Lexing.ofString source).warnings) :
    w.span.start < w.span.stop ∧ w.span.stop ≤ byteLength source.toList := by
  obtain ⟨c, before, after, hsource, hstart, hstop⟩ :=
    (Lexing.divided source).warning_selects [] rfl w hw
  have hc := c.utf8Size_pos
  rw [List.nil_append] at hsource
  rw [hstart, hstop, hsource]
  simp only [byteLength_append, byteLength_cons, byteLength_nil]
  omega

theorem span_le_of_mem {t : Token} (ht : t ∈ (Lexing.ofString source).tokens) :
    t.pos.offset ≤ t.stop ∧ t.stop ≤ byteLength source.toList := by
  obtain ⟨slice, ⟨before, after, hsource, hstart, hstop⟩, -⟩ :=
    (Lexing.standsIn_of_mem ht).selects
  dsimp only [Token.span] at hstart hstop
  rw [hstart, hstop, hsource]
  simp only [byteLength_append]
  omega

/-- A warning on an item is on the bytes of the item. -/
theorem span_of_due {w : Warning} {before after : List Token}
    (h : Due (Lexing.ofString source).tokens before after w) :
    w.span.start < w.span.stop ∧ w.span.stop ≤ byteLength source.toList := by
  obtain ⟨m, item, hts, -, hi, hw⟩ := h
  obtain ⟨first, rest, last, rfl, hlast, hpos, hstop⟩ := exists_of_warningOn hw
  have hmem : ∀ t ∈ first :: rest, t ∈ (Lexing.ofString source).tokens := by
    intro t ht
    rw [hts]
    exact List.mem_append_right _ (List.mem_append_left _ ht)
  have hkind : first.kind ≠ .eof := by
    obtain ⟨t, _, heq, ht⟩ := hi.begins
    obtain ⟨rfl, -⟩ := List.cons.inj heq
    simp only [decide_eq_true_eq] at ht
    exact ht.2
  have hlt : first.pos.offset < first.stop :=
    (Lexing.standsIn_of_mem (hmem first List.mem_cons_self)).start_lt_stop hkind
  have hlastle := span_le_of_mem (hmem last hlast)
  -- the last token is the first one, or stands behind it
  have hle : first.stop ≤ last.stop := by
    rcases List.mem_cons.1 hlast with rfl | hrest
    · exact Nat.le_refl _
    · have horder := (Lexing.tokens_inOrder source).2
      rw [hts, List.map_append, List.cons_append, List.map_cons] at horder
      have hnext : first.stop ≤ last.pos.offset :=
        (List.pairwise_cons.1 (List.pairwise_append.1 horder).2.1).1 last.span
          (List.mem_map_of_mem (List.mem_append_left _ hrest))
      omega
  rw [Warning.span, hpos, hstop]
  exact ⟨Nat.lt_of_lt_of_le hlt hle, hlastle.2⟩

/-- No two items have the same warning. -/
theorem before_unique_of_due {w : Warning} {before after before' after' : List Token}
    (h : Due (Lexing.ofString source).tokens before after w)
    (h' : Due (Lexing.ofString source).tokens before' after' w) : before = before' := by
  obtain ⟨m, item, hts, -, -, hw⟩ := h
  obtain ⟨m', item', hts', -, -, hw'⟩ := h'
  obtain ⟨first, rest, -, rfl, -, hpos, -⟩ := exists_of_warningOn hw
  obtain ⟨first', rest', -, rfl, -, hpos', -⟩ := exists_of_warningOn hw'
  -- the warning names the place of the first token, and tokens are told apart by their places
  have hmem : first ∈ (Lexing.ofString source).tokens := by simp [hts]
  have hmem' : first' ∈ (Lexing.ofString source).tokens := by simp [hts']
  obtain rfl := Lexing.eq_of_offset_eq hmem hmem' (by rw [← hpos, hpos'])
  exact Lexing.before_unique hts hts'

/-- **No warning is lost, repeated or out of order.** A parse returns the warnings of the lexer on
what it has read, and one warning on each item of a request block that it has passed and that is
skipped or declares a body which is not sent. They come in the order of their places, no two at the
same place, and each of them is on a part of the source that is not empty. -/
theorem warnings_exact (source : String) :
    (∀ w, w ∈ (Suite.parse source).warnings ↔
      (w ∈ (Lexing.ofString source).warnings ∧
          HasRead (Lexing.ofString source).tokens (Suite.parse source).result w.pos.offset) ∨
        ∃ before after, Due (Lexing.ofString source).tokens before after w ∧
          HasPassed (Lexing.ofString source).tokens (Suite.parse source).result after) ∧
      (∀ w before after before' after', Due (Lexing.ofString source).tokens before after w →
        Due (Lexing.ofString source).tokens before' after' w → before = before') ∧
      (Suite.parse source).warnings.Pairwise (fun v w => v.pos.offset < w.pos.offset) ∧
      (∀ w ∈ (Suite.parse source).warnings,
        w.span.start < w.span.stop ∧ w.span.stop ≤ byteLength source.toList) ∧
      (Suite.parse source).result ≠ .error .exhausted := by
  obtain ⟨l, raised, hended, hperm, hsorted⟩ := parse_ended source
  have hmem : ∀ w, w ∈ (Suite.parse source).warnings ↔ w ∈ l.warnings ∨ w ∈ raised := by
    intro w
    rw [hperm.mem_iff, List.mem_append, List.mem_reverse]
  refine ⟨fun w => ?_, fun _ _ _ _ _ => before_unique_of_due, ?_, fun w hw => ?_, hended.fetched⟩
  · rw [hmem, hended.recorded_iff, hended.due_iff]
  -- the warnings are sorted, and no two stand in the same place
  · have hdistinct : (Suite.parse source).warnings.Pairwise
        fun v w => v.pos.offset ≠ w.pos.offset :=
      List.pairwise_map.1 ((hperm.map _).nodup_iff.2 hended.nodup)
    exact (hsorted.and hdistinct).imp fun h => Nat.lt_of_le_of_ne h.1 h.2
  · rcases (hmem w).1 hw with hw | hw
    · exact span_of_lexer_warning ((hended.recorded_iff w).1 hw).1
    · obtain ⟨before, after, hdue, -⟩ := (hended.due_iff w).1 hw
      exact span_of_due hdue

-- stray characters around a skipped item, one within it, and a body; the parse fails at the number,
-- so that the last stray character is not read
example : (Suite.parse "test t \x7b GET \"/\" \x7b ? x ?; body = \"b\"; \x7d ? 1 ?").warnings.map
    Warning.span = [⟨19, 20⟩, ⟨21, 25⟩, ⟨23, 24⟩, ⟨26, 30⟩, ⟨40, 41⟩] := by
  cbv

end Suite

end HttpSuite
