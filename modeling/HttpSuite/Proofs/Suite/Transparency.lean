import HttpSuite.Proofs.Parser.Insertion
import HttpSuite.Proofs.Parser.Replay
import HttpSuite.Proofs.Suite.Warnings
import HttpSuite.Proofs.Token.Insertion

/-!
# Unknown items change nothing

An unknown item that ends with a `;` may be written into a request block, right behind its `{` or
behind the `;` or the `}` of another item. The text still parses, to the same suite, places apart.
There is one more warning, on the item, and all other warnings stay, moved by what was put in if
they stood behind it.

* `Warning.displace`: a warning after something was put into its text.
* `Suite.parse_run`: a parse that succeeds is a run over all tokens, and returns all warnings.
* `Suite.unknown_item_transparent`: what becomes of a parse.
-/

namespace HttpSuite

open Token (Kind)
open Grammar

/-- The warning on an unknown item is on all of it, up to its `;`. -/
theorem Grammar.UnknownItem.exists_warningOn {item : List Token} (h : UnknownItem item)
    (m : Method) : ∃ first semi, item.head? = some first ∧ item.getLast? = some semi ∧
      semi.kind = .semicolon ∧
      warningOn m item = some ⟨.skippedItem first.kind first.text, first.pos, semi.stop⟩ := by
  obtain @⟨run, group, semi, ⟨first, rest, hrest, hunknown, -⟩, -, -, hs⟩ := h
  refine ⟨first, semi, by simp [hrest], by simp, hs, ?_⟩
  rw [hrest, List.cons_append, warningOn_skipped hunknown]
  simp

/-- A `{`, a `;` or a `}` ends where it ends. -/
theorem mark_ends {k : Kind} (h : k ∈ [.leftBrace, .semicolon, .rightBrace]) :
    k ≠ .eof ∧ k.isPlain = false ∧ ∀ c, k.continuedBy c = false := by
  simp only [List.mem_cons, List.not_mem_nil, or_false] at h
  rcases h with rfl | rfl | rfl
  all_goals exact ⟨by decide, rfl, fun _ => rfl⟩

theorem Grammar.File.getLast? {ts : List Token} {suite : Suite} (h : File ts suite) :
    ∃ t, ts.getLast? = some t ∧ t.kind = .eof := by
  obtain ⟨-, -, -, he⟩ := h
  exact ⟨_, List.getLast?_concat, he⟩

/-- A warning of a text into which something was put at the place `p`: what stood behind `p` stands
behind `q` now. -/
def Warning.displace (p q : Position) (w : Warning) : Warning :=
  if w.pos.offset < p.offset then w else w.move (.between p q)

namespace Warning

variable {p q : Position} {ws : List Warning}

theorem map_displace_of_lt (h : ∀ w ∈ ws, w.pos.offset < p.offset) :
    ws.map (displace p q) = ws :=
  (List.map_congr_left fun w hw => if_pos (h w hw)).trans (List.map_id ws)

theorem map_displace_of_le (h : ∀ w ∈ ws, p.offset ≤ w.pos.offset) :
    ws.map (displace p q) = ws.map (move (.between p q)) :=
  List.map_congr_left fun w hw => if_neg (Nat.not_lt.2 (h w hw))

/-- **Where the warnings of a text go** if something is put in behind its front `a`: those of the
lexer, and others on tokens before and behind the place. -/
theorem map_displace_of_cut {a b : List Char} {before after : List Token} {e : Option LexError}
    {us vs us' vs' : List Warning} (hfront : Settled {} a before us)
    (hback : Divided (Position.advance {} a) b ⟨after, e, vs⟩)
    (hus : Parser.RaisedOn before us') (hvs : Parser.RaisedOn after vs') :
    (us ++ vs ++ (vs' ++ us')).map (displace (Position.advance {} a) q) =
      us ++ vs.map (move (.between (Position.advance {} a) q)) ++
        (vs'.map (move (.between (Position.advance {} a) q)) ++ us') := by
  obtain ⟨hlt, hlt'⟩ := hfront.lt_of_mem
  have hle := hback.inOrder
  have hoffset : (Position.advance {} a).offset = byteLength a := by
    simp [Position.advance_offset]
  -- warnings on tokens of the front lie before the cut and stay
  have hstay : ∀ v ∈ us', v.pos.offset < byteLength a := fun v hv => by
    obtain ⟨t, ht, hpos⟩ := hus v hv
    rw [hpos]
    exact hlt t ht
  -- those on tokens behind it lie at the cut or after it, and are moved
  have hmove : ∀ v ∈ vs', (Position.advance {} a).offset ≤ v.pos.offset := fun v hv => by
    obtain ⟨t, ht, hpos⟩ := hvs v hv
    rw [hpos]
    exact hle.1.1 t.span (List.mem_map_of_mem ht)
  have hmove' : ∀ v ∈ vs, (Position.advance {} a).offset ≤ v.pos.offset :=
    fun v hv => hle.2.1 v.span (List.mem_map_of_mem hv)
  rw [← hoffset] at hlt' hstay
  simp only [List.map_append, map_displace_of_lt hlt', map_displace_of_le hmove',
    map_displace_of_le hmove, map_displace_of_lt hstay]

end Warning

namespace Suite

variable {source : String} {f : Suite}

/-- At the end of a text the lexer has recorded all its warnings. -/
theorem Ended.recorded_all {l : Lexer} {raised : List Warning} (h : Ended source (.ok f) l raised) :
    l.warnings = (Lexing.ofString source).warnings := by
  obtain ⟨n, hrec, -⟩ := h.recorded
  obtain ⟨rest, hrest⟩ := hrec.exists_rest
  have hapart := (Lexing.divided source).apart.2.1
  -- what is left to record is recorded already, and no warning comes twice
  cases rest with
  | nil => simpa using hrest.symm
  | cons w rest =>
    have hw : w ∈ l.warnings := (h.recorded_iff w).2 ⟨by simp [hrest], trivial⟩
    rw [hrest, List.pairwise_append] at hapart
    exact absurd (hapart.2.2 w hw w List.mem_cons_self) (Nat.lt_irrefl _)

/-- **The run behind a parse**: over all tokens of the text. If it succeeds, so does the parse, and
returns all warnings of the lexer and those that the run has raised. -/
theorem parse_run (hts : (Lexing.ofString source).tokens ≠ []) :
    ∃ s : Parser.State Lexer,
      s.Sees (Lexing.ofString source).tokens (Lexing.ofString source).failure ∧ s.raised = [] ∧
      (Suite.parse source).result = Parser.Outcome.result (Parser.suite s) ∧
      ∀ g s', Parser.suite s = .ok g s' →
        (Suite.parse source).warnings.Perm ((Lexing.ofString source).warnings ++ s'.raised) := by
  rcases start_cases source with ⟨s, hstart, hraised, hsees, hrec⟩ | ⟨e, l, -, hnil, -⟩
  · have hended := ended_of_run hsees hraised hrec
    rw [parse_of_start hstart]
    refine ⟨s, hsees, hraised, rfl, fun g s' hsuite => ?_⟩
    rw [hsuite] at hended ⊢
    rw [← hended.recorded_all]
    exact (List.mergeSort_perm _ _).trans ((List.reverse_perm _).append_left _)
  · exact absurd hnil hts

variable {m : Method} {before after : List Token} {last : Token}

/-- **A parse of the tokens with an item put in**, and the parse of the tokens without it. -/
theorem parse_of_inserted {source' : String} {ρ : Move} {item : List Token} {w : Warning}
    (hparse : (Suite.parse source).result = .ok f)
    (hts : (Lexing.ofString source).tokens = before ++ after)
    (hts' : (Lexing.ofString source').tokens = before ++ (item ++ after.map (Token.move ρ)))
    (hi : UnknownItem item) (hw : warningOn m item = some w) (ha : after ≠ [])
    (hplace : BetweenItems m before after)
    (hlast : ∀ t ∈ before.getLast?, t.kind.isPlain = false) :
    ∃ g us vs, (Suite.parse source').result = .ok g ∧ g.erase = f.erase ∧
      (Suite.parse source).warnings.Perm ((Lexing.ofString source).warnings ++ (vs ++ us)) ∧
      (Suite.parse source').warnings.Perm
        ((Lexing.ofString source').warnings ++ (vs.map (Warning.move ρ) ++ w :: us)) ∧
      Parser.RaisedOn before us ∧ Parser.RaisedOn after vs := by
  obtain ⟨s, hsees, hraised, hresult, hperm⟩ := @parse_run source (by simp [hts, ha])
  obtain ⟨r, hsees', hraised', hresult', hperm'⟩ := @parse_run source' (by simp [hts', ha])
  rw [hts] at hsees
  rw [hts'] at hsees'
  -- a parse that succeeded ran to a state, from which its warnings are known
  obtain ⟨s', hrun⟩ : ∃ s', Parser.suite s = .ok f s' := by
    rw [hresult] at hparse
    cases hsuite : Parser.suite s with
    | ok g s' =>
      rw [hsuite] at hparse
      cases hparse
      exact ⟨s', rfl⟩
    | error err s' =>
      rw [hsuite] at hparse
      cases hparse
  obtain ⟨g, r', us, vs, hrun', herase, hs', hr', hus, hvs⟩ := Parser.suite_of_inserted hi hw ha
    hplace hlast hsees hsees' hraised hraised' hrun
  refine ⟨g, us, vs, by rw [hresult', hrun']; rfl, herase, ?_, ?_, hus, hvs⟩
  · exact hs' ▸ hperm f s' hrun
  · exact hr' ▸ hperm' g r' hrun'

/-- **Unknown items are transparent.** In a text that parses, take a place for an item in a request
block, right behind the `{` of the block or the `;` or the `}` of an item. An unknown item that is
written out there leaves the suite as it is, places apart, and adds one warning to those that the
text had: on the item, from its first token to its `;`. -/
theorem unknown_item_transparent (hparse : (Suite.parse source).result = .ok f)
    (hts : (Lexing.ofString source).tokens = before ++ after)
    (hplace : BetweenItems m before after) (hlast : before.getLast? = some last)
    (hmark : last.kind ∈ [.leftBrace, .semicolon, .rightBrace]) :
    (∃ a b, source.toList = a ++ b ∧ byteLength a = last.stop) ∧
      ∀ a b w item, source.toList = a ++ b → byteLength a = last.stop → UnknownItem item →
        Spelled (Position.advance {} a) w item →
        ∃ f' first semi, item.head? = some first ∧ item.getLast? = some semi ∧
          semi.kind = .semicolon ∧
          (Suite.parse (String.ofList (a ++ w ++ b))).result = .ok f' ∧ f'.erase = f.erase ∧
          (Suite.parse (String.ofList (a ++ w ++ b))).warnings.Perm
            (⟨.skippedItem first.kind first.text, first.pos, semi.stop⟩ ::
              (Suite.parse source).warnings.map
                (.displace (Position.advance {} a) (Position.advance {} (a ++ w)))) := by
  have hmem : last ∈ (Lexing.ofString source).tokens :=
    hts ▸ List.mem_append_left _ (List.mem_of_getLast? hlast)
  obtain ⟨heof, hplain, hends⟩ := mark_ends hmark
  refine ⟨?_, fun a b w item hsource hstop hi hw => ?_⟩
  · obtain ⟨front, slice, back, hsource, -, hstop, -⟩ := Lexing.standsIn_of_mem hmem
    exact ⟨front ++ slice, back, hsource, hstop.symm⟩
  -- the last token is the end of the text, which is not a place for an item
  have hafter : after ≠ [] := by
    rintro rfl
    obtain ⟨t, ht, hk⟩ := (file_of_parse hparse).getLast?
    rw [hts, List.append_nil, hlast] at ht
    exact heof ((Option.some.inj ht) ▸ hk)
  obtain ⟨first, semi, hfirst, hsemi, hk, hwarning⟩ := hi.exists_warningOn m
  have hd := Lexing.divided source
  rw [hsource] at hd
  obtain ⟨us, vs, hwarnings, hfront, hback⟩ :=
    hd.cut hts hlast heof hends (by simpa using hstop.symm)
  have hlexing := Lexing.insert hfront hback hw
  obtain ⟨f', us', vs', hparse', herase, hperm, hperm', hus', hvs'⟩ :=
    parse_of_inserted hparse hts (by rw [hlexing]; rfl) hi hwarning hafter hplace
      (by simp [hlast, hplain])
  refine ⟨f', first, semi, hfirst, hsemi, hk, hparse', herase, hperm'.trans ?_⟩
  have hdisplaced := hperm.map
    (Warning.displace (Position.advance {} a) (Position.advance {} (a ++ w)))
  rw [hwarnings, Warning.map_displace_of_cut hfront hback hus' hvs'] at hdisplaced
  -- the parser raises the warning on the item between those behind the place and those before it
  refine .trans ?_ (hdisplaced.symm.cons _)
  rw [hlexing, ← List.append_assoc, ← List.append_assoc]
  exact List.perm_middle

/-- An item with a `;` within its group, put in before another one. -/
theorem unknown_item_transparent_before_item :
    ∃ f f', (Suite.parse "test t\x7bGET \"/\"\x7bx;\x7d\x7d").result = .ok f ∧
      (Suite.parse "test t\x7bGET \"/\"\x7b y \x7b ; \x7d ; x;\x7d\x7d").result = .ok f' ∧
      f'.erase = f.erase ∧
      (Suite.parse "test t\x7bGET \"/\"\x7b y \x7b ; \x7d ; x;\x7d\x7d").warnings.Perm
        (⟨.skippedItem .ident "y", ⟨16, 1, 17⟩, 25⟩ ::
          (Suite.parse "test t\x7bGET \"/\"\x7bx;\x7d\x7d").warnings.map
            (.displace ⟨15, 1, 16⟩ ⟨26, 1, 27⟩)) := by
  have htest : Written .test ['t', 'e', 's', 't'] ['t', 'e', 's', 't'] :=
    written_of_isNameShaped (show isNameShaped "test" = true by decide)
  have hname : Written .ident ['t'] ['t'] :=
    written_of_isNameShaped (show isNameShaped "t" = true by decide)
  have hget : Written (.method .get) ['G', 'E', 'T'] ['G', 'E', 'T'] :=
    written_of_isNameShaped (show isNameShaped "GET" = true by decide)
  have hpath : Written .str ['/'] ['"', '/', '"'] :=
    .quoted (.plain (by decide) (by decide) .nil)
  have hx : Written .ident ['x'] ['x'] :=
    written_of_isNameShaped (show isNameShaped "x" = true by decide)
  have hy : Written .ident ['y'] ['y'] :=
    written_of_isNameShaped (show isNameShaped "y" = true by decide)
  have hd : Divided {} ['t', 'e', 's', 't', ' ', 't', '\x7b', 'G', 'E', 'T', ' ', '"', '/', '"',
      '\x7b', 'x', ';', '\x7d', '\x7d'] _ :=
    .token htest (by decide) (.blank (by decide) (.token hname (by decide)
      (.token (.mark rfl) (by decide) (.token hget (by decide) (.blank (by decide)
        (.token hpath (by decide) (.token (.mark rfl) (by decide) (.token hx (by decide)
          (.token (.mark rfl) (by decide) (.token (.mark rfl) (by decide)
            (.token (.mark rfl) (by decide) .finish)))))))))))
  have hts : (Lexing.ofString "test t\x7bGET \"/\"\x7bx;\x7d\x7d").tokens =
      [⟨.test, "test", ⟨0, 1, 1⟩, 4⟩, ⟨.ident, "t", ⟨5, 1, 6⟩, 6⟩,
        ⟨.leftBrace, "\x7b", ⟨6, 1, 7⟩, 7⟩, ⟨.method .get, "GET", ⟨7, 1, 8⟩, 10⟩,
        ⟨.str, "/", ⟨11, 1, 12⟩, 14⟩, ⟨.leftBrace, "\x7b", ⟨14, 1, 15⟩, 15⟩] ++
      [⟨.ident, "x", ⟨15, 1, 16⟩, 16⟩, ⟨.semicolon, ";", ⟨16, 1, 17⟩, 17⟩,
        ⟨.rightBrace, "\x7d", ⟨17, 1, 18⟩, 18⟩, ⟨.rightBrace, "\x7d", ⟨18, 1, 19⟩, 19⟩,
        .endOfInput ⟨19, 1, 20⟩] := by
    have hlexing : _ = Lexing.ofString "test t\x7bGET \"/\"\x7bx;\x7d\x7d" :=
      Lexing.divided_iff.1 hd
    rw [← hlexing]
    rfl
  have hplace {kw name left get path block : Token} {after : List Token}
      (h : kinds [kw, name, left] = [.test, .ident, .leftBrace])
      (h' : kinds [get, path, block] = [.method .get, .str, .leftBrace]) :
      BetweenItems .get [kw, name, left, get, path, block] after :=
    .first (.intro (.intro .none .nil .nil) h .nil) h'
  obtain ⟨f, hf⟩ : ∃ f, (Suite.parse "test t\x7bGET \"/\"\x7bx;\x7d\x7d").result = .ok f :=
    ⟨{ tests := [⟨"t", ⟨5, 6⟩, [.request { method := .get, path := "/", span := ⟨7, 10⟩ }]⟩] },
      by cbv⟩
  have hgap : Layout [' '] := .blank (by decide) .nil
  have hspelled : Spelled ⟨15, 1, 16⟩
      [' ', 'y', ' ', '\x7b', ' ', ';', ' ', '\x7d', ' ', ';', ' ']
      [⟨.ident, "y", ⟨16, 1, 17⟩, 17⟩, ⟨.leftBrace, "\x7b", ⟨18, 1, 19⟩, 19⟩,
        ⟨.semicolon, ";", ⟨20, 1, 21⟩, 21⟩, ⟨.rightBrace, "\x7d", ⟨22, 1, 23⟩, 23⟩,
        ⟨.semicolon, ";", ⟨24, 1, 25⟩, 25⟩] :=
    .cons hgap (by simp) hy (.cons hgap (by simp) (.mark rfl) (.cons hgap (by simp) (.mark rfl)
      (.cons hgap (by simp) (.mark rfl) (.cons hgap (by simp) (.mark rfl) (.nil hgap (by simp))))))
  have hitem {y left semi right last : Token}
      (h : kinds [y, left, semi, right, last] =
        [.ident, .leftBrace, .semicolon, .rightBrace, .semicolon]) :
      UnknownItem ([y] ++ [left, semi, right] ++ [last]) := by
    simp only [kinds_cons_eq_cons] at h
    obtain ⟨hy, hl, hs, hr, hlast, -⟩ := h
    refine .intro ⟨y, _, rfl, by simp [Unknown, hy]⟩ (by simp [Plain, hy, Kind.isPlain]) ?_ hlast
    have hinner : Balanced [semi] :=
      .token (by simp [hs]) (by simp [hs]) (by simp [hs]) .nil
    exact .some hl hinner hr
  obtain ⟨f', first, semi, hfirst, hsemi, -, h⟩ :=
    (unknown_item_transparent hf hts (hplace rfl rfl) rfl (by decide)).2
      ['t', 'e', 's', 't', ' ', 't', '\x7b', 'G', 'E', 'T', ' ', '"', '/', '"', '\x7b']
      ['x', ';', '\x7d', '\x7d'] _ _ (by decide) (by decide) (hitem rfl) hspelled
  cases hfirst
  cases hsemi
  exact ⟨f, f', hf, h⟩

end Suite

end HttpSuite
