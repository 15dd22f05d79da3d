import Mathlib.Data.List.Forall2
import HttpSuite.Proofs.Code.Functions
import HttpSuite.Proofs.Suite.Validity
import HttpSuite.Proofs.Suite.WellFormed

/-!
# Which header is sent

A header may be declared more than once: in the configuration and in the block of a request, and
several times in each of them, in different cases. The tables that the parser fills, and the
statements of the code that is written from them, keep the last declaration of a name; what is sent
with a request is the last declaration in its block, or else the last one in the configuration.

* `Grammar.Declares`: the header declarations of a source, block by block.
* `Headers.lastOf_ofList`: a table keeps the last declaration of a name.
* `Suite.headers_sent`: what the code of a suite sends.
-/

namespace HttpSuite

open Token (Kind)
open Grammar
open Code

/-! ### Declarations -/

namespace Grammar

/-- The headers that the configuration declares, one after another. -/
inductive ConfigHeaders : List Token → List Header → Prop
  | none : ConfigHeaders [] []
  | some {kw left right : Token} {ts : List Token} {items : List Config.Item}
      (h : kinds [kw, left, right] = [.config, .leftBrace, .rightBrace])
      (hi : Many ConfigItem ts items) :
      ConfigHeaders (kw :: left :: (ts ++ [right])) (items.filterMap Config.Item.header?)

/-- The headers that the block of a request declares, one after another. What is skipped declares
none. -/
inductive RequestHeaders : List Token → List Header → Prop
  | intro {m : Method} {kw path : Token} {block semi : List Token} {items : List Request.Item}
      (h : kinds [kw, path] = [.method m, .str]) (hb : BlockOption block items)
      (hs : SemicolonOption semi) :
      RequestHeaders (kw :: path :: (block ++ semi)) (items.filterMap Request.Item.header?)

/-- The headers of the request of a statement. -/
inductive StatementHeaders : List Token → List Header → Prop
  | intro {ts us : List Token} {hs : List Header} {as : List Assertion} (h : RequestHeaders ts hs)
      (ha : Many AssertionDecl us as) : StatementHeaders (ts ++ us) hs

/-- The headers of the requests of a test. -/
inductive TestHeaders : List Token → List (List Header) → Prop
  | intro {kw name left right : Token} {ts : List Token} {blocks : List (List Header)}
      (h : kinds [kw, name, left, right] = [.test, .ident, .leftBrace, .rightBrace])
      (hs : Many StatementHeaders ts blocks) :
      TestHeaders (kw :: name :: left :: (ts ++ [right])) blocks

/-- **The header declarations of a source**: those of the configuration, and for each request those
of its block. -/
inductive Declares : List Token → List Header → List (List Header) → Prop
  | intro {cs vs ts : List Token} {eof : Token} {config : List Header} {vars : List Variable}
      {tests : List (List (List Header))} (hc : ConfigHeaders cs config)
      (hv : Many VariableDecl vs vars) (ht : Many TestHeaders ts tests) (he : eof.kind = .eof) :
      Declares (cs ++ vs ++ ts ++ [eof]) config tests.flatten

variable {ts : List Token}

/-- Items that can be read in another way, one by one. -/
theorem Many.transfer {α β γ : Type} {D : List Token → α → Prop} {E : List Token → β → Prop}
    {f : α → γ} {g : β → γ} {as : List α} (hD : Many D ts as)
    (h : ∀ ⦃ts a⦄, D ts a → ∃ b, E ts b ∧ g b = f a) :
    ∃ bs, Many E ts bs ∧ bs.map g = as.map f := by
  induction hD with
  | nil => exact ⟨[], .nil, rfl⟩
  | cons ha _ ih =>
    obtain ⟨b, hb, hg⟩ := h ha
    obtain ⟨bs, hbs, hgs⟩ := ih
    exact ⟨b :: bs, .cons hb hbs, by rw [List.map_cons, List.map_cons, hg, hgs]⟩

/-- The headers of a statement, as a table. -/
def tableOf (st : Statement) : Headers := st.sent.headers

theorem RequestHeaders.requestDecl {hs : List Header} (h : RequestHeaders ts hs) :
    ∃ r, RequestDecl ts r ∧ r.headers = .ofList hs := by
  obtain ⟨hk, hb, hsemi⟩ := h
  exact ⟨_, .intro hk hb hsemi, rfl⟩

theorem RequestDecl.requestHeaders {r : Request} (h : RequestDecl ts r) :
    ∃ hs, RequestHeaders ts hs ∧ .ofList hs = r.headers := by
  obtain ⟨hk, hb, hsemi⟩ := h
  exact ⟨_, .intro hk hb hsemi, rfl⟩

theorem StatementHeaders.statementDecl {hs : List Header} (h : StatementHeaders ts hs) :
    ∃ st, StatementDecl ts st ∧ tableOf st = .ofList hs := by
  obtain @⟨ts, us, hs, as, h, ha⟩ := h
  obtain ⟨r, hr, hheaders⟩ := h.requestDecl
  cases as with
  | nil =>
    cases ha
    exact ⟨.request r, by simpa using StatementDecl.request hr, hheaders⟩
  | cons a as => exact ⟨.checked r (a :: as), .checked hr ha (by simp), hheaders⟩

theorem StatementDecl.statementHeaders {st : Statement} (h : StatementDecl ts st) :
    ∃ hs, StatementHeaders ts hs ∧ .ofList hs = tableOf st := by
  cases h with
  | request h =>
    obtain ⟨hs, hr, hheaders⟩ := h.requestHeaders
    exact ⟨hs, by simpa using StatementHeaders.intro hr .nil, hheaders⟩
  | checked h ha _ =>
    obtain ⟨hs, hr, hheaders⟩ := h.requestHeaders
    exact ⟨hs, .intro hr ha, hheaders⟩

theorem TestHeaders.testDecl {blocks : List (List Header)} (h : TestHeaders ts blocks) :
    ∃ t, TestDecl ts t ∧ t.statements.map tableOf = blocks.map .ofList := by
  obtain ⟨hk, hs⟩ := h
  obtain ⟨sts, hsts, htables⟩ := hs.transfer fun _ _ => StatementHeaders.statementDecl
  exact ⟨_, .intro hk hsts, htables⟩

theorem TestDecl.testHeaders {t : Test} (h : TestDecl ts t) :
    ∃ blocks, TestHeaders ts blocks ∧ blocks.map .ofList = t.statements.map tableOf := by
  obtain ⟨hk, hs⟩ := h
  obtain ⟨blocks, hblocks, htables⟩ := hs.transfer fun _ _ => StatementDecl.statementHeaders
  exact ⟨blocks, .intro hk hblocks, htables⟩

/-- A test description declares headers. -/
theorem File.declares {suite : Suite} (h : File ts suite) :
    ∃ config blocks, Declares ts config blocks := by
  obtain ⟨hc, hv, ht, he⟩ := h
  obtain ⟨tests, htests, -⟩ := ht.transfer fun _ _ => TestDecl.testHeaders
  cases hc with
  | none => exact ⟨_, _, .intro .none hv htests he⟩
  | some hblock =>
    obtain ⟨hk, hi⟩ := hblock
    exact ⟨_, _, .intro (.some hk hi) hv htests he⟩

/-- What declares headers is a test description, whose tables are filled with them. -/
theorem Declares.file {config : List Header} {blocks : List (List Header)}
    (h : Declares ts config blocks) :
    ∃ suite, File ts suite ∧ suite.defaultHeaders = (Headers.ofList config).entries ∧
      (suite.tests.flatMap Test.statements).map tableOf = blocks.map .ofList := by
  obtain @⟨cs, vs, ts, eof, config, vars, declared, hc, hv, ht, he⟩ := h
  obtain ⟨tests, htests, htables⟩ := ht.transfer fun _ _ => TestHeaders.testDecl
  have hall : (tests.flatMap Test.statements).map tableOf = declared.flatten.map .ofList := by
    rw [List.map_flatMap, List.flatMap_def, htables, List.map_flatten]
  cases hc with
  | none => exact ⟨_, .intro .none hv htests he, rfl, hall⟩
  | some hk hi => exact ⟨_, .intro (.some (.intro hk hi)) hv htests he, rfl, hall⟩

end Grammar

/-! ### Tables -/

/-- The last declaration of a name, in any case. -/
def Header.lastOf (name : String) (hs : List Header) : Option Header :=
  (hs.filter fun h => h.name.toLower = name.toLower).getLast?

/-- Where no key comes twice, the last entry for a key is the only one. -/
theorem Headers.lastOf_entries {t : Headers} (h : t.Distinct) (name : String) :
    Header.lastOf name t.entries = t.get? name := by
  have hput : Table.putAll Header.key t.entries [] = t.entries := Table.putAll_of_nodup h
  have hfind := Table.find?_putAll Header.key name.toLower t.entries []
  rw [hput] at hfind
  rw [Headers.get?, hfind]
  exact (Option.or_none).symm

/-- **A table keeps the last declaration of a name.** -/
theorem Headers.lastOf_ofList (hs : List Header) (name : String) :
    Header.lastOf name (Headers.ofList hs).entries = Header.lastOf name hs := by
  rw [Headers.lastOf_entries (Headers.distinct_ofList hs), Headers.get?, Headers.entries_ofList,
    Table.find?_putAll]
  exact Option.or_none

/-! ### Maps -/

/-- The map in which declared headers are set one after another, as `sent` gives their values. -/
def HeaderMap.set (m : HeaderMap) (sent : String → String) (hs : List Header) : HeaderMap :=
  (hs.map fun h => ⟨h.name, sent h.value⟩).foldl HeaderMap.insert m

theorem HeaderMap.get?_set (m : HeaderMap) (sent : String → String) (hs : List Header)
    (name : String) :
    (m.set sent (Headers.ofList hs).entries).get? name =
      ((Header.lastOf name hs).map fun h => sent h.value).or (m.get? name) := by
  have hfilter (hs : List Header) : ((hs.map fun h => (⟨h.name, sent h.value⟩ : Field)).filter
      fun f => f.name.toLower = name.toLower).getLast?.map Field.value =
        (Header.lastOf name hs).map fun h => sent h.value := by
    rw [List.filter_map, List.getLast?_map, Option.map_map]
    rfl
  rw [HeaderMap.set, HeaderMap.get?_foldl_insert, hfilter, Headers.lastOf_ofList]

/-! ### Suites -/

/-- The headers that a request with this table is sent with. -/
def Suite.headersWith (s : Suite) (t : Headers) : HeaderMap :=
  (HeaderMap.set {} id s.defaultHeaders).set s.vars.substitute t.entries

/-- The code of a valid suite sends the default headers as they are written, with those of the
request over them, the variables in place. -/
theorem Suite.sent_events {s : Suite} (hv : s.validate = .ok ()) (settings : Settings) :
    ((s.plan.events settings).foldlM Sender.act {}).map Sender.sent =
      some (((s.tests.flatMap Test.statements).map tableOf).map s.headersWith) := by
  have hdefaults : ∀ f ∈ s.plan.defaults, f.Valid := by
    intro f hf
    obtain ⟨h, hm, rfl⟩ := List.mem_map.1 hf
    exact Suite.defaultHeaders_of_validate hv h hm
  have hfields : ∀ t ∈ s.plan.tests, ∀ e ∈ t.exchanges, ∀ f ∈ e.fields, f.Valid := by
    intro t ht e he f hf
    obtain ⟨test, htest, rfl⟩ := List.mem_map.1 ht
    obtain ⟨st, hst, rfl⟩ := List.mem_map.1 he
    obtain ⟨h, hm, rfl⟩ := List.mem_map.1 hf
    exact (Statement.validate_eq_ok.1 (Suite.statement_of_validate hv test htest st hst)).1 h hm
  have hmap (st : Statement) : (st.plan s.baseUrl? s.vars).headers s.plan.defaultMap =
      s.headersWith (tableOf st) := rfl
  rw [Plan.sent_events hdefaults hfields settings]
  simp only [Suite.plan, List.flatMap_map, Test.plan, List.map_flatMap, List.map_map,
    Function.comp_def] at hmap ⊢
  simp only [hmap]

/-- **Header precedence.** The code of a valid suite, after the comment on its first line, sends one
map of headers for each request, in order. In it a name has the value of its last declaration in the
block of the request, with the variables in place; or else the value of its last declaration in the
configuration, as it is written; or else none. Names are the same in any case, and what is skipped
declares nothing. The first line has the name of the source in it; if that has no line break, the
whole code sends the same. -/
theorem Suite.headers_sent {source : String} {s : Suite}
    (hp : (Suite.parse source).result = .ok s) (hv : s.validate = .ok ()) (settings : Settings)
    (name : String) :
    s.generate settings name = (banner name).render ++ render (s.plan.lines settings) ∧
      (∃ config blocks, Declares (Lexing.ofString source).tokens config blocks) ∧
      ∀ config blocks, Declares (Lexing.ofString source).tokens config blocks →
        ∃ maps, sent (render (s.plan.lines settings)) = some maps ∧
          ('\n' ∉ name.toList → sent (s.generate settings name) = some maps) ∧
          List.Forall₂ (fun (m : HeaderMap) block => ∀ n, m.get? n =
            ((Header.lastOf n block).map fun h => s.vars.substitute h.value).or
              ((Header.lastOf n config).map Header.value)) maps blocks := by
  refine ⟨s.generate_eq settings name, (Suite.file_of_parse hp).declares, fun config blocks hd => ?_⟩
  obtain ⟨hsent, hbanner⟩ :=
    (Plan.does_lines (Suite.named_plan_tests hp) settings).sent_render name
  rw [Suite.sent_events hv] at hsent hbanner
  -- the tables of the suite are filled with the declarations
  obtain ⟨suite, hfile, hconfig, htables⟩ := hd.file
  obtain rfl : s = suite := Except.ok.inj (hp.symm.trans (Suite.parse_of_file hfile))
  refine ⟨_, hsent, hbanner, ?_⟩
  rw [htables, List.map_map, List.forall₂_map_left_iff, List.forall₂_same]
  intro block _ n
  rw [Function.comp_apply, Suite.headersWith, hconfig, HeaderMap.get?_set, HeaderMap.get?_set]
  simp [HeaderMap.get?]

/-- A name that is declared in the config block only, and again in an item that is skipped, and one
that is declared twice in the block of the request, in two cases. -/
theorem Suite.headers_sent_twice :
    ∃ (source : String) (s : Suite) (config : List Header) (blocks : List (List Header))
      (maps : List HeaderMap),
      source = "config \x7b header \"A\" = \"$v\"; \x7d let v = \"2\"; " ++
        "test t \x7b GET \"/\" \x7b header \"B\" = \"1\"; header \"b\" = \"$v\"; " ++
        "x header \"A\" = \"3\"; \x7d expect status = 200; " ++
        "expect body contains \"q\"; \x7d" ∧
      (Suite.parse source).result = .ok s ∧ s.validate = .ok () ∧
      Declares (Lexing.ofString source).tokens config blocks ∧
      sent (s.generate {} "t.test") = some maps ∧
      List.Forall₂ (fun (m : HeaderMap) block => ∀ n, m.get? n =
        ((Header.lastOf n block).map fun h => s.vars.substitute h.value).or
          ((Header.lastOf n config).map Header.value)) maps blocks := by
  obtain ⟨s, hp, hv⟩ : ∃ s : Suite,
      (Suite.parse ("config \x7b header \"A\" = \"$v\"; \x7d let v = \"2\"; " ++
        "test t \x7b GET \"/\" \x7b header \"B\" = \"1\"; header \"b\" = \"$v\"; " ++
        "x header \"A\" = \"3\"; \x7d expect status = 200; " ++
        "expect body contains \"q\"; \x7d")).result = .ok s ∧
      s.validate = .ok () :=
    ⟨{ config := some { headers := ⟨[⟨"A", "$v", ⟨16, 19⟩⟩]⟩ }
       vars := ⟨[⟨"v", "2"⟩]⟩
       tests := [⟨"t", ⟨48, 49⟩, [.checked ⟨.get, "/", ⟨[⟨"b", "$v", ⟨87, 90⟩⟩]⟩, none, ⟨52, 55⟩⟩
         [.status 200 ⟨137, 140⟩, .bodyContains "q"]]⟩] },
      by cbv, by cbv⟩
  obtain ⟨-, ⟨config, blocks, hd⟩, hall⟩ := Suite.headers_sent hp hv {} "t.test"
  obtain ⟨maps, -, hsent, hmaps⟩ := hall config blocks hd
  exact ⟨_, s, config, blocks, maps, rfl, hp, hv, hd, hsent (by decide), hmaps⟩

end HttpSuite
