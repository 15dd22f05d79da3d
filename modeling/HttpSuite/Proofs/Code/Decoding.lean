import Mathlib
import HttpSuite.Proofs.Code.Writing

/-!
# The test file tells the plan

The code of a plan has no lengths in it. Each part of it still tells where it ends: a literal by its
closing quote, a name and a number by the first character that is of another kind, a run of
statements by a line that begins otherwise. Taken apart from the front, it gives back the plan.

* `Exchange.code_append_inj`: the code of a request with its checks.
* `Plan.Test.code_append_inj`: the function of a test, whose name has name characters only.
* `Plan.lines_inj`: the whole file after its first line.
* `Suite.plan_eq_of_generate_eq`: what that says of two texts that parse.
-/

namespace HttpSuite

open Code

namespace Code

/-- A text is not begun by what its own front is long enough to rule out. -/
theorem not_prefix_append {p l : List Char} (z : List Char) (hn : p.length ≤ l.length)
    (h : ¬ p <+: l) : ¬ p <+: l ++ z := fun hp =>
  h (List.prefix_of_prefix_length_le hp (List.prefix_append l z) hn)

/-- What every statement that sets a header begins with. -/
def insertion : List Char := "    headers.".toList

/-- The statements that set headers, before one that sets none. -/
theorem insertFields_append_inj {fs gs : List Field} {x y : List Char}
    (hx : ¬ insertion <+: x) (hy : ¬ insertion <+: y)
    (h : chars (fs.map insertField) ++ x = chars (gs.map insertField) ++ y) : fs = gs ∧ x = y := by
  rw [chars_map, chars_map] at h
  refine flatMap_append_inj insertion (fun _ => True)
    (fun f _ g _ _ _ _ _ => insertField_append_inj) (fun f => ?_) (fun _ => trivial) hx hy trivial
    trivial h
  rw [chars_insertField]
  change "    headers.".toList <+: _
  simp

/-- The statements of checks, before a line that is not indented. -/
theorem checks_append_inj {normalize : Bool} {cs ds : List Check} {x y : List Char}
    (hx : ¬ [' '] <+: x) (hy : ¬ [' '] <+: y)
    (h : chars (cs.map fun c => line 1 (c.code normalize)) ++ x =
      chars (ds.map fun c => line 1 (c.code normalize)) ++ y) : cs = ds ∧ x = y := by
  rw [chars_map, chars_map] at h
  refine flatMap_append_inj [' '] (fun _ => True)
    (fun c _ d _ _ _ _ _ h => ?_) (fun c => ?_) (fun _ => trivial) hx hy trivial trivial h
  · simp only [Check.chars_line, List.append_assoc, List.append_cancel_left_eq] at h
    obtain ⟨hcd, hxy⟩ := Check.code_append_inj h
    exact ⟨hcd, List.append_cancel_left hxy⟩
  · rw [Check.chars_line]
    simp

end Code

theorem Method.name_append_inj {m n : Method} {x y : List Char}
    (h : m.name.toList ++ (", ".toList ++ x) = n.name.toList ++ (", ".toList ++ y)) :
    m = n ∧ x = y := by
  have upper : ∀ m : Method, ∀ c ∈ m.name.toList, c.isUpper = true := by
    intro m
    refine List.all_eq_true.1 ?_
    cases m <;> decide
  obtain ⟨hmn, hxy⟩ := comma_append_inj (upper m) (upper n) (by decide) h
  exact ⟨Method.name_injective (String.toList_inj.1 hmn), hxy⟩

namespace Exchange

/-- The line of a body, if there is one, before the line that sends the request. -/
theorem body_append_inj {a b : Option String} {x y : List Char}
    (h : chars (a.map fun body => line 2 (".body(" ++ literal body ++ ")")).toList ++
        ((line 2 ".send()").chars ++ x) =
      chars (b.map fun body => line 2 (".body(" ++ literal body ++ ")")).toList ++
        ((line 2 ".send()").chars ++ y)) : a = b ∧ x = y := by
  have hsend : (line 2 ".send()").chars = "        .send()\n".toList := by decide
  -- the line of a body and the one that follows without it begin differently
  cases a with
  | none =>
    cases b with
    | none =>
      exact ⟨rfl, by simpa using h⟩
    | some b =>
      simp [chars_cons, chars_bodyLine, hsend] at h
  | some a =>
    cases b with
    | none =>
      simp [chars_cons, chars_bodyLine, hsend] at h
    | some b =>
      simp only [Option.map_some, Option.toList_some, chars_cons, chars_nil, List.append_nil,
        chars_bodyLine, List.append_assoc, List.append_cancel_left_eq] at h
      obtain ⟨hab, hxy⟩ := literal_append_append_inj h
      exact ⟨by rw [hab], List.append_cancel_left hxy⟩

/-- **The code of an exchange** tells the exchange and where it ends, before a line that is not
indented. -/
theorem code_append_inj {normalize : Bool} {e f : Exchange} {x y : List Char}
    (hx : ¬ [' '] <+: x) (hy : ¬ [' '] <+: y)
    (h : chars (e.code normalize) ++ x = chars (f.code normalize) ++ y) : e = f ∧ x = y := by
  have client : ∀ z, ¬ insertion <+: (line 1 "let resp = client").chars ++ z := fun z =>
    not_prefix_append z (by decide) (by decide)
  simp only [Exchange.code, chars_append, chars_cons, chars_nil, List.append_nil, List.append_assoc,
    List.append_cancel_left_eq] at h
  obtain ⟨hfields, h⟩ := insertFields_append_inj (client _) (client _) h
  simp only [chars_requestLine, List.append_assoc, List.append_cancel_left_eq] at h
  obtain ⟨hmethod, h⟩ := Method.name_append_inj h
  obtain ⟨hurl, h⟩ := literal_append_append_inj h
  obtain ⟨hbody, h⟩ := body_append_inj (List.append_cancel_left h)
  -- the message of a request that fails says its method and URL again
  rw [hmethod, hurl] at h
  simp only [List.append_cancel_left_eq] at h
  obtain ⟨hchecks, hxy⟩ := checks_append_inj hx hy h
  obtain ⟨⟩ := e
  obtain ⟨⟩ := f
  simp_all

end Exchange

namespace Plan

variable {normalize : NormalizeBody}

/-- The exchanges of a test, before the end of its function. -/
theorem exchanges_append_inj {normalize : Bool} {es fs : List Exchange} {x y : List Char}
    (h : chars (es.flatMap (Exchange.code normalize)) ++ (chars functionEnd ++ x) =
      chars (fs.flatMap (Exchange.code normalize)) ++ (chars functionEnd ++ y)) :
    es = fs ∧ chars functionEnd ++ x = chars functionEnd ++ y := by
  have hend : ∀ c z, c ≠ '\x7d' → ¬ [c] <+: chars functionEnd ++ z := by
    intro c z hc
    have : chars functionEnd = ['\x7d', '\n', '\n'] := by decide
    simp [this, hc]
  rw [chars_flatMap, chars_flatMap] at h
  refine flatMap_append_inj ['\n'] (fun x => ¬ [' '] <+: x)
    (fun e _ f _ _ _ => Exchange.code_append_inj) (fun e => ?_) (fun {x} hx => ?_)
    (hend _ _ (by decide)) (hend _ _ (by decide)) (hend _ _ (by decide)) (hend _ _ (by decide)) h
  · simp only [Exchange.code, chars_append, chars_cons, List.append_assoc]
    exact List.IsPrefix.trans (by decide) (List.prefix_append _ _)
  · obtain ⟨z, rfl⟩ := hx
    simp

theorem Test.code_append_inj {t u : Plan.Test} {x y : List Char} (ht : t.Named) (hu : u.Named)
    (h : chars (t.code normalize) ++ x = chars (u.code normalize) ++ y) : t = u ∧ x = y := by
  simp only [Test.code, chars_append, chars_cons, chars_nil, List.append_assoc, List.cons_append,
    List.append_cancel_left_eq, Test.chars_header] at h
  -- the name ends at the bracket, which is no name character
  obtain ⟨hname, h⟩ := append_inj_of_all ht hu (by decide) (by decide) h
  simp only [List.cons.injEq, true_and, List.append_cancel_left_eq] at h
  -- the name also decides how the checks of the test compare bodies
  rw [String.toList_inj.1 hname] at h
  obtain ⟨hexchanges, hxy⟩ := exchanges_append_inj h
  have htu : (⟨t.name, t.exchanges⟩ : Plan.Test) = ⟨u.name, u.exchanges⟩ := by
    rw [String.toList_inj.1 hname, hexchanges]
  exact ⟨htu, List.append_cancel_left hxy⟩

theorem Test.begins (normalize : NormalizeBody) (t : Plan.Test) :
    ['#'] <+: chars (t.code normalize) := by
  simp only [Test.code, chars_append, chars_cons, List.append_assoc]
  exact List.IsPrefix.trans (by decide) (List.prefix_append _ _)

theorem tests_inj {ts us : List Plan.Test} (ht : ∀ t ∈ ts, t.Named) (hu : ∀ u ∈ us, u.Named)
    (h : chars (ts.flatMap (Test.code normalize)) = chars (us.flatMap (Test.code normalize))) :
    ts = us := by
  rw [chars_flatMap, chars_flatMap] at h
  exact (flatMap_append_inj ['#'] (fun _ => True) (x := []) (y := [])
    (fun t hm u hn _ _ _ _ => Test.code_append_inj (ht t hm) (hu u hn)) (Test.begins normalize)
    (fun _ => trivial) (by simp) (by simp) trivial trivial (by simpa using h)).1

theorem tests_ne_helper {ts : List Plan.Test} (z : List Char) :
    chars (ts.flatMap (Test.code normalize)) ≠ chars normalizeFunction ++ z := by
  intro h
  have hf : ['f'] <+: chars normalizeFunction ++ z :=
    List.IsPrefix.trans (by decide) (List.prefix_append _ _)
  rw [← h, chars_flatMap] at hf
  cases ts with
  | nil => simp at hf
  | cons t ts =>
    obtain ⟨u, hu⟩ := Test.begins normalize t
    rw [List.flatMap_cons, ← hu] at hf
    simp at hf

/-- The helper that removes whitespace stands before the tests or does not: the first character
tells. -/
theorem helper_append_inj {a b : Bool} {ts us : List Plan.Test}
    (h : chars (if a then normalizeFunction else []) ++ chars (ts.flatMap (Test.code normalize)) =
      chars (if b then normalizeFunction else []) ++ chars (us.flatMap (Test.code normalize))) :
    chars (ts.flatMap (Test.code normalize)) = chars (us.flatMap (Test.code normalize)) := by
  cases a with
  | true =>
    cases b with
    | true => exact List.append_cancel_left h
    | false => exact absurd h.symm (tests_ne_helper _)
  | false =>
    cases b with
    | true => exact absurd h (tests_ne_helper _)
    | false => exact h

/-- **The lines of a plan** tell the plan. -/
theorem lines_inj {settings : Settings} {p q : Plan} (hp : ∀ t ∈ p.tests, t.Named)
    (hq : ∀ t ∈ q.tests, t.Named) (h : chars (p.lines settings) = chars (q.lines settings)) :
    p = q := by
  have end' : ∀ z, ¬ insertion <+: (line 1 "headers").chars ++ z := fun z =>
    not_prefix_append z (by decide) (by decide)
  simp only [Plan.lines, defaultsFunction, chars_append, chars_cons, chars_nil, List.append_nil,
    List.append_assoc, List.append_cancel_left_eq] at h
  obtain ⟨hdefaults, h⟩ := insertFields_append_inj (end' _) (end' _) h
  simp only [List.append_cancel_left_eq] at h
  have htests := tests_inj hp hq (helper_append_inj h)
  have hpq : (⟨p.defaults, p.tests⟩ : Plan) = ⟨q.defaults, q.tests⟩ := by rw [hdefaults, htests]
  exact hpq

end Plan

variable {a b : String} {f g : Suite}

/-- **The test file tells the plan.** Two texts whose suites give the same file, under the same
settings and for the same name of the source, do the same. -/
theorem Suite.plan_eq_of_generate_eq (hf : (Suite.parse a).result = .ok f)
    (hg : (Suite.parse b).result = .ok g) (settings : Settings) (source : String)
    (h : f.generate settings source = g.generate settings source) : f.plan = g.plan := by
  have hc := congrArg String.toList h
  simp only [Suite.generate, Plan.code, toList_render, chars_cons, List.append_cancel_left_eq] at hc
  exact Plan.lines_inj (Suite.named_plan_tests hf) (Suite.named_plan_tests hg) hc

/-- A path with a quote that a variable gives, and the same path written out. -/
theorem Suite.plan_eq_of_variable_path :
    ∃ f g : Suite,
      (Suite.parse "let p = \"/\\\"q\"; test t \x7b GET \"$p\"; \x7d").result = .ok f ∧
      (Suite.parse "test t \x7b GET \"/\\\"q\"; \x7d").result = .ok g ∧
      f.generate {} "t.test" = g.generate {} "t.test" ∧ f.plan = g.plan := by
  obtain ⟨f, hf, hfp⟩ : ∃ f : Suite,
      (Suite.parse "let p = \"/\\\"q\"; test t \x7b GET \"$p\"; \x7d").result = .ok f ∧
      f.plan = ⟨[], [⟨"t", [⟨.get, "http://localhost:8080/\"q", [], none, []⟩]⟩]⟩ :=
    ⟨{ vars := ⟨[⟨"p", "/\"q"⟩]⟩
       tests := [⟨"t", ⟨21, 22⟩, [.request ⟨.get, "$p", {}, none, ⟨25, 28⟩⟩]⟩] },
      by cbv, by decide +kernel⟩
  obtain ⟨g, hg, hgp⟩ : ∃ g : Suite,
      (Suite.parse "test t \x7b GET \"/\\\"q\"; \x7d").result = .ok g ∧
      g.plan = ⟨[], [⟨"t", [⟨.get, "http://localhost:8080/\"q", [], none, []⟩]⟩]⟩ :=
    ⟨{ tests := [⟨"t", ⟨5, 6⟩, [.request ⟨.get, "/\"q", {}, none, ⟨9, 12⟩⟩]⟩] },
      by cbv, by decide +kernel⟩
  have hgen : f.generate {} "t.test" = g.generate {} "t.test" :=
    congrArg (Plan.code {} "t.test") (hfp.trans hgp.symm)
  exact ⟨f, g, hf, hg, hgen, Suite.plan_eq_of_generate_eq hf hg {} "t.test" hgen⟩

end HttpSuite
