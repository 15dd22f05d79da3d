import Mathlib
import HttpSuite.Proofs.Substitution
import HttpSuite.Proofs.Suite.WellFormed

/-!
# Variables can be referenced anywhere

What a source declares as a variable is a name that a reference can spell: the lexer takes the same
run of characters for both. So a reference to a declared variable stands for its value wherever it
stands, if no name character follows it, and what is around it is substituted by itself. Of several
declarations of a name the last one counts.

* `Grammar.letValues`: the values that a source declares for a name.
* `Suite.get?_vars`: the table of a suite has the last of them.
* `Suite.substitute_reference`: a reference in any context.
-/

namespace HttpSuite

open Token (Kind)
open Grammar

namespace Grammar

/-- The value in the declaration of the name `n` that some tokens begin with. -/
def letValue? (n : String) : List Token → Option Token
  | kw :: name :: eq :: value :: semi :: _ =>
    if kinds [kw, name, eq, semi] = [.letVar, .ident, .equals, .semicolon] ∧ name.text = n then
      some value
    else none
  | _ => none

/-- **The values that a source declares for the name `n`**, in order. Declarations stand before the
tests; in a test a `let` is part of an item that is skipped. -/
def letValues (n : String) : List Token → List Token
  | [] => []
  | t :: ts =>
    if t.kind = .test then [] else (letValue? n (t :: ts)).toList ++ letValues n ts

variable {n : String} {ts us vs : List Token}

theorem letValue?_of_ne {t : Token} (h : t.kind ≠ .letVar) : letValue? n (t :: ts) = none := by
  unfold letValue?
  split
  · rename_i hts
    obtain ⟨rfl, -⟩ := List.cons.inj hts
    exact if_neg fun hk => h (kinds_cons_eq_cons.1 hk.1).1
  · rfl

theorem letValues_of_ne {t : Token} (hl : t.kind ≠ .letVar) (ht : t.kind ≠ .test) :
    letValues n (t :: ts) = letValues n ts := by
  rw [letValues, if_neg ht, letValue?_of_ne hl]
  rfl

/-- Tokens that begin neither a declaration nor a test are passed over. -/
theorem letValues_append (h : ∀ t ∈ us, t.kind ≠ .letVar ∧ t.kind ≠ .test) :
    letValues n (us ++ vs) = letValues n vs := by
  induction us with
  | nil => rfl
  | cons t us ih =>
    obtain ⟨ht, hus⟩ := List.forall_mem_cons.1 h
    rw [List.cons_append, letValues_of_ne ht.1 ht.2, ih hus]

/-- A declaration gives its value to its name. -/
theorem VariableDecl.letValues {v : Variable} (h : VariableDecl us v) :
    (letValues n (us ++ vs)).map Token.text =
      (if v.name = n then [v.value] else []) ++ (Grammar.letValues n vs).map Token.text := by
  obtain @⟨kw, name, eq, value, semi, hk, hv⟩ := h
  have hkinds := hk
  simp only [kinds_cons_eq_cons, kinds_nil, and_true] at hkinds
  obtain ⟨h₁, h₂, h₃, h₄⟩ := hkinds
  -- only the first of the five tokens can begin a declaration
  have hrest : Grammar.letValues n ([name, eq, value, semi] ++ vs) = Grammar.letValues n vs := by
    refine letValues_append fun t ht => ?_
    simp only [List.mem_cons, List.not_mem_nil, or_false] at ht
    rcases ht with rfl | rfl | rfl | rfl
    · rw [h₂]; decide
    · rw [h₃]; decide
    · rcases hv with hv | hv <;> rw [hv] <;> decide
    · rw [h₄]; decide
  have htest : kw.kind ≠ .test := by rw [h₁]; decide
  rw [List.cons_append, Grammar.letValues, if_neg htest, hrest]
  by_cases hn : name.text = n
  · simp [letValue?, hk, hn]
  · simp [letValue?, hn]

theorem letValues_variables {vars : List Variable} (h : Many VariableDecl us vars) :
    (letValues n (us ++ vs)).map Token.text =
      (vars.filter fun v => v.name = n).map Variable.value ++ (letValues n vs).map Token.text := by
  induction h with
  | nil => rfl
  | @cons ts us v vars hv _ ih =>
    rw [List.append_assoc, hv.letValues, ih, List.filter_cons]
    by_cases hn : v.name = n <;> simp [hn]

theorem letValues_tests {tests : List Test} {eof : Token} (h : Many TestDecl ts tests)
    (he : eof.kind = .eof) : letValues n (ts ++ [eof]) = [] := by
  cases h with
  | nil =>
    rw [List.nil_append, letValues_of_ne (by rw [he]; decide) (by rw [he]; decide)]
    rfl
  | cons ht _ =>
    obtain ⟨hk, -⟩ := ht
    rw [List.cons_append, List.cons_append, letValues, if_pos (kinds_cons_eq_cons.1 hk).1]

theorem Many.forall_mem {α : Type} {D : List Token → α → Prop} {P : Token → Prop} {as : List α}
    (h : Many D ts as) (hD : ∀ ⦃us a⦄, D us a → ∀ t ∈ us, P t) : ∀ t ∈ ts, P t := by
  induction h with
  | nil => simp
  | cons ha _ ih => exact List.forall_mem_append.2 ⟨hD ha, ih⟩

/-- The kinds of some tokens are those that they are said to be. -/
theorem forall_mem_of_kinds {P : Kind → Prop} {ks : List Kind} (h : kinds ts = ks)
    (hks : ∀ k ∈ ks, P k) : ∀ t ∈ ts, P t.kind := by
  intro t ht
  subst h
  exact hks t.kind (List.mem_map_of_mem ht)

/-- The configuration declares no variable. -/
theorem ConfigOption.letValues {c : Option Config} (h : ConfigOption us c) :
    letValues n (us ++ vs) = Grammar.letValues n vs := by
  refine letValues_append ?_
  cases h with
  | none => simp
  | some h =>
    obtain @⟨kw, left, right, items, _, hk, hi⟩ := h
    -- none of the keywords that a declaration or a test begins with stands in a configuration
    have hitem : ∀ ⦃us : List Token⦄ ⦃a : Config.Item⦄, ConfigItem us a →
        ∀ t ∈ us, t.kind ≠ .letVar ∧ t.kind ≠ .test := by
      intro us a h
      cases h with
      | baseUrl h => exact forall_mem_of_kinds (P := fun k => k ≠ .letVar ∧ k ≠ .test) h (by decide)
      | header h =>
        obtain ⟨h⟩ := h
        exact forall_mem_of_kinds (P := fun k => k ≠ .letVar ∧ k ≠ .test) h (by decide)
    have hitems := hi.forall_mem hitem
    have hends : ∀ t ∈ [kw, left, right], t.kind ≠ .letVar ∧ t.kind ≠ .test :=
      forall_mem_of_kinds (P := fun k => k ≠ .letVar ∧ k ≠ .test) hk (by decide)
    intro t ht
    simp only [List.mem_cons, List.mem_append, List.not_mem_nil, or_false] at ht
    rcases ht with rfl | rfl | ht | rfl
    · exact hends _ (by simp)
    · exact hends _ (by simp)
    · exact hitems t ht
    · exact hends _ (by simp)

end Grammar

namespace Suite

variable {source : String} {s : Suite}

/-- **The table of a suite has the last value** that its source declares for a name. -/
theorem get?_vars (h : (Suite.parse source).result = .ok s) (n : String) :
    s.vars.get? n = (letValues n (Lexing.ofString source).tokens).getLast?.map Token.text := by
  have hf := Suite.file_of_parse h
  generalize (Lexing.ofString source).tokens = ts at hf
  obtain ⟨hc, hv, ht, he⟩ := hf
  rw [List.append_assoc, List.append_assoc, hc.letValues, ← List.getLast?_map,
    letValues_variables hv, letValues_tests ht he, List.map_nil, List.append_nil,
    List.getLast?_map, Variables.get?_ofList]

/-- A declared name is one that can be written. -/
theorem isName_of_get? (h : (Suite.parse source).result = .ok s) {n v : String}
    (hv : s.vars.get? n = some v) : isName n = true := by
  obtain ⟨x, hx, -⟩ := Option.map_eq_some_iff.1 hv
  have hmem := List.mem_of_find?_eq_some hx
  have hname : x.name = n := by simpa using List.find?_some hx
  rw [← hname]
  exact (Suite.wellFormed_of_parse h).names x hmem

/-- A declared name is a run that a reference takes as a whole, and stands for its value. -/
theorem reference_of_get? (h : (Suite.parse source).result = .ok s) {n v : String}
    (hv : s.vars.get? n = some v) :
    (∀ c ∈ n.toList, isNameChar c = true) ∧ s.vars.resolve n.toList = v.toList := by
  obtain ⟨c, cs, hcs, hc, hall⟩ := isNameShaped_iff.1 (isName_iff.1 (isName_of_get? h hv)).1
  have hne : n.toList.isEmpty = false := by rw [hcs]; rfl
  constructor
  · rw [hcs]
    exact List.forall_mem_cons.2 ⟨Front.isNameChar_of_isNameStart hc, hall⟩
  · rw [Variables.resolve, hne, String.ofList_toList, hv]
    rfl

/-- **Every declared variable can be referenced anywhere.** The value of a name is the text in its
last declaration, and a name without a declaration has none. A reference to a declared name stands
for its value, whatever is in front of it and whatever follows that is no name character; what is
around it is substituted by itself. -/
theorem substitute_reference (h : (Suite.parse source).result = .ok s) (n : String) :
    s.vars.get? n = (letValues n (Lexing.ofString source).tokens).getLast?.map Token.text ∧
      ∀ value, (letValues n (Lexing.ofString source).tokens).getLast? = some value →
        ∀ a b : String, (∀ c ∈ b.toList.head?, isNameChar c = false) →
          s.vars.substitute (a ++ "$" ++ n ++ b) =
            s.vars.substitute a ++ value.text ++ s.vars.substitute b := by
  have hget := get?_vars h n
  refine ⟨hget, fun value hlast a b hb => ?_⟩
  rw [hlast] at hget
  obtain ⟨hname, hvalue⟩ := reference_of_get? h hget
  have hdollar : ∀ c ∈ ('$' :: (n.toList ++ b.toList)).head?, isNameChar c = false := by
    intro c hc
    obtain rfl : '$' = c := by simpa using hc
    exact Template.isNameChar_dollar
  have htext : (a ++ "$" ++ n ++ b).toList = a.toList ++ '$' :: (n.toList ++ b.toList) := by
    simp
  rw [← String.toList_inj, Variables.toList_substitute, htext, Variables.expand_append _ _ hdollar,
    Variables.expand_reference _ hname hb, hvalue]
  simp [Variables.toList_substitute]

/-- A name that is declared twice; a skipped item that looks like a declaration does not count. The
value looks like a reference, and a `$` stands right in front of the reference to it. -/
theorem substitute_reference_redeclared :
    ∃ (source : String) (s : Suite) (value : Token),
      source = "let x = \"1\"; let y = 7; let x = \"$y\"; " ++
        "test t \x7b GET \"/\" \x7b let x = \"3\"; \x7d \x7d" ∧
      (Suite.parse source).result = .ok s ∧
      (letValues "x" (Lexing.ofString source).tokens).getLast? = some value ∧ value.text = "$y" ∧
      s.vars.substitute "$$x/$y$" = s.vars.substitute "$" ++ "$y" ++ s.vars.substitute "/$y$" := by
  obtain ⟨s, hparse, hvars⟩ : ∃ s : Suite,
      (Suite.parse ("let x = \"1\"; let y = 7; let x = \"$y\"; " ++
        "test t \x7b GET \"/\" \x7b let x = \"3\"; \x7d \x7d")).result = .ok s ∧
      s.vars.get? "x" = some "$y" :=
    ⟨{ vars := ⟨[⟨"x", "$y"⟩, ⟨"y", "7"⟩]⟩
       tests := [⟨"t", ⟨43, 44⟩, [.request ⟨.get, "/", {}, none, ⟨47, 50⟩⟩]⟩] }, by cbv, by decide⟩
  obtain ⟨hget, hall⟩ := substitute_reference hparse "x"
  rw [hvars] at hget
  obtain ⟨value, hlast, htext⟩ := Option.map_eq_some_iff.1 hget.symm
  have hslash : ∀ c ∈ "/$y$".toList.head?, isNameChar c = false := by
    intro c hc
    obtain rfl : '/' = c := by simpa using hc
    decide
  have hsub := hall value hlast "$" "/$y$" hslash
  rw [htext] at hsub
  exact ⟨_, s, value, rfl, hparse, hlast, htext, hsub⟩

end Suite

end HttpSuite
