import HttpSuite.Proofs.Table
import HttpSuite.Proofs.Token.Written
import HttpSuite.Substitution

/-!
# Substitution is one pass

A text is divided at its references: each `$` takes the longest run of name characters behind it,
and the text up to the next `$` is kept. The division does not depend on any variables, and it is
the only one of its kind. Substitution puts a value in the place of each reference and looks at
nothing else, least of all at the values.

* `Template`: a text divided at its references.
* `Template.of_chars`: the division of a text is the only proper one.
* `Variables.expand_eq_fill`: substitution fills the references of the division.
* `Variables.expand_append`: a text may be cut before a character that no name goes on with.
* `Variables.substitute_template`: what a substitution gives, and what of its table it depends on.
-/

namespace HttpSuite

/-- A reference in a text: its name, which may be empty, and the text behind it. -/
structure Template.Reference where
  name : List Char
  tail : List Char
  deriving DecidableEq, Repr

/-- **A text divided at its references**: the text in front of the first one, and all of them in
order. -/
structure Template where
  front : List Char
  references : List Template.Reference
  deriving DecidableEq, Repr

namespace Template

/-- The text that a reference stands for, by the values of names: the value of its name, or the
reference as it is if the name is empty or has no value. -/
def Reference.fill (value? : String → Option String) (r : Reference) : List Char :=
  if r.name = [] then ['$']
  else ((value? (String.ofList r.name)).map String.toList).getD ('$' :: r.name)

/-- A reference has a run of name characters for its name, and the text behind it does not make the
run longer and holds no other reference. -/
structure Reference.Proper (r : Reference) : Prop where
  name : ∀ c ∈ r.name, isNameChar c = true
  tail : '$' ∉ r.tail
  ends : ∀ c ∈ r.tail.head?, isNameChar c = false

/-- The text that is divided. -/
def chars (m : Template) : List Char :=
  m.front ++ m.references.flatMap fun r => '$' :: (r.name ++ r.tail)

/-- The text with values in the place of references. -/
def fill (value? : String → Option String) (m : Template) : List Char :=
  m.front ++ m.references.flatMap fun r => r.fill value? ++ r.tail

/-- A division at all references of a text. -/
structure Proper (m : Template) : Prop where
  front : '$' ∉ m.front
  references : ∀ r ∈ m.references, r.Proper

/-- The division of a text, from left to right. -/
def of : List Char → Template
  | [] => ⟨[], []⟩
  | c :: cs =>
    if c = '$' then
      let rest := of (cs.dropWhile isNameChar)
      ⟨[], ⟨cs.takeWhile isNameChar, rest.front⟩ :: rest.references⟩
    else
      let rest := of cs
      ⟨c :: rest.front, rest.references⟩
termination_by cs => cs.length
decreasing_by
  · exact Nat.lt_succ_of_le (List.dropWhile_suffix _).length_le
  · exact Nat.lt_succ_self _

/-- Only the values of the names in a text count. -/
theorem fill_congr {m : Template} {value? other? : String → Option String}
    (h : ∀ r ∈ m.references, r.name ≠ [] →
      value? (String.ofList r.name) = other? (String.ofList r.name)) :
    m.fill value? = m.fill other? := by
  have hrefs : ∀ r ∈ m.references, r.fill value? = r.fill other? := by
    intro r hr
    unfold Reference.fill
    by_cases hn : r.name = []
    · rw [if_pos hn, if_pos hn]
    · rw [if_neg hn, if_neg hn, h r hr hn]
  unfold fill
  rw [List.flatMap_congr fun r hr => by rw [hrefs r hr]]

end Template

theorem forall_head?_append {P : Char → Prop} {a b : List Char} (ha : ∀ c ∈ a.head?, P c)
    (hb : ∀ c ∈ b.head?, P c) : ∀ c ∈ (a ++ b).head?, P c := by
  intro c hc
  cases a with
  | nil => exact hb c hc
  | cons d a => exact ha c hc

/-- A run of characters that ends within `cs`, or at its end, where `b` does not make it longer. -/
theorem takeWhile_append_of_head? {p : Char → Bool} (cs : List Char) {b : List Char}
    (hb : ∀ c ∈ b.head?, p c = false) :
    (cs ++ b).takeWhile p = cs.takeWhile p ∧ (cs ++ b).dropWhile p = cs.dropWhile p ++ b := by
  have hrun : ∀ c ∈ cs.takeWhile p, p c = true := Front.of_mem_takeWhile
  have h := Front.takeWhile_append_of_stop hrun
    (forall_head?_append (Front.head?_dropWhile cs) hb)
  rwa [← List.append_assoc, List.takeWhile_append_dropWhile] at h

namespace Template

theorem isNameChar_dollar : isNameChar '$' = false := by decide

/-- References begin with a `$`, which no name goes on with. -/
theorem ends_references (rs : List Reference) :
    ∀ c ∈ (rs.flatMap fun r => '$' :: (r.name ++ r.tail)).head?, isNameChar c = false := by
  intro c hc
  cases rs with
  | nil => simp at hc
  | cons r rs =>
    obtain rfl : '$' = c := by simpa using hc
    exact isNameChar_dollar

theorem chars_of (cs : List Char) : (of cs).chars = cs := by
  fun_induction of cs with
  | case1 => rfl
  | case2 cs rest ih =>
    have hsplit := List.takeWhile_append_dropWhile (p := isNameChar) (l := cs)
    simp only [chars, List.flatMap_cons, List.nil_append, List.cons_append,
      List.append_assoc] at ih ⊢
    rw [ih, hsplit]
  | case3 c cs hc rest ih =>
    simp only [chars, List.cons_append] at ih ⊢
    rw [ih]

/-- What the division begins with is what the text begins with, up to the first reference. -/
theorem head?_front_of {cs : List Char} {c : Char} (h : c ∈ (of cs).front.head?) :
    c ∈ cs.head? := by
  have hchars := chars_of cs
  generalize of cs = m at h hchars
  obtain ⟨front, references⟩ := m
  cases front with
  | nil => simp at h
  | cons d front =>
    rw [← hchars]
    exact h

theorem proper_of (cs : List Char) : (of cs).Proper := by
  fun_induction of cs with
  | case1 => exact ⟨by simp, by simp⟩
  | case2 cs rest ih =>
    refine ⟨by simp, List.forall_mem_cons.2 ⟨⟨Front.of_mem_takeWhile, ih.front, ?_⟩, ih.references⟩⟩
    intro c hc
    exact Front.head?_dropWhile cs c (head?_front_of hc)
  | case3 c cs hc rest ih =>
    refine ⟨fun hmem => ?_, ih.references⟩
    rcases List.mem_cons.1 hmem with rfl | hmem
    · exact hc rfl
    · exact ih.front hmem

/-- Text without a `$` belongs to the front of a division. -/
theorem of_append {l cs : List Char} (h : '$' ∉ l) :
    of (l ++ cs) = ⟨l ++ (of cs).front, (of cs).references⟩ := by
  induction l with
  | nil => rfl
  | cons c l ih =>
    rw [List.mem_cons, not_or] at h
    rw [List.cons_append, of, if_neg (Ne.symm h.1), ih h.2]
    rfl

/-- A `$` takes the whole run of name characters behind it. -/
theorem of_reference {name cs : List Char} (hn : ∀ c ∈ name, isNameChar c = true)
    (hs : ∀ c ∈ cs.head?, isNameChar c = false) :
    of ('$' :: (name ++ cs)) = ⟨[], ⟨name, (of cs).front⟩ :: (of cs).references⟩ := by
  obtain ⟨htake, hdrop⟩ := Front.takeWhile_append_of_stop hn hs
  rw [of, if_pos rfl, htake, hdrop]

/-- **The division of a text is the only proper one.** -/
theorem of_chars {m : Template} (h : m.Proper) : of m.chars = m := by
  obtain ⟨front, references⟩ := m
  -- from the first reference on; the text in front of it is added at the end
  have hrefs : of (references.flatMap fun r => '$' :: (r.name ++ r.tail)) = ⟨[], references⟩ := by
    have hproper := h.references
    clear h
    dsimp only at hproper
    induction references with
    | nil => rw [List.flatMap_nil, of]
    | cons r rs ih =>
      obtain ⟨hr, hrs⟩ := List.forall_mem_cons.1 hproper
      rw [List.flatMap_cons, List.cons_append, List.append_assoc,
        of_reference hr.name (forall_head?_append hr.ends (ends_references rs)), of_append hr.tail,
        ih hrs]
      simp
  rw [chars, of_append h.front, hrefs]
  simp

end Template

namespace Variables

variable {t u : Variables}

theorem resolve_eq_fill (t : Variables) (name tail : List Char) :
    t.resolve name = Template.Reference.fill t.get? ⟨name, tail⟩ := by
  unfold resolve Template.Reference.fill
  cases name with
  | nil => rfl
  | cons c name =>
    dsimp only [List.isEmpty_cons]
    cases t.get? (String.ofList (c :: name)) <;> rfl

/-- **Substitution fills the references of the division.** -/
theorem expand_eq_fill (t : Variables) (cs : List Char) :
    t.expand cs = (Template.of cs).fill t.get? := by
  fun_induction expand t cs with
  | case1 => rw [Template.of]; rfl
  | case2 cs ih =>
    rw [Template.of, if_pos rfl, ih,
      resolve_eq_fill t _ (Template.of (cs.dropWhile isNameChar)).front]
    simp [Template.fill]
  | case3 c cs hc ih =>
    rw [Template.of, if_neg hc, ih]
    simp [Template.fill]

/-- **A text may be cut** before a character that no name goes on with: both parts are substituted
by themselves, whatever the first one ends in. -/
theorem expand_append (t : Variables) (a : List Char) {b : List Char}
    (hb : ∀ c ∈ b.head?, isNameChar c = false) : t.expand (a ++ b) = t.expand a ++ t.expand b := by
  fun_induction expand t a with
  | case1 => rfl
  | case2 cs ih =>
    obtain ⟨htake, hdrop⟩ := takeWhile_append_of_head? cs hb
    rw [List.cons_append, expand, if_pos rfl, htake, hdrop, ih, List.append_assoc]
  | case3 c cs hc ih => rw [List.cons_append, expand, if_neg hc, ih, List.cons_append]

/-- A reference is replaced as a whole. -/
theorem expand_reference (t : Variables) {name rest : List Char}
    (hn : ∀ c ∈ name, isNameChar c = true) (hs : ∀ c ∈ rest.head?, isNameChar c = false) :
    t.expand ('$' :: (name ++ rest)) = t.resolve name ++ t.expand rest := by
  obtain ⟨htake, hdrop⟩ := Front.takeWhile_append_of_stop hn hs
  rw [expand, if_pos rfl, htake, hdrop]

theorem toList_substitute (t : Variables) (text : String) :
    (t.substitute text).toList = t.expand text.toList := by
  rw [substitute, String.toList_ofList]

/-- The order of the entries does not matter to the values. -/
theorem get?_of_perm (hn : (t.entries.map Variable.name).Nodup) (hp : t.entries.Perm u.entries) :
    t.get? = u.get? := by
  funext name
  unfold get?
  rw [Table.find?_of_perm hn hp]

/-- **Substitution is one simultaneous pass.** A text is divided at its references in one way. A
substitution puts the value of its name in the place of each reference, and leaves a reference as it
is whose name is empty or not declared; values are not read again. So only the values of the names
in the text count, and the order of declaration does not. -/
theorem substitute_template (text : String) :
    (∃! m : Template, m.Proper ∧ m.chars = text.toList) ∧
      ∀ m : Template, m.Proper → m.chars = text.toList →
        (∀ t : Variables, (t.substitute text).toList = m.fill t.get?) ∧
        (∀ t u : Variables, (∀ r ∈ m.references, r.name ≠ [] →
            t.get? (String.ofList r.name) = u.get? (String.ofList r.name)) →
          t.substitute text = u.substitute text) ∧
        ∀ t u : Variables, (t.entries.map Variable.name).Nodup → t.entries.Perm u.entries →
          t.substitute text = u.substitute text := by
  -- any template of the text is the one that reading it yields, so it is enough to speak of that
  have honly : ∀ m : Template, m.Proper → m.chars = text.toList → m = Template.of text.toList := by
    intro m hm hchars
    rw [← hchars, Template.of_chars hm]
  have hfill : ∀ t : Variables, (t.substitute text).toList =
      (Template.of text.toList).fill t.get? := by
    intro t
    rw [toList_substitute, expand_eq_fill]
  refine ⟨⟨Template.of text.toList, ⟨Template.proper_of _, Template.chars_of _⟩, ?_⟩, ?_⟩
  · rintro m ⟨hm, hchars⟩
    exact honly m hm hchars
  · intro m hm hchars
    obtain rfl := honly m hm hchars
    refine ⟨hfill, fun t u h => ?_, fun t u hn hp => ?_⟩
    · rw [← String.toList_inj, hfill, hfill]
      exact Template.fill_congr h
    · rw [← String.toList_inj, hfill, hfill, get?_of_perm hn hp]

end Variables

end HttpSuite
