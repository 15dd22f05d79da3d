import HttpSuite.Proofs.Code.Events

/-!
# Lines and what they do

What lines of code do is what they hand on, what executing them does to the headers, and what they
tell, all at once. Lines that follow each other do what each of them does, and the text of lines
does what they do, so that code can be read line by line. Most lines do nothing.

* `Code.Does`: lines with what they do; `Does.append`, `Does.flatMap`: lines after each other.
* `Does.fixed`, `Does.literals`, `Does.idleLiterals`: single lines, by what stands around their
  literals.
* `Does.handed_render`, `Does.sent_render`, `Does.remarks_chars`: the text of lines.
-/

namespace HttpSuite

namespace Code

/-- **What lines do.** A line on which the function that removes whitespace is named is one that
defines it or a check that calls it. -/
structure Does (ls : List Line) (es : List Event) : Prop where
  newline_not_mem : ∀ l ∈ ls, '\n' ∉ l.content
  hands : Hands (chars ls) (es.flatMap Event.arguments)
  steps : ∀ s : Sender, (ls.map Line.content).foldlM Sender.step s = es.foldlM Sender.act s
  remarks : ls.filterMap (fun l => remark? l.content) = es.filterMap Event.remark?
  normalizes : ∀ l ∈ ls, mentionsNormalize l.content = true →
    (remark? l.content).any Remark.normalizes = true

namespace Does

/-! ### Lines after each other -/

section

variable {ls ms : List Line} {es fs : List Event}

theorem nil : Does [] [] := ⟨by simp, .nil, fun _ => rfl, rfl, by simp⟩

theorem append (h : Does ls es) (h' : Does ms fs) : Does (ls ++ ms) (es ++ fs) where
  newline_not_mem := List.forall_mem_append.2 ⟨h.newline_not_mem, h'.newline_not_mem⟩
  hands := by
    rw [chars_append, List.flatMap_append]
    exact h.hands.append h'.hands
  steps s := by
    rw [List.map_append, List.foldlM_append, List.foldlM_append, h.steps]
    exact bind_congr h'.steps
  remarks := by rw [List.filterMap_append, List.filterMap_append, h.remarks, h'.remarks]
  normalizes := List.forall_mem_append.2 ⟨h.normalizes, h'.normalizes⟩

/-- Lines that do nothing before lines that may. -/
theorem append_left (h : Does ls []) (h' : Does ms fs) : Does (ls ++ ms) fs := append h h'

/-- Lines that do nothing after lines that may. -/
theorem append_right (h : Does ls es) (h' : Does ms []) : Does (ls ++ ms) es := by
  simpa using append h h'

/-- A line that does nothing before lines that may. -/
theorem cons {l : Line} (h : Does [l] []) (h' : Does ms fs) : Does (l :: ms) fs := append h h'

theorem flatMap {α : Type} {write : α → List Line} {events : α → List Event} {xs : List α}
    (h : ∀ x ∈ xs, Does (write x) (events x)) : Does (xs.flatMap write) (xs.flatMap events) := by
  induction xs with
  | nil => exact nil
  | cons x xs ih =>
    rw [List.flatMap_cons, List.flatMap_cons]
    exact (h x (by simp)).append (ih fun y hy => h y (by simp [hy]))

theorem map {α : Type} {write : α → Line} {event : α → Event} {xs : List α}
    (h : ∀ x ∈ xs, Does [write x] [event x]) : Does (xs.map write) (xs.map event) := by
  rw [List.map_eq_flatMap, List.map_eq_flatMap]
  exact flatMap h

end

/-! ### Single lines -/

section

variable {l : Line} {cs : List Char} {e : Event} {es : List Event}

/-- A line by itself, by its characters. -/
theorem of_content (hl : l.content = cs) (hn : '\n' ∉ cs)
    (ha : Hands (cs ++ ['\n']) (es.flatMap Event.arguments))
    (hs : ∀ s : Sender, s.step cs = es.foldlM Sender.act s)
    (hr : (remark? cs).toList = es.filterMap Event.remark?)
    (hm : mentionsNormalize cs = true → (remark? cs).any Remark.normalizes = true) :
    Does [l] es where
  newline_not_mem := by simpa [hl] using hn
  hands := by
    rw [chars_cons, chars_nil, List.append_nil, l.chars_eq, hl]
    exact ha
  steps s := by simp [hl, hs]
  remarks := by
    rw [← hr, List.filterMap_cons, hl]
    cases remark? cs <;> rfl
  normalizes := by simpa [hl] using hm

/-- A line that does one thing. -/
theorem single (hl : l.content = cs) (hn : '\n' ∉ cs) (ha : Hands (cs ++ ['\n']) e.arguments)
    (hs : ∀ s : Sender, s.step cs = s.act e) (hr : remark? cs = e.remark?)
    (hm : mentionsNormalize cs = true → e.remark?.any Remark.normalizes = true) : Does [l] [e] := by
  refine of_content hl hn (by simpa using ha) (by simpa using hs) ?_ (hr ▸ hm)
  rw [hr, List.filterMap_cons]
  cases e.remark? <;> rfl

/-- A line that does nothing. -/
theorem idle (hl : l.content = cs) (hn : '\n' ∉ cs) (ha : Hands (cs ++ ['\n']) [])
    (hs : ∀ s : Sender, s.step cs = some s) (hr : remark? cs = none)
    (hm : mentionsNormalize cs = false) : Does [l] [] :=
  of_content hl hn ha hs (by rw [hr]; rfl) (by simp [hm])

/-- A line that is a comment in which the function that removes whitespace is not named. -/
theorem comment {text : List Char} (hn : '\n' ∉ text)
    (hm : mentionsNormalize ('/' :: '/' :: text) = false) :
    Does [line 0 (String.ofList ('/' :: '/' :: text))] [] := by
  have hcontent : (line 0 (String.ofList ('/' :: '/' :: text))).content = ['/', '/'] ++ text :=
    content_line 0 _
  refine idle hcontent ?_ (.comment hn) ?_ ?_ hm
  · simpa using hn
  · exact step_of_isApart (by decide) text
  · exact remark?_of_isApart (by decide) text

/-! ### Lines without literals -/

/-- A line of bare code hands on nothing. -/
theorem bare (hl : l.content = cs) (hb : isBare cs = true) (ha : e.arguments = [])
    (hs : ∀ s : Sender, s.step cs = s.act e) (hr : remark? cs = e.remark?)
    (hm : mentionsNormalize cs = true → e.remark?.any Remark.normalizes = true) :
    Does [l] [e] :=
  single hl (newline_not_mem_of_isBare hb) (ha ▸ (Hands.plain (.of_isBare hb)).newline) hs hr hm

/-- Bare code that does nothing, by what it begins with. -/
theorem bareIdle (hl : l.content = cs) (hb : isBare cs = true)
    (hs : ∀ s : Sender, s.step cs = some s) (hr : remark? cs = none)
    (hm : mentionsNormalize cs = false) : Does [l] [] :=
  idle hl (newline_not_mem_of_isBare hb) (Hands.plain (.of_isBare hb)).newline hs hr hm

/-- A line of bare code that does nothing. -/
def isIdle (l : List Char) : Bool :=
  isBare l && isHeaderless l && remark? l = none && !mentionsNormalize l

/-- A line with a fixed text, without literals. -/
theorem fixed {depth : Nat} (h : isIdle (content depth cs) = true) :
    Does [line depth (String.ofList cs)] [] := by
  simp only [isIdle, Bool.and_eq_true, decide_eq_true_eq, Bool.not_eq_true'] at h
  obtain ⟨⟨⟨hb, hh⟩, hr⟩, hm⟩ := h
  exact bareIdle (content_line depth cs) hb (step_of_isHeaderless hh) hr hm

/-! ### Lines with literals in them -/

variable {depth : Nat} {text : String} (front : List Char) (ps : List (String × List Char))
  (parts : List (List Char))

/-- A line of code around literals. What it does to headers and what it tells is up to what it
begins with, what it hands on is up to the code before each literal. -/
theorem literals (ht : text.toList = withLiterals front ps) (hp : ps.map Prod.snd = parts)
    (hne : front ≠ []) (hf : isBare (indent depth ++ front) = true) (hb : parts.all isBare = true)
    (ha : ∀ before, argumentsAround ((indent depth ++ front).reverse ++ before) ps = e.arguments)
    (hs : ∀ s : Sender, s.step (withLiterals (indent depth ++ front) ps) = s.act e)
    (hr : remark? (withLiterals (indent depth ++ front) ps) = e.remark?)
    (hm : normalizeName ∉ names (withQuotes (indent depth ++ front) parts) ∨
      e.remark?.any Remark.normalizes = true) : Does [line depth text] [e] := by
  subst hp
  refine single (content_withLiterals ht hne) (newline_not_mem_withLiterals hf hb)
    (Hands.of_literals hf hb ha).newline hs hr fun hnamed => ?_
  rcases hm with hm | hm
  · rw [mentionsNormalize_withLiterals hf hb hm] at hnamed
    cases hnamed
  · exact hm

/-- Code around literals that does nothing, whatever the literals say. -/
def isIdleAround (front : List Char) (parts : List (List Char)) : Bool :=
  isBare front && parts.all isBare && isApart (headerFronts ++ remarkFronts) front
    && !(names (withQuotes front parts)).contains normalizeName

/-- A line of code around literals that does nothing. -/
theorem idleLiterals (ht : text.toList = withLiterals front ps) (hp : ps.map Prod.snd = parts)
    (hne : front ≠ []) (hi : isIdleAround (indent depth ++ front) parts = true)
    (ha : ∀ before, argumentsAround ((indent depth ++ front).reverse ++ before) ps = []) :
    Does [line depth text] [] := by
  subst hp
  simp only [isIdleAround, Bool.and_eq_true, Bool.not_eq_true', List.contains_eq_mem,
    decide_eq_false_iff_not] at hi
  obtain ⟨⟨⟨hf, hb⟩, hfront⟩, hm⟩ := hi
  obtain ⟨hheader, hremark⟩ := isApart_append.1 hfront
  exact idle (content_withLiterals ht hne) (newline_not_mem_withLiterals hf hb)
    (Hands.of_literals hf hb ha).newline (step_of_isApart hheader _) (remark?_of_isApart hremark _)
    (mentionsNormalize_withLiterals hf hb hm)

/-- A line with one literal in it that does nothing. -/
theorem quoted (message : String) (ending : List Char) (ht : text = String.ofList front ++
      literal message ++ String.ofList ending) (hne : front ≠ [])
    (hi : isIdleAround (indent depth ++ front) [ending] = true)
    (ha : ∀ before, argumentAfter? ((indent depth ++ front).reverse ++ before) message = none) :
    Does [line depth text] [] := by
  refine idleLiterals front [(message, ending)] [ending] ?_ rfl hne hi fun before => ?_
  · simp [ht, withLiterals]
  · rw [argumentsAround, ha]
    rfl

/-- The same of a line with a fixed text. -/
theorem fixedQuoted (message ending : List Char) {cs : List Char}
    (ht : cs = front ++ '"' :: (message.flatMap escapeChar ++ '"' :: ending)) (hne : front ≠ [])
    (hi : isIdleAround (indent depth ++ front) [ending] = true)
    (ha : ∀ before, argumentAfter? ((indent depth ++ front).reverse ++ before)
      (String.ofList message) = none) : Does [line depth (String.ofList cs)] [] := by
  refine quoted front (String.ofList message) ending ?_ hne hi ha
  rw [← String.toList_inj]
  simp [ht, toList_literal]

end

/-! ### Texts -/

section

variable {ls : List Line} {es : List Event}

theorem splitOn_chars (h : Does ls es) :
    Text.splitOn '\n' (chars ls) = ls.map Line.content ++ [[]] := by
  have hlines := h.newline_not_mem
  clear h
  induction ls with
  | nil => rfl
  | cons l ls ih =>
    obtain ⟨hl, hls⟩ := List.forall_mem_cons.1 hlines
    rw [chars_cons, l.chars_eq, List.append_assoc, List.singleton_append, List.map_cons]
    exact (Text.splitOn_append hl _).trans (congrArg (l.content :: ·) (ih hls))

/-- What the text of lines hands on. -/
theorem arguments_chars (h : Does ls es) (before : List Char) :
    arguments before (chars ls) = es.flatMap Event.arguments := by
  obtain ⟨before', hlines⟩ := h.hands before []
  rw [← List.append_nil (chars ls), hlines]
  simp [arguments, quotations]

/-- What the text of lines does to headers. -/
theorem execute_chars (h : Does ls es) (s : Sender) :
    execute s (chars ls) = es.foldlM Sender.act s := by
  have hend : ∀ s : Sender, [[]].foldlM Sender.step s = some s := fun _ => rfl
  rw [execute, h.splitOn_chars, List.foldlM_append, h.steps]
  cases es.foldlM Sender.act s with
  | none => rfl
  | some s' => exact hend s'

/-- What the text of lines tells. -/
theorem remarks_chars (h : Does ls es) : Code.remarks (chars ls) = es.filterMap Event.remark? := by
  have hend : remark? [] = none := by decide
  rw [Code.remarks, h.splitOn_chars, List.filterMap_append, List.filterMap_map, ← h.remarks]
  simp [hend]

/-- The lines of the text on which the function that removes whitespace is named. -/
theorem normalizes_chars (h : Does ls es) :
    ∀ l ∈ Text.splitOn '\n' (chars ls), mentionsNormalize l = true →
      (remark? l).any Remark.normalizes = true := by
  intro l hl hm
  rw [h.splitOn_chars] at hl
  rcases List.mem_append.1 hl with hl | hl
  · obtain ⟨k, hk, rfl⟩ := List.mem_map.1 hl
    exact h.normalizes k hk hm
  · rw [List.mem_singleton.1 hl] at hm
    exact absurd hm (by decide)

end

end Does

/-! ### The first line -/

section

variable {name : String}

/-- The comment on the first line, with the name of the source in it. -/
def bannerText (name : String) : List Char :=
  spelled " Generated by testlang from `" rfl ++ (name.toList ++ spelled "`. Do not edit." rfl)

theorem content_banner (name : String) :
    (banner name).content = ['/', '/'] ++ bannerText name := by
  simp [banner, Line.content, content, line, indent, bannerText, spelled_eq]

theorem newline_not_mem_bannerText (h : '\n' ∉ name.toList) : '\n' ∉ bannerText name := by
  rw [bannerText, List.mem_append, List.mem_append, not_or, not_or]
  exact ⟨by decide, h, by decide⟩

/-- The first line hands on nothing, unless the name of the source breaks it. -/
theorem hands_banner (h : '\n' ∉ name.toList) : Hands (banner name).chars [] := by
  rw [Line.chars_eq, content_banner]
  exact .comment (newline_not_mem_bannerText h)

/-- It does nothing to headers either. -/
theorem execute_banner (h : '\n' ∉ name.toList) (s : Sender) (rest : List Char) :
    execute s ((banner name).chars ++ rest) = execute s rest := by
  have hline : '\n' ∉ (banner name).content := by
    rw [content_banner]
    simpa using newline_not_mem_bannerText h
  rw [Line.chars_eq, List.append_assoc, List.singleton_append, execute_line hline, content_banner,
    step_of_isApart (by decide), Option.bind_some]

end

namespace Does

variable {ls : List Line} {es : List Event} (name : String)

/-- **What generated code hands on** is what it does, with or without its first line. -/
theorem handed_render (h : Does ls es) : handed (render ls) = es.flatMap Event.arguments ∧
    ('\n' ∉ name.toList → handed (render (banner name :: ls)) = es.flatMap Event.arguments) := by
  refine ⟨?_, fun hname => ?_⟩
  · rw [handed, toList_render, h.arguments_chars]
  · obtain ⟨before, hbanner⟩ := hands_banner hname [] (chars ls)
    rw [handed, toList_render, chars_cons, hbanner, List.nil_append, h.arguments_chars]

/-- **What generated code sends** is what it does, with or without its first line. -/
theorem sent_render (h : Does ls es) :
    sent (render ls) = (es.foldlM Sender.act {}).map Sender.sent ∧
    ('\n' ∉ name.toList →
      sent (render (banner name :: ls)) = (es.foldlM Sender.act {}).map Sender.sent) := by
  refine ⟨?_, fun hname => ?_⟩
  · rw [sent, toList_render, h.execute_chars]
  · rw [sent, toList_render, chars_cons, execute_banner hname, h.execute_chars]

end Does

end Code

end HttpSuite
