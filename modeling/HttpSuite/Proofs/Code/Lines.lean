import Mathlib
import HttpSuite.Proofs.Code.Writing

/-!
# Lines with literals in them

A line of generated code is fixed text with string literals in it, and in a few places a number or a
name. So a line can be given by what stands before its first literal and behind each of them, and
what a reader finds in it depends on these parts only. What a line begins with tells it from others.

* `Code.spelled`: a fixed text by its characters.
* `Code.isPrefixOf?_eq_none`, `Code.isApart`: lines that begin in different ways.
* `Code.Line.content`: a line without its newline.
* `Code.withLiterals`: code with literals in it, and `Code.isBare` what may stand around them.
-/

namespace HttpSuite

namespace Code

/-! ### Fixed texts -/

/-- The characters of a fixed text. They are part of the term, so that none are computed from the
bytes of the text. -/
def spelled {cs : List Char} (text : String) (_ : text = String.ofList cs) : List Char := cs

theorem spelled_eq {cs : List Char} {text : String} (h : text = String.ofList cs) :
    spelled text h = text.toList := by
  subst h
  exact String.toList_ofList.symm

/-! ### What a line begins with -/

theorem isPrefixOf?_append (front rest : List Char) :
    front.isPrefixOf? (front ++ rest) = some rest :=
  List.isPrefixOf?_eq_some_iff_append_eq.2 rfl

/-- Of two fronts of one line, one is a front of the other. -/
theorem isPrefixOf?_eq_none {front q : List Char} (h : q.isPrefixOf front = false)
    (h' : front.isPrefixOf q = false) (rest : List Char) : q.isPrefixOf? (front ++ rest) = none := by
  cases ho : q.isPrefixOf? (front ++ rest) with
  | none => rfl
  | some cs =>
    have hpre : q <+: front ++ rest := ⟨cs, List.append_eq_of_isPrefixOf?_eq_some ho⟩
    rcases List.prefix_or_prefix_of_prefix hpre (List.prefix_append front rest) with hle | hle
    · rw [List.isPrefixOf_iff_prefix.2 hle] at h; cases h
    · rw [List.isPrefixOf_iff_prefix.2 hle] at h'; cases h'

/-- A text that begins with none of these, and that none of these begins with. -/
def isApart (qs : List (List Char)) (front : List Char) : Bool :=
  qs.all fun q => !q.isPrefixOf front && !front.isPrefixOf q

theorem isApart_append {qs rs : List (List Char)} {front : List Char} :
    isApart (qs ++ rs) front = true ↔ isApart qs front = true ∧ isApart rs front = true := by
  rw [isApart, List.all_append, Bool.and_eq_true]
  rfl

theorem isPrefixOf?_of_isApart {qs : List (List Char)} {front q : List Char}
    (h : isApart qs front = true) (hq : q ∈ qs) (rest : List Char) :
    q.isPrefixOf? (front ++ rest) = none := by
  have hq := List.all_eq_true.1 h q hq
  rw [Bool.and_eq_true, Bool.not_eq_true', Bool.not_eq_true'] at hq
  exact isPrefixOf?_eq_none hq.1 hq.2 rest

/-- A line does not begin with what does not begin a fixed text, if it is that text. -/
theorem append_ne {front q : List Char} (h : front.isPrefixOf q = false) (rest : List Char) :
    front ++ rest ≠ q := by
  rintro rfl
  rw [List.isPrefixOf_iff_prefix.2 (List.prefix_append front rest)] at h
  cases h

/-! ### Lines without their newlines -/

/-- The blanks that a line at a depth begins with. -/
def indent (depth : Nat) : List Char := List.replicate (4 * depth) ' '

/-- A line at a depth of indentation, without its newline. -/
def content (depth : Nat) (cs : List Char) : List Char :=
  if cs.isEmpty then [] else indent depth ++ cs

/-- A line without its newline. -/
def Line.content (l : Line) : List Char := Code.content l.depth l.text.toList

theorem Line.chars_eq (l : Line) : l.chars = l.content ++ ['\n'] := by
  unfold chars render content Code.content indent
  by_cases h : l.text = ""
  · simp [h]
  · simp [h]

/-- A line with a fixed text. -/
theorem content_line (depth : Nat) (cs : List Char) :
    (line depth (String.ofList cs)).content = content depth cs := by
  rw [Line.content, line, String.toList_ofList]

/-- A line that does not begin with its indentation is empty. -/
theorem content_of_append {depth : Nat} {text : String} {front rest : List Char}
    (ht : text.toList = front ++ rest) (hf : front ≠ []) :
    (line depth text).content = indent depth ++ front ++ rest := by
  have hne : (front ++ rest).isEmpty = false := by
    cases front with
    | nil => exact absurd rfl hf
    | cons c front => rfl
  rw [Line.content, line, ht, content, hne, List.append_assoc]
  rfl

/-! ### Code around literals -/

/-- Code with string literals in it: what stands before the first one, and each with the code
behind it. -/
def withLiterals (front : List Char) (ps : List (String × List Char)) : List Char :=
  front ++ ps.flatMap fun p => (literal p.1).toList ++ p.2

theorem withLiterals_append (as front : List Char) (ps : List (String × List Char)) :
    withLiterals (as ++ front) ps = as ++ withLiterals front ps := by
  rw [withLiterals, withLiterals, List.append_assoc]

/-- Code without literals, comments and line breaks. -/
def isBare (cs : List Char) : Bool := cs.all fun c => c ≠ '"' && c ≠ '\\' && c ≠ '/' && c ≠ '\n'

section

variable {cs front : List Char} {ps : List (String × List Char)}

theorem mem_of_isBare (h : isBare cs = true) :
    ∀ c ∈ cs, c ≠ '"' ∧ c ≠ '\\' ∧ c ≠ '/' ∧ c ≠ '\n' := by
  intro c hc
  simpa [and_assoc] using List.all_eq_true.1 h c hc

/-- Characters of a kind to which none belongs that is not bare. -/
theorem isBare_of_all {p : Char → Bool} (h : ∀ c ∈ cs, p c = true)
    (hp : ['"', '\\', '/', '\n'].all (fun c => !p c) = true) : isBare cs = true := by
  simp only [List.all_cons, List.all_nil, Bool.and_true, Bool.and_eq_true,
    Bool.not_eq_true'] at hp
  obtain ⟨hq, hb, hs, hn⟩ := hp
  refine List.all_eq_true.2 fun c hc => ?_
  have hc := h c hc
  simp only [Bool.and_eq_true, decide_eq_true_eq]
  refine ⟨⟨⟨?_, ?_⟩, ?_⟩, ?_⟩
  · rintro rfl; rw [hq] at hc; cases hc
  · rintro rfl; rw [hb] at hc; cases hc
  · rintro rfl; rw [hs] at hc; cases hc
  · rintro rfl; rw [hn] at hc; cases hc

theorem isBare_append (hf : isBare front = true) (hc : isBare cs = true) :
    isBare (front ++ cs) = true := by
  rw [isBare, List.all_append, Bool.and_eq_true]
  exact ⟨hf, hc⟩

theorem isBare_toString (n : Nat) : isBare (toString n).toList = true :=
  isBare_of_all isDigit_of_mem_toString (by decide)

theorem newline_not_mem_of_isBare (h : isBare cs = true) : '\n' ∉ cs :=
  fun hm => (mem_of_isBare h _ hm).2.2.2 rfl

theorem newline_not_mem_literal (text : String) : '\n' ∉ (literal text).toList :=
  not_mem_literal (by decide) text

theorem newline_not_mem_withLiterals (hf : isBare front = true)
    (hp : (ps.map Prod.snd).all isBare = true) : '\n' ∉ withLiterals front ps := by
  have hps : ∀ p ∈ ps, '\n' ∉ (literal p.1).toList ++ p.2 := by
    intro p hm
    have hbare := List.all_eq_true.1 hp p.2 (List.mem_map_of_mem hm)
    rw [List.mem_append, not_or]
    exact ⟨newline_not_mem_literal p.1, newline_not_mem_of_isBare hbare⟩
  rw [withLiterals, List.mem_append, List.mem_flatMap, not_or]
  exact ⟨newline_not_mem_of_isBare hf, fun ⟨p, hm, hn⟩ => hps p hm hn⟩

/-- A line whose text is code around literals. -/
theorem content_withLiterals {depth : Nat} {text : String}
    (ht : text.toList = withLiterals front ps) (hf : front ≠ []) :
    (line depth text).content = withLiterals (indent depth ++ front) ps :=
  content_of_append ht hf

end

end Code

end HttpSuite
