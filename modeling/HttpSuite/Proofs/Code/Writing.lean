import HttpSuite.Code.Suite
import HttpSuite.Proofs.Code.Literal
import HttpSuite.Proofs.Parser.Exactness

/-!
# Code that tells what was written

Pieces of generated code put one after another can be taken apart again: the front of a text tells
which piece stands there and where it ends. So it is for literals, and from them for the statement
that sets a header and for the one that makes a check.

* `flatMap_append_inj`: a run of pieces, when what follows it begins like none of them.
* `Code.insertField_append_inj`: the statement that sets a header.
* `Check.code_append_inj`: the statement of a check.
-/

namespace HttpSuite

namespace Code

/-- Two runs of characters of one kind, each followed by a character of another kind. -/
theorem append_inj_of_all {p : Char → Bool} {a b x y : List Char} {c d : Char}
    (ha : ∀ e ∈ a, p e = true) (hb : ∀ e ∈ b, p e = true) (hc : p c = false) (hd : p d = false)
    (h : a ++ c :: x = b ++ d :: y) : a = b ∧ c :: x = d :: y := by
  have ht := congrArg (List.takeWhile p) h
  rw [List.takeWhile_append_of_pos ha, List.takeWhile_append_of_pos hb,
    List.takeWhile_cons_of_neg (by simp [hc]), List.takeWhile_cons_of_neg (by simp [hd]),
    List.append_nil, List.append_nil] at ht
  rw [ht] at h
  exact ⟨ht, List.append_cancel_left h⟩

/-- The same with a comma and a blank after each run. -/
theorem comma_append_inj {p : Char → Bool} {a b x y : List Char}
    (ha : ∀ e ∈ a, p e = true) (hb : ∀ e ∈ b, p e = true) (hc : p ',' = false)
    (h : a ++ (", ".toList ++ x) = b ++ (", ".toList ++ y)) : a = b ∧ x = y := by
  have hcons : ∀ z, ", ".toList ++ z = ',' :: ' ' :: z := fun z => by simp
  rw [hcons, hcons] at h
  obtain ⟨hab, hxy⟩ := append_inj_of_all ha hb hc hc h
  exact ⟨hab, by simpa using hxy⟩

/-- **Runs of pieces.** Two runs of pieces are told apart one piece at a time, if a piece is told
from others by the front of a text in which it is followed by what can follow it, and no piece
begins like what follows the runs. -/
theorem flatMap_append_inj {α : Type} {write : α → List Char} (start : List Char)
    (Follows : List Char → Prop) {as bs : List α} {x y : List Char}
    (hw : ∀ a ∈ as, ∀ b ∈ bs, ∀ {x y}, Follows x → Follows y →
      write a ++ x = write b ++ y → a = b ∧ x = y)
    (hs : ∀ a, start <+: write a) (hf : ∀ {x}, start <+: x → Follows x)
    (hx : ¬ start <+: x) (hy : ¬ start <+: y) (hfx : Follows x) (hfy : Follows y)
    (h : as.flatMap write ++ x = bs.flatMap write ++ y) : as = bs ∧ x = y := by
  have begins : ∀ a z, start <+: write a ++ z := fun a z => (hs a).trans (List.prefix_append _ _)
  have follows : ∀ (cs : List α) {z}, Follows z → Follows (cs.flatMap write ++ z) := by
    intro cs z hz
    cases cs with
    | nil => exact hz
    | cons c cs => rw [List.flatMap_cons, List.append_assoc]; exact hf (begins c _)
  induction as generalizing bs with
  | nil =>
    cases bs with
    | nil => exact ⟨rfl, h⟩
    | cons b bs =>
      -- one run is over, so what follows it would begin like a piece
      rw [List.flatMap_nil, List.nil_append, List.flatMap_cons, List.append_assoc] at h
      exact absurd (h ▸ begins b _) hx
  | cons a as ih =>
    cases bs with
    | nil =>
      rw [List.flatMap_nil, List.nil_append, List.flatMap_cons, List.append_assoc] at h
      exact absurd (h ▸ begins a _) hy
    | cons b bs =>
      rw [List.flatMap_cons, List.flatMap_cons, List.append_assoc, List.append_assoc] at h
      obtain ⟨rfl, hrest⟩ := hw a (by simp) b (by simp) (follows as hfx) (follows bs hfy) h
      obtain ⟨rfl, hxy⟩ := ih (fun a ha b hb => hw a (by simp [ha]) b (by simp [hb])) hrest
      exact ⟨rfl, hxy⟩

/-- The characters of a line. -/
def Line.chars (l : Line) : List Char := l.render.toList

/-- The characters of lines. -/
def chars (ls : List Line) : List Char := ls.flatMap Line.chars

theorem toList_render (ls : List Line) : (render ls).toList = chars ls := by
  simp [render, chars, String.toList_join, List.flatMap]
  rfl

@[simp]
theorem chars_nil : chars [] = [] := rfl

theorem chars_cons (l : Line) (ls : List Line) : chars (l :: ls) = l.chars ++ chars ls :=
  List.flatMap_cons

theorem chars_append (ls ms : List Line) : chars (ls ++ ms) = chars ls ++ chars ms :=
  List.flatMap_append

theorem chars_map {α : Type} (f : α → Line) (as : List α) :
    chars (as.map f) = as.flatMap fun a => (f a).chars := by
  simp [chars, List.flatMap_map]

theorem chars_flatMap {α : Type} (f : α → List Line) (as : List α) :
    chars (as.flatMap f) = as.flatMap fun a => chars (f a) := by
  simp [chars, List.flatMap_assoc]

theorem chars_insertField (f : Field) :
    (insertField f).chars = "    headers.insert(header_name(".toList ++
      ((literal f.name).toList ++ ("), header_value(".toList ++
        ((literal f.value).toList ++ "));\n".toList))) := by
  simp [insertField, Line.chars, Line.render, line]

theorem insertField_append_inj {f g : Field} {x y : List Char}
    (h : (insertField f).chars ++ x = (insertField g).chars ++ y) : f = g ∧ x = y := by
  simp only [chars_insertField, List.append_assoc, List.append_cancel_left_eq] at h
  obtain ⟨hn, hrest⟩ := literal_append_append_inj h
  obtain ⟨hv, hxy⟩ := literal_append_append_inj hrest
  have hfg : (⟨f.name, f.value⟩ : Field) = ⟨g.name, g.value⟩ := by rw [hn, hv]
  exact ⟨hfg, hxy⟩

end Code

open Code

theorem Code.toString_nat_inj {a b : Nat} (h : toString a = toString b) : a = b := by
  have hd := congrArg (fun s : String => Nat.ofDigitChars 10 s.toList 0) h
  simpa [Nat.ofDigitChars_toDigits] using hd

theorem Code.isDigit_of_mem_toString {n : Nat} : ∀ c ∈ (toString n).toList, c.isDigit = true := by
  intro c hc
  rw [Nat.toString_eq_repr, Nat.toList_repr] at hc
  exact Nat.isDigit_of_mem_toDigits (by omega) (by omega) hc

namespace Check

variable {c d : Check} {normalize : Bool} {x y : List Char}

theorem condition_status (code : Nat) :
    (status code).condition normalize = "assert_eq!(status, " ++ toString code := rfl

theorem condition_headerEquals (name value : String) :
    (headerEquals name value).condition normalize =
      "assert_eq!(response_header(&resp_headers, " ++ literal name ++ "), " ++ literal value := rfl

theorem condition_headerContains (name substring : String) :
    (headerContains name substring).condition normalize =
      "assert!(response_header(&resp_headers, " ++ literal name ++ ").contains(" ++
        literal substring ++ ")" := rfl

theorem condition_bodyContains (substring : String) :
    (bodyContains substring).condition normalize =
      if normalize then
        "assert!(normalize_ws(&body).contains(&normalize_ws(" ++ literal substring ++ "))"
      else "assert!(body.contains(" ++ literal substring ++ ")" := rfl

/-- The format and the report are two literals. -/
theorem toList_report (c : Check) :
    c.report.toList = ", ".toList ++ ((literal "\x7b\x7d").toList ++ (", ".toList ++
      ((literal c.message).toList ++ ");".toList))) := by
  have hformat : literal "\x7b\x7d" = "\"\x7b\x7d\"" := by decide
  simp [report, hformat]

/-- The characters that tell the kind of a check. -/
def opening (normalize : Bool) : Check → String
  | status _ => "assert_eq!(s"
  | headerEquals _ _ => "assert_eq!(r"
  | headerContains _ _ => "assert!(resp"
  | bodyContains _ => if normalize then "assert!(norm" else "assert!(body"

theorem take_condition (normalize : Bool) (c : Check) (x : List Char) :
    ((c.condition normalize).toList ++ x).take 12 = (c.opening normalize).toList := by
  cases c with
  | status code => simp [condition_status, opening]
  | headerEquals name value => simp [condition_headerEquals, opening]
  | headerContains name substring => simp [condition_headerContains, opening]
  | bodyContains substring => cases normalize <;> simp [condition_bodyContains, opening]

/-- The condition of a check, up to the comma that the report begins with. -/
theorem condition_append_inj
    (h : (c.condition normalize).toList ++ (", ".toList ++ x) =
      (d.condition normalize).toList ++ (", ".toList ++ y)) : c = d ∧ x = y := by
  -- checks of different kinds differ within the first characters
  have hk := congrArg (List.take 12) h
  rw [take_condition, take_condition, String.toList_inj] at hk
  cases c with
  | status a =>
    cases d with
    | status b =>
      simp only [condition_status, String.toList_append, List.append_assoc,
        List.append_cancel_left_eq] at h
      obtain ⟨hab, hxy⟩ := comma_append_inj isDigit_of_mem_toString isDigit_of_mem_toString
        (by decide) h
      rw [toString_nat_inj (String.toList_inj.1 hab)]
      exact ⟨rfl, hxy⟩
    | headerEquals n v => simp [opening] at hk
    | headerContains n s => simp [opening] at hk
    | bodyContains s => cases normalize <;> simp [opening] at hk
  | headerEquals n v =>
    cases d with
    | headerEquals n' v' =>
      simp only [condition_headerEquals, String.toList_append, List.append_assoc,
        List.append_cancel_left_eq] at h
      obtain ⟨hn, hrest⟩ := literal_append_append_inj h
      obtain ⟨hv, hxy⟩ := literal_append_append_inj hrest
      exact ⟨by rw [hn, hv], hxy⟩
    | status b => simp [opening] at hk
    | headerContains n' s => simp [opening] at hk
    | bodyContains s => cases normalize <;> simp [opening] at hk
  | headerContains n s =>
    cases d with
    | headerContains n' s' =>
      simp only [condition_headerContains, String.toList_append, List.append_assoc,
        List.append_cancel_left_eq] at h
      obtain ⟨hn, hrest⟩ := literal_append_append_inj h
      obtain ⟨hs, hxy⟩ := literal_append_append_inj hrest
      exact ⟨by rw [hn, hs], List.append_cancel_left hxy⟩
    | status b => simp [opening] at hk
    | headerEquals n' v => simp [opening] at hk
    | bodyContains s' => cases normalize <;> simp [opening] at hk
  | bodyContains s =>
    cases d with
    | bodyContains s' =>
      cases normalize
      all_goals
        simp only [condition_bodyContains, if_true, Bool.false_eq_true, if_false,
          String.toList_append, List.append_assoc, List.append_cancel_left_eq] at h
        obtain ⟨hs, hxy⟩ := literal_append_append_inj h
        exact ⟨by rw [hs], List.append_cancel_left hxy⟩
    | status b => cases normalize <;> simp [opening] at hk
    | headerEquals n v => cases normalize <;> simp [opening] at hk
    | headerContains n s' => cases normalize <;> simp [opening] at hk

/-- **The statement of a check** tells the check and where it ends. -/
theorem code_append_inj
    (h : (c.code normalize).toList ++ x = (d.code normalize).toList ++ y) : c = d ∧ x = y := by
  simp only [code, String.toList_append, List.append_assoc, toList_report] at h
  obtain ⟨rfl, hxy⟩ := condition_append_inj h
  exact ⟨rfl, by simpa only [List.append_cancel_left_eq] using hxy⟩

end Check

/-! ## Lines with literals in them -/

theorem Check.chars_line (normalize : Bool) (c : Check) :
    (line 1 (c.code normalize)).chars =
      "    ".toList ++ ((c.code normalize).toList ++ "\n".toList) := by
  have hne : c.code normalize ≠ "" := by
    intro h
    have := congrArg String.toList h
    simp [Check.code, Check.toList_report] at this
  simp [Line.chars, Line.render, line, hne]

theorem Exchange.chars_requestLine (m : Method) (url : String) :
    (line 2 (".request(Method::" ++ m.name ++ ", " ++ literal url ++ ")")).chars =
      "        .request(Method::".toList ++
        (m.name.toList ++ (", ".toList ++ ((literal url).toList ++ ")\n".toList))) := by
  simp [Line.chars, Line.render, line]

theorem Exchange.chars_bodyLine (body : String) :
    (line 2 (".body(" ++ literal body ++ ")")).chars =
      "        .body(".toList ++ ((literal body).toList ++ ")\n".toList) := by
  simp [Line.chars, Line.render, line]

theorem Plan.Test.chars_header (t : Plan.Test) :
    (line 0 ("async fn " ++ t.functionName ++ "() \x7b")).chars =
      "async fn test_".toList ++ (t.name.toList ++ '(' :: ") \x7b\n".toList) := by
  simp [Line.chars, Line.render, line, functionName]

/-- The name of a test has name characters only. -/
def Plan.Test.Named (t : Plan.Test) : Prop := ∀ c ∈ t.name.toList, isNameChar c = true

theorem Suite.named_plan_tests {source : String} {s : Suite}
    (h : (Suite.parse source).result = .ok s) : ∀ t ∈ s.plan.tests, t.Named := by
  intro t ht
  obtain ⟨test, hm, rfl⟩ := List.mem_map.1 ht
  exact Suite.test_name_chars h hm

/-- The name of the source is in the first line only. -/
theorem Suite.generate_eq (s : Suite) (settings : Settings) (name : String) :
    s.generate settings name = (banner name).render ++ render (s.plan.lines settings) := by
  rw [← String.toList_inj, String.toList_append, toList_render, Suite.generate, Plan.code,
    toList_render, chars_cons]
  rfl

end HttpSuite
