import HttpSuite.Proofs.Code.Writing

/-!
# The name of the source

The name of the source stands in a comment on the first line of the generated code, and it stands
there as it is. So it reaches as far as its own line breaks let it: a name without one stays on the
first line, and what follows a line break in a name is code.

* `Text.afterLine?`: what follows the first line of a text.
* `Suite.afterLine?_generate`: what follows the first line of the code.
* `Suite.afterLine?_generate_eq_iff`: when it is the same for two names.
-/

namespace HttpSuite

namespace Text

/-- What follows the first line of a text and the line break that ends it. -/
def afterLine? (cs : List Char) : Option (List Char) := (cs.dropWhile (· != '\n')).tail?

theorem afterLine?_newline (cs : List Char) : afterLine? ('\n' :: cs) = some cs := rfl

theorem afterLine?_cons {c : Char} (h : c ≠ '\n') (cs : List Char) :
    afterLine? (c :: cs) = afterLine? cs := by
  rw [afterLine?, List.dropWhile_cons_of_pos (by simpa using h), afterLine?]

/-- The first line of a text ends in the first part of it, or else where that of the second part
ends. -/
theorem afterLine?_append (as bs : List Char) :
    afterLine? (as ++ bs) = ((afterLine? as).map (· ++ bs)).or (afterLine? bs) := by
  induction as with
  | nil => rfl
  | cons c as ih =>
    rw [List.cons_append]
    by_cases hc : c = '\n'
    · subst hc
      rw [afterLine?_newline, afterLine?_newline]
      rfl
    · rw [afterLine?_cons hc, afterLine?_cons hc, ih]

theorem afterLine?_eq_none_iff {cs : List Char} : afterLine? cs = none ↔ '\n' ∉ cs := by
  induction cs with
  | nil => simp [afterLine?]
  | cons c cs ih =>
    by_cases hc : c = '\n'
    · subst hc
      simp [afterLine?_newline]
    · rw [afterLine?_cons hc, ih]
      simp [Ne.symm hc]

theorem afterLine?_append_of_not_mem {as : List Char} (h : '\n' ∉ as) (bs : List Char) :
    afterLine? (as ++ bs) = afterLine? bs := by
  rw [afterLine?_append, afterLine?_eq_none_iff.2 h]
  rfl

theorem afterLine?_line {line : List Char} (h : '\n' ∉ line) (cs : List Char) :
    afterLine? (line ++ ['\n'] ++ cs) = some cs := by
  rw [List.append_assoc, afterLine?_append_of_not_mem h]
  rfl

end Text

open Code Text

namespace Code

/-- What stands before the name of the source. -/
def bannerFront : List Char := "// Generated by testlang from `".toList

/-- What stands after the name of the source, with the end of the line. -/
def bannerEnd : List Char := "`. Do not edit.".toList ++ ['\n']

theorem chars_banner (name : String) :
    (banner name).chars = bannerFront ++ (name.toList ++ bannerEnd) := by
  have htext : "// Generated by testlang from `" ++ name ++ "`. Do not edit." ≠ "" := by simp
  unfold banner line Line.chars Line.render
  rw [if_neg htext]
  simp only [Nat.mul_zero, List.replicate_zero, String.toList_append, List.append_assoc,
    String.toList_ofList, List.nil_append]
  rfl

/-- The first line of code that begins with the comment ends with the comment, or in the name. -/
theorem afterLine?_banner (name rest : List Char) :
    afterLine? (bannerFront ++ (name ++ (bannerEnd ++ rest))) =
      some (((afterLine? name).map (· ++ bannerEnd)).getD [] ++ rest) := by
  have hfront : '\n' ∉ bannerFront := by decide
  have hend : afterLine? (bannerEnd ++ rest) = some rest := afterLine?_line (by decide) rest
  rw [afterLine?_append_of_not_mem hfront, afterLine?_append, hend]
  cases afterLine? name with
  | none => rfl
  | some after => simp

end Code

namespace Suite

variable (s : Suite) (settings : Settings)

theorem toList_generate (name : String) :
    (s.generate settings name).toList =
      bannerFront ++ (name.toList ++ (bannerEnd ++ chars (s.plan.lines settings))) := by
  rw [generate, Plan.code, toList_render, chars_cons, chars_banner]
  simp only [List.append_assoc]

/-- What follows the first line of the code: what follows that of the name, with the end of the
comment, and then what is the same for all names. -/
theorem afterLine?_generate (name : String) :
    afterLine? (s.generate settings name).toList =
      some (((afterLine? name.toList).map (· ++ bannerEnd)).getD [] ++
        chars (s.plan.lines settings)) := by
  rw [toList_generate, afterLine?_banner]

/-- **The name of the source stays in the comment on the first line** of the code, unless it has a
line break. For any two names, the code begins with a comment, and what follows the first line is
the same for both if and only if the names have the same after their first line breaks, or none of
them has a line break. -/
theorem afterLine?_generate_eq_iff (a b : String) :
    "//".toList <+: (s.generate settings a).toList.takeWhile (· != '\n') ∧
    (afterLine? (s.generate settings a).toList).isSome ∧
    (afterLine? (s.generate settings a).toList = afterLine? (s.generate settings b).toList ↔
      afterLine? a.toList = afterLine? b.toList) := by
  refine ⟨?_, ?_, ?_⟩
  · have hfront : bannerFront.all (· != '\n') = true := by decide
    rw [toList_generate, List.takeWhile_append_of_pos (List.all_eq_true.1 hfront)]
    exact (show "//".toList <+: bannerFront by decide).trans (List.prefix_append _ _)
  · rw [afterLine?_generate]
    rfl
  · rw [afterLine?_generate, afterLine?_generate, Option.some.injEq, List.append_cancel_right_eq]
    have hend : bannerEnd ≠ [] := by decide
    cases afterLine? a.toList with
    | none => cases afterLine? b.toList <;> simp [hend]
    | some rest => cases afterLine? b.toList <;> simp [hend]

/-- A name with a line break adds a line of code. -/
theorem afterLine?_generate_ne_of_newline :
    ¬ ∀ (s : Suite) (settings : Settings) (a b : String),
      afterLine? (s.generate settings a).toList = afterLine? (s.generate settings b).toList := by
  intro h
  have hcode := h {} {} "a.test" "a\nuse evil::*; //"
  rw [afterLine?_generate, afterLine?_generate, Option.some.injEq,
    List.append_cancel_right_eq] at hcode
  exact absurd hcode (by decide)

end Suite

end HttpSuite
