import Mathlib.Data.List.DropRight
import HttpSuite.Text.Position

/-!
# Lines and columns by counting

A place is carried along character by character. Its line and column are what counting gives: the
newlines before it, and the characters since the last of them.

* `Position.advance_eq_behind`: the place behind a text, by counting.
* `Position.Exact`: a place of a text with its own line and column.
-/

namespace HttpSuite

namespace Position

/-- The place behind a text at the start of a source. -/
def behind (before : List Char) : Position where
  offset := byteLength before
  line := 1 + before.count '\n'
  column := 1 + (before.rtakeWhile fun c => c ≠ '\n').length

/-- One more character moves the place as a step does. -/
theorem behind_concat (before : List Char) (c : Char) :
    behind (before ++ [c]) = (behind before).step c := by
  unfold step behind
  by_cases hc : c = '\n'
  · rw [if_pos hc, List.rtakeWhile_concat_neg _ _ _ (by simpa using hc)]
    simp [hc, Nat.add_assoc]
  · rw [if_neg hc, List.rtakeWhile_concat_pos _ _ _ (by simpa using hc)]
    simp [hc, Nat.add_assoc]

/-- **Carrying a place along is counting.** -/
theorem advance_eq_behind (before : List Char) : advance {} before = behind before := by
  induction before using List.reverseRecOn with
  | nil => rfl
  | append_singleton cs c ih => rw [advance_append, ih, behind_concat, advance_cons, advance_nil]

/-- **A place of a text with its own line and column**: the line counts the newlines before its
offset, the column the characters between the last of them and the offset, both from one. -/
def Exact (source : List Char) (p : Position) : Prop :=
  ∃ before after, source = before ++ after ∧ p.offset = byteLength before ∧
    p.line = 1 + before.count '\n' ∧ p.column = 1 + (before.rtakeWhile fun c => c ≠ '\n').length

theorem exact_advance (before after : List Char) :
    (advance {} before).Exact (before ++ after) := by
  rw [advance_eq_behind]
  exact ⟨before, after, rfl, rfl, rfl, rfl⟩

end Position

end HttpSuite
