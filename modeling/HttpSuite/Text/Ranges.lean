/-!
# Code point ranges

Classes of characters given by tables of code point ranges, and tables that give each range more.

* `Text.inRanges`: membership in a list of ranges.
* `Text.search`: the row of an ascending table whose range holds a code point.
-/

namespace HttpSuite.Text

/-- Is `n` in one of the ranges, both ends included? -/
def inRanges (ranges : List (Nat × Nat)) (n : Nat) : Bool :=
  ranges.any fun r => r.1 ≤ n && n ≤ r.2

theorem inRanges_iff {ranges : List (Nat × Nat)} {n : Nat} :
    inRanges ranges n = true ↔ ∃ r ∈ ranges, r.1 ≤ n ∧ n ≤ r.2 := by
  simp [inRanges]

/-- Finds the row whose bounds hold `n` among the rows from `lo` up to `hi`, by halving. -/
def searchBetween {ρ : Type} (bounds : ρ → Nat × Nat) (rows : Array ρ) (n lo hi : Nat) :
    Option ρ :=
  if lo < hi then
    let mid := (lo + hi) / 2
    match rows[mid]? with
    | none => none
    | some row =>
      if n < (bounds row).1 then searchBetween bounds rows n lo mid
      else if (bounds row).2 < n then searchBetween bounds rows n (mid + 1) hi
      else some row
  else none
termination_by hi - lo

/-- The row whose bounds hold `n`, in a table whose bounds ascend. -/
def search {ρ : Type} (bounds : ρ → Nat × Nat) (rows : Array ρ) (n : Nat) : Option ρ :=
  searchBetween bounds rows n 0 rows.size

/-- Is `n` in a range of an ascending table? -/
def inTable (rows : Array (Nat × Nat)) (n : Nat) : Bool := (search id rows n).isSome

/-- The row whose first two fields are bounds of `n`, in an ascending table. -/
def rowAt? {α : Type} (rows : Array (Nat × Nat × α)) (n : Nat) : Option (Nat × Nat × α) :=
  search (fun r => (r.1, r.2.1)) rows n

theorem searchBetween_bounds {ρ : Type} {bounds : ρ → Nat × Nat} {rows : Array ρ} {n lo hi : Nat}
    {row : ρ} (h : searchBetween bounds rows n lo hi = some row) :
    (bounds row).1 ≤ n ∧ n ≤ (bounds row).2 := by
  fun_induction searchBetween bounds rows n lo hi with
  | case1 => simp at h
  | case2 lo hi _ _ r _ _ ih => exact ih h
  | case3 lo hi _ _ r _ _ _ ih => exact ih h
  | case4 lo hi _ _ r _ h1 h2 =>
    obtain rfl : r = row := by simpa using h
    omega
  | case5 => simp at h

theorem searchBetween_mem {ρ : Type} {bounds : ρ → Nat × Nat} {rows : Array ρ} {n lo hi : Nat}
    {row : ρ} (h : searchBetween bounds rows n lo hi = some row) : row ∈ rows := by
  fun_induction searchBetween bounds rows n lo hi with
  | case1 => simp at h
  | case2 lo hi _ _ r _ _ ih => exact ih h
  | case3 lo hi _ _ r _ _ _ ih => exact ih h
  | case4 lo hi _ _ r hr _ _ =>
    obtain rfl : r = row := by simpa using h
    exact Array.mem_of_getElem? hr
  | case5 => simp at h

end HttpSuite.Text
