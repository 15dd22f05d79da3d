import HttpSuite.Proofs.Token.Written
import HttpSuite.Text.Continue

/-!
# Letters that identifiers do not hold

A name holds letters in the sense of the property `Alphabetic`, and some of these are not among the
characters that identifiers go on with. They are listed here: letters in circles and squares, the
vertical tilde, and forms that stand for a text with a space in it.

* `Text.inRanges_of_covers`: one table of ranges covers another.
* `isContinue_iff`: the characters of names that identifiers may hold.
-/

namespace HttpSuite

namespace Text

/-- Adds a range to ascending ones. -/
def insertRange (r : Nat × Nat) : List (Nat × Nat) → List (Nat × Nat)
  | [] => [r]
  | q :: ranges => if r.1 < q.1 then r :: q :: ranges else q :: insertRange r ranges

theorem mem_insertRange {r q : Nat × Nat} {ranges : List (Nat × Nat)} :
    q ∈ insertRange r ranges ↔ q = r ∨ q ∈ ranges := by
  induction ranges with
  | nil => simp [insertRange]
  | cons s ranges ih =>
    unfold insertRange
    split
    · simp
    · simp only [List.mem_cons, ih]
      exact or_left_comm

theorem mem_foldr_insertRange {q : Nat × Nat} {added ranges : List (Nat × Nat)} :
    q ∈ added.foldr insertRange ranges ↔ q ∈ added ∨ q ∈ ranges := by
  induction added with
  | nil => simp
  | cons r added ih => simp [mem_insertRange, ih, or_assoc]

/-- Do ascending ranges hold every code point from `a` up to `b`? -/
def reaches (a b : Nat) : List (Nat × Nat) → Bool
  | [] => false
  | r :: ranges => r.1 ≤ a && (b ≤ r.2 || reaches (r.2 + 1) b ranges)

theorem inRanges_of_reaches {a b n : Nat} {ranges : List (Nat × Nat)}
    (h : reaches a b ranges = true) (ha : a ≤ n) (hb : n ≤ b) : inRanges ranges n = true := by
  induction ranges generalizing a with
  | nil => simp [reaches] at h
  | cons r ranges ih =>
    simp only [reaches, Bool.and_eq_true, decide_eq_true_eq, Bool.or_eq_true] at h
    by_cases hr : n ≤ r.2
    · exact inRanges_iff.2 ⟨r, by simp, by omega, hr⟩
    · rcases h.2 with hle | hreaches
      · omega
      · obtain ⟨q, hq, hn⟩ := inRanges_iff.1 (ih hreaches (by omega))
        exact inRanges_iff.2 ⟨q, by simp [hq], hn⟩

/-- Do ascending ranges hold every code point of others? -/
def covers : List (Nat × Nat) → List (Nat × Nat) → Bool
  | _, [] => true
  | ranges, r :: needed =>
    let left := ranges.dropWhile fun q => q.2 < r.1
    reaches r.1 r.2 left && covers left needed

theorem inRanges_of_covers {ranges needed : List (Nat × Nat)} (h : covers ranges needed = true)
    {n : Nat} (hn : inRanges needed n = true) : inRanges ranges n = true := by
  induction needed generalizing ranges with
  | nil => simp [inRanges] at hn
  | cons r needed ih =>
    simp only [covers, Bool.and_eq_true] at h
    -- the ranges that were passed over are not needed any more
    have hleft : inRanges (ranges.dropWhile fun q => q.2 < r.1) n = true := by
      obtain ⟨q, hq, hq₁, hq₂⟩ := inRanges_iff.1 hn
      rcases List.mem_cons.1 hq with rfl | hq
      · exact inRanges_of_reaches h.1 hq₁ hq₂
      · exact ih h.2 (inRanges_iff.2 ⟨q, hq, hq₁, hq₂⟩)
    obtain ⟨q, hq, hn⟩ := inRanges_iff.1 hleft
    exact inRanges_iff.2 ⟨q, (List.dropWhile_sublist _).subset hq, hn⟩

/-- The alphabetic code points that identifiers do not go on with. -/
def letterSymbols : List (Nat × Nat) :=
  [(0x37A, 0x37A), (0x24B6, 0x24E9), (0x2E2F, 0x2E2F), (0xFC5E, 0xFC63), (0xFDFA, 0xFDFB),
   (0xFE70, 0xFE70), (0xFE72, 0xFE72), (0xFE74, 0xFE74), (0xFE76, 0xFE76), (0xFE78, 0xFE78),
   (0xFE7A, 0xFE7A), (0xFE7C, 0xFE7C), (0xFE7E, 0xFE7E), (0x1F130, 0x1F149), (0x1F150, 0x1F169),
   (0x1F170, 0x1F189)]

/-- Is a character one of them? -/
def isLetterSymbol (c : Char) : Bool := inRanges letterSymbols c.toNat

/-- The code points of the characters of names. -/
def nameRanges : List (Nat × Nat) :=
  (0x30, 0x39) :: (0x41, 0x5A) :: (0x5F, 0x5F) :: (0x61, 0x7A) :: Alphabetic.ranges

theorem covers_nameRanges :
    covers (letterSymbols.foldr insertRange Continue.ranges) nameRanges = true := by
  decide +kernel

theorem letterSymbols_disjoint :
    ∀ r ∈ Continue.ranges, ∀ q ∈ letterSymbols, r.2 < q.1 ∨ q.2 < r.1 := by
  have hall : (Continue.ranges.all fun r => letterSymbols.all fun q =>
      r.2 < q.1 || q.2 < r.1) = true := by decide +kernel
  simpa only [List.all_eq_true, Bool.or_eq_true, decide_eq_true_eq] using hall

end Text

open Text

theorem inRanges_nameRanges {c : Char} (h : isNameChar c = true) :
    inRanges nameRanges c.toNat = true := by
  have hascii : ∀ r ∈ [(0x30, 0x39), (0x41, 0x5A), (0x5F, 0x5F), (0x61, 0x7A)],
      r.1 ≤ c.toNat → c.toNat ≤ r.2 → inRanges nameRanges c.toNat = true := by
    intro r hr h₁ h₂
    exact inRanges_iff.2 ⟨r, List.mem_append_left Alphabetic.ranges hr, h₁, h₂⟩
  simp only [isNameChar, Bool.or_eq_true, beq_iff_eq] at h
  rcases h with (ha | hd) | rfl
  · unfold isAlphabetic at ha
    split at ha
    · rcases isAlpha_iff.1 ha with ⟨h₁, h₂⟩ | ⟨h₁, h₂⟩
      · exact hascii (0x41, 0x5A) (by simp) h₁ h₂
      · exact hascii (0x61, 0x7A) (by simp) h₁ h₂
    · obtain ⟨r, hr, h₁, h₂⟩ := inRanges_iff.1 ha
      exact inRanges_iff.2 ⟨r, by simp [nameRanges, hr], h₁, h₂⟩
  · obtain ⟨h₁, h₂⟩ := isDigit_iff.1 hd
    exact hascii (0x30, 0x39) (by simp) h₁ h₂
  · exact hascii (0x5F, 0x5F) (by simp) (by decide) (by decide)

/-- **The characters of names that identifiers may hold** are all but the letter symbols. -/
theorem isContinue_iff {c : Char} (h : isNameChar c = true) :
    isContinue c = true ↔ isLetterSymbol c = false := by
  constructor
  · exact inRanges_disjoint letterSymbols_disjoint
  · intro hsymbol
    have hcovered := inRanges_of_covers covers_nameRanges (inRanges_nameRanges h)
    obtain ⟨r, hr, hn⟩ := inRanges_iff.1 hcovered
    rcases mem_foldr_insertRange.1 hr with hr | hr
    · rw [isLetterSymbol, inRanges_iff.2 ⟨r, hr, hn⟩] at hsymbol
      cases hsymbol
    · exact inRanges_iff.2 ⟨r, hr, hn⟩

end HttpSuite
