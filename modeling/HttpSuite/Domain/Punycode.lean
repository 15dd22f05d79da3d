/-!
# Punycode

The ASCII form of an internationalized label holds its ASCII characters, a hyphen, and then for each
other character the distance to it, written with digits whose weights adapt to what came before.

* `Punycode.decode`: the label that an ASCII form stands for.
-/

namespace HttpSuite.Domain.Punycode

/-- The value of a digit: letters are 0 to 25 in either case, the digits 26 to 35. -/
def digitValue? (c : Char) : Option Nat :=
  if c.isLower then some (c.toNat - 'a'.toNat)
  else if c.isUpper then some (c.toNat - 'A'.toNat)
  else if c.isDigit then some (c.toNat - '0'.toNat + 26)
  else none

/-- The least value that does not end a number in the place `k`, which counts by 36. -/
def threshold (k bias : Nat) : Nat :=
  if k ≤ bias then 1 else if bias + 26 ≤ k then 26 else k - bias

/-- Brings a distance into the range of the bias, counting the divisions by 36. -/
def shrink (delta k : Nat) : Nat :=
  if 455 < delta then shrink (delta / 35) (k + 36) else k + 36 * delta / (delta + 38)
termination_by delta
decreasing_by omega

/-- The bias after a distance to the `count`-th character. -/
def adapt (delta count : Nat) (first : Bool) : Nat :=
  let delta := if first then delta / 700 else delta / 2
  shrink (delta + delta / count) 0

/-- The largest number that may come up. -/
def maxNumber : Nat := 0xFFFFFFFF

/-- Reads one number, which is added to `i`, and gives it with the rest. -/
def number? (bias : Nat) : List Char → (k weight i : Nat) → Option (Nat × List Char)
  | [], _, _, _ => none
  | c :: cs, k, weight, i =>
    match digitValue? c with
    | none => none
    | some d =>
      let t := threshold k bias
      let sum := i + d * weight
      if maxNumber < sum then none
      else if d < t then some (sum, cs)
      else if maxNumber < weight * (36 - t) then none
      else number? bias cs (k + 36) (weight * (36 - t)) sum

theorem number?_length {bias : Nat} {cs : List Char} {k weight i : Nat} {r : Nat × List Char}
    (h : number? bias cs k weight i = some r) : r.2.length < cs.length := by
  fun_induction number? bias cs k weight i with
  | case1 => simp at h
  | case2 => simp at h
  | case3 => simp at h
  | case4 => simp only [Option.some.injEq] at h; subst h; simp
  | case5 => simp at h
  | case6 c cs k weight i d hd t sum hs ht hw ih => exact Nat.lt_succ_of_lt (ih h)

/-- Is `n` the code point of a character? -/
def isScalar (n : Nat) : Bool := n < 0xD800 || (0xDFFF < n && n < 0x110000)

/-- Inserts the characters of the numbers into `out`. The last one had the code point `n` and stands
before the place `i`. -/
def insertAll (bias n i : Nat) (out cs : List Char) : Option (List Char) :=
  if cs.isEmpty then some out
  else
    match _h : number? bias cs 36 1 i with
    | none => none
    | some (j, rest) =>
      let count := out.length + 1
      let m := n + j / count
      if isScalar m then
        insertAll (adapt (j - i) count (i == 0)) m (j % count + 1)
          (out.insertIdx (j % count) (Char.ofNat m)) rest
      else none
termination_by cs.length
decreasing_by exact number?_length _h

/-- The text before and after the last hyphen. Where nothing stands before one, all of the text comes
after. -/
def splitLastHyphen (cs : List Char) : List Char × List Char :=
  let tail := cs.reverse.takeWhile (· != '-')
  let before := (cs.reverse.drop (tail.length + 1)).reverse
  if before.isEmpty then ([], cs) else (before, tail.reverse)

/-- The label that an ASCII form stands for. -/
def decode (cs : List Char) : Option (List Char) :=
  let (basic, extended) := splitLastHyphen cs
  insertAll 72 128 0 basic extended

end HttpSuite.Domain.Punycode
