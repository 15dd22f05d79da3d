import HttpSuite.Text.Ranges

/-!
# Blank characters

The 25 characters with the Unicode property `White_Space`.
-/

namespace HttpSuite.Text

/-- The blank code points: the ASCII controls tab to carriage return, the space, next line, and the
wide, narrow and ideographic spaces. -/
def Blank.ranges : List (Nat × Nat) :=
  [(0x9, 0xD), (0x20, 0x20), (0x85, 0x85), (0xA0, 0xA0), (0x1680, 0x1680), (0x2000, 0x200A),
   (0x2028, 0x2029), (0x202F, 0x202F), (0x205F, 0x205F), (0x3000, 0x3000)]

/-- Does `c` have the Unicode property `White_Space`? -/
def isBlank (c : Char) : Bool := inRanges Blank.ranges c.toNat

end HttpSuite.Text
