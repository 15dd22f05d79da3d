import HttpSuite.Domain.Disallowed
import HttpSuite.Domain.Mapped.Form
import HttpSuite.Domain.Mapped.Letter
import HttpSuite.Domain.Mapped.Symbol
import HttpSuite.Domain.Mapped.Text
import HttpSuite.Text.Ideograph
import HttpSuite.Text.Ranges

/-!
# What characters become in host names

The mapping of internationalized host names: letters become small, compatibility characters are
replaced, ignorable ones dropped and disallowed ones rejected.

* `Domain.mapChar`: what a character becomes.
-/

namespace HttpSuite.Domain

open Text

/-- The code points that are dropped. -/
def ignored : Array (Nat × Nat) :=
  #[(0xAD, 0xAD), (0x34F, 0x34F), (0x115F, 0x1160), (0x17B4, 0x17B5), (0x180B, 0x180F),
    (0x200B, 0x200B), (0x2060, 0x2064), (0x206A, 0x206F), (0x3164, 0x3164), (0xFE00, 0xFE0F),
    (0xFEFF, 0xFEFF), (0xFFA0, 0xFFA0), (0x1BCA0, 0x1BCA3), (0x1D173, 0x1D17A), (0xE0100, 0xE01EF)]

/-- Ranges in which capital and small letters take turns. Each begins and ends with a capital
letter, and the small one follows it. -/
def letterPairs : Array (Nat × Nat) :=
  #[(0x100, 0x12E), (0x134, 0x136), (0x139, 0x13D), (0x141, 0x147), (0x14A, 0x176), (0x179, 0x17D),
    (0x182, 0x184), (0x1A0, 0x1A4), (0x1B3, 0x1B5), (0x1CD, 0x1DB), (0x1DE, 0x1EE), (0x1F8, 0x21E),
    (0x222, 0x232), (0x246, 0x24E), (0x370, 0x372), (0x3D8, 0x3EE), (0x460, 0x480), (0x48A, 0x4BE),
    (0x4C1, 0x4CD), (0x4D0, 0x52E), (0x1E00, 0x1E94), (0x1EA0, 0x1EFE), (0x2C67, 0x2C6B),
    (0x2C80, 0x2CE2), (0x2CEB, 0x2CED), (0xA640, 0xA66C), (0xA680, 0xA69A), (0xA722, 0xA72E),
    (0xA732, 0xA76E), (0xA779, 0xA77B), (0xA77E, 0xA786), (0xA790, 0xA792), (0xA796, 0xA7A8),
    (0xA7B4, 0xA7C2), (0xA7C7, 0xA7C9), (0xA7CC, 0xA7DA)]

/-- The small letter of a capital one in a range where they take turns. -/
def pairedLetter? (n : Nat) : Option Nat :=
  match search id letterPairs n with
  | some (first, _) => if (n - first) % 2 = 0 then some (n + 1) else none
  | none => none

/-- The tables of ranges that consecutive code points replace. -/
def mappedRanges : List (Array (Nat × Nat × Nat)) :=
  [mappedLetters, mappedSymbols, ideographs, mappedForms, mappedAlphabets,
   rareIdeographs]

/-- The tables of code points that several ones replace. -/
def mappedTexts : List (Array (Nat × Nat × List Nat)) :=
  [mappedDigraphs, mappedUnits, mappedLigatures, mappedVariants]

/-- The code point that replaces another one, if one does. -/
def replacedByOne? (n : Nat) : Option Nat :=
  pairedLetter? n <|> mappedRanges.findSome? fun table =>
    (rowAt? table n).map fun (first, _, target) => target + (n - first)

/-- The text that replaces a code point beyond ASCII, if it is replaced. -/
def replacement? (n : Nat) : Option (List Nat) :=
  match replacedByOne? n with
  | some m => some [m]
  | none => mappedTexts.findSome? fun table => (rowAt? table n).map fun (_, _, text) => text

/-- What a character becomes in a host name; `none` if it may not stand in one. -/
def mapChar (c : Char) : Option (List Char) :=
  let n := c.toNat
  if n < 128 then some [c.toLower]
  else if inTable disallowed n then none
  else if inTable ignored n then some []
  else
    match replacement? n with
    | some text => some (text.map Char.ofNat)
    | none => some [c]

end HttpSuite.Domain
