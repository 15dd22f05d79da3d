import HttpSuite.Domain.Direction
import HttpSuite.Domain.Joining
import HttpSuite.Domain.Mapped
import HttpSuite.Domain.Mark
import HttpSuite.Domain.Punycode
import HttpSuite.Text.Composition
import HttpSuite.Text.Split

/-!
# Internationalized host names

A host name is brought into one form (lower case, compatibility characters replaced, ignorable ones
dropped, marks joined with what they stand on) and then judged label by label: no label begins with a
mark, joiners stand where they have an effect, labels in ASCII form stand for a label that needs it,
and in a name with right-to-left characters every label has one direction.

* `Domain.normalize`: the form of a host name, if it is one.
-/

namespace HttpSuite.Domain

open Text

/-- The ASCII characters that the host of a URL may not hold. -/
def isDenied (c : Char) : Bool :=
  c.toNat ≤ 0x20 || c.toNat == 0x7F || "%#/:<>?@[\\]^|".toList.contains c

/-- Does a character stand for itself in a label? -/
def isStable (c : Char) : Bool := !isDenied c && c != '.' && mapChar c == some [c]

/-- What labels in ASCII form begin with. -/
def asciiFormMark : List Char := "xn--".toList

/-- The longest ASCII form, without what it begins with. -/
def maxAsciiForm : Nat := 2000

/-- The longest label with characters beyond ASCII. -/
def maxLabel : Nat := 1000

/-- Is a text all ASCII? -/
def isAscii (cs : List Char) : Bool := cs.all fun c => c.toNat < 128

/-- The label that a label stands for: that of its ASCII form, or itself. An ASCII form must have
characters beyond ASCII and stand for a label that is already in its final form. -/
def decodeLabel (label : List Char) : Option (List Char) :=
  if asciiFormMark.isPrefixOf label then
    let form := label.drop asciiFormMark.length
    if !isAscii form || form.getLast? = none || form.getLast? = some '-'
        || maxAsciiForm < form.length then none
    else
      match Punycode.decode form with
      | some decoded => if decoded.all isStable && compose decoded == decoded then some decoded else none
      | none => none
  else some label

/-- May a label stand in a host name, apart from its direction? -/
def labelFits (label : List Char) : Bool :=
  (isAscii label || label.length ≤ maxLabel) && !label.head?.any isMark && joinersFit [] label

/-- Does a label have one direction? It begins with a letter, holds nothing of the other direction
and ends, marks aside, in a letter or digit. -/
def hasDirection (label : List Char) : Bool :=
  let parts := label.map Direction.of
  let last := parts.reverse.find? (· != .nonspacing)
  match parts with
  | [] => true
  | .left :: _ =>
    parts.all (fun d => d != .right && d != .arabicNumber)
      && last.any (fun d => d == .left || d == .europeanNumber)
  | .right :: _ =>
    parts.all (· != .left)
      && last.any (fun d => d == .right || d == .europeanNumber || d == .arabicNumber)
      && !(parts.contains .europeanNumber && parts.contains .arabicNumber)
  | _ => false

/-- Does a label hold characters that run from right to left? -/
def isRightToLeft (label : List Char) : Bool :=
  label.any fun c => Direction.of c = .right || Direction.of c = .arabicNumber

/-- May these labels together be a host name? -/
def labelsFit (labels : List (List Char)) : Bool :=
  labels.all labelFits && (!labels.any isRightToLeft || labels.all hasDirection)

/-- The form of a host name, if it is one. Labels in ASCII form stay so. -/
def normalize (name : List Char) : Option (List Char) := do
  let text := compose (← name.mapM mapChar).flatten
  if text.any isDenied then none
  let labels ← (splitOn '.' text).mapM decodeLabel
  if labelsFit labels then some text else none

end HttpSuite.Domain
