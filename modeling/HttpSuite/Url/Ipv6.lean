import HttpSuite.Text.Percent
import HttpSuite.Text.Split

/-!
# IPv6 addresses in URLs

Eight groups of one to four hexadecimal digits between colons. One run of groups may be left out
between two colons, and the last two groups may be written as an IPv4 address.
-/

namespace HttpSuite.Url.Ipv6

open Text

/-- Is a part a group of hexadecimal digits? -/
def isGroup (cs : List Char) : Bool :=
  !cs.isEmpty && cs.length ≤ 4 && cs.all fun c => (hexValue? c).isSome

/-- Is a part a number below 256 without leading zeros? -/
def isByte (cs : List Char) : Bool :=
  !cs.isEmpty && cs.length ≤ 3 && cs.all Char.isDigit && (cs.head? != some '0' || cs.length == 1)
    && cs.foldl (fun n c => 10 * n + (c.toNat - '0'.toNat)) 0 < 256

/-- Is a part an IPv4 address of four decimal numbers? -/
def isDotted (cs : List Char) : Bool :=
  let bytes := splitOn '.' cs
  bytes.length == 4 && bytes.all isByte

/-- The number of groups in a text without a gap; `none` if a part is no group. Only if `dotted` may
the last part be an IPv4 address, which counts as two groups. -/
def groupCount (dotted : Bool) (cs : List Char) : Option Nat :=
  let parts := splitOn ':' cs
  if parts.all isGroup then some parts.length
  else if dotted && parts.dropLast.all isGroup && parts.getLast?.any isDotted then
    some (parts.length + 1)
  else none

/-- As `groupCount`, where the text may be empty. -/
def groupCount? (dotted : Bool) (cs : List Char) : Option Nat :=
  if cs.isEmpty then some 0 else groupCount dotted cs

/-- The texts before and after the first two colons in a row. -/
def splitGap : List Char → Option (List Char × List Char)
  | ':' :: ':' :: rest => some ([], rest)
  | c :: rest => (splitGap rest).map fun (a, b) => (c :: a, b)
  | [] => none

/-- Is a text an address? -/
def isAddress (cs : List Char) : Bool :=
  match splitGap cs with
  | none => groupCount true cs == some 8
  | some (before, after) =>
    match groupCount? false before, groupCount? true after with
    | some m, some n => m + n ≤ 7
    | _, _ => false

end HttpSuite.Url.Ipv6
