import HttpSuite.Text.Percent
import HttpSuite.Text.Split
import HttpSuite.Toml.Value

/-!
# Bare TOML values

Booleans, numbers, dates and times: the values that are written without quotes or brackets. Numbers
may have underscores between digits.

* `Scalar.value?`: the value of a bare word.
-/

namespace HttpSuite.Toml.Scalar

open Text

/-- The value of digits of a base with single underscores between them. There is at least one. -/
def digits? (base : Nat) (cs : List Char) : Option Nat :=
  let groups := splitOn '_' cs
  if groups.any List.isEmpty then none
  else groups.flatten.foldlM (fun n c => do
    let d ← hexValue? c
    if d < base then some (base * n + d) else none) 0

/-- Digits that begin with a zero only if there is no other. -/
def hasNoLeadingZero (cs : List Char) : Bool := cs.head? != some '0' || cs.length == 1

/-- A number without a sign: decimal without leading zeros, or of another base. -/
def unsigned? : List Char → Option Nat
  | '0' :: 'x' :: cs => digits? 16 cs
  | '0' :: 'o' :: cs => digits? 8 cs
  | '0' :: 'b' :: cs => digits? 2 cs
  | cs => if hasNoLeadingZero cs then digits? 10 cs else none

/-- The sign of a number and what follows it. -/
def splitSign : List Char → Option Bool × List Char
  | '+' :: cs => (some false, cs)
  | '-' :: cs => (some true, cs)
  | cs => (none, cs)

/-- An integer. Only decimal ones have a sign. -/
def integer? (cs : List Char) : Option Int :=
  match splitSign cs with
  | (none, digits) => (unsigned? digits).map Int.ofNat
  | (some negative, digits) =>
    if hasNoLeadingZero digits then
      (digits? 10 digits).map fun n => if negative then -(n : Int) else n
    else none

/-- The text before the first character that satisfies `p` and the text after it. -/
def cutAt (p : Char → Bool) (cs : List Char) : List Char × Option (List Char) :=
  match cs.dropWhile fun c => !p c with
  | [] => (cs, none)
  | _ :: rest => (cs.takeWhile fun c => !p c, some rest)

/-- The exponent of a floating-point number; zero if none is written. -/
def exponent? : Option (List Char) → Option Int
  | none => some 0
  | some cs =>
    let (negative, digits) := splitSign cs
    (digits? 10 digits).map fun n => if negative = some true then -(n : Int) else n

/-- A floating-point number without its sign. -/
def unsignedFloat? (cs : List Char) : Option Decimal := do
  let (mantissa, exponent) := cutAt (fun c => c == 'e' || c == 'E') cs
  let (whole, fraction) := cutAt (· == '.') mantissa
  if !hasNoLeadingZero whole || (fraction.isNone && exponent.isNone) then none
  let _ ← digits? 10 whole
  let decimals ← match fraction with
    | none => some []
    | some ds => (digits? 10 ds).map fun _ => ds.filter (· != '_')
  let m ← digits? 10 (whole ++ decimals)
  let e ← exponent? exponent
  return .scaled m (e - decimals.length)

/-- A floating-point number. -/
def float? (cs : List Char) : Option Decimal :=
  let digits := (splitSign cs).2
  if digits = "inf".toList ∨ digits = "nan".toList then some .special else unsignedFloat? digits

/-- Exactly `n` decimal digits. -/
def fixed? (n : Nat) (cs : List Char) : Option Nat :=
  if cs.length = n && cs.all Char.isDigit then
    some (cs.foldl (fun m c => 10 * m + (c.toNat - '0'.toNat)) 0)
  else none

/-- The number of days in a month. -/
def daysIn (year month : Nat) : Nat :=
  if month = 2 then
    if year % 4 = 0 ∧ (year % 100 ≠ 0 ∨ year % 400 = 0) then 29 else 28
  else if [4, 6, 9, 11].contains month then 30
  else 31

/-- A date: year, month and day. -/
def isDate (cs : List Char) : Bool :=
  match splitOn '-' cs with
  | [y, m, d] =>
    match fixed? 4 y, fixed? 2 m, fixed? 2 d with
    | some year, some month, some day =>
      1 ≤ month && month ≤ 12 && 1 ≤ day && day ≤ daysIn year month
    | _, _, _ => false
  | _ => false

/-- The seconds of a time with an optional fraction. A leap second counts. -/
def isSeconds (cs : List Char) : Bool :=
  let (whole, fraction) := cutAt (· == '.') cs
  (fixed? 2 whole).any (· ≤ 60)
    && fraction.all fun ds => !ds.isEmpty && ds.all Char.isDigit

/-- A time: hours, minutes and optionally seconds. -/
def isTime (cs : List Char) : Bool :=
  match splitOn ':' cs with
  | [h, m] => (fixed? 2 h).any (· ≤ 23) && (fixed? 2 m).any (· ≤ 59)
  | [h, m, s] => (fixed? 2 h).any (· ≤ 23) && (fixed? 2 m).any (· ≤ 59) && isSeconds s
  | _ => false

/-- The distance to universal time: hours and minutes, less than a day. -/
def isOffset (cs : List Char) : Bool :=
  match splitOn ':' cs with
  | [h, m] =>
    match fixed? 2 h, fixed? 2 m with
    | some hours, some minutes => hours ≤ 23 && minutes ≤ 59
    | _, _ => false
  | _ => false

/-- A time that may be followed by its distance to universal time. -/
def isTimeWithOffset (cs : List Char) : Bool :=
  if cs.getLast?.any fun c => c == 'Z' || c == 'z' then isTime cs.dropLast
  else
    match cutAt (fun c => c == '+' || c == '-') cs with
    | (time, some offset) => isTime time && isOffset offset
    | (time, none) => isTime time

/-- A date, a time, or both with a `T` or a space between them. -/
def isDateTime (cs : List Char) : Bool :=
  isDate cs || isTime cs ||
    match cutAt (fun c => c == 'T' || c == 't' || c == ' ') cs with
    | (date, some time) => isDate date && isTimeWithOffset time
    | _ => false

/-- The value of a bare word. -/
def value? (cs : List Char) : Option Value :=
  if cs = "true".toList then some (.boolean true)
  else if cs = "false".toList then some (.boolean false)
  else if isDateTime cs then some .dateTime
  else
    match integer? cs with
    | some n => some (.integer n)
    | none => (float? cs).map .float

/-- A character of a bare value. -/
def isWordChar (c : Char) : Bool := c.isAlphanum || "_+-.:".toList.contains c

/-- Takes a bare value from the front of a text. A space may stand between a date and a time. -/
def take (cs : List Char) : Option (Value × List Char) :=
  let word := cs.takeWhile isWordChar
  let rest := cs.dropWhile isWordChar
  match rest with
  | ' ' :: c :: more =>
    if isDate word && c.isDigit then
      let time := (c :: more).takeWhile isWordChar
      (value? (word ++ ' ' :: time)).map fun v => (v, (c :: more).dropWhile isWordChar)
    else (value? word).map fun v => (v, rest)
  | _ => (value? word).map fun v => (v, rest)

end HttpSuite.Toml.Scalar
