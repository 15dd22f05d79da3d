import HttpSuite.Text.Percent
import HttpSuite.Text.Split

/-!
# IPv4 addresses in URLs

A host whose last part is a number must be an IPv4 address: up to four numbers between dots, decimal,
octal after a `0` or hexadecimal after `0x`. The last number fills all the bytes that the ones before
it leave.
-/

namespace HttpSuite.Url.Ipv4

open Text

/-- The number that digits stand for in a base; `none` if one of them is no digit of it. -/
def ofDigits (base : Nat) (cs : List Char) : Option Nat :=
  cs.foldl (fun n c => do
    let d ← hexValue? c
    if d < base then some (base * (← n) + d) else none) (some 0)

/-- A part of an address as a number. A base mark alone is zero. -/
def number? : List Char → Option Nat
  | [] => none
  | '0' :: 'x' :: cs | '0' :: 'X' :: cs => ofDigits 16 cs
  | '0' :: c :: cs => ofDigits 8 (c :: cs)
  | cs => ofDigits 10 cs

/-- The parts of a host without the empty one after a final dot. -/
def parts (host : List Char) : List (List Char) :=
  let all := splitOn '.' host
  if all.length > 1 && all.getLast? == some [] then all.dropLast else all

/-- Is a host meant as an address? -/
def isMeant (host : List Char) : Bool :=
  match (parts host).getLast? with
  | none => false
  | some last => (!last.isEmpty && last.all Char.isDigit) || (number? last).isSome

/-- Is a host an address? -/
def isAddress (host : List Char) : Bool :=
  match (parts host).mapM number? with
  | none => false
  | some numbers =>
    numbers.length ≤ 4 && numbers.dropLast.all (· < 256)
      && numbers.getLast?.any (· < Nat.pow 256 (5 - numbers.length))

end HttpSuite.Url.Ipv4
