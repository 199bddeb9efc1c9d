import JavaSource.Toml.Scan
import JavaSource.Toml.Value

/-!
# `Toml.DateTime` — dates and times

A date, a time of day, or both with an offset from universal time perhaps. Only the form is read, and
that the date is in the calendar.
-/

namespace JavaSource
namespace Toml

/-- A number of exactly `count` digits, after the digits of `n`. -/
def fixedNumber (count n : Nat) (cs : List Char) : Option (Nat × List Char) :=
  match count, cs with
  | 0, cs => some (n, cs)
  | _ + 1, [] => none
  | count + 1, c :: cs =>
    if c.isDigit then fixedNumber count (10 * n + (c.toNat - '0'.toNat)) cs else none

/-- A number of two digits within bounds. -/
def twoDigits (least greatest : Nat) : Reader Nat := fun cs =>
  match fixedNumber 2 0 cs with
  | some (n, rest) => if least ≤ n && n ≤ greatest then some (n, rest) else none
  | none => none

def isLeapYear (year : Nat) : Bool := year % 4 == 0 && (year % 100 != 0 || year % 400 == 0)

def daysOfMonth (year month : Nat) : Nat :=
  if month = 2 then (if isLeapYear year then 29 else 28)
  else if month = 4 ∨ month = 6 ∨ month = 9 ∨ month = 11 then 30
  else 31

/-- The text after a date. -/
def date? (cs : List Char) : Option (List Char) := do
  let (year, cs) ← fixedNumber 4 0 cs
  let cs ← after? ['-'] cs
  let (month, cs) ← twoDigits 1 12 cs
  let cs ← after? ['-'] cs
  let (day, cs) ← twoDigits 1 31 cs
  if day ≤ daysOfMonth year month then some cs else none

/-- The text after a fraction of a second, if there is one. -/
def skipSecondFraction : List Char → List Char
  | '.' :: c :: cs => if c.isDigit then cs.dropWhile Char.isDigit else '.' :: c :: cs
  | cs => cs

/-- The text after a time of day. -/
def time? (cs : List Char) : Option (List Char) := do
  let (_, cs) ← twoDigits 0 23 cs
  let cs ← after? [':'] cs
  let (_, cs) ← twoDigits 0 59 cs
  let cs ← after? [':'] cs
  let (_, cs) ← twoDigits 0 60 cs
  pure (skipSecondFraction cs)

/-- The text after hours and minutes of an offset. -/
def offsetAmount? (cs : List Char) : Option (List Char) := do
  let (_, cs) ← twoDigits 0 23 cs
  let cs ← after? [':'] cs
  let (_, cs) ← twoDigits 0 59 cs
  pure cs

/-- The text after an offset from universal time, if there is one. -/
def skipOffset : List Char → List Char
  | [] => []
  | c :: cs =>
    if c == 'Z' || c == 'z' then cs
    else if c == '+' || c == '-' then (offsetAmount? cs).getD (c :: cs)
    else c :: cs

/-- The text after a time of day that follows a date, if there is one. -/
def skipTimeOfDate : List Char → List Char
  | [] => []
  | c :: cs =>
    if c == 'T' || c == 't' || c == ' ' then ((time? cs).map skipOffset).getD (c :: cs) else c :: cs

/-- A date, a time, or both. -/
def dateTime : Reader Value := fun cs =>
  match date? cs with
  | some rest => some (.dateTime, skipTimeOfDate rest)
  | none => (time? cs).map fun rest => (.dateTime, rest)

end Toml
end JavaSource
