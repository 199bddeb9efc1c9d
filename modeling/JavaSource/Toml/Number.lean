import JavaSource.Toml.Scan
import JavaSource.Toml.Value

/-!
# `Toml.Number` — integers and floats

Digits may be separated by single underscores. An integer in base ten may have a sign and no leading zero;
one in base sixteen, eight or two has a mark for the base and no sign. A float is well formed when it has a
fraction or an exponent and is not too large to round to a finite number; a negative one is let pass.
-/

namespace JavaSource
namespace Toml

/-- Further digits of a number: digits of a class, each with an underscore before it or none. -/
def moreDigits (isDigit : Char → Bool) : List Char → List Char × List Char
  | [] => ([], [])
  | '_' :: c :: cs =>
    if isDigit c then
      let (digits, rest) := moreDigits isDigit cs
      (c :: digits, rest)
    else ([], '_' :: c :: cs)
  | c :: cs =>
    if isDigit c then
      let (digits, rest) := moreDigits isDigit cs
      (c :: digits, rest)
    else ([], c :: cs)

/-- A run of digits that begins with a digit. -/
def digitRun (isDigit : Char → Bool) : Reader (List Char)
  | [] => none
  | c :: cs =>
    if isDigit c then
      let (digits, rest) := moreDigits isDigit cs
      some (c :: digits, rest)
    else none

/-- The value of a digit in any base up to sixteen. -/
def digitValue (c : Char) : Nat :=
  if c.isDigit then c.toNat - '0'.toNat
  else if c.isLower then c.toNat - 'a'.toNat + 10
  else c.toNat - 'A'.toNat + 10

/-- The number that digits make. -/
def digitsValue (base : Nat) (digits : List Char) : Nat :=
  digits.foldl (fun n c => base * n + digitValue c) 0

def isHexDigit (c : Char) : Bool := c.isDigit || ('a' ≤ c && c ≤ 'f') || ('A' ≤ c && c ≤ 'F')

def isOctalDigit (c : Char) : Bool := '0' ≤ c && c ≤ '7'

def isBinaryDigit (c : Char) : Bool := c == '0' || c == '1'

/-- A sign, if there is one: whether it is a minus, and the rest. -/
def sign : List Char → Bool × List Char
  | '-' :: cs => (true, cs)
  | '+' :: cs => (false, cs)
  | cs => (false, cs)

/-- Digits in base ten without a leading zero. -/
def decimalDigits : Reader (List Char)
  | '0' :: cs => some (['0'], cs)
  | cs => digitRun Char.isDigit cs

/-- An integer that is in range. -/
def inRange (n : Int) (rest : List Char) : Option (Value × List Char) :=
  if isInteger n then some (.integer n, rest) else none

/-- An integer in a base that is marked. -/
def markedInteger (base : Nat) (isDigit : Char → Bool) : Reader Value := fun cs =>
  match digitRun isDigit cs with
  | some (digits, rest) => inRange (digitsValue base digits) rest
  | none => none

/-- An integer in base ten. -/
def decimalInteger : Reader Value := fun cs =>
  let (negative, cs) := sign cs
  match decimalDigits cs with
  | some (digits, rest) =>
    let n : Int := digitsValue 10 digits
    inRange (if negative then -n else n) rest
  | none => none

/-- An integer. -/
def integer : Reader Value
  | '0' :: 'x' :: cs => markedInteger 16 isHexDigit cs
  | '0' :: 'o' :: cs => markedInteger 8 isOctalDigit cs
  | '0' :: 'b' :: cs => markedInteger 2 isBinaryDigit cs
  | cs => decimalInteger cs

/-! ## Floats -/

/-- The exponent of a float. -/
def floatExponent : Reader Int
  | c :: cs =>
    if c == 'e' || c == 'E' then
      let (negative, cs) := sign cs
      match digitRun Char.isDigit cs with
      | some (digits, rest) =>
        let n : Int := digitsValue 10 digits
        some (if negative then -n else n, rest)
      | none => none
    else none
  | [] => none

/-- The fraction of a float: the digits after the point. -/
def floatFraction : Reader (List Char)
  | '.' :: cs => digitRun Char.isDigit cs
  | _ => none

/-- Does `m` times ten to the power of `e` round to a finite number in double precision? The least number
    that does not is half a unit in the last place above the largest finite one. -/
def roundsToFinite (m : Nat) (e : Int) : Bool :=
  let digits : Int := (Nat.toDigits 10 m).length
  if m = 0 then true
  else if digits + e < 300 then true
  else if digits + e > 320 then false
  else
    let limit := Nat.pow 2 1024 - Nat.pow 2 970
    if 0 ≤ e then m * Nat.pow 10 e.toNat < limit else m < limit * Nat.pow 10 (-e).toNat

/-- A float with a fraction or an exponent. -/
def decimalFloat : Reader Value := fun cs =>
  let (negative, cs) := sign cs
  match decimalDigits cs with
  | none => none
  | some (whole, cs) =>
    let read : Option (List Char × Int × List Char) :=
      match floatFraction cs with
      | some (fraction, cs) =>
        match floatExponent cs with
        | some (e, rest) => some (fraction, e, rest)
        | none => some (fraction, 0, cs)
      | none =>
        match floatExponent cs with
        | some (e, rest) => some ([], e, rest)
        | none => none
    match read with
    | none => none
    | some (fraction, e, rest) =>
      if negative || roundsToFinite (digitsValue 10 (whole ++ fraction)) (e - fraction.length) then
        some (.float, rest)
      else none

/-- The floats that are written as words: infinity, and what is no number. -/
def wordFloat : Reader Value := fun cs =>
  let (_, cs) := sign cs
  match after? ['i', 'n', 'f'] cs with
  | some rest => some (.float, rest)
  | none => (after? ['n', 'a', 'n'] cs).map fun rest => (.float, rest)

/-- A float. -/
def float : Reader Value := fun cs => (decimalFloat cs).or (wordFloat cs)

end Toml
end JavaSource
