import JavaSource.Fields

/-!
# `Toml.Value` — the values of TOML documents

The values that a TOML document can hold. A document is itself a table. Settings are strings, integers,
booleans, lists and tables; of a float and of a date or time it matters only that it is well formed, so
those carry nothing.
-/

namespace JavaSource
namespace Toml
open Fields

/-- A TOML value. -/
inductive Value where
  | string (s : String)
  | integer (n : Int)
  | boolean (b : Bool)
  | float
  | dateTime
  | array (items : List Value)
  | table (entries : List (String × Value))
  deriving Repr, Inhabited

namespace Value

def asString? : Value → Option String
  | .string s => some s
  | _ => none

def asBool? : Value → Option Bool
  | .boolean b => some b
  | _ => none

/-- A whole number that is not negative. -/
def asNat? : Value → Option Nat
  | .integer n => if 0 ≤ n then some n.toNat else none
  | _ => none

def asArray? : Value → Option (List Value)
  | .array items => some items
  | _ => none

def asTable? : Value → Option (List (String × Value))
  | .table entries => some entries
  | _ => none

/-- The named values of a record: those of a table; those of a list by position; and none for a date, which
    counts as a table without known names. -/
def fields? (names : Names) : Value → Option (List (String × Value))
  | .table entries => some entries
  | .array items => some (names.order.zip items)
  | .dateTime => some []
  | _ => none

/-- Does a value say nothing more than that it is there? -/
def isEmpty : Value → Bool
  | .table [] | .array [] => true
  | _ => false

/-- A word from a fixed list: a string, or the one name in a table, with a value that says nothing more. -/
def asWord? : Value → Option String
  | .string s => some s
  | .table [(s, v)] => if v.isEmpty then some s else none
  | _ => none

end Value

/-- The integers of TOML documents are those of 64 bits with sign. -/
def isInteger (n : Int) : Bool := -9223372036854775808 ≤ n && n ≤ 9223372036854775807

end Toml
end JavaSource
