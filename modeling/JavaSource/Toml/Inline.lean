import JavaSource.Toml.DateTime
import JavaSource.Toml.Number
import JavaSource.Toml.StringLiteral
import JavaSource.Toml.Table

/-!
# `Toml.Inline` — keys and values

Keys are bare or quoted words with dots between them. Values are strings, numbers, booleans, dates, arrays
and inline tables. Arrays and inline tables nest to a limited depth, and dotted keys have a limited
length.
-/

namespace JavaSource
namespace Toml

/-- Dotted keys have fewer parts than this, and values nest less deep than this. -/
def depthLimit : Nat := 80

/-! ## Keys -/

def isBareKeyChar (c : Char) : Bool := c.isAlphanum || c == '-' || c == '_'

/-- One part of a key. -/
def simpleKey : Reader String
  | [] => none
  | c :: cs =>
    if c == '"' || c == '\'' then lineString (c :: cs)
    else if isBareKeyChar c then
      some (String.ofList ((c :: cs).takeWhile isBareKeyChar), (c :: cs).dropWhile isBareKeyChar)
    else none

/-- The parts of a dotted key with blanks around them, of which there are at most `fuel`. -/
def keyParts : Nat → Reader (List String)
  | 0, _ => none
  | fuel + 1, cs =>
    match simpleKey (skipSpace cs) with
    | none => none
    | some (part, rest) =>
      match skipSpace rest with
      | '.' :: rest =>
        match keyParts fuel rest with
        | some (parts, rest) => some (part :: parts, rest)
        | none => none
      | rest => some ([part], rest)

/-- A dotted key with blanks around it. -/
def dottedKey : Reader (List String) := keyParts (depthLimit - 1)

/-- A dotted key taken apart: what leads to the table, and the name in it. -/
def splitKey : List String → Option (List String × String)
  | [] => none
  | [name] => some ([], name)
  | part :: rest =>
    match splitKey rest with
    | some (path, name) => some (part :: path, name)
    | none => none

/-! ## Arrays and inline tables, given a reader for their items -/

/-- What follows an opening bracket, or a comma in an array, up to the closing bracket. There are at most
    `fuel` items. -/
def arrayItems (item : Reader Value) : Nat → Reader (List Value)
  | 0, _ => none
  | fuel + 1, cs =>
    match skipFiller false cs with
    | ']' :: rest => some ([], rest)
    | cs =>
      match item cs with
      | none => none
      | some (v, rest) =>
        match skipFiller false rest with
        | ']' :: rest => some ([v], rest)
        | ',' :: rest =>
          match arrayItems item fuel rest with
          | some (vs, rest) => some (v :: vs, rest)
          | none => none
        | _ => none

/-- A key with its value: the path of the key, its last part, and the value. -/
abbrev Assignment := List String × String × Value

/-- A key, an equals sign and a value, with blanks before each. -/
def assignment (item : Reader Value) : Reader Assignment := fun cs =>
  match dottedKey cs with
  | some (key, '=' :: rest) =>
    match splitKey key, item (skipSpace rest) with
    | some (path, name), some (v, rest) => some ((path, name, v), rest)
    | _, _ => none
  | _ => none

/-- What follows an opening brace with something in it, or a comma in an inline table, up to the closing
    brace. There are at most `fuel` assignments. -/
def inlineAssignments (item : Reader Value) : Nat → Reader (List Assignment)
  | 0, _ => none
  | fuel + 1, cs =>
    match assignment item cs with
    | none => none
    | some (a, rest) =>
      match skipSpace rest with
      | '\x7d' :: rest => some ([a], rest)
      | ',' :: rest =>
        match inlineAssignments item fuel rest with
        | some (as, rest) => some (a :: as, rest)
        | none => none
      | _ => none

/-- The table after a list of assignments. -/
def assignAll (t : Table) : List Assignment → Option Table
  | [] => some t
  | (path, name, v) :: rest =>
    match t.assign path name v with
    | some t => assignAll t rest
    | none => none

/-- What follows the opening brace of an inline table. -/
def inlineTable (item : Reader Value) : Reader Value := fun cs =>
  match skipSpace cs with
  | '\x7d' :: rest => some (.table [], rest)
  | _ =>
    match inlineAssignments item (cs.length + 1) cs with
    | some (as, rest) => (assignAll {} as).map fun t => (.table t.toEntries, rest)
    | none => none

/-! ## Values -/

/-- A number, a date or a time. -/
def number : Reader Value := fun cs => ((dateTime cs).or (float cs)).or (integer cs)

def boolean : Reader Value := fun cs =>
  match after? ['t', 'r', 'u', 'e'] cs with
  | some rest => some (.boolean true, rest)
  | none => (after? ['f', 'a', 'l', 's', 'e'] cs).map fun rest => (.boolean false, rest)

/-- A value without parts. -/
def scalar : Reader Value
  | [] => none
  | c :: cs =>
    if c == '"' || c == '\'' then (stringLiteral (c :: cs)).map fun (s, rest) => (.string s, rest)
    else if c == 't' || c == 'f' then boolean (c :: cs)
    else if c == 'i' || c == 'n' then wordFloat (c :: cs)
    else if c == '+' || c == '-' || c.isDigit then number (c :: cs)
    else none

/-- A value in which arrays and inline tables nest at most `depth` deep. -/
def valueWithin : Nat → Reader Value
  | 0 => scalar
  | depth + 1 => fun cs =>
    match cs with
    | '[' :: rest =>
      (arrayItems (valueWithin depth) (rest.length + 1) rest).map fun (vs, rest) => (.array vs, rest)
    | '\x7b' :: rest => inlineTable (valueWithin depth) rest
    | cs => scalar cs

/-- A value. -/
def value : Reader Value := valueWithin (depthLimit - 1)

end Toml
end JavaSource
