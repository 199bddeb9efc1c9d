import JavaSource.Text.Pieces
import JavaSource.Toml.Value

/-!
# `Toml.Printer` — writing documents of settings

A document of settings is a list of named sections, each a list of named settings. A string is written in
the plainest of the kinds of string that can hold it.
-/

namespace JavaSource
namespace Toml
open Text

/-- The values that settings have. -/
inductive Setting where
  | string (s : String)
  | strings (ss : List String)
  | integer (n : Int)
  | boolean (b : Bool)
  deriving DecidableEq, Repr

/-- The setting as a value of a document. -/
def Setting.toValue : Setting → Value
  | .string s => .string s
  | .strings ss => .array (ss.map .string)
  | .integer n => .integer n
  | .boolean b => .boolean b

/-- A section: its name and its settings. -/
abbrev Section := String × List (String × Setting)

/-! ## Strings -/

/-- The kinds of string. -/
inductive StringKind where
  | basic
  | literal
  | multilineBasic
  | multilineLiteral
  deriving DecidableEq, Repr

/-- The length of the longest run of a character, given the length of the run that is going on. -/
def longestRun (c : Char) (current : Nat) : List Char → Nat
  | [] => current
  | d :: cs => if d == c then longestRun c (current + 1) cs else max current (longestRun c 0 cs)

/-- A control character that only an escape can stand for: not a tab, nor a line feed. -/
def needsEscape (c : Char) : Bool := (c.toNat < 0x20 && c != '\t' && c != '\n') || c.toNat == 0x7F

/-- The plainest kind of string that can hold a text: basic if nothing in it needs care, then literal,
    then the two kinds over several lines, and at last a kind with escapes. -/
def stringKind (cs : List Char) : StringKind :=
  let controls := cs.any needsEscape
  let backslash := cs.contains '\\'
  let breaks := cs.contains '\n'
  let doubles := longestRun '"' 0 cs
  let singles := longestRun '\'' 0 cs
  if !controls && !backslash && doubles == 0 && !breaks then .basic
  else if !controls && singles == 0 && !breaks then .literal
  else if !controls && !backslash && doubles ≤ 2 then .multilineBasic
  else if !controls && singles ≤ 2 then .multilineLiteral
  else if breaks then .multilineBasic
  else .basic

/-- Four hexadecimal digits in upper case. -/
def fourHexDigits (n : Nat) : List Char :=
  let digits := Nat.toDigits 16 n
  (List.replicate (4 - digits.length) '0' ++ digits).map Char.toUpper

/-- The text between double quotes for a text. Of double quotes in a row, as many stand for themselves as
    `allowed` says, and `seen` says how many have just done so; line feeds stand for themselves if `breaks`
    says so. -/
def escaped (allowed : Nat) (breaks : Bool) (seen : Nat) : List Char → List Char
  | [] => []
  | c :: cs =>
    if c == '"' then
      if seen < allowed then c :: escaped allowed breaks (seen + 1) cs
      else '\\' :: '"' :: escaped allowed breaks 0 cs
    else if c == '\x08' then '\\' :: 'b' :: escaped allowed breaks 0 cs
    else if c == '\t' then '\\' :: 't' :: escaped allowed breaks 0 cs
    else if c == '\n' && !breaks then '\\' :: 'n' :: escaped allowed breaks 0 cs
    else if c == '\x0c' then '\\' :: 'f' :: escaped allowed breaks 0 cs
    else if c == '\r' then '\\' :: 'r' :: escaped allowed breaks 0 cs
    else if c == '\\' then '\\' :: '\\' :: escaped allowed breaks 0 cs
    else if needsEscape c then '\\' :: 'u' :: fourHexDigits c.toNat ++ escaped allowed breaks 0 cs
    else c :: escaped allowed breaks 0 cs

/-- A text over several lines between delimiters. It begins on a line of its own if it has line
    breaks. -/
def multiline (delimiter cs body : List Char) : List Char :=
  delimiter ++ (if cs.contains '\n' then ['\n'] else []) ++ body ++ delimiter

/-- A string as it is written. -/
def printString (s : String) : String :=
  let cs := s.toList
  String.ofList <|
    match stringKind cs with
    | .basic => '"' :: escaped 0 false 0 cs ++ ['"']
    | .literal => '\'' :: cs ++ ['\'']
    | .multilineBasic => multiline ['"', '"', '"'] cs (escaped 2 true 0 cs)
    | .multilineLiteral => multiline ['\'', '\'', '\''] cs cs

/-! ## Settings -/

/-- A setting as it is written. -/
def Setting.print : Setting → String
  | .string s => printString s
  | .strings ss => "[" ++ joinWith ", " (ss.map printString) ++ "]"
  | .integer n => toString n
  | .boolean b => if b then "true" else "false"

/-- A section as it is written: a header, and one setting a line. -/
def printSection (s : Section) : String :=
  "[" ++ s.1 ++ "]\n" ++ String.join (s.2.map fun entry => entry.1 ++ " = " ++ entry.2.print ++ "\n")

/-- A document of settings as it is written, with a blank line between sections. -/
def printDocument (sections : List Section) : String := joinWith "\n" (sections.map printSection)

/-- Can a setting be written? An integer has to be in range. -/
def Setting.isWritable : Setting → Bool
  | .integer n => isInteger n
  | _ => true

/-- A document of settings as it is written, if all of them can be. -/
def printDocument? (sections : List Section) : Option String :=
  if sections.all fun s => s.2.all fun entry => entry.2.isWritable then some (printDocument sections) else none

end Toml
end JavaSource
