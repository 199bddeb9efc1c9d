import JavaSource.Text.Blank

/-!
# `Emission.Line` — lines of source text

A text is laid out as a list of lines, each blank or with a depth of indentation. Only printing knows how
wide a level is.
-/

namespace JavaSource

/-- A line: blank, or some text at a depth of indentation. -/
inductive Line where
  | blank
  | code (depth : Nat) (text : String)
  deriving DecidableEq, Repr

namespace Line

/-- A line of a body: one that holds blanks alone becomes blank, any other keeps its text. -/
def ofBody (depth : Nat) (text : String) : Line :=
  if (Text.trim text.toList).isEmpty then .blank else .code depth text

/-- `depth` times the indentation of one level. -/
def indentation (unit : String) : Nat → String
  | 0 => ""
  | depth + 1 => unit ++ indentation unit depth

/-- The text of a line, with the line break. -/
def print (unit : String) : Line → String
  | .blank => "\n"
  | .code depth text => indentation unit depth ++ text ++ "\n"

/-- The text of a list of lines. -/
def printAll (unit : String) : List Line → String
  | [] => ""
  | line :: rest => line.print unit ++ printAll unit rest

theorem printAll_append (unit : String) (ls ms : List Line) :
    printAll unit (ls ++ ms) = printAll unit ls ++ printAll unit ms := by
  induction ls with
  | nil => simp [printAll]
  | cons l ls ih => simp [printAll, ih, String.append_assoc]

/-- Puts blocks of lines below one another, with a blank line between neighbours if `separate`. -/
def stack (separate : Bool) : List (List Line) → List Line
  | [] => []
  | [block] => block
  | block :: rest => block ++ (if separate then [.blank] else []) ++ stack separate rest

end Line
end JavaSource
