/-!
# `Toml.Scan` — characters, blanks, comments and line ends of TOML

The lowest layer of the grammar. A reader takes a text and gives what it has read with the rest of the
text, or nothing where the text does not begin as it should.
-/

namespace JavaSource
namespace Toml

/-- A reader: what was read, and the rest of the text. -/
abbrev Reader (α : Type) := List Char → Option (α × List Char)

/-- Blanks within a line. -/
def isSpace (c : Char) : Bool := c == ' ' || c == '\t'

/-- Characters that may stand in a comment, and in a string unless they have a meaning there: tabs, and
    all that is no control character. -/
def isText (c : Char) : Bool := c == '\t' || (0x20 ≤ c.toNat && c.toNat != 0x7F)

/-- The text after leading blanks. -/
def skipSpace (cs : List Char) : List Char := cs.dropWhile isSpace

/-- The text after a line break at its beginning. -/
def newline? : List Char → Option (List Char)
  | '\n' :: cs => some cs
  | '\r' :: '\n' :: cs => some cs
  | _ => none

/-- The text after a comment at its beginning, if there is one. -/
def skipComment : List Char → List Char
  | '#' :: cs => cs.dropWhile isText
  | cs => cs

/-- The text after the end of a line: blanks, a comment perhaps, and a line break or the end of the
    text. -/
def lineEnd? (cs : List Char) : Option (List Char) :=
  match skipComment (skipSpace cs) with
  | [] => some []
  | rest => newline? rest

/-- The text after blanks, line breaks and comments, as they may stand between the items of an array.
    `inComment` says whether the text begins inside a comment. -/
def skipFiller (inComment : Bool) : List Char → List Char
  | [] => []
  | '\r' :: '\n' :: cs => skipFiller false cs
  | '\n' :: cs => skipFiller false cs
  | c :: cs =>
    if inComment then
      if isText c then skipFiller true cs else c :: cs
    else if isSpace c then skipFiller false cs
    else if c == '#' then skipFiller true cs
    else c :: cs

/-- The text after a given beginning. -/
def after? : List Char → List Char → Option (List Char)
  | [], cs => some cs
  | _ :: _, [] => none
  | a :: start, c :: cs => if a == c then after? start cs else none

end Toml
end JavaSource
