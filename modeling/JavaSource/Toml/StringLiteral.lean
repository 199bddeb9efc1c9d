import JavaSource.Toml.Scan

/-!
# `Toml.StringLiteral` — the four kinds of string

A string stands in double quotes, where escapes work, or in single quotes, where they do not; and either
on one line in single delimiters or over several lines in triple ones. A line break right after an opening
triple delimiter does not count, and every line break counts as a line feed, however it is written.
-/

namespace JavaSource
namespace Toml

/-! ## Escapes -/

/-- The character for the letter of a short escape. -/
def shortEscape? (letter : Char) : Option Char :=
  [('b', '\x08'), ('t', '\t'), ('n', '\n'), ('f', '\x0c'), ('r', '\r'), ('"', '"'), ('\\', '\\')].lookup
    letter

/-- The value of a hexadecimal digit. -/
def hexDigit? (c : Char) : Option Nat :=
  if c.isDigit then some (c.toNat - '0'.toNat)
  else if 'a' ≤ c ∧ c ≤ 'f' then some (c.toNat - 'a'.toNat + 10)
  else if 'A' ≤ c ∧ c ≤ 'F' then some (c.toNat - 'A'.toNat + 10)
  else none

/-- The number that hexadecimal digits make after the digits of `n`. -/
def hexNumber? (n : Nat) : List Char → Option Nat
  | [] => some n
  | c :: cs =>
    match hexDigit? c with
    | some d => hexNumber? (16 * n + d) cs
    | none => none

/-- The character of a code point in hexadecimal, if there is one of that number. -/
def codePoint? (digits : List Char) : Option Char :=
  match hexNumber? 0 digits with
  | some n => if n.isValidChar then some (Char.ofNat n) else none
  | none => none

/-- Puts a character before what was read. -/
def prepend (c : Option Char) (read : Option (List Char × List Char)) : Option (List Char × List Char) :=
  match c, read with
  | some c, some (text, rest) => some (c :: text, rest)
  | _, _ => none

/-! ## Strings on one line -/

/-- What follows an opening double quote, up to the closing one. -/
def basicBody : List Char → Option (List Char × List Char)
  | [] => none
  | '"' :: cs => some ([], cs)
  | '\\' :: 'u' :: a :: b :: c :: d :: cs => prepend (codePoint? [a, b, c, d]) (basicBody cs)
  | '\\' :: 'U' :: a :: b :: c :: d :: e :: f :: g :: h :: cs =>
    prepend (codePoint? [a, b, c, d, e, f, g, h]) (basicBody cs)
  | '\\' :: letter :: cs => prepend (shortEscape? letter) (basicBody cs)
  | c :: cs => if isText c && c != '\\' then prepend (some c) (basicBody cs) else none

/-- What follows an opening single quote, up to the closing one. -/
def literalBody : List Char → Option (List Char × List Char)
  | [] => none
  | c :: cs =>
    if c == '\'' then some ([], cs)
    else if isText c then prepend (some c) (literalBody cs)
    else none

/-! ## Strings over several lines

A run of three to five quotes closes the string, and those of them that come before the last three belong
to the text. A longer run is an error, a shorter one is text. -/

/-- What closes a string over several lines: the text and the rest after a run of at least three quotes,
    which is given with the text after it. -/
def closing (quotes rest : List Char) : Option (List Char × List Char) :=
  if quotes.length ≤ 5 then some (quotes.drop 3, rest) else none

/-- Does a line end here, blanks aside? -/
def endsLine (cs : List Char) : Bool := (newline? (skipSpace cs)).isSome

/-- What follows an opening triple double quote, up to the closing one. A backslash at the end of a line
    drops all blanks and line breaks that follow it; `dropping` says that this is going on. -/
def multilineBasicBody (dropping : Bool) : List Char → Option (List Char × List Char)
  | [] => none
  | '\r' :: '\n' :: cs =>
    if dropping then multilineBasicBody true cs else prepend (some '\n') (multilineBasicBody false cs)
  | '\n' :: cs =>
    if dropping then multilineBasicBody true cs else prepend (some '\n') (multilineBasicBody false cs)
  | '\\' :: 'u' :: a :: b :: c :: d :: cs =>
    prepend (codePoint? [a, b, c, d]) (multilineBasicBody false cs)
  | '\\' :: 'U' :: a :: b :: c :: d :: e :: f :: g :: h :: cs =>
    prepend (codePoint? [a, b, c, d, e, f, g, h]) (multilineBasicBody false cs)
  | '\\' :: letter :: cs =>
    if endsLine (letter :: cs) then multilineBasicBody true cs
    else prepend (shortEscape? letter) (multilineBasicBody false cs)
  | c :: cs =>
    if dropping && isSpace c then multilineBasicBody true cs
    else if c == '"' then
      if 3 ≤ ((c :: cs).takeWhile (· == '"')).length then
        closing ((c :: cs).takeWhile (· == '"')) ((c :: cs).dropWhile (· == '"'))
      else prepend (some c) (multilineBasicBody false cs)
    else if isText c && c != '\\' then prepend (some c) (multilineBasicBody false cs)
    else none

/-- What follows an opening triple single quote, up to the closing one. -/
def multilineLiteralBody : List Char → Option (List Char × List Char)
  | [] => none
  | '\r' :: '\n' :: cs => prepend (some '\n') (multilineLiteralBody cs)
  | c :: cs =>
    if c == '\'' && 3 ≤ ((c :: cs).takeWhile (· == '\'')).length then
      closing ((c :: cs).takeWhile (· == '\'')) ((c :: cs).dropWhile (· == '\''))
    else if c == '\n' || isText c then prepend (some c) (multilineLiteralBody cs)
    else none

/-! ## Literals -/

/-- The text after a line break at its beginning, if there is one. -/
def skipNewline (cs : List Char) : List Char := (newline? cs).getD cs

/-- The text of what was read, as a string. -/
def asString (read : Option (List Char × List Char)) : Option (String × List Char) :=
  read.map fun (text, rest) => (String.ofList text, rest)

/-- A string on one line. -/
def lineString : Reader String
  | '"' :: cs => asString (basicBody cs)
  | '\'' :: cs => asString (literalBody cs)
  | _ => none

/-- A string of any kind. -/
def stringLiteral : Reader String
  | '"' :: '"' :: '"' :: cs => asString (multilineBasicBody false (skipNewline cs))
  | '\'' :: '\'' :: '\'' :: cs => asString (multilineLiteralBody (skipNewline cs))
  | cs => lineString cs

end Toml
end JavaSource
