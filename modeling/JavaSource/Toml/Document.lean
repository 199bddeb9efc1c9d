import JavaSource.Toml.Inline

/-!
# `Toml.Document` — reading whole documents

A document is a list of statements, one a line: headers that open a table or the next table of an array,
and assignments to the table that is open. `statements` reads them, and `build` carries them out; `parse`
does both.
-/

namespace JavaSource
namespace Toml

/-- A line of a document. -/
inductive Statement where
  | assign (a : Assignment)
  | openTable (path : List String) (name : String)
  | openItem (path : List String) (name : String)

/-! ## Reading statements -/

/-- The header of a table or of an item of an array of tables. -/
def header : Reader Statement
  | '[' :: '[' :: cs =>
    match dottedKey cs with
    | some (key, ']' :: ']' :: rest) =>
      (splitKey key).map fun (path, name) => (.openItem path name, rest)
    | _ => none
  | '[' :: cs =>
    match dottedKey cs with
    | some (key, ']' :: rest) => (splitKey key).map fun (path, name) => (.openTable path name, rest)
    | _ => none
  | _ => none

/-- One statement, a header or an assignment. -/
def statement : Reader Statement
  | '[' :: cs => header ('[' :: cs)
  | cs => (assignment value cs).map fun (a, rest) => (.assign a, rest)

/-- The statements of a text of at most `fuel` lines. -/
def statementsWithin : Nat → List Char → Option (List Statement)
  | 0, _ => none
  | fuel + 1, cs =>
    match skipSpace cs with
    | [] => some []
    | c :: cs =>
      if c == '\n' || c == '\r' || c == '#' then
        match lineEnd? (c :: cs) with
        | some rest => statementsWithin fuel rest
        | none => none
      else
        match statement (c :: cs) with
        | none => none
        | some (s, rest) =>
          match lineEnd? rest with
          | none => none
          | some rest => (statementsWithin fuel rest).map (s :: ·)

/-- The text after a byte order mark, if there is one. -/
def skipByteOrderMark : List Char → List Char
  | [] => []
  | c :: cs => if c == '\ufeff' then cs else c :: cs

/-- The statements of a document. -/
def statements (text : List Char) : Option (List Statement) :=
  statementsWithin (text.length + 2) (skipByteOrderMark text)

/-! ## Carrying statements out -/

/-- Where the open table belongs: it is the root, a table under a path, or the next item of an array of
    tables under a path. -/
inductive Place where
  | root
  | table (path : List String) (name : String)
  | item (path : List String) (name : String)

/-- A document while it is read: what is finished, the open table, and where that belongs. -/
structure Builder where
  finished : Table := {}
  current : Table := {}
  place : Place := .root

namespace Builder

/-- Puts the open table where it belongs. -/
def close (b : Builder) : Option Table :=
  match b.place with
  | .root => some b.current
  | .table path name =>
    (Table.modifyAt false
      (fun parent =>
        if (parent.get? name).isSome then none else some (parent.put name b.current.toNode, ()))
      path b.finished).map Prod.fst
  | .item path name =>
    (Table.modifyAt false
      (fun parent =>
        match parent.get? name with
        | none => some (parent.put name (.tables [] b.current.entries), ())
        | some (.tables earlier latest) =>
          some (parent.put name (.tables (earlier ++ [latest]) b.current.entries), ())
        | _ => none)
      path b.finished).map Prod.fst

/-- Opens the table that a header names. It must be new, or implicit and not dotted; in the second case
    it keeps its entries. -/
def openTable (finished : Table) (path : List String) (name : String) : Option Builder :=
  (Table.modifyAt false
    (fun parent =>
      match parent.get? name with
      | none => some (parent, [])
      | some (.table true false entries) => some (parent.drop name, entries)
      | _ => none)
    path finished).map fun (finished, entries) =>
      { finished, current := { entries }, place := .table path name }

/-- Opens the next item of the array of tables that a header names, which may be new. -/
def openItem (finished : Table) (path : List String) (name : String) : Option Builder :=
  (Table.modifyAt false
    (fun parent =>
      match parent.get? name with
      | none | some (.tables _ _) => some (parent, ())
      | _ => none)
    path finished).map fun (finished, _) => { finished, place := .item path name }

/-- Carries out a statement. -/
def step (b : Builder) : Statement → Option Builder
  | .assign (path, name, v) => (b.current.assign path name v).map fun t => { b with current := t }
  | .openTable path name => b.close.bind fun finished => openTable finished path name
  | .openItem path name => b.close.bind fun finished => openItem finished path name

/-- Carries out statements in order. -/
def run (b : Builder) : List Statement → Option Builder
  | [] => some b
  | s :: rest => (b.step s).bind fun b => b.run rest

end Builder

/-- The entries of the document that statements make. -/
def build (ss : List Statement) : Option (List (String × Value)) :=
  (Builder.run {} ss).bind fun b => b.close.map Table.toEntries

/-- Reads a document: its entries, or nothing if it is not well formed. -/
def parse? (text : String) : Option (List (String × Value)) :=
  (statements text.toList).bind build

end Toml
end JavaSource
