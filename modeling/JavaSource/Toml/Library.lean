import JavaSource.Toml.Document
import JavaSource.Toml.Printer

/-!
# `Toml.Library` — what is asked of a library of TOML documents

Documents are read and printed by a library. `Library` is what settings ask of it: what a text is read as, how
the values in it answer when they are read, and what a document of settings is printed as.
-/

namespace JavaSource
namespace Toml
open Fields

/-- A library of documents. A document is given by its entries. -/
structure Library where
  /-- The values in a document. -/
  Value : Type
  parse? : String → Option (List (String × Value))
  print? : List Section → Option String
  /-- The value that stands for a setting. -/
  ofSetting : Setting → Value
  /-- The table with some entries. -/
  ofTable : List (String × Value) → Value
  /-- The entries of a value that is a table. -/
  entries? : Value → Option (List (String × Value))
  /-- A value read as the record with some names, of a table or of whatever else a record may be given as. -/
  fields? : Names → Value → Option (List (String × Value))
  text? : Value → Option String
  flag? : Value → Option Bool
  /-- A value read as a whole number that is not negative. -/
  number? : Value → Option Nat
  items? : Value → Option (List Value)
  /-- A value read as a word from a fixed list. -/
  word? : Value → Option String

namespace Library

variable (L : Library)

/-- A list, all of whose items can be read. -/
def list? {α : Type} (read : L.Value → Option α) (v : L.Value) : Option (List α) :=
  (L.items? v).bind fun items => items.mapM read

/-- The document of some sections. -/
def document (sections : List Section) : List (String × L.Value) :=
  sections.map fun s => (s.1, L.ofTable (s.2.map fun entry => (entry.1, L.ofSetting entry.2)))

end Library

/-- The reader and the printer for documents as a library. -/
def library : Library where
  Value := Value
  parse? := parse?
  print? := printDocument?
  ofSetting := Setting.toValue
  ofTable := .table
  entries? := Value.asTable?
  fields? := Value.fields?
  text? := Value.asString?
  flag? := Value.asBool?
  number? := Value.asNat?
  items? := Value.asArray?
  word? := Value.asWord?

end Toml
end JavaSource
