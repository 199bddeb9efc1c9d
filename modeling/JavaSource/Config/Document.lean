import JavaSource.Config.Basic
import JavaSource.Event
import JavaSource.Text.Quoted
import JavaSource.Toml.Library

/-!
# `Config.Document` — settings as TOML documents

Settings are kept in a TOML document with one section per group. Every section and every setting may be
missing and then has its default; names that are not known are passed over. How documents are read and written
is the work of a library, and settings can be read and written with any (`Config.read?`, `Config.write?`).

* `Config.ofText?` — reads a document; `Config.load` reads one from where it is kept.
* `Config.toText?` — writes one; it fails for an indentation that TOML has no integer for.
-/

namespace JavaSource
open Fields Toml

/-! ## Reading -/

def IndentStyle.ofWord? (word : String) : Option IndentStyle := IndentStyle.all.find? fun style => style.word == word

section read

variable (L : Library)

def ImportsConfig.ofEntries? (entries : List (String × L.Value)) : Option ImportsConfig := do
  let d : ImportsConfig := {}
  let implicitPackages ← defaulted entries "implicit_packages" d.implicitPackages (L.list? L.text?)
  let qualifyConflicts ← defaulted entries "qualify_conflicts" d.qualifyConflicts L.flag?
  pure { implicitPackages, qualifyConflicts }

def FormatConfig.ofEntries? (entries : List (String × L.Value)) : Option FormatConfig := do
  let d : FormatConfig := {}
  let indentWidth ← defaulted entries "indent_width" d.indentWidth L.number?
  let indentStyle ← defaulted entries "indent_style" d.indentStyle fun v =>
    (L.word? v).bind IndentStyle.ofWord?
  let blankLineBetweenMembers ←
    defaulted entries "blank_line_between_members" d.blankLineBetweenMembers L.flag?
  pure { indentWidth, indentStyle, blankLineBetweenMembers }

def LoggingConfig.ofEntries? (entries : List (String × L.Value)) : Option LoggingConfig := do
  let d : LoggingConfig := {}
  let level ← defaulted entries "level" d.level L.text?
  let dependencyLevel ← defaulted entries "dependency_level" d.dependencyLevel L.text?
  let json ← defaulted entries "json" d.json L.flag?
  pure { level, dependencyLevel, json }

/-- The settings in the entries of a document. -/
def Config.ofEntries? (entries : List (String × L.Value)) : Option Config := do
  let imports ← defaulted entries "imports" {} fun v =>
    (L.fields? ImportsConfig.fieldNames v).bind (ImportsConfig.ofEntries? L)
  let format ← defaulted entries "format" {} fun v =>
    (L.fields? FormatConfig.fieldNames v).bind (FormatConfig.ofEntries? L)
  let logging ← defaulted entries "logging" {} fun v =>
    (L.fields? LoggingConfig.fieldNames v).bind (LoggingConfig.ofEntries? L)
  pure { imports, format, logging }

/-- The settings in a document, or nothing if the document is not well formed or a setting does not
    fit. -/
def Config.read? (text : String) : Option Config := (L.parse? text).bind (Config.ofEntries? L)

end read

namespace Config

/-- The settings in a document. -/
def ofText? (text : String) : Option Config := read? Toml.library text

/-- What is found at the place where settings are kept. -/
inductive Source where
  | missing
  | directory
  | file (bytes : ByteArray)

/-- Why settings could not be loaded. -/
inductive LoadError where
  /-- There is no file, or it is not a text in UTF-8. -/
  | unreadable
  /-- The text is no document, or a setting does not fit. -/
  | malformed
  deriving DecidableEq, Repr

/-- Loads settings from where they are kept. -/
def load : Source → Except LoadError Config
  | .missing | .directory => .error .unreadable
  | .file bytes =>
    match String.fromUTF8? bytes with
    | none => .error .unreadable
    | some text =>
      match ofText? text with
      | none => .error .malformed
      | some c => .ok c

/-- What loading settings logs. -/
def loadEvent (c : Config) : Event :=
  { level := .debug, target := "javagen.config", message := "loaded config",
    fields := [("implicit_packages", .text (Text.quotedList c.imports.implicitPackages)),
      ("indent_width", .count c.format.indentWidth)] }

/-! ## Writing -/

/-- The sections of the document for settings. -/
def sections (c : Config) : List Toml.Section :=
  [("imports",
      [("implicit_packages", .strings c.imports.implicitPackages),
        ("qualify_conflicts", .boolean c.imports.qualifyConflicts)]),
    ("format",
      [("indent_width", .integer c.format.indentWidth),
        ("indent_style", .string c.format.indentStyle.word),
        ("blank_line_between_members", .boolean c.format.blankLineBetweenMembers)]),
    ("logging",
      [("level", .string c.logging.level), ("dependency_level", .string c.logging.dependencyLevel),
        ("json", .boolean c.logging.json)])]

/-- The entries of the document for settings. -/
def toEntries (L : Library) (c : Config) : List (String × L.Value) := L.document c.sections

/-- The document for settings, as a library prints it. -/
def write? (L : Library) (c : Config) : Option String := L.print? c.sections

/-- The document for settings. -/
def toText? (c : Config) : Option String := c.write? Toml.library

end Config
end JavaSource
