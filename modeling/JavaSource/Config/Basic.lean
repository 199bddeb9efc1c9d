import JavaSource.Fields

/-!
# `Config` — settings of the generator

Three groups of settings with a default for each: which packages count as imported and how clashing names
are written, how the text is laid out, and how much is logged.
-/

namespace JavaSource
open Fields

/-- Settings for imports and names. -/
structure ImportsConfig where
  /-- Packages whose classes need no import line. -/
  implicitPackages : List String := ["java.lang"]
  /-- Are classes that lost their simple name written with their full name? -/
  qualifyConflicts : Bool := true
  deriving DecidableEq, Repr, Inhabited

def ImportsConfig.fieldNames : Names := { more := ["implicit_packages", "qualify_conflicts"] }

/-- Does a package need no import line? -/
def ImportsConfig.isImplicit (c : ImportsConfig) (package : String) : Bool :=
  c.implicitPackages.any (· == package)

inductive IndentStyle where
  | spaces
  | tabs
  deriving DecidableEq, Repr, Inhabited

def IndentStyle.word : IndentStyle → String
  | .spaces => "spaces"
  | .tabs => "tabs"

def IndentStyle.all : List IndentStyle := [.spaces, .tabs]

/-- Settings for the layout. -/
structure FormatConfig where
  indentWidth : Nat := 4
  indentStyle : IndentStyle := .spaces
  blankLineBetweenMembers : Bool := true
  deriving DecidableEq, Repr, Inhabited

def FormatConfig.fieldNames : Names :=
  { more := ["indent_width", "indent_style", "blank_line_between_members"] }

/-- The indentation of one level: a tab, or as many spaces as set and at least one. -/
def FormatConfig.indentUnit (c : FormatConfig) : String :=
  match c.indentStyle with
  | .spaces => String.ofList (List.replicate (max c.indentWidth 1) ' ')
  | .tabs => "\t"

/-- Settings for the log. -/
structure LoggingConfig where
  level : String := "info"
  dependencyLevel : String := "warn"
  json : Bool := false
  deriving DecidableEq, Repr, Inhabited

def LoggingConfig.fieldNames : Names := { more := ["level", "dependency_level", "json"] }

/-- All settings. -/
structure Config where
  imports : ImportsConfig := {}
  format : FormatConfig := {}
  logging : LoggingConfig := {}
  deriving DecidableEq, Repr, Inhabited

def Config.fieldNames : Names := { more := ["imports", "format", "logging"] }

end JavaSource
