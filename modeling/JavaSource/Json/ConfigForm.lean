import JavaSource.Config.Basic
import JavaSource.Json.Basic

/-!
# `Json.ConfigForm` — the written form of settings

Every group of settings is a record, and so is the whole. Each field may be missing and then has its
default; fields that are not known are passed over.
-/

namespace JavaSource
open Json Fields

instance : JsonForm IndentStyle where
  toJson s := .str s.word
  ofJson? := wordForm IndentStyle.all IndentStyle.word .alone

instance : JsonForm ImportsConfig where
  toJson c := .obj [("implicit_packages", .arr (c.implicitPackages.map .str)),
    ("qualify_conflicts", .bool c.qualifyConflicts)]
  ofJson? v := do
    let d : ImportsConfig := {}
    let fields ← v.fields? ImportsConfig.fieldNames
    let implicitPackages ← defaulted fields "implicit_packages" d.implicitPackages (readList asString?)
    let qualifyConflicts ← defaulted fields "qualify_conflicts" d.qualifyConflicts asBool?
    pure { implicitPackages, qualifyConflicts }

instance : JsonForm FormatConfig where
  toJson c := .obj [("indent_width", .int c.indentWidth), ("indent_style", toJson c.indentStyle),
    ("blank_line_between_members", .bool c.blankLineBetweenMembers)]
  ofJson? v := do
    let d : FormatConfig := {}
    let fields ← v.fields? FormatConfig.fieldNames
    let indentWidth ← defaulted fields "indent_width" d.indentWidth asWord?
    let indentStyle ← defaulted fields "indent_style" d.indentStyle ofJson?
    let blankLineBetweenMembers ←
      defaulted fields "blank_line_between_members" d.blankLineBetweenMembers asBool?
    pure { indentWidth, indentStyle, blankLineBetweenMembers }

instance : JsonForm LoggingConfig where
  toJson c := .obj [("level", .str c.level), ("dependency_level", .str c.dependencyLevel),
    ("json", .bool c.json)]
  ofJson? v := do
    let d : LoggingConfig := {}
    let fields ← v.fields? LoggingConfig.fieldNames
    let level ← defaulted fields "level" d.level asString?
    let dependencyLevel ← defaulted fields "dependency_level" d.dependencyLevel asString?
    let json ← defaulted fields "json" d.json asBool?
    pure { level, dependencyLevel, json }

instance : JsonForm Config where
  toJson c := .obj [("imports", toJson c.imports), ("format", toJson c.format),
    ("logging", toJson c.logging)]
  ofJson? v := do
    let fields ← v.fields? Config.fieldNames
    let imports ← defaulted fields "imports" {} ofJson?
    let format ← defaulted fields "format" {} ofJson?
    let logging ← defaulted fields "logging" {} ofJson?
    pure { imports, format, logging }

end JavaSource
