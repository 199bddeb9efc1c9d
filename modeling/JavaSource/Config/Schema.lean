import JavaSource.Json.ConfigForm

/-!
# `Config.Schema` — the JSON schema of settings

The schema that editors check a settings file against. It names every setting with its type, its default
and a description, and it lets no other names pass.
-/

namespace JavaSource
namespace Schema

/-- An object without other properties than the given ones. -/
def closedObject (properties : List (String × Json)) : List (String × Json) :=
  [("type", .str "object"), ("properties", .obj properties), ("additionalProperties", .bool false)]

/-- A property of a basic type with a default and a description. -/
def property (type description : String) (default : Json) (more : List (String × Json)) : Json :=
  .obj ([("type", .str type), ("description", .str description), ("default", default)] ++ more)

/-- A property whose type is defined on its own. -/
def reference (definition : String) (default : Json) : Json :=
  .obj [("allOf", .arr [.obj [("$ref", .str ("#/definitions/" ++ definition))]]), ("default", default)]

def imports : Json :=
  let d : ImportsConfig := {}
  .obj <| closedObject [
    ("implicit_packages",
      property "array"
        ("Packages whose classes are in scope without an import line (e.g. `java.lang`).\n\n" ++
          "Emitters leave out import lines for classes in these packages.")
        (.arr (d.implicitPackages.map .str)) [("items", .obj [("type", .str "string")])]),
    ("qualify_conflicts",
      property "boolean"
        ("Refer to classes whose simple name was claimed by an earlier import by their fully " ++
          "qualified name.")
        (.bool d.qualifyConflicts) [])]

def format : Json :=
  let d : FormatConfig := {}
  .obj <| closedObject [
    ("indent_width",
      property "integer" "Width of one indentation level when `indent_style = \"spaces\"`."
        (.int d.indentWidth) [("format", .str "uint"), ("minimum", .decimal 10 1)]),
    ("indent_style", reference "IndentStyle" (toJson d.indentStyle)),
    ("blank_line_between_members",
      property "boolean" "Separate class members with an empty line." (.bool d.blankLineBetweenMembers)
        [])]

def logging : Json :=
  let d : LoggingConfig := {}
  .obj <| closedObject [
    ("level",
      property "string"
        ("Level for the javagen crates: a simple level (`info`, `debug`, ...) or a full " ++
          "`tracing_subscriber::EnvFilter` directive string, used verbatim.")
        (.str d.level) []),
    ("dependency_level",
      property "string" "Level for everything outside javagen when `level` is a simple level."
        (.str d.dependencyLevel) []),
    ("json", property "boolean" "Emit logs in JSON format." (.bool d.json) [])]

def indentStyle : Json :=
  .obj [("type", .str "string"),
    ("enum", .arr (IndentStyle.all.map fun style => .str style.word))]

end Schema

/-- The JSON schema of settings. -/
def Config.schema : Json :=
  let d : Config := {}
  .obj <| [("$schema", .str "http://json-schema.org/draft-07/schema#"),
      ("title", .str "GeneratorConfig")] ++
    Schema.closedObject [
      ("imports", Schema.reference "ImportsConfig" (toJson d.imports)),
      ("format", Schema.reference "FormatConfig" (toJson d.format)),
      ("logging", Schema.reference "LoggingConfig" (toJson d.logging))] ++
    [("definitions",
      .obj [("ImportsConfig", Schema.imports), ("FormatConfig", Schema.format),
        ("LoggingConfig", Schema.logging), ("IndentStyle", Schema.indentStyle)])]

end JavaSource
