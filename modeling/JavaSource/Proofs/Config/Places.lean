import JavaSource.Config.Document
import JavaSource.Proofs.Toml.Library
import Mathlib.Data.List.Basic

/-!
# `Proofs.Config.Places` — a document is read setting by setting

A setting has a place in a document: a section, and a name in it. What a value is read as at its place can be
told from a document with nothing else in it (`Config.readAlone?`). A whole document is accepted with some
settings exactly if, at each of the places, they are what its value is read as alone, or the default if there is
no value (`Config.ofEntries?_eq_some_iff`). Whether a section is missing or just a name in it makes no
difference, and other places do not count.
-/

namespace JavaSource
open Fields Toml

/-! ## Places -/

/-- The setting at a place, which is a section and a name in it. -/
def Config.setting? (c : Config) (place : String × String) : Option Setting :=
  (c.sections.lookup place.1).bind fun settings => settings.lookup place.2

/-- The places at which there are settings. -/
def settingPlaces : List (String × String) :=
  ({} : Config).sections.flatMap fun s => s.2.map fun entry => (s.1, entry.1)

namespace Toml.Library

variable (L : Library)

/-- The entries of a section of a document; there are none if there is no such table. -/
def sectionOf (document : List (String × L.Value)) (name : String) : List (String × L.Value) :=
  ((document.lookup name).bind L.entries?).getD []

/-- The value at a place. -/
def valueAt? (document : List (String × L.Value)) (place : String × String) : Option L.Value :=
  (L.sectionOf document place.1).lookup place.2

/-- The sections of settings are tables, those that are there. -/
def SectionsAreTables (document : List (String × L.Value)) : Prop :=
  ∀ place ∈ settingPlaces, ∀ v ∈ document.lookup place.1, L.IsTable v

/-- The sections of settings are tables, and no name is twice in one of them. -/
def SectionsAreProper (document : List (String × L.Value)) : Prop :=
  ∀ place ∈ settingPlaces, ∀ v ∈ document.lookup place.1, L.IsProperTable v

/-- The document that has a value at a place, and nothing else. -/
def alone (place : String × String) (v : L.Value) : List (String × L.Value) :=
  [(place.1, L.ofTable [(place.2, v)])]

end Toml.Library

namespace Config

variable {L : Library}

/-- What a value is read as at a place, in a document with nothing else. -/
def readAlone? (L : Library) (place : String × String) (v : L.Value) : Option Setting :=
  (ofEntries? L (L.alone place v)).bind fun c => c.setting? place

/-! ## Values alone -/

/-- A value alone is read as the setting for it is read, if a section with nothing else is. -/
theorem readAlone?_of {S α : Type} {place : String × String} {group : Option S} {put : S → Config}
    {read : Option α} {field : α → S} {write : α → Setting} {v : L.Value}
    (hdocument : ofEntries? L (L.alone place v) = group.bind fun s => some (put s))
    (hgroup : group = read.bind fun a => some (field a))
    (hwrite : ∀ a, (put (field a)).setting? place = some (write a)) :
    readAlone? L place v = read.map write := by
  unfold readAlone?
  rw [hdocument, hgroup]
  cases read with
  | none => rfl
  | some a => exact hwrite a

section alone

variable (hL : L.Faithful) (entry : String × L.Value) (v : L.Value)
include hL

/-- Sections that are missing have their defaults. -/
theorem ofEntries?_imports :
    ofEntries? L [("imports", L.ofTable [entry])]
      = (ImportsConfig.ofEntries? L [entry]).bind fun imports => some { imports } := by
  show ((L.fields? ImportsConfig.fieldNames (L.ofTable [entry])).bind (ImportsConfig.ofEntries? L)).bind
    (fun imports => some ({ imports } : Config)) = _
  rw [hL.fields?_ofTable _ [entry] (List.nodup_singleton entry.1), Option.bind_some]

theorem ofEntries?_format :
    ofEntries? L [("format", L.ofTable [entry])]
      = (FormatConfig.ofEntries? L [entry]).bind fun format => some { format } := by
  show ((L.fields? FormatConfig.fieldNames (L.ofTable [entry])).bind (FormatConfig.ofEntries? L)).bind
    (fun format => some ({ format } : Config)) = _
  rw [hL.fields?_ofTable _ [entry] (List.nodup_singleton entry.1), Option.bind_some]

theorem ofEntries?_logging :
    ofEntries? L [("logging", L.ofTable [entry])]
      = (LoggingConfig.ofEntries? L [entry]).bind fun logging => some { logging } := by
  show ((L.fields? LoggingConfig.fieldNames (L.ofTable [entry])).bind (LoggingConfig.ofEntries? L)).bind
    (fun logging => some ({ logging } : Config)) = _
  rw [hL.fields?_ofTable _ [entry] (List.nodup_singleton entry.1), Option.bind_some]

theorem readAlone?_implicitPackages :
    readAlone? L ("imports", "implicit_packages") v = (L.list? L.text? v).map .strings :=
  readAlone?_of (ofEntries?_imports hL _) rfl fun _ => rfl

theorem readAlone?_qualifyConflicts :
    readAlone? L ("imports", "qualify_conflicts") v = (L.flag? v).map .boolean :=
  readAlone?_of (ofEntries?_imports hL _) rfl fun _ => rfl

theorem readAlone?_indentWidth :
    readAlone? L ("format", "indent_width") v = (L.number? v).map fun n => .integer n :=
  readAlone?_of (ofEntries?_format hL _) rfl fun _ => rfl

theorem readAlone?_indentStyle :
    readAlone? L ("format", "indent_style") v
      = ((L.word? v).bind IndentStyle.ofWord?).map fun style => .string style.word :=
  readAlone?_of (ofEntries?_format hL _) rfl fun _ => rfl

theorem readAlone?_blankLineBetweenMembers :
    readAlone? L ("format", "blank_line_between_members") v = (L.flag? v).map .boolean :=
  readAlone?_of (ofEntries?_format hL _) rfl fun _ => rfl

theorem readAlone?_level : readAlone? L ("logging", "level") v = (L.text? v).map .string :=
  readAlone?_of (ofEntries?_logging hL _) rfl fun _ => rfl

theorem readAlone?_dependencyLevel :
    readAlone? L ("logging", "dependency_level") v = (L.text? v).map .string :=
  readAlone?_of (ofEntries?_logging hL _) rfl fun _ => rfl

theorem readAlone?_json : readAlone? L ("logging", "json") v = (L.flag? v).map .boolean :=
  readAlone?_of (ofEntries?_logging hL _) rfl fun _ => rfl

end alone

/-! ## Whole documents -/

/-- What a list of entries gives for a place: what its value is read as alone, or the default. -/
def settingIn? (L : Library) (entries : List (String × L.Value)) (place : String × String) : Option Setting :=
  match entries.lookup place.2 with
  | some v => readAlone? L place v
  | none => ({} : Config).setting? place

section sections

variable {α : Type} {entries document : List (String × L.Value)} {place : String × String} {name : String}
  {names : Names} {default a : α} {read : L.Value → Option α} {write : α → Setting} {c : Config}

/-- A field is read as some value exactly if it gives the setting for that value. -/
theorem settingIn?_eq_iff (hwrite : Function.Injective write)
    (hread : ∀ v, readAlone? L place v = (read v).map write)
    (hdefault : ({} : Config).setting? place = some (write default)) (hc : c.setting? place = some (write a)) :
    settingIn? L entries place = c.setting? place ↔ defaulted entries place.2 default read = some a := by
  unfold settingIn? defaulted
  rw [hc]
  cases entries.lookup place.2 with
  | none =>
    show ({} : Config).setting? place = some (write a) ↔ some default = some a
    rw [hdefault, Option.some_inj, Option.some_inj, hwrite.eq_iff]
  | some v =>
    show readAlone? L place v = some (write a) ↔ read v = some a
    rw [hread, ← Option.map_some, (Option.map_injective hwrite).eq_iff]

theorem strings_injective : Function.Injective Setting.strings := fun _ _ h => Setting.strings.inj h

theorem string_injective : Function.Injective Setting.string := fun _ _ h => Setting.string.inj h

theorem boolean_injective : Function.Injective Setting.boolean := fun _ _ h => Setting.boolean.inj h

theorem natCast_injective : Function.Injective fun n : Nat => Setting.integer n :=
  fun _ _ h => Int.ofNat.inj (Setting.integer.inj h)

theorem word_injective : Function.Injective fun style : IndentStyle => Setting.string style.word := by
  intro style other h
  cases style <;> cases other <;> first | rfl | (revert h; decide)

theorem imports_ofEntries?_eq_some_iff (hL : L.Faithful) :
    ImportsConfig.ofEntries? L entries = some c.imports ↔
      ∀ name ∈ ["implicit_packages", "qualify_conflicts"],
        settingIn? L entries ("imports", name) = c.setting? ("imports", name) := by
  obtain ⟨⟨packages, conflicts⟩, format, logging⟩ := c
  rw [List.forall_mem_cons, List.forall_mem_singleton,
    settingIn?_eq_iff strings_injective (readAlone?_implicitPackages hL) rfl rfl,
    settingIn?_eq_iff boolean_injective (readAlone?_qualifyConflicts hL) rfl rfl]
  unfold ImportsConfig.ofEntries?
  simp only [Option.bind_eq_bind, Option.bind_eq_some_iff, Option.pure_def, Option.some_inj,
    ImportsConfig.mk.injEq, existsAndEq, and_true]

theorem format_ofEntries?_eq_some_iff (hL : L.Faithful) :
    FormatConfig.ofEntries? L entries = some c.format ↔
      ∀ name ∈ ["indent_width", "indent_style", "blank_line_between_members"],
        settingIn? L entries ("format", name) = c.setting? ("format", name) := by
  obtain ⟨imports, ⟨width, style, blank⟩, logging⟩ := c
  rw [List.forall_mem_cons, List.forall_mem_cons, List.forall_mem_singleton,
    settingIn?_eq_iff natCast_injective (readAlone?_indentWidth hL) rfl rfl,
    settingIn?_eq_iff word_injective (readAlone?_indentStyle hL) rfl rfl,
    settingIn?_eq_iff boolean_injective (readAlone?_blankLineBetweenMembers hL) rfl rfl]
  unfold FormatConfig.ofEntries?
  simp only [Option.bind_eq_bind, Option.bind_eq_some_iff, Option.pure_def, Option.some_inj,
    FormatConfig.mk.injEq, existsAndEq, and_true]

theorem logging_ofEntries?_eq_some_iff (hL : L.Faithful) :
    LoggingConfig.ofEntries? L entries = some c.logging ↔
      ∀ name ∈ ["level", "dependency_level", "json"],
        settingIn? L entries ("logging", name) = c.setting? ("logging", name) := by
  obtain ⟨imports, format, ⟨level, dependencyLevel, json⟩⟩ := c
  rw [List.forall_mem_cons, List.forall_mem_cons, List.forall_mem_singleton,
    settingIn?_eq_iff string_injective (readAlone?_level hL) rfl rfl,
    settingIn?_eq_iff string_injective (readAlone?_dependencyLevel hL) rfl rfl,
    settingIn?_eq_iff boolean_injective (readAlone?_json hL) rfl rfl]
  unfold LoggingConfig.ofEntries?
  simp only [Option.bind_eq_bind, Option.bind_eq_some_iff, Option.pure_def, Option.some_inj,
    LoggingConfig.mk.injEq, existsAndEq, and_true]

/-- A missing section is read like an empty one. -/
theorem defaulted_fields? (hL : L.Faithful) (group : List (String × L.Value) → Option α)
    (htable : ∀ v ∈ document.lookup name, L.IsProperTable v) (hempty : group [] = some default) :
    defaulted document name default (fun v => (L.fields? names v).bind group) = group (L.sectionOf document name) := by
  unfold defaulted Library.sectionOf
  cases hlookup : document.lookup name with
  | none => exact hempty.symm
  | some v =>
    obtain ⟨entries, hnodup, rfl⟩ := htable v hlookup
    show (L.fields? names (L.ofTable entries)).bind group = group ((L.entries? (L.ofTable entries)).getD [])
    rw [hL.fields?_ofTable names entries hnodup, hL.entries?_ofTable entries hnodup]
    rfl

end sections

/-- What a document gives for a place. -/
def settingOf? (L : Library) (document : List (String × L.Value)) (place : String × String) : Option Setting :=
  settingIn? L (L.sectionOf document place.1) place

/-- **A document has some settings exactly if they are what it gives for all places**, value by value, with the
    default for what is missing. -/
theorem ofEntries?_eq_some_iff (hL : L.Faithful) {document : List (String × L.Value)}
    (h : L.SectionsAreProper document) {c : Config} :
    ofEntries? L document = some c ↔ ∀ place ∈ settingPlaces, settingOf? L document place = c.setting? place := by
  have himports := h ("imports", "implicit_packages") (by decide)
  have hformat := h ("format", "indent_width") (by decide)
  have hlogging := h ("logging", "level") (by decide)
  have hsections : ofEntries? L document = some c ↔
      ImportsConfig.ofEntries? L (L.sectionOf document "imports") = some c.imports
        ∧ FormatConfig.ofEntries? L (L.sectionOf document "format") = some c.format
        ∧ LoggingConfig.ofEntries? L (L.sectionOf document "logging") = some c.logging := by
    obtain ⟨imports, format, logging⟩ := c
    unfold ofEntries?
    rw [defaulted_fields? hL (ImportsConfig.ofEntries? L) himports rfl,
      defaulted_fields? hL (FormatConfig.ofEntries? L) hformat rfl,
      defaulted_fields? hL (LoggingConfig.ofEntries? L) hlogging rfl]
    simp only [Option.bind_eq_bind, Option.bind_eq_some_iff, Option.pure_def, Option.some_inj, Config.mk.injEq,
      existsAndEq, and_true]
  have hplaces : settingPlaces = ["implicit_packages", "qualify_conflicts"].map ("imports", ·)
      ++ (["indent_width", "indent_style", "blank_line_between_members"].map ("format", ·)
        ++ ["level", "dependency_level", "json"].map ("logging", ·)) := rfl
  rw [hsections, imports_ofEntries?_eq_some_iff hL, format_ofEntries?_eq_some_iff hL,
    logging_ofEntries?_eq_some_iff hL, hplaces, List.forall_mem_append, List.forall_mem_append, List.forall_mem_map,
    List.forall_mem_map, List.forall_mem_map]
  rfl

end Config
end JavaSource
