import JavaSource.Proofs.Config.Places

/-!
# `Proofs.Config.Completion` — settings are completed by the defaults, and read back as they were written

A document lacks settings if it lacks a section, or a name in a section. `completed` adds them as the defaults
are written. What is read from a document is what is read from the completed one
(`Config.ofEntries?_completed`), and settings that are written are read back (`Config.exists_write?_eq`). Both
hold for every faithful library of documents.
-/

namespace JavaSource
open Fields Toml

/-! ## Completing records -/

section records

variable {β : Type} {defaults given : List (String × β)} {name : String}

/-- The entries of a record, with those of another one for the names that it lacks. -/
def completedBy (defaults given : List (String × β)) : List (String × β) :=
  given ++ defaults.filter fun entry => (given.lookup entry.1).isNone

theorem lookup_filter_name (keep : String → Bool) (entries : List (String × β)) (name : String) :
    (entries.filter fun entry => keep entry.1).lookup name = if keep name then entries.lookup name else none := by
  induction entries with
  | nil => cases keep name <;> rfl
  | cons entry entries ih =>
    obtain ⟨key, b⟩ := entry
    by_cases hname : name = key
    · subst hname
      by_cases hkeep : keep name = true
      · simp [hkeep]
      · simp [hkeep, ih]
    · have hne := beq_false_of_ne hname
      by_cases hkeep : keep key = true
      · simp [List.lookup_cons, hne, hkeep, ih]
      · simp [List.lookup_cons, hne, hkeep, ih]

/-- **What is given counts, and what is missing is as in the defaults.** -/
theorem lookup_completedBy (defaults given : List (String × β)) (name : String) :
    (completedBy defaults given).lookup name = (given.lookup name).or (defaults.lookup name) := by
  have hmissing := lookup_filter_name (fun name => (given.lookup name).isNone) defaults name
  unfold completedBy
  rw [List.lookup_append, hmissing]
  cases given.lookup name <;> rfl

/-- No name is in both parts of a completed record. -/
theorem nodup_completedBy (hdefaults : (defaults.map Prod.fst).Nodup) (hgiven : (given.map Prod.fst).Nodup) :
    ((completedBy defaults given).map Prod.fst).Nodup := by
  unfold completedBy
  rw [List.map_append, List.nodup_append']
  refine ⟨hgiven, hdefaults.sublist (List.filter_sublist.map _), ?_⟩
  intro name hname hadded
  obtain ⟨entry, hentry, rfl⟩ := List.mem_map.mp hadded
  have hmissing : given.lookup entry.1 = none := Option.isNone_iff_eq_none.mp (List.mem_filter.mp hentry).2
  obtain ⟨own, hown, heq⟩ := List.mem_map.mp hname
  exact bne_iff_ne.mp (List.lookup_eq_none_iff.mp hmissing own hown) heq.symm

theorem lookup_map_name {γ : Type} (f : String → β → γ) (entries : List (String × β)) (name : String) :
    (entries.map fun entry => (entry.1, f entry.1 entry.2)).lookup name = (entries.lookup name).map (f name) := by
  induction entries with
  | nil => rfl
  | cons entry entries ih =>
    obtain ⟨key, b⟩ := entry
    by_cases hname : name = key
    · subst hname
      rw [List.map_cons, List.lookup_cons_self, List.lookup_cons_self]
      rfl
    · rw [List.map_cons, List.lookup_cons, List.lookup_cons, beq_false_of_ne hname]
      exact ih

end records

/-! ## Completing documents -/

namespace Toml.Library

variable {L : Library} {document : List (String × L.Value)} {place : String × String}

/-- A value, with the entries of a record for the names that it lacks if it is a table. -/
def completedTable (L : Library) (defaults : List (String × L.Value)) (v : L.Value) : L.Value :=
  match L.entries? v with
  | some entries => L.ofTable (completedBy defaults entries)
  | none => v

/-- A document with the sections and the names in sections that it lacks. -/
def completed (L : Library) (defaults document : List (String × L.Value)) : List (String × L.Value) :=
  completedBy defaults
    (document.map fun entry => (entry.1, L.completedTable (L.sectionOf defaults entry.1) entry.2))

theorem completedTable_ofTable (hL : L.Faithful) (defaults : List (String × L.Value))
    {entries : List (String × L.Value)} (hnodup : (entries.map Prod.fst).Nodup) :
    L.completedTable defaults (L.ofTable entries) = L.ofTable (completedBy defaults entries) := by
  unfold completedTable
  rw [hL.entries?_ofTable entries hnodup]

theorem lookup_completed (L : Library) (defaults document : List (String × L.Value)) (name : String) :
    (L.completed defaults document).lookup name
      = ((document.lookup name).map (L.completedTable (L.sectionOf defaults name))).or (defaults.lookup name) := by
  unfold completed
  rw [lookup_completedBy, lookup_map_name fun name => L.completedTable (L.sectionOf defaults name)]

theorem sectionOf_of_lookup (hL : L.Faithful) {name : String} {entries : List (String × L.Value)}
    (hnodup : (entries.map Prod.fst).Nodup) (h : document.lookup name = some (L.ofTable entries)) :
    L.sectionOf document name = entries := by
  unfold sectionOf
  rw [h, Option.bind_some, hL.entries?_ofTable entries hnodup, Option.getD_some]

theorem nodup_sectionOf (hL : L.Faithful) {name : String} (htable : ∀ v ∈ document.lookup name, L.IsProperTable v) :
    ((L.sectionOf document name).map Prod.fst).Nodup := by
  cases hlookup : document.lookup name with
  | none =>
    unfold sectionOf
    rw [hlookup]
    exact List.nodup_nil
  | some v =>
    obtain ⟨entries, hnodup, rfl⟩ := htable v hlookup
    rw [sectionOf_of_lookup hL hnodup hlookup]
    exact hnodup

/-- **The completed document has what is given, or else what is in the defaults.** -/
theorem valueAt?_completed (hL : L.Faithful) (defaults : List (String × L.Value))
    (htable : ∀ v ∈ document.lookup place.1, L.IsProperTable v)
    (hdefault : ∀ v ∈ defaults.lookup place.1, L.IsProperTable v) :
    L.valueAt? (L.completed defaults document) place
      = (L.valueAt? document place).or (L.valueAt? defaults place) := by
  have hcompleted := lookup_completed L defaults document place.1
  unfold valueAt?
  cases hlookup : document.lookup place.1 with
  | none =>
    -- the whole section is that of the defaults
    rw [hlookup, Option.map_none, Option.none_or] at hcompleted
    have hgiven : L.sectionOf document place.1 = [] := by
      unfold sectionOf
      rw [hlookup]
      rfl
    have hsection : L.sectionOf (L.completed defaults document) place.1 = L.sectionOf defaults place.1 := by
      unfold sectionOf
      rw [hcompleted]
    rw [hgiven, hsection]
    rfl
  | some v =>
    obtain ⟨entries, hnodup, rfl⟩ := htable v hlookup
    have hwhole := nodup_completedBy (nodup_sectionOf hL hdefault) hnodup
    rw [hlookup, Option.map_some, Option.some_or, completedTable_ofTable hL _ hnodup] at hcompleted
    rw [sectionOf_of_lookup hL hwhole hcompleted, sectionOf_of_lookup hL hnodup hlookup, lookup_completedBy]

end Toml.Library

namespace Config

variable {L : Library} {c : Config} {document : List (String × L.Value)} {place : String × String} {text : String}

/-! ## What a document gives for a place -/

/-- A place gives what its value is read as alone, or the default. -/
theorem settingOf?_eq (L : Library) (document : List (String × L.Value)) (place : String × String) :
    settingOf? L document place
      = match L.valueAt? document place with
        | some v => readAlone? L place v
        | none => ({} : Config).setting? place := rfl

theorem settingOf?_of_valueAt? {v : L.Value} (h : L.valueAt? document place = some v) :
    settingOf? L document place = readAlone? L place v := by
  rw [settingOf?_eq, h]

theorem settingOf?_of_missing (h : L.valueAt? document place = none) :
    settingOf? L document place = ({} : Config).setting? place := by
  rw [settingOf?_eq, h]

/-! ## Written settings -/

theorem list?_strings (hL : L.Faithful) (ss : List String) :
    L.list? L.text? (L.ofSetting (.strings ss)) = some ss := by
  unfold Library.list?
  rw [hL.items?_strings, Option.bind_some]
  exact mapM_map_eq_some fun s _ => hL.text?_string s

theorem ofWord?_word (style : IndentStyle) : IndentStyle.ofWord? style.word = some style := by cases style <;> rfl

/-- **A setting that is written is read back at its place**, if the indentation is in range. -/
theorem readAlone?_ofSetting (hL : L.Faithful) (h : isInteger c.format.indentWidth = true) {x : Setting}
    (hx : c.setting? place = some x) (hplace : place ∈ settingPlaces) :
    readAlone? L place (L.ofSetting x) = some x := by
  revert hx
  simp only [settingPlaces, sections, List.flatMap_cons, List.flatMap_nil, List.map_cons, List.map_nil,
    List.cons_append, List.nil_append, List.mem_cons, List.not_mem_nil, or_false] at hplace
  rcases hplace with rfl | rfl | rfl | rfl | rfl | rfl | rfl | rfl
  · rintro ⟨⟩
    rw [readAlone?_implicitPackages hL, list?_strings hL]
    rfl
  · rintro ⟨⟩
    rw [readAlone?_qualifyConflicts hL, hL.flag?_boolean]
    rfl
  · rintro ⟨⟩
    rw [readAlone?_indentWidth hL, hL.number?_integer _ h]
    rfl
  · rintro ⟨⟩
    rw [readAlone?_indentStyle hL, hL.word?_string, Option.bind_some, ofWord?_word]
    rfl
  · rintro ⟨⟩
    rw [readAlone?_blankLineBetweenMembers hL, hL.flag?_boolean]
    rfl
  · rintro ⟨⟩
    rw [readAlone?_level hL, hL.text?_string]
    rfl
  · rintro ⟨⟩
    rw [readAlone?_dependencyLevel hL, hL.text?_string]
    rfl
  · rintro ⟨⟩
    rw [readAlone?_json hL, hL.flag?_boolean]
    rfl

/-- The sections of a document of settings, each with the names in it, whatever the settings are. -/
def sectionNames : List (String × List String) := ({} : Config).sections.map fun s => (s.1, s.2.map Prod.fst)

theorem map_sections_eq_sectionNames (c : Config) :
    c.sections.map (fun s => (s.1, s.2.map Prod.fst)) = sectionNames := rfl

theorem isBareKey_of_mem_sectionNames :
    ∀ names ∈ sectionNames, IsBareKey names.1 ∧ (∀ name ∈ names.2, IsBareKey name) ∧ names.2.Nodup := by decide

theorem nodup_of_mem_sections {s : Toml.Section} (hs : s ∈ c.sections) : (s.2.map Prod.fst).Nodup :=
  (isBareKey_of_mem_sectionNames _ (map_sections_eq_sectionNames c ▸ List.mem_map_of_mem hs)).2.2

/-- Sections of settings are written as tables. -/
theorem isProperTable_of_mem_document {sections : List Toml.Section} (hnodup : ∀ s ∈ sections, (s.2.map Prod.fst).Nodup)
    {name : String} {v : L.Value} (hv : v ∈ (L.document sections).lookup name) : L.IsProperTable v := by
  obtain ⟨s, hs, heq⟩ := List.mem_map.mp (mem_of_lookup hv)
  refine ⟨_, ?_, (Prod.mk.inj heq).2.symm⟩
  rw [List.map_map]
  exact hnodup s hs

theorem isProperTable_of_mem_toEntries {name : String} {v : L.Value} (hv : v ∈ (c.toEntries L).lookup name) :
    L.IsProperTable v :=
  isProperTable_of_mem_document (fun _ hs => nodup_of_mem_sections hs) hv

/-- **The value at a place is the setting that is written there.** -/
theorem valueAt?_toEntries (hL : L.Faithful) (c : Config) (place : String × String) :
    L.valueAt? (c.toEntries L) place = (c.setting? place).map L.ofSetting := by
  have hsection := lookup_map_name (fun _ settings =>
    L.ofTable (settings.map fun entry => (entry.1, L.ofSetting entry.2))) c.sections place.1
  unfold Library.valueAt? Library.sectionOf toEntries Library.document setting?
  rw [hsection]
  cases hlookup : c.sections.lookup place.1 with
  | none => rfl
  | some settings =>
    have hnodup : (settings.map Prod.fst).Nodup := nodup_of_mem_sections (mem_of_lookup hlookup)
    rw [Option.map_some, Option.bind_some, Option.bind_some, hL.entries?_ofTable _ (by rwa [List.map_map]),
      Option.getD_some]
    exact lookup_map_name (fun _ => L.ofSetting) settings place.2

/-- There is a setting at each place. -/
theorem exists_setting? (c : Config) (hplace : place ∈ settingPlaces) : ∃ x, c.setting? place = some x := by
  have hall : settingPlaces.all (fun place => (c.setting? place).isSome) = true := rfl
  exact Option.isSome_iff_exists.mp (List.all_eq_true.mp hall place hplace)

/-- **The settings that are written are the settings that are read**, if the indentation is in range. -/
theorem ofEntries?_toEntries (hL : L.Faithful) (h : isInteger c.format.indentWidth = true) :
    ofEntries? L (c.toEntries L) = some c := by
  have htables : L.SectionsAreProper (c.toEntries L) := fun _ _ _ hv => isProperTable_of_mem_toEntries hv
  rw [ofEntries?_eq_some_iff hL htables]
  intro place hplace
  obtain ⟨x, hx⟩ := exists_setting? c hplace
  have hvalue : L.valueAt? (c.toEntries L) place = some (L.ofSetting x) := by
    rw [valueAt?_toEntries hL, hx, Option.map_some]
  rw [settingOf?_of_valueAt? hvalue, readAlone?_ofSetting hL h hx hplace, hx]

/-! ## Completed documents -/

theorem sectionsAreProper_completed (hL : L.Faithful) (h : L.SectionsAreProper document) :
    L.SectionsAreProper (L.completed (({} : Config).toEntries L) document) := by
  intro place hplace v hv
  rw [Library.lookup_completed] at hv
  cases hlookup : document.lookup place.1 with
  | none =>
    rw [hlookup] at hv
    exact isProperTable_of_mem_toEntries hv
  | some w =>
    obtain ⟨entries, hnodup, rfl⟩ := h place hplace w hlookup
    rw [hlookup, Option.map_some, Library.completedTable_ofTable hL _ hnodup] at hv
    cases hv
    have hdefaults : ((L.sectionOf (({} : Config).toEntries L) place.1).map Prod.fst).Nodup :=
      Library.nodup_sectionOf hL fun _ hv => isProperTable_of_mem_toEntries hv
    exact ⟨_, nodup_completedBy hdefaults hnodup, rfl⟩

/-- A completed document gives what the document gives. -/
theorem settingOf?_completed (hL : L.Faithful) (h : L.SectionsAreProper document) (hplace : place ∈ settingPlaces) :
    settingOf? L (L.completed (({} : Config).toEntries L) document) place = settingOf? L document place := by
  have hvalue := Library.valueAt?_completed hL (({} : Config).toEntries L) (h place hplace)
    fun _ hv => isProperTable_of_mem_toEntries hv
  cases hgiven : L.valueAt? document place with
  | some v =>
    rw [hgiven, Option.some_or] at hvalue
    rw [settingOf?_of_valueAt? hvalue, settingOf?_of_valueAt? hgiven]
  | none =>
    -- what is added is the default, as it is written
    obtain ⟨x, hx⟩ := exists_setting? {} hplace
    rw [hgiven, Option.none_or, valueAt?_toEntries hL, hx, Option.map_some] at hvalue
    rw [settingOf?_of_valueAt? hvalue, settingOf?_of_missing hgiven,
      readAlone?_ofSetting hL (by decide) hx hplace, hx]

/-- **Completing a document by the defaults changes nothing.** -/
theorem ofEntries?_completed (hL : L.Faithful) (h : L.SectionsAreProper document) :
    ofEntries? L (L.completed (({} : Config).toEntries L) document) = ofEntries? L document := by
  apply Option.ext
  intro c
  rw [ofEntries?_eq_some_iff hL (sectionsAreProper_completed hL h), ofEntries?_eq_some_iff hL h]
  apply forall₂_congr
  intro place hplace
  rw [settingOf?_completed hL h hplace]

/-! ## Settings given alone -/

/-- A document with one value has a table as its only section. -/
theorem sectionsAreProper_alone (L : Library) (place : String × String) (v : L.Value) :
    L.SectionsAreProper (L.alone place v) := by
  intro other _ w hw
  obtain ⟨-, rfl⟩ := Prod.mk.inj (List.mem_singleton.mp (mem_of_lookup hw))
  exact ⟨[(place.2, v)], List.nodup_singleton place.2, rfl⟩

theorem valueAt?_alone (hL : L.Faithful) (place other : String × String) (v : L.Value) :
    L.valueAt? (L.alone place v) other = if other = place then some v else none := by
  obtain ⟨group, name⟩ := place
  obtain ⟨otherGroup, otherName⟩ := other
  unfold Library.valueAt? Library.sectionOf Library.alone
  by_cases hgroup : otherGroup = group
  · subst hgroup
    rw [List.lookup_cons_self, Option.bind_some, hL.entries?_ofTable [(name, v)] (List.nodup_singleton name),
      Option.getD_some]
    by_cases hname : otherName = name
    · subst hname
      rw [List.lookup_cons_self, if_pos rfl]
    · rw [List.lookup_cons, beq_false_of_ne hname, if_neg fun heq => hname (Prod.mk.inj heq).2]
      rfl
  · rw [List.lookup_cons, beq_false_of_ne hgroup, if_neg fun heq => hgroup (Prod.mk.inj heq).1]
    rfl

/-- **A value that is accepted among others is accepted alone, for the same setting, and changes no other.** -/
theorem exists_alone (hL : L.Faithful) (h : L.SectionsAreProper document) (hc : ofEntries? L document = some c)
    (hplace : place ∈ settingPlaces) {v : L.Value} (hv : L.valueAt? document place = some v) :
    ∃ own, ofEntries? L (L.alone place v) = some own ∧ own.setting? place = c.setting? place
      ∧ ∀ other ∈ settingPlaces, other ≠ place → own.setting? other = ({} : Config).setting? other := by
  have hread : readAlone? L place v = c.setting? place := by
    rw [← settingOf?_of_valueAt? hv]
    exact (ofEntries?_eq_some_iff hL h).mp hc place hplace
  obtain ⟨x, hx⟩ := exists_setting? c hplace
  obtain ⟨own, hown, hsetting⟩ := Option.bind_eq_some_iff.mp (hread.trans hx)
  refine ⟨own, hown, hsetting.trans hx.symm, ?_⟩
  intro other hother hne
  have hmissing : L.valueAt? (L.alone place v) other = none := by
    rw [valueAt?_alone hL, if_neg hne]
  rw [← (ofEntries?_eq_some_iff hL (sectionsAreProper_alone L place v)).mp hown other hother,
    settingOf?_of_missing hmissing]

/-! ## Documents as text -/

/-- A document can hold settings, unless the indentation is out of range. -/
theorem isWritableSection_of_mem (h : isInteger c.format.indentWidth = true) :
    ∀ s ∈ c.sections, IsWritableSection s := by
  have hvalues : ∀ s ∈ c.sections, ∀ entry ∈ s.2, entry.2.isWritable = true := by
    unfold sections
    simp only [List.forall_mem_cons, Setting.isWritable, h, List.not_mem_nil, false_implies, implies_true,
      and_self]
  intro s hs
  obtain ⟨hname, hnames, hnodup⟩ :=
    isBareKey_of_mem_sectionNames _ (map_sections_eq_sectionNames c ▸ List.mem_map_of_mem hs)
  exact ⟨hname, fun entry hentry => ⟨hnames _ (List.mem_map_of_mem hentry), hvalues s hs entry hentry⟩, hnodup⟩

theorem read?_of_parse? (h : L.parse? text = some document) : read? L text = ofEntries? L document := by
  unfold read?
  rw [h, Option.bind_some]

/-- **Settings read back from the text that they are written as.** -/
theorem exists_write?_eq (hL : L.Faithful) (h : isInteger c.format.indentWidth = true) :
    ∃ text, c.write? L = some text ∧ read? L text = some c := by
  have hnodup : (c.sections.map Prod.fst).Nodup := by
    show (sectionNames.map Prod.fst).Nodup
    decide
  obtain ⟨text, hprint, hparse⟩ := hL.parse?_print? c.sections (isWritableSection_of_mem h) hnodup
  refine ⟨text, hprint, ?_⟩
  rw [read?_of_parse? hparse]
  exact ofEntries?_toEntries hL h

/-- **Loading settings completes them and gives back what was written**, with every library that is faithful.
    Settings read back from the text that they are written as, if the indentation is in range. And if a document
    is accepted and its sections are tables, it is read like the document that is completed by the defaults.
    What is missing has its default, and each value that is given stands for the setting that it stands for
    alone, where it changes no other. -/
theorem load_completes_and_round_trips (hL : L.Faithful) :
    (∀ c : Config, isInteger c.format.indentWidth = true → ∃ text, c.write? L = some text ∧ read? L text = some c)
    ∧ ∀ (text : String) (document : List (String × L.Value)) (c : Config),
      L.parse? text = some document → L.SectionsAreTables document → read? L text = some c →
        ofEntries? L (L.completed (({} : Config).toEntries L) document) = some c
        ∧ (∀ whole, L.parse? whole = some (L.completed (({} : Config).toEntries L) document) →
          read? L whole = some c)
        ∧ ∀ place ∈ settingPlaces,
          (L.valueAt? document place = none → c.setting? place = ({} : Config).setting? place)
          ∧ ∀ v, L.valueAt? document place = some v →
            ∃ own, ofEntries? L (L.alone place v) = some own ∧ own.setting? place = c.setting? place
              ∧ ∀ other ∈ settingPlaces, other ≠ place → own.setting? other = ({} : Config).setting? other := by
  constructor
  · exact fun c h => exists_write?_eq hL h
  · intro text document c hparse htables htext
    have hc : ofEntries? L document = some c := read?_of_parse? hparse ▸ htext
    have hproper : L.SectionsAreProper document := fun place hplace v hv =>
      hL.isProperTable_of_parse? text document hparse place.1 v hv (htables place hplace v hv)
    have hcompleted := ofEntries?_completed hL hproper
    rw [hc] at hcompleted
    refine ⟨hcompleted, ?_, ?_⟩
    · intro whole hwhole
      rw [read?_of_parse? hwhole, hcompleted]
    · intro place hplace
      refine ⟨?_, fun v hv => exists_alone hL hproper hc hplace hv⟩
      intro hmissing
      rw [← (ofEntries?_eq_some_iff hL hproper).mp hc place hplace, settingOf?_of_missing hmissing]

/-- The settings in a document, as the reader for documents reads it. -/
theorem ofText?_of_parse? {document : List (String × Value)} (h : parse? text = some document) :
    ofText? text = ofEntries? library document :=
  read?_of_parse? (L := library) h

/-- A document with one setting, and with a name and a section that are not known. -/
def sparseSections : List Toml.Section :=
  [("format", [("indent_width", .integer 2), ("wrap", .boolean true)]), ("extra", [("x", .boolean true)])]

/-- The same document with all settings in it. -/
def wholeSections : List Toml.Section :=
  [("format",
      [("indent_width", .integer 2), ("wrap", .boolean true), ("indent_style", .string "spaces"),
        ("blank_line_between_members", .boolean true)]),
    ("extra", [("x", .boolean true)]),
    ("imports", [("implicit_packages", .strings ["java.lang"]), ("qualify_conflicts", .boolean true)]),
    ("logging", [("level", .string "info"), ("dependency_level", .string "warn"), ("json", .boolean false)])]

theorem load_completes_and_round_trips_sparse :
    library.Faithful ∧ isInteger ({} : Config).format.indentWidth = true
    ∧ (∃ text, toText? {} = some text ∧ ofText? text = some {})
    ∧ parse? (printDocument sparseSections) = some (library.document sparseSections)
    ∧ library.SectionsAreTables (library.document sparseSections)
    ∧ ofText? (printDocument sparseSections) = some { format := { indentWidth := 2 } }
    ∧ parse? (printDocument wholeSections)
      = some (library.completed (({} : Config).toEntries library) (library.document sparseSections))
    ∧ ofText? (printDocument wholeSections) = some { format := { indentWidth := 2 } } := by
  have hsparse : parse? (printDocument sparseSections) = some (library.document sparseSections) :=
    parse?_printDocument (by decide) (by decide)
  have hwhole : parse? (printDocument wholeSections)
      = some (library.completed (({} : Config).toEntries library) (library.document sparseSections)) :=
    parse?_printDocument (by decide) (by decide)
  have hread : ofText? (printDocument sparseSections) = some { format := { indentWidth := 2 } } :=
    (ofText?_of_parse? hsparse).trans rfl
  have htables : library.SectionsAreTables (library.document sparseSections) :=
    fun _ _ _ hv => (isProperTable_of_mem_document (by decide) hv).imp fun _ => And.right
  have hparse : ∀ text document, parse? text = some document → library.parse? text = some document :=
    fun _ _ h => h
  obtain ⟨hback, hcompletes⟩ := load_completes_and_round_trips library_faithful
  obtain ⟨-, hcomplete, -⟩ := hcompletes _ _ _ (hparse _ _ hsparse) htables hread
  exact ⟨library_faithful, by decide, hback {} (by decide), hsparse, htables, hread, hwhole,
    hcomplete _ (hparse _ _ hwhole)⟩

/-- The word for a style may be given as a table. -/
example : ofText? "[format.indent_style.tabs]\n" = some { format := { indentStyle := .tabs } } := by decide +kernel

end Config
end JavaSource
