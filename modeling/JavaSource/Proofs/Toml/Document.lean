import JavaSource.Proofs.Toml.Line

/-!
# `Proofs.Toml.Document` — documents of settings read back as they were written

A written document is read as a list of statements, which are then carried out. A header puts the table before
it in its place and opens the next one, and an assignment goes to the end of the open table; no name is taken
twice. One section after another, this gives the sections of the document in order, each with its settings in
order (`parse?_printDocument`).
-/

namespace JavaSource
namespace Toml
open Text

/-! ## Carrying statements out -/

section builder

variable {α : Type} {entries : List (String × α)} {name : String} {t : Table} {b : Builder}

/-- A new name goes to the end. -/
theorem putEntry_of_lookup_eq_none (h : entries.lookup name = none) (a : α) :
    putEntry name a entries = entries ++ [(name, a)] := by
  induction entries with
  | nil => rfl
  | cons entry entries ih =>
    obtain ⟨key, b⟩ := entry
    rw [List.lookup_cons] at h
    split at h
    · cases h
    · next hne =>
      have hkey : ¬ (key == name) = true := by
        rw [beq_iff_eq]
        rintro rfl
        rw [BEq.rfl] at hne
        cases hne
      rw [putEntry, if_neg hkey, ih h]
      rfl

/-- A table with more entries at its end. -/
def Table.extend (t : Table) (more : List (String × Node)) : Table :=
  { t with entries := t.entries ++ more }

/-- A document with more entries at the end of the open table. -/
def Builder.extend (b : Builder) (more : List (String × Node)) : Builder :=
  { b with current := b.current.extend more }

theorem Table.extend_nil (t : Table) : t.extend [] = t := by
  unfold extend
  rw [List.append_nil]

theorem Table.extend_extend (t : Table) (entries more : List (String × Node)) :
    (t.extend entries).extend more = t.extend (entries ++ more) := by
  unfold extend
  rw [List.append_assoc]

theorem Table.put_of_get?_eq_none (h : t.get? name = none) (n : Node) : t.put name n = t.extend [(name, n)] := by
  unfold put extend
  rw [putEntry_of_lookup_eq_none h]

/-- Names other than a new one are as new as before. -/
theorem Table.get?_extend_eq_none (hnew : ∀ entry ∈ entries, t.get? entry.1 = none)
    (hname : name ∉ entries.map Prod.fst) (n : Node) :
    ∀ entry ∈ entries, (t.extend [(name, n)]).get? entry.1 = none := by
  intro entry hmem
  have hne : entry.1 ≠ name := fun heq => hname (heq ▸ List.mem_map_of_mem hmem)
  have hnone : t.entries.lookup entry.1 = none := hnew entry hmem
  unfold get?
  rw [extend, List.lookup_append, hnone, Option.none_or, List.lookup_cons, beq_false_of_ne hne]
  rfl

/-- A setting as an entry of a table, while the document is read. -/
def settingEntry (entry : String × Setting) : String × Node := (entry.1, .value entry.2.toValue)

/-- A section as an entry of the document, while that is read. -/
def sectionEntry (s : Section) : String × Node := (s.1, .table false false (s.2.map settingEntry))

theorem run_append (b : Builder) (ss ts : List Statement) :
    b.run (ss ++ ts) = (b.run ss).bind fun b => b.run ts := by
  induction ss generalizing b with
  | nil => rfl
  | cons s ss ih =>
    show (b.step s).bind (fun b => b.run (ss ++ ts)) = ((b.step s).bind fun b => b.run ss).bind fun b => b.run ts
    simp only [ih, Option.bind_assoc]

/-- An assignment of a new name goes to the end of the open table. -/
theorem step_settingStatement {entry : String × Setting} (hopen : b.current.isDotted = false)
    (hnew : b.current.get? entry.1 = none) :
    b.step (settingStatement entry) = some (b.extend [settingEntry entry]) := by
  have hassign : b.current.assign [] entry.1 entry.2.toValue
      = some (b.current.put entry.1 (.value entry.2.toValue)) := by
    simp only [Table.assign, Table.modifyAt, hopen, hnew]
    rfl
  show (b.current.assign [] entry.1 entry.2.toValue).map (fun t => { b with current := t }) = _
  rw [hassign, Table.put_of_get?_eq_none hnew]
  rfl

/-- **The assignments of a section fill the open table**, in order. -/
theorem run_settings {settings : List (String × Setting)} (hopen : b.current.isDotted = false)
    (hnew : ∀ entry ∈ settings, b.current.get? entry.1 = none) (hnodup : (settings.map Prod.fst).Nodup) :
    b.run (settings.map settingStatement) = some (b.extend (settings.map settingEntry)) := by
  induction settings generalizing b with
  | nil =>
    rw [List.map_nil, List.map_nil, Builder.extend, Table.extend_nil]
    rfl
  | cons entry settings ih =>
    obtain ⟨hentry, hnew⟩ := List.forall_mem_cons.mp hnew
    obtain ⟨hother, hnodup⟩ := List.nodup_cons.mp hnodup
    have hrest : ∀ other ∈ settings, (b.extend [settingEntry entry]).current.get? other.1 = none :=
      Table.get?_extend_eq_none hnew hother _
    show (b.step (settingStatement entry)).bind (fun b => b.run (settings.map settingStatement)) = _
    rw [step_settingStatement hopen hentry, Option.bind_some,
      ih (b := b.extend [settingEntry entry]) hopen hrest hnodup]
    unfold Builder.extend
    rw [Table.extend_extend]
    rfl

/-- **A section goes to the end of the finished tables.** -/
theorem run_section {s : Section} (hclose : b.close = some t) (hnew : t.get? s.1 = none)
    (hnodup : (s.2.map Prod.fst).Nodup) :
    ∃ after, b.run (sectionStatements s) = some after ∧ after.close = some (t.extend [sectionEntry s]) := by
  let opened : Builder := { finished := t, place := .table [] s.1 }
  have hopen : b.step (.openTable [] s.1) = some opened := by
    show b.close.bind (fun finished => Builder.openTable finished [] s.1) = _
    rw [hclose]
    simp only [Option.bind_some, Builder.openTable, Table.modifyAt, hnew]
    rfl
  refine ⟨opened.extend (s.2.map settingEntry), ?_, ?_⟩
  · show (b.step (.openTable [] s.1)).bind (fun b => b.run (s.2.map settingStatement)) = _
    rw [hopen, Option.bind_some, run_settings rfl (fun _ _ => rfl) hnodup]
  · have hput : (opened.extend (s.2.map settingEntry)).close
        = some (t.put s.1 (.table false false (s.2.map settingEntry))) := by
      simp only [Builder.close, Builder.extend, opened, Table.modifyAt, hnew]
      rfl
    rw [hput, Table.put_of_get?_eq_none hnew]
    rfl

/-- **Sections go to the end of the finished tables**, in order. -/
theorem run_sections {sections : List Section} (hclose : b.close = some t)
    (hnew : ∀ s ∈ sections, t.get? s.1 = none) (hnodup : (sections.map Prod.fst).Nodup)
    (hsettings : ∀ s ∈ sections, (s.2.map Prod.fst).Nodup) :
    ∃ after, b.run (sections.flatMap sectionStatements) = some after
      ∧ after.close = some (t.extend (sections.map sectionEntry)) := by
  induction sections generalizing b t with
  | nil =>
    refine ⟨b, rfl, ?_⟩
    rw [List.map_nil, Table.extend_nil, hclose]
  | cons s sections ih =>
    obtain ⟨hs, hnew⟩ := List.forall_mem_cons.mp hnew
    obtain ⟨hother, hnodup⟩ := List.nodup_cons.mp hnodup
    obtain ⟨hkeys, hsettings⟩ := List.forall_mem_cons.mp hsettings
    obtain ⟨middle, hrun, hmiddle⟩ := run_section hclose hs hkeys
    obtain ⟨after, hafter, hfinished⟩ :=
      ih hmiddle (Table.get?_extend_eq_none hnew hother _) hnodup hsettings
    refine ⟨after, ?_, ?_⟩
    · rw [List.flatMap_cons, run_append, hrun, Option.bind_some, hafter]
    · rw [hfinished, Table.extend_extend]
      rfl

theorem entryValues_eq_map (entries : List (String × Node)) :
    entryValues entries = entries.map fun entry => (entry.1, entry.2.toValue) := by
  induction entries with
  | nil => rfl
  | cons entry entries ih =>
    rw [List.map_cons, ← ih]
    rfl

end builder

/-- A document of settings begins with a bracket, if it is not empty. -/
theorem head?_printDocument (sections : List Section) : ∀ c ∈ (printDocument sections).toList.head?, c = '[' := by
  have hsection : ∀ s : Section, ∃ cs, (printSection s).toList = '[' :: cs := by
    intro s
    unfold printSection
    rw [String.toList_append, String.toList_append, String.toList_append]
    exact ⟨_, rfl⟩
  intro c hc
  cases sections with
  | nil => cases hc
  | cons s sections =>
    obtain ⟨cs, heq⟩ := hsection s
    cases sections with
    | nil =>
      rw [show printDocument [s] = printSection s from rfl, heq] at hc
      cases hc
      rfl
    | cons t sections =>
      have hdocument : printDocument (s :: t :: sections)
          = printSection s ++ "\n" ++ printDocument (t :: sections) := rfl
      rw [hdocument, String.toList_append, String.toList_append, heq] at hc
      cases hc
      rfl

/-- **A document of settings reads back as it was written**: its sections in order, each with its settings in
    order. -/
theorem parse?_printDocument {sections : List Section} (h : ∀ s ∈ sections, IsWritableSection s)
    (hnodup : (sections.map Prod.fst).Nodup) :
    parse? (printDocument sections)
      = some (sections.map fun s => (s.1, .table (s.2.map fun entry => (entry.1, entry.2.toValue)))) := by
  have hread : statements (printDocument sections).toList = some (sections.flatMap sectionStatements) := by
    apply (isLines_document h).statements
    intro hmark
    exact absurd (head?_printDocument sections _ hmark) (by decide)
  have hvalues : entryValues (sections.map sectionEntry)
      = sections.map fun s => (s.1, .table (s.2.map fun entry => (entry.1, entry.2.toValue))) := by
    rw [entryValues_eq_map, List.map_map]
    apply List.map_congr_left
    intro s _
    show (s.1, Value.table (entryValues (s.2.map settingEntry))) = _
    rw [entryValues_eq_map, List.map_map]
    rfl
  obtain ⟨after, hrun, hclose⟩ := run_sections (b := {}) (t := {}) rfl (fun _ _ => rfl) hnodup
    fun s hs => (h s hs).nodup
  unfold parse? build
  rw [hread, Option.bind_some, hrun, Option.bind_some, hclose, ← hvalues]
  rfl

example :
    printDocument
        [("format", [("indent_width", .integer 2), ("wrap", .boolean true)]), ("extra", [("x", .boolean true)])]
      = "[format]\nindent_width = 2\nwrap = true\n\n[extra]\nx = true\n" := by
  decide

end Toml
end JavaSource
