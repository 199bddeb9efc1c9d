import JavaSource.Fields
import JavaSource.Proofs.Toml.Document
import Mathlib.Data.List.Nodup

/-!
# `Proofs.Toml.Names` — no name is given twice in a document

A name may be given once in each table. The tables that are read keep to it while they grow
(`EntriesDiffer`), whatever statement is carried out (`Builder.NamesDiffer.step`), and so the document that is
read has no name twice, nor has a table in it, however deep (`namesDiffer_of_parse?`).
-/

namespace JavaSource
namespace Toml
open Fields

/-- **No name is given twice**: the names in a table differ, and so do those in each table inside the value. -/
inductive Value.NamesDiffer : Value → Prop
  | string (s : String) : NamesDiffer (.string s)
  | integer (n : Int) : NamesDiffer (.integer n)
  | boolean (b : Bool) : NamesDiffer (.boolean b)
  | float : NamesDiffer .float
  | dateTime : NamesDiffer .dateTime
  | array {items : List Value} (hitems : ∀ v ∈ items, NamesDiffer v) : NamesDiffer (.array items)
  | table {entries : List (String × Value)} (hnames : (entries.map Prod.fst).Nodup)
      (hvalues : ∀ entry ∈ entries, NamesDiffer entry.2) : NamesDiffer (.table entries)

/-- No name is given twice in what a key leads to, while a document is read. -/
inductive Node.NamesDiffer : Node → Prop
  | value {v : Value} (hv : v.NamesDiffer) : NamesDiffer (.value v)
  | table {isImplicit isDotted : Bool} {entries : List (String × Node)} (hnames : (entries.map Prod.fst).Nodup)
      (hnodes : ∀ entry ∈ entries, NamesDiffer entry.2) : NamesDiffer (.table isImplicit isDotted entries)
  | tables {earlier : List (List (String × Node))} {latest : List (String × Node)}
      (hnames : ∀ entries ∈ earlier ++ [latest], (entries.map Prod.fst).Nodup)
      (hnodes : ∀ entries ∈ earlier ++ [latest], ∀ entry ∈ entries, NamesDiffer entry.2) :
      NamesDiffer (.tables earlier latest)

/-- No name is given twice in the entries of a table, while the document is read. -/
structure EntriesDiffer (entries : List (String × Node)) : Prop where
  names : (entries.map Prod.fst).Nodup
  nodes : ∀ entry ∈ entries, entry.2.NamesDiffer

def Table.NamesDiffer (t : Table) : Prop := EntriesDiffer t.entries

theorem entriesDiffer_nil : EntriesDiffer [] := ⟨List.nodup_nil, fun _ h => absurd h List.not_mem_nil⟩

theorem Node.namesDiffer_table_iff {isImplicit isDotted : Bool} {entries : List (String × Node)} :
    (Node.table isImplicit isDotted entries).NamesDiffer ↔ EntriesDiffer entries := by
  constructor
  · rintro (_ | ⟨hnames, hnodes⟩)
    exact ⟨hnames, hnodes⟩
  · exact fun h => .table h.names h.nodes

theorem Node.namesDiffer_tables_iff {earlier : List (List (String × Node))} {latest : List (String × Node)} :
    (Node.tables earlier latest).NamesDiffer ↔ ∀ entries ∈ earlier ++ [latest], EntriesDiffer entries := by
  constructor
  · rintro (_ | _ | ⟨hnames, hnodes⟩) entries hentries
    exact ⟨hnames entries hentries, hnodes entries hentries⟩
  · exact fun h => .tables (fun entries hentries => (h entries hentries).names)
      fun entries hentries => (h entries hentries).nodes

/-! ## Entries -/

section entries

variable {α : Type} {entries : List (String × α)} {entry : String × α} {name : String} {a : α}

theorem eq_or_mem_of_mem_putEntry (h : entry ∈ putEntry name a entries) : entry = (name, a) ∨ entry ∈ entries := by
  induction entries with
  | nil => exact Or.inl (List.mem_singleton.mp h)
  | cons first entries ih =>
    obtain ⟨key, b⟩ := first
    rw [putEntry] at h
    split at h
    · rcases List.mem_cons.mp h with rfl | h
      · exact Or.inl rfl
      · exact Or.inr (List.mem_cons_of_mem _ h)
    · rcases List.mem_cons.mp h with rfl | h
      · exact Or.inr List.mem_cons_self
      · exact (ih h).imp_right (List.mem_cons_of_mem _)

theorem nodup_putEntry (h : (entries.map Prod.fst).Nodup) : ((putEntry name a entries).map Prod.fst).Nodup := by
  induction entries with
  | nil => exact List.nodup_singleton name
  | cons first entries ih =>
    obtain ⟨key, b⟩ := first
    obtain ⟨hkey, hrest⟩ := List.nodup_cons.mp h
    rw [putEntry]
    split
    · next heq =>
      rw [beq_iff_eq] at heq
      subst heq
      exact h
    · next hne =>
      refine List.nodup_cons.mpr ⟨?_, ih hrest⟩
      intro hmem
      obtain ⟨other, hother, heq⟩ := List.mem_map.mp hmem
      rcases eq_or_mem_of_mem_putEntry hother with rfl | hother
      · exact hne (beq_iff_eq.mpr heq.symm)
      · exact hkey (heq ▸ List.mem_map_of_mem hother)

theorem dropEntry_sublist (name : String) (entries : List (String × α)) :
    (dropEntry name entries).Sublist entries := by
  induction entries with
  | nil => exact List.Sublist.refl []
  | cons first entries ih =>
    rw [dropEntry]
    split
    · exact List.sublist_cons_self _ _
    · exact ih.cons_cons _

end entries

/-! ## Tables -/

namespace Table

variable {t t' : Table} {n : Node} {name : String} {path : List String}

namespace NamesDiffer

theorem toNode (h : t.NamesDiffer) : t.toNode.NamesDiffer := Node.namesDiffer_table_iff.mpr h

/-- What a name leads to. -/
theorem node (h : t.NamesDiffer) (hn : t.get? name = some n) : n.NamesDiffer := h.nodes _ (mem_of_lookup hn)

theorem put (h : t.NamesDiffer) (name : String) (hn : n.NamesDiffer) : (t.put name n).NamesDiffer where
  names := nodup_putEntry h.names
  nodes entry hentry := by
    rcases eq_or_mem_of_mem_putEntry hentry with rfl | hentry
    · exact hn
    · exact h.nodes entry hentry

theorem drop (h : t.NamesDiffer) (name : String) : (t.drop name).NamesDiffer where
  names := h.names.sublist ((dropEntry_sublist name t.entries).map _)
  nodes entry hentry := h.nodes entry ((dropEntry_sublist name t.entries).subset hentry)

end NamesDiffer

/-- **A change at the end of a path gives no name twice if the change there does not.** -/
theorem NamesDiffer.modifyAt {α : Type} {P : α → Prop} {dotted : Bool} {change : Table → Option (Table × α)} {a : α}
    (hchange : ∀ {u u' : Table} {a : α}, u.NamesDiffer → change u = some (u', a) → u'.NamesDiffer ∧ P a)
    (ht : t.NamesDiffer) (h : modifyAt dotted change path t = some (t', a)) : t'.NamesDiffer ∧ P a := by
  induction path generalizing t t' with
  | nil => exact hchange ht h
  | cons name path ih =>
    rw [Table.modifyAt] at h
    split at h
    · obtain ⟨⟨made, b⟩, hmade, heq⟩ := Option.map_eq_some_iff.mp h
      cases heq
      have hempty : NamesDiffer { isImplicit := true, isDotted := dotted } := entriesDiffer_nil
      obtain ⟨hnames, hb⟩ := ih hempty hmade
      exact ⟨ht.put name hnames.toNode, hb⟩
    · cases h
    · next isImplicit isDotted entries hget =>
      split at h
      · cases h
      · obtain ⟨⟨changed, b⟩, hchanged, heq⟩ := Option.map_eq_some_iff.mp h
        cases heq
        obtain ⟨hnames, hb⟩ := ih (Node.namesDiffer_table_iff.mp (ht.node hget)) hchanged
        exact ⟨ht.put name hnames.toNode, hb⟩
    · next earlier latest hget =>
      obtain ⟨⟨changed, b⟩, hchanged, heq⟩ := Option.map_eq_some_iff.mp h
      cases heq
      have htables := Node.namesDiffer_tables_iff.mp (ht.node hget)
      rw [List.forall_mem_append, List.forall_mem_singleton] at htables
      have hlatest : NamesDiffer { entries := latest } := htables.2
      obtain ⟨hnames, hb⟩ := ih hlatest hchanged
      refine ⟨ht.put name (Node.namesDiffer_tables_iff.mpr ?_), hb⟩
      rw [List.forall_mem_append, List.forall_mem_singleton]
      exact ⟨htables.1, hnames⟩

theorem NamesDiffer.fst_modifyAt {α : Type} {dotted : Bool} {change : Table → Option (Table × α)}
    (hchange : ∀ {u u' : Table} {a : α}, u.NamesDiffer → change u = some (u', a) → u'.NamesDiffer)
    (ht : t.NamesDiffer) (h : (Table.modifyAt dotted change path t).map Prod.fst = some t') : t'.NamesDiffer := by
  obtain ⟨⟨changed, a⟩, hchanged, heq⟩ := Option.map_eq_some_iff.mp h
  cases heq
  exact (ht.modifyAt (P := fun _ => True) (fun hu hchange' => ⟨hchange hu hchange', trivial⟩) hchanged).1

theorem NamesDiffer.assign {v : Value} (ht : t.NamesDiffer) (hv : v.NamesDiffer)
    (h : t.assign path name v = some t') : t'.NamesDiffer := by
  refine ht.fst_modifyAt ?_ h
  intro u u' a hu hchange
  split at hchange
  · cases hchange
  · cases hchange
    exact hu.put name (.value hv)

end Table

/-! ## Finished values -/

theorem tableValues_eq_map (tables : List (List (String × Node))) :
    tableValues tables = tables.map fun entries => .table (entryValues entries) := by
  induction tables with
  | nil => rfl
  | cons entries tables ih =>
    rw [List.map_cons, ← ih]
    rfl

theorem map_fst_entryValues (entries : List (String × Node)) :
    (entryValues entries).map Prod.fst = entries.map Prod.fst := by
  rw [entryValues_eq_map, List.map_map]
  rfl

theorem namesDiffer_entryValues {entries : List (String × Node)} (hnames : (entries.map Prod.fst).Nodup)
    (hvalues : ∀ entry ∈ entries, entry.2.toValue.NamesDiffer) : (Value.table (entryValues entries)).NamesDiffer := by
  refine .table ?_ ?_
  · rw [map_fst_entryValues]
    exact hnames
  · rw [entryValues_eq_map, List.forall_mem_map]
    exact hvalues

theorem Node.NamesDiffer.toValue {n : Node} (h : n.NamesDiffer) : n.toValue.NamesDiffer := by
  induction h with
  | value hv => exact hv
  | table hnames hnodes ih => exact namesDiffer_entryValues hnames ih
  | @tables earlier latest hnames hnodes ih =>
    refine .array ?_
    show ∀ v ∈ tableValues earlier ++ [Value.table (entryValues latest)], v.NamesDiffer
    have hall : tableValues earlier ++ [Value.table (entryValues latest)]
        = (earlier ++ [latest]).map fun entries => .table (entryValues entries) := by
      rw [List.map_append, tableValues_eq_map, List.map_singleton]
    rw [hall, List.forall_mem_map]
    exact fun entries hentries => namesDiffer_entryValues (hnames entries hentries) (ih entries hentries)

theorem Table.NamesDiffer.toEntries {t : Table} (h : t.NamesDiffer) : (Value.table t.toEntries).NamesDiffer :=
  namesDiffer_entryValues h.names fun entry hentry => (h.nodes entry hentry).toValue

/-! ## Values -/

section readers

variable {α β : Type} {item : Reader Value}

/-- All that a reader reads has a property. -/
def Yields (read : Reader α) (P : α → Prop) : Prop :=
  ∀ {cs : List Char} {a : α} {rest : List Char}, read cs = some (a, rest) → P a

/-- What is made of all that is found has a property if all that is made has it. -/
theorem of_map_eq_some {P : α → Prop} {o : Option β} {f : β → α × List Char} {a : α} {rest : List Char}
    (hf : ∀ b, P (f b).1) (h : o.map f = some (a, rest)) : P a := by
  obtain ⟨b, -, heq⟩ := Option.map_eq_some_iff.mp h
  have hb := hf b
  rw [heq] at hb
  exact hb

theorem namesDiffer_of_inRange {n : Int} {rest rest' : List Char} {v : Value}
    (h : inRange n rest = some (v, rest')) : v.NamesDiffer := by
  obtain ⟨-, heq⟩ := Option.ite_none_right_eq_some.mp h
  cases heq
  exact .integer n

theorem yields_markedInteger (base : Nat) (isDigit : Char → Bool) :
    Yields (markedInteger base isDigit) Value.NamesDiffer := by
  intro cs v rest h
  unfold markedInteger at h
  split at h
  · exact namesDiffer_of_inRange h
  · cases h

theorem yields_decimalInteger : Yields decimalInteger Value.NamesDiffer := by
  intro cs v rest h
  unfold decimalInteger at h
  dsimp only at h
  split at h
  · exact namesDiffer_of_inRange h
  · cases h

theorem yields_integer : Yields integer Value.NamesDiffer := by
  intro cs v rest h
  unfold integer at h
  split at h
  · exact yields_markedInteger _ _ h
  · exact yields_markedInteger _ _ h
  · exact yields_markedInteger _ _ h
  · exact yields_decimalInteger h

theorem yields_decimalFloat : Yields decimalFloat Value.NamesDiffer := by
  intro cs v rest h
  unfold decimalFloat at h
  dsimp only at h
  split at h
  · cases h
  · split at h
    · cases h
    · obtain ⟨-, heq⟩ := Option.ite_none_right_eq_some.mp h
      cases heq
      exact .float

theorem yields_wordFloat : Yields wordFloat Value.NamesDiffer := by
  intro cs v rest h
  unfold wordFloat at h
  dsimp only at h
  split at h
  · cases h
    exact .float
  · exact of_map_eq_some (fun _ => .float) h

theorem yields_dateTime : Yields dateTime Value.NamesDiffer := by
  intro cs v rest h
  unfold dateTime at h
  split at h
  · cases h
    exact .dateTime
  · exact of_map_eq_some (fun _ => .dateTime) h

theorem yields_number : Yields number Value.NamesDiffer := by
  intro cs v rest h
  rcases Option.or_eq_some_iff.mp h with h | ⟨-, h⟩
  · rcases Option.or_eq_some_iff.mp h with h | ⟨-, h⟩
    · exact yields_dateTime h
    · rcases Option.or_eq_some_iff.mp h with h | ⟨-, h⟩
      · exact yields_decimalFloat h
      · exact yields_wordFloat h
  · exact yields_integer h

theorem yields_boolean : Yields boolean Value.NamesDiffer := by
  intro cs v rest h
  unfold boolean at h
  split at h
  · cases h
    exact .boolean true
  · exact of_map_eq_some (fun _ => .boolean false) h

theorem yields_scalar : Yields scalar Value.NamesDiffer := by
  intro cs v rest h
  unfold scalar at h
  split at h
  · cases h
  · split at h
    · exact of_map_eq_some (fun _ => .string _) h
    · split at h
      · exact yields_boolean h
      · split at h
        · exact yields_wordFloat h
        · split at h
          · exact yields_number h
          · cases h

theorem yields_arrayItems (hitem : Yields item Value.NamesDiffer) (fuel : Nat) :
    Yields (arrayItems item fuel) fun vs => ∀ v ∈ vs, v.NamesDiffer := by
  induction fuel with
  | zero =>
    intro cs vs rest h
    cases h
  | succ fuel ih =>
    intro cs vs rest h
    rw [arrayItems] at h
    split at h
    · cases h
      exact fun v hv => absurd hv List.not_mem_nil
    · split at h
      · cases h
      · next v after hv =>
        split at h
        · cases h
          exact List.forall_mem_singleton.mpr (hitem hv)
        · split at h
          · next vs more hvs =>
            cases h
            exact List.forall_mem_cons.mpr ⟨hitem hv, ih hvs⟩
          · cases h
        · cases h

theorem yields_assignment (hitem : Yields item Value.NamesDiffer) :
    Yields (assignment item) fun a => a.2.2.NamesDiffer := by
  intro cs a rest h
  unfold assignment at h
  split at h
  · split at h
    · next v after hkey hv =>
      cases h
      exact hitem hv
    · cases h
  · cases h

theorem yields_inlineAssignments (hitem : Yields item Value.NamesDiffer) (fuel : Nat) :
    Yields (inlineAssignments item fuel) fun as => ∀ a ∈ as, a.2.2.NamesDiffer := by
  induction fuel with
  | zero =>
    intro cs as rest h
    cases h
  | succ fuel ih =>
    intro cs as rest h
    rw [inlineAssignments] at h
    split at h
    · cases h
    · next a after ha =>
      split at h
      · cases h
        exact List.forall_mem_singleton.mpr (yields_assignment hitem ha)
      · split at h
        · next as more has =>
          cases h
          exact List.forall_mem_cons.mpr ⟨yields_assignment hitem ha, ih has⟩
        · cases h
      · cases h

/-- A table stays so over a list of assignments. -/
theorem Table.NamesDiffer.assignAll {t t' : Table} {as : List Assignment} (ht : t.NamesDiffer)
    (has : ∀ a ∈ as, a.2.2.NamesDiffer) (h : assignAll t as = some t') : t'.NamesDiffer := by
  induction as generalizing t with
  | nil =>
    cases h
    exact ht
  | cons a as ih =>
    obtain ⟨path, name, v⟩ := a
    obtain ⟨hv, has⟩ := List.forall_mem_cons.mp has
    rw [Toml.assignAll] at h
    split at h
    · next u hu => exact ih (ht.assign hv hu) has h
    · cases h

theorem yields_inlineTable (hitem : Yields item Value.NamesDiffer) :
    Yields (inlineTable item) Value.NamesDiffer := by
  intro cs v rest h
  unfold inlineTable at h
  split at h
  · cases h
    exact .table List.nodup_nil fun _ h => absurd h List.not_mem_nil
  · split at h
    · next as more has =>
      obtain ⟨t, ht, heq⟩ := Option.map_eq_some_iff.mp h
      cases heq
      have hempty : Table.NamesDiffer {} := entriesDiffer_nil
      exact (hempty.assignAll (yields_inlineAssignments hitem _ has) ht).toEntries
    · cases h

/-- **A value is read with no name in it twice.** -/
theorem yields_valueWithin (depth : Nat) : Yields (valueWithin depth) Value.NamesDiffer := by
  induction depth with
  | zero => exact yields_scalar
  | succ depth ih =>
    intro cs v rest h
    simp only [valueWithin] at h
    split at h
    · obtain ⟨⟨vs, more⟩, hvs, heq⟩ := Option.map_eq_some_iff.mp h
      cases heq
      exact .array (yields_arrayItems ih _ hvs)
    · exact yields_inlineTable ih h
    · exact yields_scalar h

end readers

/-! ## Statements -/

/-- A statement assigns no value with a name in it twice. -/
def Statement.NamesDiffer : Statement → Prop
  | .assign a => a.2.2.NamesDiffer
  | _ => True

theorem yields_header : Yields header Statement.NamesDiffer := by
  intro cs s rest h
  unfold header at h
  split at h
  · split at h
    · exact of_map_eq_some (fun _ => by trivial) h
    · cases h
  · split at h
    · exact of_map_eq_some (fun _ => by trivial) h
    · cases h
  · cases h

theorem yields_statement : Yields statement Statement.NamesDiffer := by
  intro cs s rest h
  unfold statement at h
  split at h
  · exact yields_header h
  · obtain ⟨⟨a, more⟩, ha, heq⟩ := Option.map_eq_some_iff.mp h
    cases heq
    exact yields_assignment (yields_valueWithin _) ha

theorem namesDiffer_of_statementsWithin {fuel : Nat} {cs : List Char} {ss : List Statement}
    (h : statementsWithin fuel cs = some ss) : ∀ s ∈ ss, s.NamesDiffer := by
  induction fuel generalizing cs ss with
  | zero => cases h
  | succ fuel ih =>
    rw [statementsWithin] at h
    split at h
    · cases h
      exact fun s hs => absurd hs List.not_mem_nil
    · split at h
      · split at h
        · exact ih h
        · cases h
      · split at h
        · cases h
        · next s after hs =>
          split at h
          · cases h
          · obtain ⟨ss, hss, rfl⟩ := Option.map_eq_some_iff.mp h
            exact List.forall_mem_cons.mpr ⟨yields_statement hs, ih hss⟩

/-! ## Documents -/

/-- No name is given twice in what is finished of a document, nor in the open table. -/
structure Builder.NamesDiffer (b : Builder) : Prop where
  finished : b.finished.NamesDiffer
  current : b.current.NamesDiffer

namespace Builder.NamesDiffer

variable {b b' : Builder} {t : Table} {s : Statement} {ss : List Statement}

/-- The open table goes where there was no such name, or to the end of an array of tables. -/
theorem close (hb : b.NamesDiffer) (h : b.close = some t) : t.NamesDiffer := by
  unfold Builder.close at h
  split at h
  · cases h
    exact hb.current
  · refine hb.finished.fst_modifyAt ?_ h
    intro u u' a hu hchange
    split at hchange
    · cases hchange
    · cases hchange
      exact hu.put _ hb.current.toNode
  · refine hb.finished.fst_modifyAt ?_ h
    intro u u' a hu hchange
    split at hchange
    · cases hchange
      exact hu.put _ (Node.namesDiffer_tables_iff.mpr (List.forall_mem_singleton.mpr hb.current))
    · next earlier latest hget =>
      cases hchange
      refine hu.put _ (Node.namesDiffer_tables_iff.mpr ?_)
      rw [List.forall_mem_append, List.forall_mem_singleton]
      exact ⟨Node.namesDiffer_tables_iff.mp (hu.node hget), hb.current⟩
    · cases hchange

theorem openTable {path : List String} {name : String} (ht : t.NamesDiffer)
    (h : Builder.openTable t path name = some b) : b.NamesDiffer := by
  obtain ⟨⟨finished, entries⟩, hfinished, heq⟩ := Option.map_eq_some_iff.mp h
  cases heq
  suffices hboth : finished.NamesDiffer ∧ EntriesDiffer entries from ⟨hboth.1, hboth.2⟩
  refine ht.modifyAt (P := EntriesDiffer) ?_ hfinished
  intro u u' entries hu hchange
  split at hchange
  · cases hchange
    exact ⟨hu, entriesDiffer_nil⟩
  · -- the entries that the table has already are taken out of the document
    next hget =>
    cases hchange
    exact ⟨hu.drop _, Node.namesDiffer_table_iff.mp (hu.node hget)⟩
  · cases hchange

theorem openItem {path : List String} {name : String} (ht : t.NamesDiffer)
    (h : Builder.openItem t path name = some b) : b.NamesDiffer := by
  obtain ⟨⟨finished, a⟩, hfinished, heq⟩ := Option.map_eq_some_iff.mp h
  cases heq
  refine ⟨(ht.modifyAt (P := fun _ => True) ?_ hfinished).1, entriesDiffer_nil⟩
  intro u u' a hu hchange
  split at hchange
  · cases hchange
    exact ⟨hu, trivial⟩
  · cases hchange
    exact ⟨hu, trivial⟩
  · cases hchange

/-- **No statement gives a name twice.** -/
theorem step (hb : b.NamesDiffer) (hs : s.NamesDiffer) (h : b.step s = some b') : b'.NamesDiffer := by
  cases s with
  | assign a =>
    obtain ⟨path, name, v⟩ := a
    obtain ⟨t, ht, rfl⟩ := Option.map_eq_some_iff.mp h
    exact ⟨hb.finished, hb.current.assign hs ht⟩
  | openTable path name =>
    obtain ⟨t, ht, hopen⟩ := Option.bind_eq_some_iff.mp h
    exact openTable (hb.close ht) hopen
  | openItem path name =>
    obtain ⟨t, ht, hopen⟩ := Option.bind_eq_some_iff.mp h
    exact openItem (hb.close ht) hopen

theorem run (hb : b.NamesDiffer) (hss : ∀ s ∈ ss, s.NamesDiffer) (h : b.run ss = some b') : b'.NamesDiffer := by
  induction ss generalizing b with
  | nil =>
    cases h
    exact hb
  | cons s ss ih =>
    obtain ⟨hs, hss⟩ := List.forall_mem_cons.mp hss
    obtain ⟨next, hnext, hrun⟩ := Option.bind_eq_some_iff.mp h
    exact ih (hb.step hs hnext) hss hrun

end Builder.NamesDiffer

/-- **No name is given twice in a document that is read**, nor in any table in it. -/
theorem namesDiffer_of_parse? {text : String} {document : List (String × Value)} (h : parse? text = some document) :
    (Value.table document).NamesDiffer := by
  obtain ⟨ss, hss, hbuild⟩ := Option.bind_eq_some_iff.mp h
  obtain ⟨b, hrun, hclose⟩ := Option.bind_eq_some_iff.mp hbuild
  obtain ⟨t, ht, rfl⟩ := Option.map_eq_some_iff.mp hclose
  have hempty : Builder.NamesDiffer {} := ⟨entriesDiffer_nil, entriesDiffer_nil⟩
  exact ((hempty.run (namesDiffer_of_statementsWithin hss) hrun).close ht).toEntries

end Toml
end JavaSource
