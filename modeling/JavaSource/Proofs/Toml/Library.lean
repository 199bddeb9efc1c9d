import JavaSource.Proofs.Toml.Names
import JavaSource.Toml.Library

/-!
# `Proofs.Toml.Library` — what is relied on of a library of TOML documents

A library is *faithful* (`Library.Faithful`) if it reads and prints tables, strings, lists of strings, booleans
and integers of 64 bits as what they are, and takes no name twice in a table. Of other values nothing is said,
and a value may be read as more than what it stands for. The reader and the printer for documents are a faithful
library (`library_faithful`).
-/

namespace JavaSource
namespace Toml
open Fields

namespace Library

variable (L : Library)

/-- A value is a table. -/
def IsTable (v : L.Value) : Prop := ∃ entries, v = L.ofTable entries

/-- A value is a table with no name in it twice. -/
def IsProperTable (v : L.Value) : Prop := ∃ entries, (entries.map Prod.fst).Nodup ∧ v = L.ofTable entries

/-- **A library is faithful** to tables, strings, lists of strings, booleans and integers of 64 bits. -/
structure Faithful : Prop where
  /-- Sections of settings are printed as a text that is read as these sections. -/
  parse?_print? : ∀ sections : List Section, (∀ s ∈ sections, IsWritableSection s) →
    (sections.map Prod.fst).Nodup →
      ∃ text, L.print? sections = some text ∧ L.parse? text = some (L.document sections)
  /-- No name is twice in a section of a text. -/
  isProperTable_of_parse? : ∀ text document, L.parse? text = some document →
    ∀ name v, document.lookup name = some v → L.IsTable v → L.IsProperTable v
  /-- A table of entries with different names has these entries, and a record is read from them. -/
  entries?_ofTable : ∀ entries, (entries.map Prod.fst).Nodup → L.entries? (L.ofTable entries) = some entries
  fields?_ofTable : ∀ names entries, (entries.map Prod.fst).Nodup →
    L.fields? names (L.ofTable entries) = some entries
  text?_string : ∀ s, L.text? (L.ofSetting (.string s)) = some s
  flag?_boolean : ∀ b, L.flag? (L.ofSetting (.boolean b)) = some b
  number?_integer : ∀ n : Nat, isInteger n = true → L.number? (L.ofSetting (.integer n)) = some n
  items?_strings : ∀ ss, L.items? (L.ofSetting (.strings ss)) = some (ss.map fun s => L.ofSetting (.string s))
  /-- A word from a fixed list is read from a string. -/
  word?_string : ∀ s, L.word? (L.ofSetting (.string s)) = some s

end Library

theorem printDocument?_of_isWritable {sections : List Section} (h : ∀ s ∈ sections, IsWritableSection s) :
    printDocument? sections = some (printDocument sections) := by
  refine if_pos ?_
  rw [List.all_eq_true]
  intro s hs
  rw [List.all_eq_true]
  exact fun entry hentry => ((h s hs).settings entry hentry).2

/-- **The reader and the printer for documents are faithful.** -/
theorem library_faithful : library.Faithful where
  parse?_print? sections h hnodup :=
    ⟨printDocument sections, printDocument?_of_isWritable h, parse?_printDocument h hnodup⟩
  isProperTable_of_parse? text document hparse name v hv htable := by
    obtain ⟨entries, rfl⟩ := htable
    have hdiffer : (Value.table document).NamesDiffer := namesDiffer_of_parse? hparse
    cases hdiffer with
    | table _ hvalues =>
      have hentries : (Value.table entries).NamesDiffer := hvalues _ (mem_of_lookup hv)
      cases hentries with
      | table hnames _ => exact ⟨entries, hnames, rfl⟩
  entries?_ofTable _ _ := rfl
  fields?_ofTable _ _ _ := rfl
  text?_string _ := rfl
  flag?_boolean _ := rfl
  number?_integer n _ := by
    show (if (0 : Int) ≤ n then some (n : Int).toNat else none) = some n
    rw [if_pos (Int.natCast_nonneg n), Int.toNat_natCast]
  items?_strings ss := by
    show some (ss.map Value.string) = _
    rfl
  word?_string _ := rfl

end Toml
end JavaSource
