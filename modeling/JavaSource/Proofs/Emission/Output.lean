import JavaSource.Proofs.Emission.FileTree
import JavaSource.Proofs.Emission.UnitPath

/-!
# `Proofs.Emission.Output` — units that are written below one root

`Orderly` is the invariant of a tree of output: below the root the names of files have a dot and those of
directories have none, as the paths of units have it. In an orderly tree every unit can be written
(`Orderly.exists_writeUnitBelow`), and the tree stays orderly (`Orderly.unitWritten`). Writing a unit touches
one file (`UnitWritten.textAt?`), so at the end of a run each file has the text that was written for its class
last (`Emitter.exists_writeUnitsBelow`).
-/

namespace JavaSource
open FileTree

/-! ## Orderly trees -/

namespace FileTree

variable {t written : FileTree} {root q : Path} {d f : ClassDecl} {e : Emitter}

/-- **The invariant of a tree of output**: its root is a directory, and below the root names with a dot lead
    to files and names without one to directories. -/
structure Orderly (t : FileTree) (root : Path) : Prop where
  root_isDirectory : t.IsDirectory root
  dot_mem_of_file : ∀ above name text,
    t.find? (root ++ above ++ [name]) = some (.file text) → '.' ∈ name.toList
  no_dot_of_directory : ∀ above name,
    t.find? (root ++ above ++ [name]) = some .directory → '.' ∉ name.toList

/-- A directory with nothing in it. -/
structure IsEmptyDirectory (t : FileTree) (root : Path) : Prop where
  root_isDirectory : t.IsDirectory root
  nothing_below : ∀ p, p ≠ [] → t.find? (root ++ p) = none

theorem IsEmptyDirectory.orderly (h : t.IsEmptyDirectory root) : t.Orderly root where
  root_isDirectory := h.root_isDirectory
  dot_mem_of_file := by
    intro above name text hfile
    rw [List.append_assoc, h.nothing_below _ (concat_ne_nil above name)] at hfile
    cases hfile
  no_dot_of_directory := by
    intro above name hdir
    rw [List.append_assoc, h.nothing_below _ (concat_ne_nil above name)] at hdir
    cases hdir

/-- A directory that was made in an empty tree is empty. -/
theorem isEmptyDirectory_of_makeDirectories? (h : empty.makeDirectories? root = some t) :
    t.IsEmptyDirectory root := by
  have hfind := find?_of_makeDirectories? h
  refine ⟨?_, ?_⟩
  · intro q hq
    rw [hfind, if_pos hq]
  · intro p hp
    have hlonger : ¬ root ++ p <+: root := by
      intro hshorter
      have hlen := hshorter.length_le
      have hpos := List.length_pos_iff.mpr hp
      rw [List.length_append] at hlen
      omega
    rw [hfind, if_neg hlonger, find?_of_ne_nil _ (List.append_ne_nil_of_right_ne_nil root hp)]
    rfl

/-- No file is on the way to a directory of a unit. -/
theorem Orderly.not_file (ht : t.Orderly root) (hq : q <+: root ++ d.unitDirectory) (text : String) :
    t.find? q ≠ some (.file text) := by
  intro hfile
  rcases Path.prefix_append_cases hq with hroot | ⟨above, name, rfl, hname⟩
  · rw [ht.root_isDirectory q hroot] at hfile
    cases hfile
  · exact ClassDecl.no_dot_of_mem_unitDirectory hname (ht.dot_mem_of_file above name text hfile)

/-- The path of a unit does not lead to a directory. -/
theorem Orderly.not_directory (ht : t.Orderly root) (d : ClassDecl) :
    t.find? (root ++ d.unitPath) ≠ some .directory := by
  intro hdir
  rw [ClassDecl.append_unitPath] at hdir
  exact ht.no_dot_of_directory _ _ hdir d.dot_mem_fileName

/-! ## Writing units -/

/-- **A unit has been written**: its path leads to its text, every path on the way to its directory leads to a
    directory, and nothing else is touched. -/
def UnitWritten (t : FileTree) (root : Path) (e : Emitter) (d : ClassDecl) (written : FileTree) : Prop :=
  ∀ q, written.find? q =
    if q = root ++ d.unitPath then some (.file (e.emit d))
    else if q <+: root ++ d.unitDirectory then some .directory
    else t.find? q

/-- **In an orderly tree every unit can be written.** -/
theorem Orderly.exists_writeUnitBelow (ht : t.Orderly root) (e : Emitter) (d : ClassDecl) :
    ∃ written, e.writeUnitBelow t root d = .ok (root ++ d.unitPath, written)
      ∧ t.UnitWritten root e d written := by
  unfold Emitter.writeUnitBelow
  cases hmade : t.makeDirectories? (root ++ d.unitDirectory) with
  | none =>
    obtain ⟨q, text, hq, hfile⟩ := makeDirectories?_eq_none_iff.mp hmade
    exact absurd hfile (ht.not_file hq text)
  | some made =>
    have hfind := find?_of_makeDirectories? hmade
    have hpath : made.find? (root ++ d.unitPath) ≠ some .directory := by
      rw [hfind, if_neg (ClassDecl.not_unitPath_prefix_unitDirectory root d d)]
      exact ht.not_directory d
    have hdir : made.find? (root ++ d.unitPath).dropLast = some .directory := by
      rw [ClassDecl.append_unitPath, List.dropLast_concat, hfind, if_pos (List.prefix_refl _)]
    have hwrite := writeFile?_eq_some_iff.mpr ⟨hpath, hdir, Eq.refl (made.put _ (.file (e.emit d)))⟩
    refine ⟨made.put (root ++ d.unitPath) (.file (e.emit d)), ?_, ?_⟩
    · simp only [hwrite]
    · intro q
      rw [find?_of_writeFile? hwrite, hfind]

/-- **Writing a unit keeps a tree orderly.** -/
theorem Orderly.unitWritten (ht : t.Orderly root) (h : t.UnitWritten root e d written) :
    written.Orderly root := by
  refine ⟨?_, ?_, ?_⟩
  · intro q hq
    have hway : q <+: root ++ d.unitDirectory := hq.trans (List.prefix_append _ _)
    have hne : q ≠ root ++ d.unitPath := by
      rintro rfl
      exact ClassDecl.not_unitPath_prefix_unitDirectory root d d hway
    rw [h, if_neg hne, if_pos hway]
  · intro above name text hfile
    rw [h] at hfile
    split at hfile
    · next hpath =>
      -- the file that was written
      rw [ClassDecl.append_unitPath] at hpath
      have hname : [name] = [d.name ++ ".java"] := List.append_inj_right' hpath rfl
      rw [List.singleton_inj.mp hname]
      exact d.dot_mem_fileName
    · split at hfile
      · cases hfile
      · exact ht.dot_mem_of_file above name text hfile
  · intro above name hdir
    rw [h] at hdir
    split at hdir
    · cases hdir
    · split at hdir
      · next hway =>
        -- a directory on the way to the file
        rw [List.append_assoc] at hway
        have hmem : name ∈ d.unitDirectory := ((List.prefix_append_right_inj root).mp hway).subset
          (List.mem_append_right above List.mem_cons_self)
        exact ClassDecl.no_dot_of_mem_unitDirectory hmem
      · exact ht.no_dot_of_directory above name hdir

/-- **Writing a unit changes the file of its class**, and the file of no other class. -/
theorem UnitWritten.textAt? (h : t.UnitWritten root e d written) (hd : d.HasFileNames)
    (hf : f.HasFileNames) :
    written.textAt? (root ++ f.unitPath) =
      if d.Same f then some (e.emit d) else t.textAt? (root ++ f.unitPath) := by
  by_cases hs : d.Same f
  · rw [if_pos hs, textAt?_eq_some_iff, h, if_pos]
    rw [(hd.unitPath_inj hf).mpr hs]
  · have hne : root ++ f.unitPath ≠ root ++ d.unitPath := by
      intro heq
      exact hs ((hd.unitPath_inj hf).mp (List.append_cancel_left heq).symm)
    rw [if_neg hs]
    refine textAt?_congr ?_
    rw [h, if_neg hne, if_neg (ClassDecl.not_unitPath_prefix_unitDirectory root f d)]

end FileTree

namespace Emitter

variable {t : FileTree} {root : Path} {units : List (Emitter × ClassDecl)}

/-- The text of the last of some units that is a unit of the class of `d`. -/
def lastText? (units : List (Emitter × ClassDecl)) (d : ClassDecl) : Option String :=
  (units.reverse.find? fun u => u.2.Same d).map fun u => u.1.emit u.2

theorem lastText?_cons (e : Emitter) (d f : ClassDecl) (rest : List (Emitter × ClassDecl)) :
    lastText? ((e, d) :: rest) f =
      (lastText? rest f).or (if d.Same f then some (e.emit d) else none) := by
  unfold lastText?
  rw [List.reverse_cons, List.find?_append, Option.map_or]
  by_cases hs : d.Same f
  · simp [hs]
  · simp [hs]

theorem writeUnitsBelow_cons_of_ok {written final : FileTree} {e : Emitter} {d : ClassDecl}
    {rest : List (Emitter × ClassDecl)} {path : Path} {paths : List Path}
    (hwrite : e.writeUnitBelow t root d = .ok (path, written))
    (hrest : writeUnitsBelow written root rest = .ok (paths, final)) :
    writeUnitsBelow t root ((e, d) :: rest) = .ok (path :: paths, final) := by
  rw [writeUnitsBelow, hwrite]
  simp only [bind, Except.bind, hrest]
  rfl

/-- **A run of writes in an orderly tree** succeeds, gives the paths of the units in order, and leaves at the
    path of each class the text that was last written for it, or what was there if there was none. -/
theorem exists_writeUnitsBelow (ht : t.Orderly root) (hu : ∀ u ∈ units, u.2.HasFileNames) :
    ∃ final, writeUnitsBelow t root units = .ok (units.map fun u => root ++ u.2.unitPath, final)
      ∧ ∀ d, d.HasFileNames →
        final.textAt? (root ++ d.unitPath) = (lastText? units d).or (t.textAt? (root ++ d.unitPath)) := by
  induction units generalizing t with
  | nil => exact ⟨t, rfl, fun d _ => rfl⟩
  | cons u rest ih =>
    obtain ⟨e, d⟩ := u
    rw [List.forall_mem_cons] at hu
    obtain ⟨written, hwrite, hwritten⟩ := ht.exists_writeUnitBelow e d
    obtain ⟨final, hrest, htext⟩ := ih (ht.unitWritten hwritten) hu.2
    refine ⟨final, ?_, ?_⟩
    · exact writeUnitsBelow_cons_of_ok hwrite hrest
    · intro f hf
      -- a later text wins over this one, and this one over what was there
      rw [htext f hf, hwritten.textAt? hu.1 hf, lastText?_cons, Option.or_assoc]
      by_cases hs : d.Same f
      · simp [hs]
      · simp [hs]

/-- **Units written below one root never disturb each other.** Into a directory that is empty at first, any
    sequence of units can be written, each with its own settings. Every write succeeds and gives the root, the
    segments of the package and `Name.java`; in the end the path of a class has exactly the text that was
    written for it last, and no text if none was written. Different classes have different paths, made of
    proper file names, and no unit's file is a directory for another. -/
theorem units_stand_apart (ht : t.IsEmptyDirectory root) (hu : ∀ u ∈ units, u.2.HasFileNames) :
    (∃ final,
      writeUnitsBelow t root units
        = .ok (units.map fun u => root ++ u.2.package.segments ++ [u.2.name ++ ".java"], final)
      ∧ ∀ d, d.HasFileNames → final.textAt? (root ++ d.unitPath) = lastText? units d)
    ∧ (∀ u ∈ units, ∀ name ∈ u.2.unitPath, IsFileName name)
    ∧ (∀ u ∈ units, ∀ v ∈ units,
      ((root ++ u.2.unitPath).toText = (root ++ v.2.unitPath).toText ↔ u.2.Same v.2)
        ∧ ¬ root ++ u.2.unitPath <+: root ++ v.2.unitDirectory) := by
  refine ⟨?_, ?_, ?_⟩
  · obtain ⟨final, hrun, htext⟩ := exists_writeUnitsBelow ht.orderly hu
    refine ⟨final, ?_, ?_⟩
    · rw [hrun]
      simp only [ClassDecl.append_unitPath]
      rfl
    · intro d hd
      have hnone : t.textAt? (root ++ d.unitPath) = none := by
        unfold FileTree.textAt?
        rw [ht.nothing_below _ d.unitPath_ne_nil]
      rw [htext d hd, hnone, Option.or_none]
  · intro u hmem name hname
    exact (hu u hmem).isFileName hname
  · intro u hmem v hvmem
    exact ⟨(hu u hmem).unitPath_toText_inj (hu v hvmem),
      ClassDecl.not_unitPath_prefix_unitDirectory root u.2 v.2⟩

/-- Units of two packages, one inside the other, a class of the default package that is named like their
    first directory, and the first class once more, as an interface and with other settings. -/
def parcels : List (Emitter × ClassDecl) :=
  [({}, .fresh ⟨"com.acme"⟩ "Crate" .ordinary),
   ({}, .fresh ⟨"com.acme.lid"⟩ "Hinge" .ordinary),
   ({}, .fresh .unnamed "com" .ordinary),
   ({ format := { indentStyle := .tabs } }, .fresh ⟨"com.acme"⟩ "Crate" .interface)]

theorem parcels_stand_apart :
    ∃ t final, t.IsEmptyDirectory ["srv", "out"]
      ∧ (∀ u ∈ parcels, u.2.HasFileNames)
      ∧ writeUnitsBelow t ["srv", "out"] parcels = .ok
          ([["srv", "out", "com", "acme", "Crate.java"], ["srv", "out", "com", "acme", "lid", "Hinge.java"],
            ["srv", "out", "com.java"], ["srv", "out", "com", "acme", "Crate.java"]], final)
      ∧ final.textAt? ["srv", "out", "com", "acme", "Crate.java"]
          = some "package com.acme;\n\npublic interface Crate \x7b\n\x7d\n" := by
  obtain ⟨t, hmade⟩ : ∃ t, FileTree.empty.makeDirectories? ["srv", "out"] = some t := ⟨_, rfl⟩
  have ht : t.IsEmptyDirectory ["srv", "out"] := FileTree.isEmptyDirectory_of_makeDirectories? hmade
  have hu : ∀ u ∈ parcels, u.2.HasFileNames := by decide
  obtain ⟨⟨final, hrun, htext⟩, -, -⟩ := units_stand_apart ht hu
  have hcrate : (ClassDecl.fresh ⟨"com.acme"⟩ "Crate" .ordinary).HasFileNames := by decide
  exact ⟨t, final, ht, hu, hrun, (htext _ hcrate).trans (by decide)⟩

end Emitter
end JavaSource
