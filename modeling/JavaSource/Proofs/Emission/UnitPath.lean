import JavaSource.Emission.FileTree
import JavaSource.Proofs.Package.NormalForm

/-!
# `Proofs.Emission.UnitPath` — the path of a unit spells its class

The directories of a unit are the segments of its package, which hold no dot; its file is named after the class
with `.java` behind, which holds one. So the path of a unit gives the class back, as a list of names
(`HasFileNames.unitPath_inj`) and as a text (`HasFileNames.unitPath_toText_inj`), and no file of a unit is on
the way to the directory of another (`not_unitPath_prefix_unitDirectory`).
-/

namespace JavaSource
open Text

/-! ## Names of files -/

/-- A text can be part of a path. -/
def FitsPath (s : String) : Prop := '/' ∉ s.toList ∧ '\x00' ∉ s.toList

instance (s : String) : Decidable (FitsPath s) := inferInstanceAs (Decidable (_ ∧ _))

/-- A name that leads from a directory to something in it. -/
structure IsFileName (name : String) : Prop where
  ne_empty : name ≠ ""
  ne_here : name ≠ "."
  ne_above : name ≠ ".."
  fits : FitsPath name

namespace Path

variable {p q root : Path} {name : String}

/-- The text of a path is cut at its slashes into the names of the path. -/
theorem pieces_toText (hne : p ≠ []) (hp : ∀ name ∈ p, '/' ∉ name.toList) :
    pieces '/' p.toText.toList = p.map String.toList := by
  unfold toText
  rw [toList_joinWith (c := '/') rfl, pieces_join]
  · rwa [ne_eq, List.map_eq_nil_iff]
  · intro piece hpiece
    obtain ⟨name, hname, rfl⟩ := List.mem_map.mp hpiece
    exact hp name hname

theorem toText_cons (name : String) (hne : p ≠ []) : toText (name :: p) = name ++ "/" ++ p.toText := by
  cases p with
  | nil => exact absurd rfl hne
  | cons next rest => rfl

/-- **Below a root, paths that are written alike are the same.** Nothing is asked of the root. -/
theorem toText_append_inj (hp : p ≠ []) (hq : q ≠ []) (hps : ∀ name ∈ p, '/' ∉ name.toList)
    (hqs : ∀ name ∈ q, '/' ∉ name.toList) (h : (root ++ p).toText = (root ++ q).toText) : p = q := by
  induction root with
  | nil =>
    have hpieces : p.map String.toList = q.map String.toList := by
      rw [← pieces_toText hp hps, ← pieces_toText hq hqs]
      exact congrArg (fun s : String => pieces '/' s.toList) h
    exact (List.map_inj_right fun _ _ => String.toList_inj.mp).mp hpieces
  | cons name root ih =>
    rw [List.cons_append, List.cons_append, toText_cons _ (List.append_ne_nil_of_right_ne_nil root hp),
      toText_cons _ (List.append_ne_nil_of_right_ne_nil root hq)] at h
    exact ih ((String.append_right_inj _).mp h)

/-- A path down to something below `root` ends at the root or above it, or at a name below it. -/
theorem prefix_append_cases (h : q <+: root ++ p) :
    q <+: root ∨ ∃ above name, q = root ++ above ++ [name] ∧ name ∈ p := by
  rcases List.prefix_or_prefix_of_prefix h (List.prefix_append root p) with hq | ⟨r, rfl⟩
  · exact Or.inl hq
  · have hr : r <+: p := (List.prefix_append_right_inj root).mp h
    rcases List.eq_nil_or_concat r with rfl | ⟨above, name, rfl⟩
    · rw [List.append_nil]
      exact Or.inl (List.prefix_refl root)
    · rw [List.concat_eq_append] at hr ⊢
      refine Or.inr ⟨above, name, (List.append_assoc root above [name]).symm, ?_⟩
      exact hr.subset (List.mem_append_right above List.mem_cons_self)

end Path

/-! ## Paths of units -/

namespace ClassDecl

variable {d f : ClassDecl} {root : Path} {name : String}

/-- **The package and the name of a declaration make a path**: the package is in normal form, and its
    segments and the name of the class can be part of a path. -/
structure HasFileNames (d : ClassDecl) : Prop where
  package_normal : d.package.IsNormal
  segments_fit : ∀ segment ∈ d.package.segments, FitsPath segment
  name_fits : FitsPath d.name

instance (d : ClassDecl) : Decidable d.HasFileNames :=
  decidable_of_iff
    (d.package.IsNormal ∧ (∀ segment ∈ d.package.segments, FitsPath segment) ∧ FitsPath d.name)
    ⟨fun ⟨hn, hs, hd⟩ => ⟨hn, hs, hd⟩, fun ⟨hn, hs, hd⟩ => ⟨hn, hs, hd⟩⟩

theorem append_unitPath (root : Path) (d : ClassDecl) :
    root ++ d.unitPath = root ++ d.unitDirectory ++ [d.name ++ ".java"] :=
  (List.append_assoc root d.unitDirectory [d.name ++ ".java"]).symm

/-- The file of a unit has a dot in its name. -/
theorem dot_mem_fileName (d : ClassDecl) : '.' ∈ (d.name ++ ".java").toList := by
  rw [String.toList_append]
  exact List.mem_append_right d.name.toList (by decide)

/-- The directories of a unit have no dot in their names. -/
theorem no_dot_of_mem_unitDirectory (h : name ∈ d.unitDirectory) : '.' ∉ name.toList :=
  (Package.ne_empty_and_no_dot_of_mem_segments h).2

/-- The file of a unit is not on the way to a directory of another: no directory has a dot. -/
theorem not_unitPath_prefix_unitDirectory (root : Path) (d f : ClassDecl) :
    ¬ root ++ d.unitPath <+: root ++ f.unitDirectory := by
  intro h
  have hmem : d.name ++ ".java" ∈ f.unitDirectory :=
    ((List.prefix_append_right_inj root).mp h).subset (List.mem_append_right _ List.mem_cons_self)
  exact no_dot_of_mem_unitDirectory hmem d.dot_mem_fileName

theorem HasFileNames.isFileName (hd : d.HasFileNames) (h : name ∈ d.unitPath) : IsFileName name := by
  rcases List.mem_append.mp h with hdir | hfile
  · have hdot : '.' ∉ name.toList := no_dot_of_mem_unitDirectory hdir
    refine ⟨(Package.ne_empty_and_no_dot_of_mem_segments hdir).1, ?_, ?_, hd.segments_fit name hdir⟩
    all_goals
      rintro rfl
      exact hdot (by decide)
  · rw [List.mem_singleton.mp hfile]
    have hlen : ∀ s : String, s.length < 5 → d.name ++ ".java" ≠ s := by
      rintro s hs rfl
      rw [String.length_append] at hs
      have hext : ".java".length = 5 := rfl
      omega
    refine ⟨hlen _ (by decide), hlen _ (by decide), hlen _ (by decide), ?_, ?_⟩
    all_goals
      rw [String.toList_append, List.mem_append, not_or]
    · exact ⟨hd.name_fits.1, by decide⟩
    · exact ⟨hd.name_fits.2, by decide⟩

/-- **Units of different classes have different paths.** -/
theorem HasFileNames.unitPath_inj (hd : d.HasFileNames) (hf : f.HasFileNames) :
    d.unitPath = f.unitPath ↔ d.Same f := by
  constructor
  · intro h
    have hdir : d.unitDirectory = f.unitDirectory := List.append_inj_left' h rfl
    have hfile : [d.name ++ ".java"] = [f.name ++ ".java"] := List.append_inj_right' h rfl
    refine ⟨(String.append_left_inj ".java").mp (List.singleton_inj.mp hfile), ?_⟩
    exact hd.package_normal.eq_of_segments_eq hf.package_normal hdir
  · rintro ⟨hname, hpackage⟩
    unfold unitPath unitDirectory
    rw [hname, hpackage]

theorem unitPath_ne_nil (d : ClassDecl) : d.unitPath ≠ [] :=
  List.append_ne_nil_of_right_ne_nil d.unitDirectory (List.cons_ne_nil _ _)

/-- The texts of paths tell the same classes apart as the paths. -/
theorem HasFileNames.unitPath_toText_inj (hd : d.HasFileNames) (hf : f.HasFileNames) :
    (root ++ d.unitPath).toText = (root ++ f.unitPath).toText ↔ d.Same f := by
  rw [← hd.unitPath_inj hf]
  constructor
  · exact Path.toText_append_inj d.unitPath_ne_nil f.unitPath_ne_nil
      (fun name hname => (hd.isFileName hname).fits.1) fun name hname => (hf.isFileName hname).fits.1
  · intro h
    rw [h]

end ClassDecl

end JavaSource
