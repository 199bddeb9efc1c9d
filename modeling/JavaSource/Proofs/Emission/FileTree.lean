import JavaSource.Emission.FileTree

/-!
# `Proofs.Emission.FileTree` — what the operations on a file tree do

Each operation is described by the view `find?`, once and exactly: when it fails, and what every path leads to
afterwards. Proofs about units that are written use these facts and do not open the operations.

* `makeDirectories?_eq_none_iff`, `find?_of_makeDirectories?` — a directory cannot be made exactly if a file
  is on the way to it; otherwise every path on the way leads to a directory, and nothing else is touched.
* `writeFile?_eq_some_iff`, `find?_of_writeFile?` — a file can be written exactly if its directory is there
  and no directory has its name; its path then leads to the text, and nothing else is touched.
-/

namespace JavaSource
namespace FileTree

variable {t made written : FileTree} {p q above rest : Path} {text : String} {entry : Entry}

/-! ## Entries -/

theorem find?_of_ne_nil (t : FileTree) (hp : p ≠ []) : t.find? p = t.entries.lookup p := by
  unfold find?
  rw [if_neg]
  rwa [List.isEmpty_iff]

theorem find?_put (t : FileTree) (hp : p ≠ []) (entry : Entry) (q : Path) :
    (t.put p entry).find? q = if q = p then some entry else t.find? q := by
  by_cases hq : q = []
  · -- the root is a directory whatever is put
    rw [hq, if_neg (Ne.symm hp)]
    rfl
  · rw [find?_of_ne_nil _ hq, find?_of_ne_nil _ hq]
    show ((p, entry) :: t.entries).lookup q = _
    rw [List.lookup_cons]
    by_cases hqp : q = p
    · rw [if_pos hqp, hqp, beq_self_eq_true]
    · rw [if_neg hqp, beq_false_of_ne hqp]

theorem textAt?_eq_some_iff : t.textAt? p = some text ↔ t.find? p = some (.file text) := by
  unfold textAt?
  cases t.find? p with
  | none => simp
  | some entry => cases entry <;> simp

/-- What a path leads to decides which text is there. -/
theorem textAt?_congr (h : made.find? p = t.find? p) : made.textAt? p = t.textAt? p := by
  unfold textAt?
  rw [h]

/-! ## Making directories -/

/-- Every path down to a directory leads to a directory. -/
def IsDirectory (t : FileTree) (p : Path) : Prop := ∀ q, q <+: p → t.find? q = some .directory

theorem isDirectory_nil (t : FileTree) : t.IsDirectory [] := by
  intro q hq
  rw [List.prefix_nil.mp hq]
  rfl

theorem IsDirectory.concat (h : t.IsDirectory p) {name : String}
    (hname : t.find? (p ++ [name]) = some .directory) : t.IsDirectory (p ++ [name]) := by
  intro q hq
  rcases List.prefix_concat_iff.mp hq with rfl | hq
  · exact hname
  · exact h q hq

theorem concat_ne_nil (p : Path) (name : String) : p ++ [name] ≠ [] :=
  List.append_ne_nil_of_right_ne_nil p (List.cons_ne_nil name [])

theorem IsDirectory.put (h : t.IsDirectory p) (name : String) :
    (t.put (p ++ [name]) .directory).IsDirectory (p ++ [name]) := by
  have hname : ∀ q, (t.put (p ++ [name]) .directory).find? q =
      if q = p ++ [name] then some .directory else t.find? q := find?_put t (concat_ne_nil p name) .directory
  refine IsDirectory.concat ?_ ?_
  · intro q hq
    rw [hname]
    split
    · rfl
    · exact h q hq
  · rw [hname, if_pos rfl]

/-- Below a directory a directory cannot be made exactly if a file is on the way to it. -/
theorem makeDirectoriesBelow_eq_none_iff (habove : t.IsDirectory above) :
    t.makeDirectoriesBelow above rest = none ↔
      ∃ q text, q <+: above ++ rest ∧ t.find? q = some (.file text) := by
  induction rest generalizing t above with
  | nil =>
    rw [List.append_nil]
    constructor
    · intro h
      cases h
    · rintro ⟨q, text, hq, hfile⟩
      rw [habove q hq] at hfile
      cases hfile
  | cons name rest ih =>
    rw [makeDirectoriesBelow, List.append_cons above name rest]
    cases hname : t.find? (above ++ [name]) with
    | some entry =>
      cases entry with
      | file text =>
        refine ⟨fun _ => ⟨above ++ [name], text, ?_, hname⟩, fun _ => rfl⟩
        exact List.prefix_append _ _
      | directory => exact ih (habove.concat hname)
    | none =>
      have hput := find?_put t (concat_ne_nil above name) .directory
      show (t.put (above ++ [name]) .directory).makeDirectoriesBelow (above ++ [name]) rest = none ↔ _
      rw [ih (habove.put name)]
      -- the directory that was put there is not a file, and neither was what it took the place of
      refine exists_congr fun q => exists_congr fun text => and_congr_right fun _ => ?_
      rw [hput]
      by_cases hq : q = above ++ [name]
      · rw [if_pos hq, hq, hname]
        simp
      · rw [if_neg hq]

/-- What a directory made below another one changes: each path on the way to it leads to a directory. -/
theorem find?_of_makeDirectoriesBelow (habove : t.IsDirectory above)
    (h : t.makeDirectoriesBelow above rest = some made) (q : Path) :
    made.find? q = if q <+: above ++ rest then some .directory else t.find? q := by
  induction rest generalizing t above with
  | nil =>
    cases h
    rw [List.append_nil]
    split
    · next hq => exact habove q hq
    · rfl
  | cons name rest ih =>
    rw [makeDirectoriesBelow] at h
    rw [List.append_cons above name rest]
    cases hname : t.find? (above ++ [name]) with
    | some entry =>
      rw [hname] at h
      cases entry with
      | file text => cases h
      | directory => exact ih (habove.concat hname) h
    | none =>
      rw [hname] at h
      rw [ih (habove.put name) h, find?_put t (concat_ne_nil above name)]
      by_cases hq : q <+: above ++ [name] ++ rest
      · rw [if_pos hq, if_pos hq]
      · have hne : q ≠ above ++ [name] := by
          rintro rfl
          exact hq (List.prefix_append _ _)
        rw [if_neg hq, if_neg hq, if_neg hne]

/-- **When a directory cannot be made**: exactly if a file is on the way to it. -/
theorem makeDirectories?_eq_none_iff :
    t.makeDirectories? p = none ↔ ∃ q text, q <+: p ∧ t.find? q = some (.file text) :=
  makeDirectoriesBelow_eq_none_iff t.isDirectory_nil

/-- **What making a directory does**: every path on the way to it leads to a directory. -/
theorem find?_of_makeDirectories? (h : t.makeDirectories? p = some made) (q : Path) :
    made.find? q = if q <+: p then some .directory else t.find? q :=
  find?_of_makeDirectoriesBelow t.isDirectory_nil h q

/-! ## Writing files -/

/-- **When a file can be written**: exactly if its directory is there and its path does not lead to a
    directory. -/
theorem writeFile?_eq_some_iff :
    t.writeFile? p text = some written ↔
      t.find? p ≠ some .directory ∧ t.find? p.dropLast = some .directory
        ∧ t.put p (.file text) = written := by
  unfold writeFile?
  split
  · next hp => simp [hp]
  · next hdir hp =>
    have hne : t.find? p ≠ some .directory := fun h => hp h
    simp [hne, hdir]
  · next _ hdir =>
    have hne : t.find? p.dropLast ≠ some .directory := fun h => hdir h
    simp [hne]

/-- **What writing a file does**: its path leads to the text. -/
theorem find?_of_writeFile? (h : t.writeFile? p text = some written) (q : Path) :
    written.find? q = if q = p then some (.file text) else t.find? q := by
  obtain ⟨hp, -, rfl⟩ := writeFile?_eq_some_iff.mp h
  refine find?_put t ?_ _ q
  rintro rfl
  exact hp rfl

end FileTree
end JavaSource
