import JavaSource.Proofs.Imports.Offer
import Mathlib.Data.List.Nodup

/-!
# `Proofs.Imports.Invariant` — what holds of an import list after any offers

Three facts about an import list that has been offered classes on behalf of a unit in the package `home`,
each shown for one offer and carried over a merge by `merge_induction`:

* `Extends` — the list only grows: what was recorded stays, in its place.
* `Consistent` — imported names are distinct, only foreign classes are recorded, and a conflict is what it
  says: a class that lost its simple name to an imported one, recorded once.
* `Covers` — a foreign class that has been offered is imported or recorded as shadowed.

A consistent list never has a class on both sides (`Consistent.isShadowed_eq_false`), and it has at most one
class for a simple name (`Consistent.eq_of_name_eq`).
-/

namespace JavaSource
namespace ImportList

variable {l m n : ImportList} {owner : Option Package} {home : Package} {c : ClassRef}
  {dec : Decision} {ev : Option ImportEvent}

/-- What every offer preserves, a merge preserves. -/
theorem merge_induction {P : ImportList → Prop}
    (hstep : ∀ {l m : ImportList} {c : ClassRef} {dec : Decision} {ev : Option ImportEvent},
      Offered l owner c dec ev m → P l → P m)
    (cs : List ClassRef) (h : P l) : P (l.merge owner cs) := by
  -- each offer changes the list that the rest of the candidates meets
  induction cs generalizing l with
  | nil => exact h
  | cons c cs ih => exact ih (hstep (l.offered owner c) h)

/-! ## Growth -/

/-- `m` is `l` with more recorded behind. -/
structure Extends (l m : ImportList) : Prop where
  classes : l.classes <+: m.classes
  conflicts : l.conflicts <+: m.conflicts

theorem Extends.refl (l : ImportList) : l.Extends l := ⟨List.prefix_refl _, List.prefix_refl _⟩

theorem Extends.trans (h : l.Extends m) (g : m.Extends n) : l.Extends n :=
  ⟨h.classes.trans g.classes, h.conflicts.trans g.conflicts⟩

theorem Offered.extends (h : Offered l owner c dec ev m) : l.Extends m := by
  cases h with
  | noPackage _ => exact .refl l
  | samePackage _ => exact .refl l
  | added _ _ => exact ⟨List.prefix_append _ _, List.prefix_refl _⟩
  | alreadyImported _ _ _ => exact .refl l
  | knownConflict _ _ _ _ => exact .refl l
  | newConflict _ _ _ _ => exact ⟨List.prefix_refl _, List.prefix_append _ _⟩

/-- **A merge only appends.** -/
theorem extends_merge (l : ImportList) (owner : Option Package) (cs : List ClassRef) :
    l.Extends (l.merge owner cs) :=
  merge_induction (fun h hl => hl.trans h.extends) cs (.refl l)

theorem Extends.contains (h : l.Extends m) (hc : l.contains c = true) : m.contains c = true := by
  obtain ⟨d, hd, hs⟩ := contains_iff.mp hc
  exact contains_iff.mpr ⟨d, h.classes.subset hd, hs⟩

theorem Extends.isShadowed (h : l.Extends m) (hc : l.isShadowed c = true) : m.isShadowed c = true := by
  obtain ⟨k, hk, hs⟩ := isShadowed_iff.mp hc
  exact isShadowed_iff.mpr ⟨k, h.conflicts.subset hk, hs⟩

/-- A name that is held stays with its holder. -/
theorem Extends.bySimpleName? {name : String} {holder : ClassRef} (h : l.Extends m)
    (hheld : l.bySimpleName? name = some holder) : m.bySimpleName? name = some holder := by
  obtain ⟨rest, hrest⟩ := h.classes
  unfold ImportList.bySimpleName? at hheld ⊢
  rw [← hrest, List.find?_append, hheld]
  rfl

/-! ## Consistency -/

/-- A recorded conflict says what happened: an imported class holds the simple name that the shadowed
    class, another and foreign one, would have needed. -/
structure Justified (l : ImportList) (home : Package) (k : Conflict) : Prop where
  imported_mem : k.imported ∈ l.classes
  name_eq : k.shadowed.name = k.imported.name
  not_same : ¬ k.imported.Same k.shadowed
  foreign : k.shadowed.ForeignTo home

/-- **The invariant of an import list** of a unit in the package `home`. -/
structure Consistent (l : ImportList) (home : Package) : Prop where
  names_nodup : (l.classes.map ClassRef.name).Nodup
  classes_foreign : ∀ c ∈ l.classes, c.ForeignTo home
  justified : ∀ k ∈ l.conflicts, l.Justified home k
  shadowed_nodup : (l.conflicts.map fun k => k.shadowed.bare).Nodup

theorem consistent_empty (home : Package) : ({} : ImportList).Consistent home where
  names_nodup := List.nodup_nil
  classes_foreign := by intro c hc; exact absurd hc List.not_mem_nil
  justified := by intro k hk; exact absurd hk List.not_mem_nil
  shadowed_nodup := List.nodup_nil

/-- A conflict stays justified while classes are appended. -/
theorem Justified.extends {k : Conflict} (hk : l.Justified home k) (h : l.Extends m) :
    m.Justified home k :=
  { hk with imported_mem := h.classes.subset hk.imported_mem }

/-- A class whose name is free leaves the names distinct. -/
theorem nodup_names_concat (hl : (l.classes.map ClassRef.name).Nodup)
    (hfree : l.bySimpleName? c.name = none) : ((l.classes ++ [c]).map ClassRef.name).Nodup := by
  have hnew : ∀ d ∈ l.classes, d.name ≠ c.name := bySimpleName?_eq_none_iff.mp hfree
  rw [List.map_append, List.map_singleton]
  refine hl.append (List.nodup_singleton _) ?_
  -- the new name is free, so no imported class has it
  intro name hname hc
  obtain ⟨d, hd, hdn⟩ := List.mem_map.mp hname
  exact hnew d hd (hdn.trans (List.mem_singleton.mp hc))

/-- A class whose name is free can be appended. -/
theorem Consistent.addClass (hl : l.Consistent home) (hf : c.ForeignTo home)
    (hfree : l.bySimpleName? c.name = none) :
    Consistent { l with classes := l.classes ++ [c] } home := by
  refine ⟨nodup_names_concat hl.names_nodup hfree, ?_, ?_, hl.shadowed_nodup⟩
  · intro d hd
    rcases List.mem_append.mp hd with hd | hd
    · exact hl.classes_foreign d hd
    · rw [List.mem_singleton.mp hd]; exact hf
  · intro k hk
    exact (hl.justified k hk).extends ⟨List.prefix_append _ _, List.prefix_refl _⟩

/-- A class that meets another holder of its name, and is not known to be shadowed, can be recorded. -/
theorem Consistent.addConflict {holder : ClassRef} (hl : l.Consistent home) (hf : c.ForeignTo home)
    (hheld : l.bySimpleName? c.name = some holder) (hs : ¬ holder.Same c)
    (hnew : l.isShadowed c = false) :
    Consistent { l with conflicts := l.conflicts ++ [⟨holder, c⟩] } home := by
  obtain ⟨hmem, hname⟩ := mem_of_bySimpleName? hheld
  refine ⟨hl.names_nodup, hl.classes_foreign, ?_, ?_⟩
  · intro k hk
    rcases List.mem_append.mp hk with hk | hk
    · exact (hl.justified k hk).extends ⟨List.prefix_refl _, List.prefix_append _ _⟩
    · rw [List.mem_singleton.mp hk]; exact ⟨hmem, hname.symm, hs, hf⟩
  · show ((l.conflicts ++ [Conflict.mk holder c]).map fun k => k.shadowed.bare).Nodup
    rw [List.map_append, List.map_singleton]
    refine hl.shadowed_nodup.append (List.nodup_singleton _) ?_
    intro b hb hc
    obtain ⟨k, hk, hkb⟩ := List.mem_map.mp hb
    -- a second record of `c` would have to be one that `isShadowed` missed
    have hsame : k.shadowed.Same c := ClassRef.same_iff_bare_eq.mpr (hkb.trans (List.mem_singleton.mp hc))
    have hknown : l.isShadowed c = true := isShadowed_iff.mpr ⟨k, hk, hsame⟩
    rw [hnew] at hknown
    exact Bool.false_ne_true hknown

/-- **An offer keeps a list consistent.** -/
theorem Consistent.offered (hl : l.Consistent (owner.getD .unnamed)) (h : Offered l owner c dec ev m) :
    m.Consistent (owner.getD .unnamed) := by
  cases h with
  | noPackage _ => exact hl
  | samePackage _ => exact hl
  | added hf hfree => exact hl.addClass hf hfree
  | alreadyImported _ _ _ => exact hl
  | knownConflict _ _ _ _ => exact hl
  | newConflict hf hheld hs hnew => exact hl.addConflict hf hheld hs hnew

theorem Consistent.merge (hl : l.Consistent (owner.getD .unnamed)) (cs : List ClassRef) :
    (l.merge owner cs).Consistent (owner.getD .unnamed) :=
  merge_induction (P := fun l => l.Consistent (owner.getD .unnamed)) (fun h hl => hl.offered h) cs hl

/-- Imported classes of one simple name are one. -/
theorem Consistent.eq_of_name_eq (hl : l.Consistent home) {a b : ClassRef} (ha : a ∈ l.classes)
    (hb : b ∈ l.classes) (h : a.name = b.name) : a = b :=
  List.inj_on_of_nodup_map hl.names_nodup ha hb h

/-- An imported class is not at home, whatever its flags. -/
theorem Consistent.package_ne (hl : l.Consistent home) {i : ClassRef} (hi : i ∈ l.classes)
    (hs : i.Same c) : c.package ≠ some home :=
  (ClassRef.foreignTo_iff.mp ((hl.classes_foreign i hi).of_same hs)).2

/-- A class that is recorded as shadowed is foreign. -/
theorem Consistent.foreignTo_of_isShadowed (hl : l.Consistent home) (hc : l.isShadowed c = true) :
    c.ForeignTo home := by
  obtain ⟨k, hk, hs⟩ := isShadowed_iff.mp hc
  exact (hl.justified k hk).foreign.of_same hs

/-- No shadowed class is imported. -/
theorem Consistent.contains_eq_false (hl : l.Consistent home) {k : Conflict} (hk : k ∈ l.conflicts) :
    l.contains k.shadowed = false := by
  have hj := hl.justified k hk
  rw [← Bool.not_eq_true]
  intro hc
  obtain ⟨d, hd, hs⟩ := contains_iff.mp hc
  have hdk : d = k.imported := hl.eq_of_name_eq hd hj.imported_mem (hs.1.trans hj.name_eq)
  exact hj.not_same (hdk ▸ hs)

/-- No imported class is recorded as shadowed. -/
theorem Consistent.isShadowed_eq_false (hl : l.Consistent home) (hc : l.contains c = true) :
    l.isShadowed c = false := by
  rw [← Bool.not_eq_true]
  intro hsh
  obtain ⟨k, hk, hkc⟩ := isShadowed_iff.mp hsh
  obtain ⟨d, hd, hdc⟩ := contains_iff.mp hc
  have hcontains : l.contains k.shadowed = true := contains_iff.mpr ⟨d, hd, hdc.trans hkc.symm⟩
  rw [hl.contains_eq_false hk] at hcontains
  exact Bool.false_ne_true hcontains

/-! ## Coverage -/

/-- The list has dealt with a class: if the class is foreign, it is imported or recorded as shadowed. -/
def Covers (l : ImportList) (home : Package) (c : ClassRef) : Prop :=
  c.ForeignTo home → l.contains c = true ∨ l.isShadowed c = true

theorem Extends.covers (h : l.Extends m) (hc : l.Covers home c) : m.Covers home c := by
  intro hf
  rcases hc hf with hc | hc
  · exact Or.inl (h.contains hc)
  · exact Or.inr (h.isShadowed hc)

/-- **An offer covers its candidate.** -/
theorem Offered.covers (h : Offered l owner c dec ev m) : m.Covers (owner.getD .unnamed) c := by
  intro hf
  cases h with
  | noPackage hp => exact absurd hf (ClassRef.not_foreignTo_iff.mpr (Or.inl hp))
  | samePackage hp => exact absurd hf (ClassRef.not_foreignTo_iff.mpr (Or.inr hp))
  | added _ _ => exact Or.inl (contains_iff.mpr ⟨c, List.mem_append_right _ List.mem_cons_self, .refl c⟩)
  | alreadyImported _ hheld hs => exact Or.inl (contains_iff.mpr ⟨_, (mem_of_bySimpleName? hheld).1, hs⟩)
  | knownConflict _ _ _ hknown => exact Or.inr hknown
  | newConflict _ _ _ _ =>
    exact Or.inr (isShadowed_iff.mpr ⟨_, List.mem_append_right _ List.mem_cons_self, .refl c⟩)

/-- **A merge covers its candidates**: each one when it is offered, and the list only grows after that. -/
theorem covers_merge (l : ImportList) (owner : Option Package) {cs : List ClassRef} (hc : c ∈ cs) :
    (l.merge owner cs).Covers (owner.getD .unnamed) c := by
  induction cs generalizing l with
  | nil => exact absurd hc List.not_mem_nil
  | cons d ds ih =>
    rcases List.mem_cons.mp hc with rfl | hc
    · exact (extends_merge _ owner ds).covers (l.offered owner c).covers
    · exact ih (l.offer owner d) hc

end ImportList
end JavaSource
