import JavaSource.Emission.Emitter
import JavaSource.Proofs.Emission.Scope

/-!
# `Proofs.Emission.Origin` — where a bare name in a compilation unit comes from

A reader of a compilation unit does not see its import list, only the lines that are written for it: those
of implicit packages are left out, and so is one for the unit's own name (`mem_visibleImports`). This module
compares the spelling of classes with what is left. `Emitter.Denotes` lists the four origins a bare name can
have, of which it has at most one (`Denotes.unique`), and `Reachable.className_in_scope` says that a class
that is written bare has one.
-/

namespace JavaSource

namespace Emitter

variable {e : Emitter} {d : ClassDecl} {c i : ClassRef}

/-! ## Written imports -/

theorem mem_visibleImports :
    i ∈ e.visibleImports d ↔ i ∈ d.imports.classes ∧ e.isImplicit i = false ∧ i.name ≠ d.name := by
  unfold visibleImports
  simp only [List.mem_filter, Bool.not_eq_true', bne_iff_ne, ne_eq, and_assoc]

/-- Whether a class is of an implicit package does not depend on its flags. -/
theorem isImplicit_eq_of_same (h : i.Same c) : e.isImplicit i = e.isImplicit c := by
  unfold isImplicit ClassRef.packageName?
  rw [h.2]

/-- A list of classes with distinct names has each of them once. -/
theorem filter_name_eq_singleton {cs : List ClassRef} (hn : (cs.map ClassRef.name).Nodup) (hi : i ∈ cs) :
    (cs.filter fun j => j.name == i.name) = [i] := by
  induction cs with
  | nil => exact absurd hi List.not_mem_nil
  | cons a as ih =>
    rw [List.map_cons, List.nodup_cons] at hn
    rcases List.mem_cons.mp hi with rfl | hi
    · have hrest : (as.filter fun j => j.name == i.name) = [] := by
        rw [List.filter_eq_nil_iff]
        intro j hj hji
        exact hn.1 (beq_iff_eq.mp hji ▸ List.mem_map_of_mem hj)
      rw [List.filter_cons, if_pos (beq_self_eq_true i.name), hrest]
    · have hne : ¬ (a.name == i.name) = true := by
        intro hai
        exact hn.1 (beq_iff_eq.mp hai ▸ List.mem_map_of_mem hi)
      rw [List.filter_cons, if_neg hne]
      exact ih hn.2 hi

/-- A written import is the only one with its simple name. -/
theorem filter_visibleImports (hl : d.imports.Consistent d.package) (hi : i ∈ e.visibleImports d) :
    ((e.visibleImports d).filter fun j => j.name == i.name) = [i] := by
  have hsub : (e.visibleImports d).Sublist d.imports.classes :=
    List.filter_sublist.trans List.filter_sublist
  exact filter_name_eq_singleton (hl.names_nodup.sublist (hsub.map _)) hi

/-! ## Origins of bare names -/

/-- Where a bare name comes from. -/
inductive Origin where
  | declared
  | imported
  | sibling
  | implicit
  deriving DecidableEq, Repr

/-- **The bare name of a class denotes it**, as the name of the given origin, in the unit that the emitter
    writes for a declaration. -/
inductive Denotes (e : Emitter) (d : ClassDecl) (c : ClassRef) : Origin → Prop where
  /-- It is the declared class. -/
  | declared (hs : c.Same d.toRef) : Denotes e d c .declared
  /-- An import line is written for it, and for no other class of its name. -/
  | imported {i : ClassRef} (honly : ((e.visibleImports d).filter fun j => j.name == c.name) = [i])
      (hs : i.Same c) : Denotes e d c .imported
  /-- It is another class of the unit's package, and no written import has its name. -/
  | sibling (hp : c.package = some d.package) (hs : ¬ c.Same d.toRef)
      (hfree : ∀ i ∈ e.visibleImports d, i.name ≠ c.name) : Denotes e d c .sibling
  /-- It is a class of an implicit package that is not the unit's, and no written import has its name. -/
  | implicit (hi : e.isImplicit c = true) (hp : c.package ≠ some d.package)
      (hfree : ∀ i ∈ e.visibleImports d, i.name ≠ c.name) : Denotes e d c .implicit

/-- No written import has the name of the unit. -/
theorem visibleImports_name_ne (h : i ∈ e.visibleImports d) : i.name ≠ d.name :=
  (mem_visibleImports.mp h).2.2

/-- An imported bare name stands on a written line. -/
theorem exists_of_filter_eq (h : ((e.visibleImports d).filter fun j => j.name == c.name) = [i]) :
    i ∈ e.visibleImports d ∧ i.name = c.name := by
  have hmem : i ∈ (e.visibleImports d).filter fun j => j.name == c.name := by
    rw [h]
    exact List.mem_singleton_self i
  obtain ⟨hi, hn⟩ := List.mem_filter.mp hmem
  exact ⟨hi, beq_iff_eq.mp hn⟩

/-- **A bare name has at most one origin.** -/
theorem Denotes.unique {o o' : Origin} (h : e.Denotes d c o) (h' : e.Denotes d c o') : o = o' := by
  -- a written line excludes the other three origins, which by their first conditions exclude one another
  cases h with
  | declared hs =>
    cases h' with
    | declared _ => rfl
    | imported honly _ =>
      obtain ⟨hi, hn⟩ := exists_of_filter_eq honly
      exact absurd (hn.trans hs.1) (visibleImports_name_ne hi)
    | sibling _ hs' _ => exact absurd hs hs'
    | implicit _ hp _ => exact absurd hs.2 hp
  | imported honly _ =>
    obtain ⟨hi, hn⟩ := exists_of_filter_eq honly
    cases h' with
    | declared hs => exact absurd (hn.trans hs.1) (visibleImports_name_ne hi)
    | imported _ _ => rfl
    | sibling _ _ hfree => exact absurd hn (hfree _ hi)
    | implicit _ _ hfree => exact absurd hn (hfree _ hi)
  | sibling hp hs hfree =>
    cases h' with
    | declared hs' => exact absurd hs' hs
    | imported honly _ =>
      obtain ⟨hi, hn⟩ := exists_of_filter_eq honly
      exact absurd hn (hfree _ hi)
    | sibling _ _ _ => rfl
    | implicit _ hp' _ => exact absurd hp hp'
  | implicit _ hp hfree =>
    cases h' with
    | declared hs => exact absurd hs.2 hp
    | imported honly _ =>
      obtain ⟨hi, hn⟩ := exists_of_filter_eq honly
      exact absurd hn (hfree _ hi)
    | sibling hp' _ _ => exact absurd hp' hp
    | implicit _ _ _ => rfl

end Emitter

namespace ClassDecl

variable {e : Emitter} {d : ClassDecl} {c : ClassRef}

/-- **A class that holds its bare name is denoted by it.** An imported class comes from its line, or from an
    implicit package if it has none. -/
theorem HoldsBareName.denotes (hl : d.imports.Consistent d.package) (h : d.HoldsBareName c) :
    ∃ o, e.Denotes d c o := by
  cases h with
  | declared hs => exact ⟨.declared, .declared hs⟩
  | @imported i hne hi hs =>
    cases himp : e.isImplicit i with
    | false =>
      have hvis : i ∈ e.visibleImports d :=
        Emitter.mem_visibleImports.mpr ⟨hi, himp, fun hn => hne (hs.1.symm.trans hn)⟩
      have honly := Emitter.filter_visibleImports hl hvis
      rw [hs.1] at honly
      exact ⟨.imported, .imported honly hs⟩
    | true =>
      have himpc := (Emitter.isImplicit_eq_of_same hs).symm.trans himp
      refine ⟨.implicit, .implicit himpc (hl.package_ne hi hs) ?_⟩
      -- the one class of this name that is imported has no line
      intro j hj hjn
      obtain ⟨hjmem, hjimp, -⟩ := Emitter.mem_visibleImports.mp hj
      rw [hl.eq_of_name_eq hjmem hi (hjn.trans hs.1.symm), himp] at hjimp
      exact Bool.false_ne_true hjimp.symm
  | sibling hne hp hfree =>
    refine ⟨.sibling, .sibling hp (fun hs => hne hs.1) ?_⟩
    intro j hj
    exact hfree j (Emitter.mem_visibleImports.mp hj).1

/-- **Every written name is in scope and means the right class.** A mentioned class of a named package is
    written by its full or by its simple name, and a simple name has exactly one origin. -/
theorem Reachable.className_in_scope (h : d.Reachable) (hq : e.imports.qualifyConflicts = true)
    (hc : c ∈ d.references) (hp : c.InNamedPackage) :
    ((d.renderer e.imports.qualifyConflicts).className c = c.fullName ++ c.arraySuffix
      ∨ (d.renderer e.imports.qualifyConflicts).className c = c.name ++ c.arraySuffix)
    ∧ ((d.renderer e.imports.qualifyConflicts).className c = c.name ++ c.arraySuffix →
      ∃! o, e.Denotes d c o) := by
  have hd : d.ImportsComplete := h.importsComplete
  rw [Renderer.className_eq]
  constructor
  · rcases Renderer.spelling_eq_name_or_fullName (d.renderer e.imports.qualifyConflicts) c with hs | hs
    · rw [hs]; exact Or.inr rfl
    · rw [hs]; exact Or.inl rfl
  · intro hbare
    have hspell := (String.append_left_inj c.arraySuffix).mp hbare
    have hh := (Renderer.spelling_eq_name_iff hq hp).mp hspell
    have hholds := hd.holdsBareName hc hp.package_ne_none hh
    obtain ⟨o, ho⟩ := hholds.denotes (e := e) hd.consistent
    exact ⟨o, ho, fun o' ho' => ho'.unique ho⟩

/-- In `ledger` the bare name `Integer` of `java.lang.Integer` has one origin. -/
theorem ledger_className_in_scope :
    (ledger.renderer true).className (.ofPackage ⟨"java.lang"⟩ "Integer") = "Integer"
      ∧ ∃! o, Emitter.Denotes {} ledger (.ofPackage ⟨"java.lang"⟩ "Integer") o := by
  have hc : .ofPackage ⟨"java.lang"⟩ "Integer" ∈ ledger.references := by decide
  have hname : (ledger.renderer true).className (.ofPackage ⟨"java.lang"⟩ "Integer") = "Integer" := by decide
  have hscope := ledger_reachable.className_in_scope (e := {}) rfl hc (by decide)
  exact ⟨hname, hscope.2 hname⟩

end ClassDecl
end JavaSource
