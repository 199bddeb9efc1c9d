import JavaSource.Descriptor
import JavaSource.Proofs.Emission.Origin

/-!
# `Proofs.Emission.UnnamedImport` — import lines without a package

A class without a package is never imported. A class of the default package has one, with an empty name, and
to a unit of another package it is as foreign as any: it is imported, and its import line is `import Name;`.
`Reachable.unnamed_imports_iff` says when such a line is written. Descriptions without a package lead there,
since the class they describe is of the default package.
-/

namespace JavaSource

namespace ClassDecl

variable {d : ClassDecl} {c : ClassRef} {e : Emitter}

theorem isImplicit_of_unnamed (e : Emitter) (hp : c.package = some .unnamed) :
    e.isImplicit c = e.imports.isImplicit "" := by
  unfold Emitter.isImplicit ClassRef.packageName?
  rw [hp]
  rfl

/-- **When an import line names no package.** A written import is of a named package, or of the default
    package: then the unit is of another package, the default package is not an implicit one, and the line is
    `import Name;`. Conversely a class of the default package that is mentioned gets such a line exactly if
    these conditions hold, it is not named like the unit, and no other class has taken its name. -/
theorem Reachable.unnamed_imports_iff (h : d.Reachable) (e : Emitter) :
    (∀ i ∈ e.visibleImports d, i.InNamedPackage
      ∨ (i.package = some .unnamed ∧ d.package ≠ .unnamed ∧ e.imports.isImplicit "" = false
        ∧ Emitter.importLine i = .code 0 ("import " ++ i.name ++ ";")))
    ∧ ∀ c ∈ d.references, c.package = some .unnamed →
      ((∃ i ∈ e.visibleImports d, i.Same c) ↔
        d.package ≠ .unnamed ∧ e.imports.isImplicit "" = false ∧ c.name ≠ d.name
          ∧ d.imports.isShadowed c = false) := by
  have hd : d.ImportsComplete := h.importsComplete
  -- what is imported is foreign, so the default package is not the unit's
  have hother : ∀ i ∈ e.visibleImports d, i.package = some .unnamed → d.package ≠ .unnamed := by
    intro i hi hp hhome
    have himported := (Emitter.mem_visibleImports.mp hi).1
    rw [← hhome] at hp
    exact hd.consistent.package_ne himported (.refl i) hp
  constructor
  · intro i hi
    obtain ⟨himported, himplicit, -⟩ := Emitter.mem_visibleImports.mp hi
    by_cases hnamed : i.InNamedPackage
    · exact Or.inl hnamed
    · have hpackage := (ClassRef.foreignTo_iff.mp (hd.consistent.classes_foreign i himported)).1
      have hp := ClassRef.package_eq_unnamed hpackage hnamed
      rw [isImplicit_of_unnamed e hp] at himplicit
      refine Or.inr ⟨hp, hother i hi hp, himplicit, ?_⟩
      unfold Emitter.importLine
      rw [ClassRef.fullName_of_not_inNamedPackage hnamed]
  · intro c hc hp
    constructor
    · rintro ⟨i, hi, hs⟩
      obtain ⟨himported, himplicit, hunit⟩ := Emitter.mem_visibleImports.mp hi
      have hip : i.package = some .unnamed := hs.2.trans hp
      have hcontains : d.imports.contains c = true := ImportList.contains_iff.mpr ⟨i, himported, hs⟩
      refine ⟨hother i hi hip, ?_, fun hn => hunit (hs.1.trans hn),
        hd.consistent.isShadowed_eq_false hcontains⟩
      rw [← isImplicit_of_unnamed e hip, himplicit]
    · rintro ⟨hforeign, himplicit, hunit, hshadowed⟩
      have hf : c.ForeignTo d.package := ⟨.unnamed, hp, Ne.symm hforeign⟩
      rcases hd.covers c hc hf with hcontains | hsh
      · obtain ⟨i, himported, hs⟩ := ImportList.contains_iff.mp hcontains
        refine ⟨i, Emitter.mem_visibleImports.mpr ⟨himported, ?_, fun hn => hunit (hs.1.symm.trans hn)⟩, hs⟩
        rw [isImplicit_of_unnamed e (hs.2.trans hp), himplicit]
      · rw [hshadowed] at hsh
        exact absurd hsh Bool.false_ne_true

/-- A class `com.acme.Service` with a field whose class is described without a package. -/
def service : ClassDecl :=
  (fresh ⟨"com.acme"⟩ "Service" .ordinary).run
    [.addMember (.field { type := .ofClass (.ofDescriptor { package := none, name := "Helper" }),
                          name := "helper" })]

theorem service_reachable : service.Reachable := Reachable.run (.fresh _ _ _) _

theorem service_unnamed_imports_iff :
    .ofDescriptor { package := none, name := "Helper" } ∈ service.references
      ∧ ∃ i ∈ Emitter.visibleImports {} service,
        i.Same (.ofDescriptor { package := none, name := "Helper" }) := by
  have hmem : .ofDescriptor { package := none, name := "Helper" } ∈ service.references := by decide
  obtain ⟨-, hmentioned⟩ := service_reachable.unnamed_imports_iff {}
  exact ⟨hmem, (hmentioned _ hmem rfl).mpr (by decide)⟩

/-- **An import line can name no package**: it is not so that all written imports are of named packages. -/
theorem not_imports_of_named_packages :
    ¬ ∀ (e : Emitter) (d : ClassDecl), d.Reachable → ∀ i ∈ e.visibleImports d, i.InNamedPackage := by
  intro h
  have hnamed := h {} service service_reachable (.ofDescriptor { package := none, name := "Helper" })
    (by decide)
  exact absurd hnamed (by decide)

end ClassDecl
end JavaSource
