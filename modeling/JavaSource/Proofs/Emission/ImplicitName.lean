import JavaSource.Proofs.Emission.Origin

/-!
# `Proofs.Emission.ImplicitName` — bare names of implicit packages

A class of an implicit package never has an import line, so its bare name carries no sign of which class is
meant, and a class of the unit's package with that name comes first. `Reachable.bareUnimported_iff` says
when such a name is written: as soon as the class is in the import list, whether or not the unit also
mentions a sibling of that name. It is then the sibling that is written in full.
-/

namespace JavaSource

/-! ## Names without an import line -/

namespace Emitter

variable {e : Emitter} {d : ClassDecl} {c : ClassRef}

/-- A class is written by its simple name, and no import line is written for it. -/
def BareUnimported (e : Emitter) (d : ClassDecl) (c : ClassRef) : Prop :=
  (d.renderer e.imports.qualifyConflicts).className c = c.name ++ c.arraySuffix
    ∧ ∀ i ∈ e.visibleImports d, ¬ i.Same c

/-- An implicit class has a package. -/
theorem package_ne_none_of_isImplicit (himp : e.isImplicit c = true) : c.package ≠ none := by
  intro hnone
  unfold isImplicit ClassRef.packageName? at himp
  rw [hnone] at himp
  exact Bool.false_ne_true himp

/-- No import line is written for an implicit class. -/
theorem not_same_of_mem_visibleImports (himp : e.isImplicit c = true) :
    ∀ i ∈ e.visibleImports d, ¬ i.Same c := by
  intro i hi hs
  obtain ⟨-, hvis, -⟩ := mem_visibleImports.mp hi
  rw [isImplicit_eq_of_same hs, himp] at hvis
  exact Bool.false_ne_true hvis.symm

/-- For an implicit class only the spelling matters. -/
theorem bareUnimported_iff_spelling (himp : e.isImplicit c = true) :
    e.BareUnimported d c ↔ (d.renderer e.imports.qualifyConflicts).spelling c = c.name := by
  unfold BareUnimported
  rw [Renderer.className_eq, String.append_left_inj]
  exact ⟨And.left, fun hs => ⟨hs, not_same_of_mem_visibleImports himp⟩⟩

end Emitter

namespace ClassDecl

variable {e : Emitter} {d : ClassDecl} {c : ClassRef} {q : Bool}

/-! ## Imported holders -/

/-- A foreign class is not hidden exactly if it is imported, and not under the name of the unit. -/
theorem ImportsComplete.isHidden_eq_false_iff_contains (hd : d.ImportsComplete) (hc : c ∈ d.references)
    (hf : c.ForeignTo d.package) :
    (d.renderer q).isHidden c = false ↔ c.name ≠ d.name ∧ d.imports.contains c = true := by
  obtain ⟨hpack, hother⟩ := ClassRef.foreignTo_iff.mp hf
  rw [hd.isHidden_eq_false_iff hc hpack]
  constructor
  · intro h
    cases h with
    | declared hs => exact absurd hs.2 hother
    | imported hne hi hs => exact ⟨hne, ImportList.contains_iff.mpr ⟨_, hi, hs⟩⟩
    | sibling _ hhome _ => exact absurd hhome hother
  · rintro ⟨hne, hcont⟩
    obtain ⟨i, hi, hs⟩ := ImportList.contains_iff.mp hcont
    exact .imported hne hi hs

/-- A class of the unit's package loses its bare name to an imported class. -/
theorem isHidden_of_contains {s : ClassRef} (hl : d.imports.Consistent d.package)
    (hcont : d.imports.contains c = true) (hne : c.name ≠ d.name) (hs : s.package = some d.package)
    (hn : s.name = c.name) : (d.renderer q).isHidden s = true := by
  obtain ⟨i, hi, hic⟩ := ImportList.contains_iff.mp hcont
  refine (isHidden_iff_exists hl (hn ▸ hne)).mpr ⟨i, hi, hic.1.trans hn.symm, ?_⟩
  intro his
  exact hl.package_ne hi his hs

/-! ## When an implicit class is written bare -/

/-- **When an implicit class is written bare.** A mentioned class of an implicit package other than the
    unit's is written by its simple name, without an import line, exactly if it holds that name in the import
    list (a class outside named packages has no other name); otherwise its full name is written. In the first
    case the classes of that name in the unit's package are the ones written in full, although a reader
    takes the bare name for theirs. -/
theorem Reachable.bareUnimported_iff (h : d.Reachable) (hq : e.imports.qualifyConflicts = true)
    (hc : c ∈ d.references) (himp : e.isImplicit c = true) (hother : c.package ≠ some d.package) :
    (e.BareUnimported d c ↔ (c.InNamedPackage → c.name ≠ d.name ∧ d.imports.contains c = true))
    ∧ (¬ e.BareUnimported d c →
      (d.renderer e.imports.qualifyConflicts).className c = c.fullName ++ c.arraySuffix)
    ∧ (c.name ≠ d.name → d.imports.contains c = true →
      ∀ s, s.package = some d.package → s.name = c.name →
        (d.renderer e.imports.qualifyConflicts).className s = s.fullName ++ s.arraySuffix) := by
  have hd : d.ImportsComplete := h.importsComplete
  have hf : c.ForeignTo d.package :=
    ClassRef.foreignTo_iff.mpr ⟨Emitter.package_ne_none_of_isImplicit himp, hother⟩
  have hspell := Renderer.spelling_eq_name_or_fullName (d.renderer e.imports.qualifyConflicts) c
  rw [Emitter.bareUnimported_iff_spelling himp]
  refine ⟨?_, ?_, ?_⟩
  · by_cases hnamed : c.InNamedPackage
    · rw [Renderer.spelling_eq_name_iff hq hnamed, hd.isHidden_eq_false_iff_contains hc hf]
      exact ⟨fun hcont _ => hcont, fun hcont => hcont hnamed⟩
    · -- both spellings are the simple name
      rw [ClassRef.fullName_of_not_inNamedPackage hnamed, or_self] at hspell
      exact ⟨fun _ hyes => absurd hyes hnamed, fun _ => hspell⟩
  · intro hnot
    rw [Renderer.className_eq, hspell.resolve_left hnot]
  · intro hne hcont s hs hn
    have hh := isHidden_of_contains (q := e.imports.qualifyConflicts) hd.consistent hcont hne hs hn
    rw [Renderer.className_eq, Renderer.spelling_of_isHidden hq hh]

/-- A class `com.acme.Invoice` that mentions a sibling `Integer` and then the system class of that name. -/
def invoice : ClassDecl :=
  (fresh ⟨"com.acme"⟩ "Invoice" .ordinary).run
    [.addMember (.field { type := .ofClass (.ofPackage ⟨"com.acme"⟩ "Integer"), name := "total" }),
     .addMember (.field { type := .ofClass (.ofPackage ⟨"java.lang"⟩ "Integer"), name := "count" })]

theorem invoice_reachable : invoice.Reachable := Reachable.run (.fresh _ _ _) _

theorem invoice_bareUnimported :
    Emitter.BareUnimported {} invoice (.ofPackage ⟨"java.lang"⟩ "Integer")
      ∧ (invoice.renderer true).className (.ofPackage ⟨"com.acme"⟩ "Integer") = "com.acme.Integer" := by
  have hc : .ofPackage ⟨"java.lang"⟩ "Integer" ∈ invoice.references := by decide
  have hcont : invoice.imports.contains (.ofPackage ⟨"java.lang"⟩ "Integer") = true := by decide
  obtain ⟨hiff, -, hsibling⟩ :=
    invoice_reachable.bareUnimported_iff (e := {}) rfl hc (by decide) (by decide)
  refine ⟨hiff.mpr fun _ => ⟨by decide, hcont⟩, ?_⟩
  exact hsibling (by decide) hcont (.ofPackage ⟨"com.acme"⟩ "Integer") rfl rfl

/-- **A bare name can be taken for a sibling's**: it is not so that an implicit class, mentioned beside a
    sibling of its name, is always written by its full name or imported. -/
theorem not_implicit_set_apart_from_sibling :
    ¬ ∀ (e : Emitter) (d : ClassDecl) (c s : ClassRef), d.Reachable → e.imports.qualifyConflicts = true →
      c ∈ d.references → s ∈ d.references → s.package = some d.package → e.isImplicit c = true →
      c.package ≠ some d.package → s.name = c.name →
      (d.renderer e.imports.qualifyConflicts).className c = c.fullName ++ c.arraySuffix
        ∨ ∃ i ∈ e.visibleImports d, i.Same c := by
  intro h
  have hapart := h {} invoice (.ofPackage ⟨"java.lang"⟩ "Integer") (.ofPackage ⟨"com.acme"⟩ "Integer")
    invoice_reachable rfl (by decide) (by decide) rfl (by decide) (by decide) rfl
  exact absurd hapart (by decide)

end ClassDecl
end JavaSource
