import JavaSource.Proofs.ClassDecl.Step
import JavaSource.Proofs.Imports.Invariant

/-!
# `Proofs.ClassDecl.Completeness` — the imports of a declaration are complete and consistent

`ImportsComplete` is the invariant of a declaration under construction: its import list is `Consistent`, and
it `Covers` every class that the declaration mentions. An empty declaration has it, a step keeps it
(`ImportsComplete.stepped`), so every reachable declaration has it (`Reachable.importsComplete`), whatever
was refused or replaced on the way.
-/

namespace JavaSource
namespace ClassDecl

variable {d e : ClassDecl} {m : Mutation} {c : ClassRef}

/-- **The invariant of a declaration**: a consistent import list that covers what is mentioned. -/
structure ImportsComplete (d : ClassDecl) : Prop where
  consistent : d.imports.Consistent d.package
  covers : ∀ c ∈ d.references, d.imports.Covers d.package c

/-- A declaration without any parts has nothing to import. -/
theorem importsComplete_empty (himports : d.imports = {}) (hparts : d.references = []) :
    d.ImportsComplete where
  consistent := by rw [himports]; exact ImportList.consistent_empty _
  covers := by intro c hc; rw [hparts] at hc; exact absurd hc List.not_mem_nil

/-- **A step keeps the imports complete.** What was mentioned before stays covered because the list only
    grows; what is new was offered. -/
theorem ImportsComplete.stepped (hd : d.ImportsComplete) (h : Stepped d m e) : e.ImportsComplete := by
  cases h with
  | refused _ => exact hd
  | accepted _ =>
    refine ⟨?_, ?_⟩
    · show (d.importsAfter m).Consistent (d.record m).package
      rw [record_package]
      have hcons : d.imports.Consistent ((some d.package).getD .unnamed) := hd.consistent
      exact hcons.merge m.candidates
    · intro c hc
      show (d.importsAfter m).Covers (d.record m).package c
      rw [record_package]
      rcases mem_references_record (d := d) (m := m) hc with hold | hnew
      · exact (ImportList.extends_merge _ _ _).covers (hd.covers c hold)
      · exact ImportList.covers_merge _ (some d.package) hnew

theorem Reachable.importsComplete (h : d.Reachable) : d.ImportsComplete := by
  induction h with
  | fresh package name kind => exact importsComplete_empty rfl rfl
  | ofRef c => exact importsComplete_empty rfl rfl
  | step m _ ih => exact ih.stepped (stepped _ m)

/-- A mentioned foreign class is imported or recorded as shadowed, and not both. -/
theorem ImportsComplete.settled (hd : d.ImportsComplete) (hc : c ∈ d.references)
    (hf : c.ForeignTo d.package) :
    (d.imports.contains c = true ∧ d.imports.isShadowed c = false) ∨
      (d.imports.contains c = false ∧ d.imports.isShadowed c = true) := by
  cases hcontains : d.imports.contains c with
  | true => exact Or.inl ⟨rfl, hd.consistent.isShadowed_eq_false hcontains⟩
  | false =>
    rcases hd.covers c hc hf with himported | hshadowed
    · rw [hcontains] at himported; exact absurd himported Bool.false_ne_true
    · exact Or.inr ⟨rfl, hshadowed⟩

/-- **Imports are consistent and complete over whole runs.** The imported names are distinct and the
    imported classes foreign; a conflict pairs an imported class with another, foreign class of its simple
    name, which is not imported and is recorded once (`ImportList.Consistent`); and every class that the
    declaration mentions has no package, or is at home, or is in exactly one of the two lists. -/
theorem Reachable.imports_consistent_and_complete (h : d.Reachable) :
    d.imports.Consistent d.package
    ∧ (∀ k ∈ d.imports.conflicts, d.imports.contains k.shadowed = false)
    ∧ ∀ c ∈ d.references, c.package = none ∨ c.package = some d.package
      ∨ (d.imports.contains c = true ∧ d.imports.isShadowed c = false)
      ∨ (d.imports.contains c = false ∧ d.imports.isShadowed c = true) := by
  have hd : d.ImportsComplete := h.importsComplete
  refine ⟨hd.consistent, fun k hk => hd.consistent.contains_eq_false hk, ?_⟩
  intro c hc
  by_cases hf : c.ForeignTo d.package
  · exact Or.inr (Or.inr (hd.settled hc hf))
  · rcases ClassRef.not_foreignTo_iff.mp hf with hnone | hhome
    · exact Or.inl hnone
    · exact Or.inr (Or.inl hhome)

/-- A class `com.acme.Ledger` with two clashing `Date`s, one of them also used as an interface, a sibling and
    a system class of one name, a parent replaced by a clashing one, and a refused change at the end. -/
def ledger : ClassDecl :=
  (fresh ⟨"com.acme"⟩ "Ledger" .ordinary).run
    [.addMember (.field { type := .ofClass (.ofPackage ⟨"java.util"⟩ "Date"), name := "opened" }),
     .addMember (.field { type := .array (.ofClass (.ofPackage ⟨"java.sql"⟩ "Date")), name := "booked" }),
     .addMember (.field { type := .ofClass (.ofPackage ⟨"com.acme"⟩ "Integer"), name := "balance" }),
     .addMember (.field { type := .ofClass (.ofPackage ⟨"java.lang"⟩ "Integer"), name := "entries" }),
     .setParent (.ofClass (.ofPackage ⟨"org.books"⟩ "Book")),
     .setParent (.ofClass (.ofPackage ⟨"org.archive"⟩ "Book")),
     .addInterface (.ofClass { package := some ⟨"java.sql"⟩, name := "Date", kind := .interface }),
     .setParent (.ofClass { package := some ⟨"java.lang"⟩, name := "Runnable", kind := .interface })]

theorem ledger_reachable : ledger.Reachable := Reachable.run (.fresh _ _ _) _

theorem ledger_imports_consistent_and_complete :
    ledger.Reachable ∧ .ofPackage ⟨"org.archive"⟩ "Book" ∈ ledger.references
    ∧ ledger.imports.Consistent ledger.package
    ∧ (ledger.imports.contains (.ofPackage ⟨"org.archive"⟩ "Book") = true
        ∧ ledger.imports.isShadowed (.ofPackage ⟨"org.archive"⟩ "Book") = false
      ∨ ledger.imports.contains (.ofPackage ⟨"org.archive"⟩ "Book") = false
        ∧ ledger.imports.isShadowed (.ofPackage ⟨"org.archive"⟩ "Book") = true) := by
  have hmem : .ofPackage ⟨"org.archive"⟩ "Book" ∈ ledger.references := by decide
  obtain ⟨hcons, -, hrefs⟩ := ledger_reachable.imports_consistent_and_complete
  refine ⟨ledger_reachable, hmem, hcons, ?_⟩
  rcases hrefs _ hmem with hnone | hhome | hsettled
  · exact absurd hnone (by decide)
  · exact absurd hhome (by decide)
  · exact hsettled

end ClassDecl
end JavaSource
