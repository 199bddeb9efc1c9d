import JavaSource.Proofs.ClassDecl.Derivation
import JavaSource.Proofs.ClassDecl.Replay
import JavaSource.Proofs.Emission.Scope
import JavaSource.Proofs.Imports.Settled

/-!
# `Proofs.ClassDecl.Order` — imports and the order of changes

Of the candidates for a simple name the first one is imported, so the order of changes decides which. It
decides no more than that. Which classes are offered depends on the changes alone, since each is accepted or
refused without regard to the others (`mem_offers`), and what a batch settles depends on what is offered. If
the offered classes of a name are of one package, nothing is left to decide (`IsFresh.imports_run_perm`).
-/

namespace JavaSource
namespace ClassDecl

variable {d e : ClassDecl} {ms ns : List Mutation} {c : ClassRef}

/-- What a run offers are the candidates of what it accepts. -/
theorem offers_eq_flatMap (d : ClassDecl) (ms : List Mutation) :
    d.offers ms = (d.accepted ms).flatMap Mutation.candidates := by
  induction ms generalizing d with
  | nil => rfl
  | cons m ms ih =>
    rw [offers]
    cases h : d.check m with
    | error err => rw [accepted_cons_of_check_error h, step_of_check_error h, ih]
    | ok u => rw [accepted_cons_of_check_ok h, List.flatMap_cons, ih]

/-- A class is offered exactly if it is a candidate of a change that is accepted whenever it comes. -/
theorem mem_offers : c ∈ d.offers ms ↔ ∃ m ∈ ms, d.verdict m = none ∧ c ∈ m.candidates := by
  rw [offers_eq_flatMap, accepted_eq_filter, List.mem_flatMap]
  simp only [List.mem_filter, decide_eq_true_eq, and_assoc]

theorem mem_offers_congr (h : ∀ m, m ∈ ms ↔ m ∈ ns) (c : ClassRef) : c ∈ d.offers ms ↔ c ∈ d.offers ns := by
  simp only [mem_offers, h]

/-- **Which classes are hidden depends on which are imported**, not on the order of the imports. -/
theorem isHidden_congr (hd : d.imports.Consistent d.package) (he : e.imports.Consistent e.package)
    (hpackage : d.package = e.package) (hname : d.name = e.name)
    (hcontains : ∀ c, d.imports.contains c = e.imports.contains c) (q : Bool) (c : ClassRef) :
    (d.renderer q).isHidden c = (e.renderer q).isHidden c := by
  -- a holder of the name in one list is the same class as a holder in the other
  have hholder : ∀ {l m : ImportList}, (∀ c, l.contains c = m.contains c) →
      (∃ i ∈ l.classes, i.name = c.name ∧ ¬ i.Same c) → ∃ i ∈ m.classes, i.name = c.name ∧ ¬ i.Same c := by
    rintro l m hlm ⟨i, hi, hn, hs⟩
    have hl : l.contains i = true := ImportList.contains_iff.mpr ⟨i, hi, .refl i⟩
    obtain ⟨j, hj, hji⟩ := ImportList.contains_iff.mp ((hlm i).symm.trans hl)
    exact ⟨j, hj, hji.1.trans hn, fun hjc => hs (hji.symm.trans hjc)⟩
  by_cases hn : c.name = d.name
  · rw [isHidden_of_name_eq q hn, isHidden_of_name_eq q (hn.trans hname), hpackage]
  · have hn' : c.name ≠ e.name := fun h => hn (h.trans hname.symm)
    rw [Bool.eq_iff_iff, isHidden_iff_exists hd hn, isHidden_iff_exists he hn']
    exact ⟨hholder hcontains, hholder fun c => (hcontains c).symm⟩

/-- **The order of changes decides who wins a name, and nothing else about the imports.** Whatever the order,
    the same classes are imported or shadowed, and the same names imported. If offered foreign classes of one
    name are of one package, the same classes are imported, none is shadowed, and every class is written
    alike. -/
theorem IsFresh.imports_run_perm (h : d.IsFresh) (hperm : ms.Perm ns) :
    (∀ c, (d.run ms).imports.Settled c ↔ (d.run ns).imports.Settled c)
    ∧ (∀ name, (d.run ms).imports.ImportsName name ↔ (d.run ns).imports.ImportsName name)
    ∧ (ImportList.OnePackagePerName d.package (d.offers ms) →
      (∀ c, (d.run ms).imports.contains c = (d.run ns).imports.contains c)
      ∧ (d.run ms).imports.conflicts = [] ∧ (d.run ns).imports.conflicts = []
      ∧ ∀ (q : Bool) (c : ClassRef),
        ((d.run ms).renderer q).className c = ((d.run ns).renderer q).className c) := by
  have hoffers : ∀ c, c ∈ d.offers ms ↔ c ∈ d.offers ns := mem_offers_congr fun m => hperm.mem_iff
  have hforeign : ∀ c, c ∈ ImportList.foreign d.package (d.offers ms) ↔
      c ∈ ImportList.foreign d.package (d.offers ns) := ImportList.mem_foreign_congr hoffers
  have hms : (d.run ms).imports = .batch d.package (d.offers ms) := run_imports_of_empty h.imports_eq ms
  have hns : (d.run ns).imports = .batch d.package (d.offers ns) := run_imports_of_empty h.imports_eq ns
  have hsettled : ∀ c, (d.run ms).imports.Settled c ↔ (d.run ns).imports.Settled c := by
    intro c
    rw [hms, hns, ImportList.settled_batch_iff, ImportList.settled_batch_iff]
    simp only [hforeign]
  refine ⟨hsettled, ?_, ?_⟩
  · intro name
    rw [hms, hns, ImportList.importsName_batch_iff, ImportList.importsName_batch_iff]
    simp only [hforeign]
  · intro hone
    have hmsc : (d.run ms).imports.conflicts = [] := by rw [hms]; exact hone.conflicts_batch
    have hnsc : (d.run ns).imports.conflicts = [] := by rw [hns]; exact (hone.congr hoffers).conflicts_batch
    have hcontains : ∀ c, (d.run ms).imports.contains c = (d.run ns).imports.contains c := by
      intro c
      rw [Bool.eq_iff_iff, ← ImportList.settled_iff_contains hmsc, ← ImportList.settled_iff_contains hnsc]
      exact hsettled c
    refine ⟨hcontains, hmsc, hnsc, ?_⟩
    intro q c
    have hrms := h.isReplay_run ms
    have hrns := h.isReplay_run ns
    have hcons := (h.reachable.run ms).importsComplete.consistent
    have hcons' := (h.reachable.run ns).importsComplete.consistent
    exact className_congr (isHidden_congr hcons hcons' (hrms.package.trans hrns.package.symm)
      (hrms.name.trans hrns.name.symm) hcontains q c)

/-- Which of two classes `Date` is imported does depend on the order. -/
example :
    let date (package : String) : Mutation := .addImport (.ofPackage ⟨package⟩ "Date")
    ((fresh ⟨"com.acme"⟩ "Almanac" .ordinary).run [date "java.util", date "java.sql"]).imports.classes
      ≠ ((fresh ⟨"com.acme"⟩ "Almanac" .ordinary).run [date "java.sql", date "java.util"]).imports.classes := by
  decide

/-- Changes with one package for each name. The class `List` is mentioned twice, as a class and as an array,
    and the superclass is refused. -/
def almanacChanges : List Mutation :=
  [.addMember (.field { type := .ofClass (.ofPackage ⟨"java.util"⟩ "List"), name := "days" }),
   .setParent (.ofClass { package := some ⟨"java.lang"⟩, name := "Runnable", kind := .interface }),
   .annotate { annotationClass := .ofPackage ⟨"java.lang"⟩ "Deprecated" },
   .addImport { package := some ⟨"java.util"⟩, name := "List", isArray := true },
   .addImport (.ofPackage ⟨"com.acme"⟩ "Date")]

theorem almanac_imports_run_perm :
    (fresh ⟨"com.acme"⟩ "Almanac" .ordinary).IsFresh ∧ almanacChanges.Perm almanacChanges.reverse
    ∧ ImportList.OnePackagePerName ⟨"com.acme"⟩ ((fresh ⟨"com.acme"⟩ "Almanac" .ordinary).offers almanacChanges)
    ∧ ∀ (q : Bool) (c : ClassRef),
      (((fresh ⟨"com.acme"⟩ "Almanac" .ordinary).run almanacChanges).renderer q).className c
        = (((fresh ⟨"com.acme"⟩ "Almanac" .ordinary).run almanacChanges.reverse).renderer q).className c := by
  have hfresh : (fresh ⟨"com.acme"⟩ "Almanac" .ordinary).IsFresh := .fresh _ _ _
  have hperm : almanacChanges.Perm almanacChanges.reverse := (List.reverse_perm _).symm
  have hone : ImportList.OnePackagePerName ⟨"com.acme"⟩
      ((fresh ⟨"com.acme"⟩ "Almanac" .ordinary).offers almanacChanges) := by decide
  obtain ⟨-, -, hsame⟩ := hfresh.imports_run_perm hperm
  exact ⟨hfresh, hperm, hone, (hsame hone).2.2.2⟩

end ClassDecl
end JavaSource
