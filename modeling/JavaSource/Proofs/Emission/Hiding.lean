import JavaSource.Proofs.ClassDecl.Derivation
import JavaSource.Proofs.ClassDecl.Replay
import JavaSource.Proofs.Emission.Origin

/-!
# `Proofs.Emission.Hiding` — which classes are hidden, and that they stay hidden

A renderer asks the import list who holds a name, and never looks at the conflicts that are recorded there.
Both give the same answer on the classes that the list has dealt with: a foreign class is hidden exactly if it
is recorded as shadowed or has the name of the unit (`isHidden_iff_of_covers`), a class of the unit's package
exactly if an imported class has taken its name (`isHidden_iff_of_home`).

While a declaration grows, names stay with their holders, so what is hidden stays hidden
(`isHidden_run`). A foreign class that has been offered is hidden at once or never
(`isHidden_run_of_covers`), so only classes of the unit's own package can be written in another way later
(`IsFresh.run_keeps_names`).
-/

namespace JavaSource
namespace ClassDecl

variable {d : ClassDecl} {c : ClassRef} {q : Bool} {ms ns : List Mutation}

/-! ## Hidden and shadowed classes -/

/-- A class of the unit's package is hidden exactly if it is not the declared class and an imported class has
    its name. -/
theorem isHidden_iff_of_home (hl : d.imports.Consistent d.package) (hp : c.package = some d.package) :
    (d.renderer q).isHidden c = true ↔ ¬ c.Same d.toRef ∧ ∃ i ∈ d.imports.classes, i.name = c.name := by
  by_cases hn : c.name = d.name
  · have hself : c.Same d.toRef := ⟨hn, hp⟩
    rw [isHidden_of_name_eq q hn, ClassRef.homePackage_of_package hp, bne_self_eq_false]
    exact ⟨fun h => absurd h Bool.false_ne_true, fun h => absurd hself h.1⟩
  · rw [isHidden_iff_exists hl hn]
    constructor
    · rintro ⟨i, hi, hin, -⟩
      exact ⟨fun hs => hn hs.1, i, hi, hin⟩
    · rintro ⟨-, i, hi, hin⟩
      -- what is imported is foreign, so it is not this class
      exact ⟨i, hi, hin, fun hs => hl.package_ne hi hs hp⟩

/-- A foreign class that the import list has dealt with is hidden exactly if it is recorded as shadowed, or
    has the name of the unit. -/
theorem isHidden_iff_of_covers (hl : d.imports.Consistent d.package) (hf : c.ForeignTo d.package)
    (hc : d.imports.Covers d.package c) :
    (d.renderer q).isHidden c = true ↔ d.imports.isShadowed c = true ∨ c.name = d.name := by
  by_cases hn : c.name = d.name
  · have hother : c.homePackage ≠ d.package := by
      obtain ⟨p, hp, hne⟩ := hf
      rwa [ClassRef.homePackage_of_package hp]
    rw [isHidden_of_name_eq q hn, bne_iff_ne]
    exact ⟨fun _ => Or.inr hn, fun _ => hother⟩
  · rw [isHidden_iff_exists hl hn]
    constructor
    · rintro ⟨i, hi, hin, hs⟩
      rcases hc hf with himported | hshadowed
      · -- an imported class of this name would be the class itself
        obtain ⟨j, hj, hjc⟩ := ImportList.contains_iff.mp himported
        rw [hl.eq_of_name_eq hi hj (hin.trans hjc.1.symm)] at hs
        exact absurd hjc hs
      · exact Or.inl hshadowed
    · rintro (hshadowed | hunit)
      · obtain ⟨k, hk, hkc⟩ := ImportList.isShadowed_iff.mp hshadowed
        have hj := hl.justified k hk
        exact ⟨k.imported, hj.imported_mem, hj.name_eq.symm.trans hkc.1,
          fun hs => hj.not_same (hs.trans hkc.symm)⟩
      · exact absurd hunit hn

/-- **The renderer and the conflicts agree on what is hidden.** A mentioned class with a package is hidden
    exactly if it is recorded as shadowed; or it is another class of the unit's package, and an imported class
    has its name; or it is of another package and has the name of the unit. -/
theorem Reachable.isHidden_iff_isShadowed (h : d.Reachable) (hc : c ∈ d.references) (hp : c.package ≠ none) :
    (d.renderer q).isHidden c = true ↔
      d.imports.isShadowed c = true
      ∨ (c.package = some d.package ∧ ¬ c.Same d.toRef ∧ ∃ i ∈ d.imports.classes, i.name = c.name)
      ∨ (c.package ≠ some d.package ∧ c.name = d.name) := by
  have hd : d.ImportsComplete := h.importsComplete
  by_cases hhome : c.package = some d.package
  · have hnot : d.imports.isShadowed c ≠ true := by
      intro hshadowed
      exact (ClassRef.foreignTo_iff.mp (hd.consistent.foreignTo_of_isShadowed hshadowed)).2 hhome
    rw [isHidden_iff_of_home hd.consistent hhome]
    constructor
    · exact fun hheld => Or.inr (Or.inl ⟨hhome, hheld⟩)
    · rintro (hshadowed | ⟨-, hheld⟩ | ⟨hother, -⟩)
      · exact absurd hshadowed hnot
      · exact hheld
      · exact absurd hhome hother
  · rw [isHidden_iff_of_covers hd.consistent (ClassRef.foreignTo_iff.mpr ⟨hp, hhome⟩) (hd.covers c hc)]
    constructor
    · rintro (hshadowed | hunit)
      · exact Or.inl hshadowed
      · exact Or.inr (Or.inr ⟨hhome, hunit⟩)
    · rintro (hshadowed | ⟨hhome', -⟩ | ⟨-, hunit⟩)
      · exact Or.inl hshadowed
      · exact absurd hhome' hhome
      · exact Or.inr hunit

/-- In `ledger` the class `java.sql.Date` is hidden because it is shadowed, and the sibling `Integer` because
    `java.lang.Integer` is imported. -/
theorem ledger_isHidden_iff_isShadowed :
    (ledger.renderer true).isHidden (.ofPackage ⟨"java.sql"⟩ "Date") = true
      ∧ (ledger.renderer true).isHidden (.ofPackage ⟨"com.acme"⟩ "Integer") = true := by
  have hdate : .ofPackage ⟨"java.sql"⟩ "Date" ∈ ledger.references := by decide
  have hinteger : .ofPackage ⟨"com.acme"⟩ "Integer" ∈ ledger.references := by decide
  have himported : .ofPackage ⟨"java.lang"⟩ "Integer" ∈ ledger.imports.classes := by decide
  constructor
  · exact (ledger_reachable.isHidden_iff_isShadowed hdate (by decide)).mpr (Or.inl (by decide))
  · exact (ledger_reachable.isHidden_iff_isShadowed hinteger (by decide)).mpr
      (Or.inr (Or.inl ⟨rfl, by decide, _, himported, rfl⟩))

/-! ## While a declaration grows -/

/-- The imports that are written only grow. -/
theorem visibleImports_run (e : Emitter) (d : ClassDecl) (ns : List Mutation) :
    e.visibleImports d <+: e.visibleImports (d.run ns) := by
  unfold Emitter.visibleImports
  rw [run_name]
  exact ((d.run_imports_extends ns).classes.filter _).filter _

/-- **What is hidden stays hidden.** -/
theorem isHidden_run (ns : List Mutation) (h : (d.renderer q).isHidden c = true) :
    ((d.run ns).renderer q).isHidden c = true := by
  by_cases hn : c.name = d.name
  · have hn' : c.name = (d.run ns).name := by rw [run_name, hn]
    rw [isHidden_of_name_eq q hn] at h
    rw [isHidden_of_name_eq q hn', run_package, h]
  · -- the name keeps its holder, which is another class
    have hn' : c.name ≠ (d.run ns).name := by rwa [run_name]
    unfold Renderer.isHidden renderer at h ⊢
    simp only [hn, hn', if_false] at h ⊢
    cases hheld : d.imports.bySimpleName? c.name with
    | none =>
      rw [hheld] at h
      exact absurd h Bool.false_ne_true
    | some holder =>
      rw [hheld] at h
      rw [(d.run_imports_extends ns).bySimpleName? hheld]
      exact h

/-- **A foreign class that has been dealt with is hidden at once or never.** -/
theorem isHidden_run_of_covers (hd : d.ImportsComplete) (hd' : (d.run ns).ImportsComplete)
    (hf : c.ForeignTo d.package) (hc : d.imports.Covers d.package c) :
    ((d.run ns).renderer q).isHidden c = (d.renderer q).isHidden c := by
  have hext := d.run_imports_extends ns
  rw [Bool.eq_iff_iff]
  refine ⟨?_, isHidden_run ns⟩
  have hcons := hd'.consistent
  rw [isHidden_iff_of_covers hcons (by rwa [run_package]) (by rw [run_package]; exact hext.covers hc),
    isHidden_iff_of_covers hd.consistent hf hc, run_name]
  rintro (hshadowed | hunit)
  · -- had it been imported at first, it would be imported still
    rcases hc hf with himported | hshadowed'
    · rw [hcons.isShadowed_eq_false (hext.contains himported)] at hshadowed
      exact absurd hshadowed Bool.false_ne_true
    · exact Or.inl hshadowed'
  · exact Or.inr hunit

/-- A class is written as before, or it was written by its simple name and is now written in full. -/
theorem className_run (d : ClassDecl) (ns : List Mutation) (q : Bool) (c : ClassRef) :
    ((d.run ns).renderer q).className c = (d.renderer q).className c
      ∨ ((d.renderer q).className c = c.name ++ c.arraySuffix
        ∧ ((d.run ns).renderer q).className c = c.fullName ++ c.arraySuffix) := by
  cases hh : (d.renderer q).isHidden c with
  | true => exact Or.inl (className_congr ((isHidden_run ns hh).trans hh.symm))
  | false =>
    rw [Renderer.className_eq, Renderer.className_eq, Renderer.spelling_of_not_isHidden hh]
    rcases Renderer.spelling_eq_name_or_fullName ((d.run ns).renderer q) c with hs | hs
    · rw [hs]; exact Or.inl rfl
    · rw [hs]; exact Or.inr ⟨rfl, rfl⟩

/-- A class that has been offered, and is not of the unit's package, is written in one way for good. -/
theorem IsFresh.className_run_eq (h : d.IsFresh) (hc : c ∈ d.offers ms) (hp : c.package ≠ some d.package) :
    (((d.run ms).run ns).renderer q).className c = ((d.run ms).renderer q).className c := by
  by_cases hnone : c.package = none
  · -- without a package both spellings are the simple name
    have hfull : c.fullName = c.name := by unfold ClassRef.fullName; rw [hnone]
    rcases className_run (d.run ms) ns q c with hsame | ⟨hbefore, hafter⟩
    · exact hsame
    · rw [hbefore, hafter, hfull]
  · have hreach := h.reachable.run ms
    have hf : c.ForeignTo (d.run ms).package := by
      rw [run_package]
      exact ClassRef.foreignTo_iff.mpr ⟨hnone, hp⟩
    have hcovers : (d.run ms).imports.Covers (d.run ms).package c := by
      rw [run_package]
      exact run_imports_covers hc
    exact className_congr (isHidden_run_of_covers hreach.importsComplete
      (hreach.run ns).importsComplete hf hcovers)

/-- **Imports only grow, and settled names stay settled.** Whatever is done to a declaration after `ms`, its
    imports, its conflicts and the imports that are written are extended at the end; a name stays with its
    holder, and what is hidden stays hidden. A class that an accepted change has mentioned is written as
    before, unless it is of the unit's own package; and a class that is written differently was written by its
    simple name and is now written in full. -/
theorem IsFresh.run_keeps_names (h : d.IsFresh) (ms ns : List Mutation) :
    (d.run ms).imports.classes <+: ((d.run ms).run ns).imports.classes
    ∧ (d.run ms).imports.conflicts <+: ((d.run ms).run ns).imports.conflicts
    ∧ (∀ e : Emitter, e.visibleImports (d.run ms) <+: e.visibleImports ((d.run ms).run ns))
    ∧ (∀ name holder, (d.run ms).imports.bySimpleName? name = some holder →
      ((d.run ms).run ns).imports.bySimpleName? name = some holder)
    ∧ (∀ q c, ((d.run ms).renderer q).isHidden c = true →
      (((d.run ms).run ns).renderer q).isHidden c = true)
    ∧ (∀ q, ∀ c ∈ d.offers ms, c.package ≠ some d.package →
      (((d.run ms).run ns).renderer q).className c = ((d.run ms).renderer q).className c)
    ∧ ∀ q c, (((d.run ms).run ns).renderer q).className c = ((d.run ms).renderer q).className c
      ∨ (((d.run ms).renderer q).className c = c.name ++ c.arraySuffix
        ∧ (((d.run ms).run ns).renderer q).className c = c.fullName ++ c.arraySuffix) := by
  have hext := (d.run ms).run_imports_extends ns
  refine ⟨hext.classes, hext.conflicts, ?_, ?_, ?_, ?_, ?_⟩
  · exact fun e => visibleImports_run e (d.run ms) ns
  · exact fun name holder hheld => hext.bySimpleName? hheld
  · exact fun q c hh => isHidden_run ns hh
  · exact fun q c hc hp => h.className_run_eq hc hp
  · exact fun q c => className_run (d.run ms) ns q c

/-- The name of a sibling does change, when a class is imported under it. -/
example :
    let gazette := (fresh ⟨"com.acme"⟩ "Gazette" .ordinary).step
      (.setParent (.ofClass (.ofPackage ⟨"com.acme"⟩ "Column")))
    (gazette.renderer true).className (.ofPackage ⟨"com.acme"⟩ "Column") = "Column"
      ∧ ((gazette.step (.addImport (.ofPackage ⟨"java.awt"⟩ "Column"))).renderer true).className
        (.ofPackage ⟨"com.acme"⟩ "Column") = "com.acme.Column" := by
  decide

/-- A parent that is replaced later, and a sibling. -/
def gazetteChanges : List Mutation :=
  [.setParent (.ofClass (.ofPackage ⟨"org.print"⟩ "Sheet")),
   .setParent (.ofClass (.ofPackage ⟨"org.press"⟩ "Daily")),
   .addMember (.field { type := .ofClass (.ofPackage ⟨"com.acme"⟩ "Column"), name := "lead" })]

/-- Classes that claim the names of the replaced parent and of the sibling. -/
def gazetteClashes : List Mutation :=
  [.addMember (.field { type := .ofClass (.ofPackage ⟨"java.awt"⟩ "Sheet"), name := "page" }),
   .addImport (.ofPackage ⟨"java.awt"⟩ "Column")]

theorem gazette_run_keeps_names :
    (fresh ⟨"com.acme"⟩ "Gazette" .ordinary).IsFresh
    ∧ .ofPackage ⟨"org.print"⟩ "Sheet" ∈ (fresh ⟨"com.acme"⟩ "Gazette" .ordinary).offers gazetteChanges
    ∧ ((((fresh ⟨"com.acme"⟩ "Gazette" .ordinary).run gazetteChanges).run gazetteClashes).renderer true).className
        (.ofPackage ⟨"org.print"⟩ "Sheet") = "Sheet" := by
  have hfresh : (fresh ⟨"com.acme"⟩ "Gazette" .ordinary).IsFresh := .fresh _ _ _
  have hoffered : .ofPackage ⟨"org.print"⟩ "Sheet" ∈
      (fresh ⟨"com.acme"⟩ "Gazette" .ordinary).offers gazetteChanges := by decide
  obtain ⟨-, -, -, -, -, hkept, -⟩ := hfresh.run_keeps_names gazetteChanges gazetteClashes
  exact ⟨hfresh, hoffered, (hkept true _ hoffered (by decide)).trans (by decide)⟩

end ClassDecl
end JavaSource
