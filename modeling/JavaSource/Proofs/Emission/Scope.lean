import JavaSource.Proofs.ClassDecl.Completeness
import JavaSource.Proofs.Emission.Spelling

/-!
# `Proofs.Emission.Scope` — what a bare name means in a compilation unit

A mentioned class is spelled by its simple name exactly if it *holds* that name in the unit
(`ImportsComplete.isHidden_eq_false_iff`): it is the declared class, or an imported one, or a sibling whose
name no imported class has. This rests on the imports of the declaration being complete.
-/

namespace JavaSource
namespace ClassDecl

variable {d e : ClassDecl} {c c₁ c₂ i : ClassRef} {q : Bool}

/-! ## Hidden classes -/

/-- A class named like the unit is hidden unless it is of the unit's package. -/
theorem isHidden_of_name_eq (q : Bool) (hn : c.name = d.name) :
    (d.renderer q).isHidden c = (c.homePackage != d.package) := by
  unfold Renderer.isHidden renderer
  simp only [hn, if_true]

/-- Any other class is hidden exactly if another class of its name is imported. -/
theorem isHidden_iff_exists (hl : d.imports.Consistent d.package) (hne : c.name ≠ d.name) :
    (d.renderer q).isHidden c = true ↔ ∃ i ∈ d.imports.classes, i.name = c.name ∧ ¬ i.Same c := by
  unfold Renderer.isHidden renderer
  simp only [hne, if_false]
  cases hheld : d.imports.bySimpleName? c.name with
  | none =>
    have hfree := ImportList.bySimpleName?_eq_none_iff.mp hheld
    constructor
    · intro h; exact absurd h Bool.false_ne_true
    · rintro ⟨i, hi, hn, -⟩; exact absurd hn (hfree i hi)
  | some holder =>
    obtain ⟨hmem, hname⟩ := ImportList.mem_of_bySimpleName? hheld
    simp only [Bool.not_eq_true', decide_eq_false_iff_not]
    constructor
    · intro hs; exact ⟨holder, hmem, hname, hs⟩
    · rintro ⟨i, hi, hn, hs⟩
      rw [hl.eq_of_name_eq hmem hi (hname.trans hn.symm)]
      exact hs

/-- A class is written alike in two units if it is hidden in both or in neither. -/
theorem className_congr (h : (d.renderer q).isHidden c = (e.renderer q).isHidden c) :
    (d.renderer q).className c = (e.renderer q).className c := by
  rw [Renderer.className_eq, Renderer.className_eq]
  unfold Renderer.spelling
  rw [h]
  rfl

/-- **A class holds its bare name** in the unit of a declaration. -/
inductive HoldsBareName (d : ClassDecl) (c : ClassRef) : Prop where
  | declared (hs : c.Same d.toRef)
  | imported {i : ClassRef} (hne : c.name ≠ d.name) (hi : i ∈ d.imports.classes) (hs : i.Same c)
  | sibling (hne : c.name ≠ d.name) (hp : c.package = some d.package)
      (hfree : ∀ i ∈ d.imports.classes, i.name ≠ c.name)

/-- What holds its name is not hidden. -/
theorem HoldsBareName.isHidden_eq_false (hl : d.imports.Consistent d.package) (h : d.HoldsBareName c) :
    (d.renderer q).isHidden c = false := by
  cases h with
  | declared hs =>
    have hhome : c.homePackage = d.package := ClassRef.homePackage_of_package hs.2
    rw [isHidden_of_name_eq q hs.1, hhome]
    exact bne_self_eq_false d.package
  | imported hne hj hjs =>
    rw [← Bool.not_eq_true, isHidden_iff_exists hl hne]
    rintro ⟨i, hi, hin, hs⟩
    rw [hl.eq_of_name_eq hi hj (hin.trans hjs.1.symm)] at hs
    exact hs hjs
  | sibling hne _ hfree =>
    rw [← Bool.not_eq_true, isHidden_iff_exists hl hne]
    rintro ⟨i, hi, hin, -⟩
    exact hfree i hi hin

/-- An imported class of the name of one that is not hidden is that class. -/
theorem same_of_not_isHidden (hl : d.imports.Consistent d.package) (hne : c.name ≠ d.name)
    (hh : (d.renderer q).isHidden c = false) (hi : i ∈ d.imports.classes) (hin : i.name = c.name) :
    i.Same c := by
  by_contra hs
  have hhidden : (d.renderer q).isHidden c = true := (isHidden_iff_exists hl hne).mpr ⟨i, hi, hin, hs⟩
  rw [hh] at hhidden
  exact Bool.false_ne_true hhidden

/-- **What is not hidden holds its name.** This is where completeness of the imports is needed: a foreign
    class whose name nobody holds would have been imported. -/
theorem ImportsComplete.holdsBareName (hd : d.ImportsComplete) (hc : c ∈ d.references)
    (hp : c.package ≠ none) (hh : (d.renderer q).isHidden c = false) : d.HoldsBareName c := by
  by_cases hn : c.name = d.name
  · rw [isHidden_of_name_eq q hn, bne_eq_false_iff_eq] at hh
    obtain ⟨p, hp⟩ := Option.ne_none_iff_exists'.mp hp
    have hhome : c.homePackage = p := ClassRef.homePackage_of_package hp
    exact .declared ⟨hn, by rw [hp, ← hhome, hh]; rfl⟩
  · have hsame := fun i hi hin => same_of_not_isHidden (i := i) hd.consistent hn hh hi hin
    by_cases hf : c.ForeignTo d.package
    · rcases hd.settled hc hf with ⟨hcont, -⟩ | ⟨-, hsh⟩
      · obtain ⟨i, hi, hs⟩ := ImportList.contains_iff.mp hcont
        exact .imported hn hi hs
      · -- a shadowed class has a holder of its name, which would be the class itself
        obtain ⟨k, hk, hs⟩ := ImportList.isShadowed_iff.mp hsh
        have hj := hd.consistent.justified k hk
        have hkc := hsame k.imported hj.imported_mem (hj.name_eq.symm.trans hs.1)
        exact absurd (hkc.trans hs.symm) hj.not_same
    · rcases ClassRef.not_foreignTo_iff.mp hf with hnone | hhome
      · exact absurd hnone hp
      · refine .sibling hn hhome ?_
        intro i hi hin
        exact hd.consistent.package_ne hi (hsame i hi hin) hhome

/-- A mentioned class with a package is not hidden exactly if it holds its name. -/
theorem ImportsComplete.isHidden_eq_false_iff (hd : d.ImportsComplete) (hc : c ∈ d.references)
    (hp : c.package ≠ none) : (d.renderer q).isHidden c = false ↔ d.HoldsBareName c :=
  ⟨hd.holdsBareName hc hp, HoldsBareName.isHidden_eq_false hd.consistent⟩

/-- **A bare name has one holder.** -/
theorem HoldsBareName.same (hl : d.imports.Consistent d.package) (h₁ : d.HoldsBareName c₁)
    (h₂ : d.HoldsBareName c₂) (hn : c₁.name = c₂.name) : c₁.Same c₂ := by
  cases h₁ with
  | declared hs₁ =>
    cases h₂ with
    | declared hs₂ => exact hs₁.trans hs₂.symm
    | imported hne _ _ => exact absurd (hn.symm.trans hs₁.1) hne
    | sibling hne _ _ => exact absurd (hn.symm.trans hs₁.1) hne
  | imported hne₁ hi₁ hs₁ =>
    cases h₂ with
    | declared hs₂ => exact absurd (hn.trans hs₂.1) hne₁
    | imported _ hi₂ hs₂ =>
      have he := hl.eq_of_name_eq hi₁ hi₂ (hs₁.1.trans (hn.trans hs₂.1.symm))
      rw [he] at hs₁
      exact hs₁.symm.trans hs₂
    | sibling _ _ hfree => exact absurd (hs₁.1.trans hn) (hfree _ hi₁)
  | sibling hne₁ hp₁ hfree =>
    cases h₂ with
    | declared hs₂ => exact absurd (hn.trans hs₂.1) hne₁
    | imported _ hi₂ hs₂ => exact absurd (hs₂.1.trans hn.symm) (hfree _ hi₂)
    | sibling _ hp₂ _ => exact ⟨hn, hp₁.trans hp₂.symm⟩

/-! ## Different classes are written differently -/

/-- **Different classes are never written the same way.** If two mentioned classes of named packages, with
    plain names, are written alike by a renderer that qualifies, they are the same class, and both are
    arrays or neither is. -/
theorem Reachable.className_injective (h : d.Reachable) (h₁ : c₁ ∈ d.references)
    (h₂ : c₂ ∈ d.references) (hp₁ : c₁.InNamedPackage) (hp₂ : c₂.InNamedPackage)
    (hn₁ : c₁.HasPlainName) (hn₂ : c₂.HasPlainName)
    (he : (d.renderer true).className c₁ = (d.renderer true).className c₂) :
    c₁.Same c₂ ∧ c₁.isArray = c₂.isArray := by
  have hd : d.ImportsComplete := h.importsComplete
  have hq : (d.renderer true).qualify = true := rfl
  obtain ⟨hsp, harr⟩ := Renderer.spelling_append_arraySuffix_inj hp₁ hp₂ hn₁ hn₂ he
  refine ⟨?_, harr⟩
  -- a full name holds a dot and a simple name does not, so both are spelled in the same way
  cases hh₁ : (d.renderer true).isHidden c₁ with
  | true =>
    rw [Renderer.spelling_of_isHidden hq hh₁] at hsp
    cases hh₂ : (d.renderer true).isHidden c₂ with
    | true =>
      rw [Renderer.spelling_of_isHidden hq hh₂] at hsp
      exact ClassRef.same_of_fullName_eq hp₁ hp₂ hn₁ hn₂ hsp
    | false =>
      rw [Renderer.spelling_of_not_isHidden hh₂] at hsp
      exact absurd hsp.symm (hn₂.ne_fullName hp₁)
  | false =>
    rw [Renderer.spelling_of_not_isHidden hh₁] at hsp
    cases hh₂ : (d.renderer true).isHidden c₂ with
    | true =>
      rw [Renderer.spelling_of_isHidden hq hh₂] at hsp
      exact absurd hsp (hn₁.ne_fullName hp₂)
    | false =>
      -- two bare names that agree have one holder
      rw [Renderer.spelling_of_not_isHidden hh₂] at hsp
      have hb₁ := hd.holdsBareName h₁ hp₁.package_ne_none hh₁
      have hb₂ := hd.holdsBareName h₂ hp₂.package_ne_none hh₂
      exact hb₁.same hd.consistent hb₂ hsp

/-- In `ledger` the class `java.sql.Date` is mentioned both as a class and as an interface. -/
theorem ledger_className_injective :
    (ledger.renderer true).className (.ofPackage ⟨"java.sql"⟩ "Date")
        = (ledger.renderer true).className ⟨some ⟨"java.sql"⟩, "Date", .interface, false⟩
      ∧ ClassRef.Same (.ofPackage ⟨"java.sql"⟩ "Date") ⟨some ⟨"java.sql"⟩, "Date", .interface, false⟩ := by
  have hc : .ofPackage ⟨"java.sql"⟩ "Date" ∈ ledger.references := by decide
  have hi : ⟨some ⟨"java.sql"⟩, "Date", .interface, false⟩ ∈ ledger.references := by decide
  have he : (ledger.renderer true).className (.ofPackage ⟨"java.sql"⟩ "Date")
      = (ledger.renderer true).className ⟨some ⟨"java.sql"⟩, "Date", .interface, false⟩ := by decide
  have hinj := ledger_reachable.className_injective hc hi (by decide) (by decide) (by decide) (by decide) he
  exact ⟨he, hinj.1⟩

end ClassDecl
end JavaSource
