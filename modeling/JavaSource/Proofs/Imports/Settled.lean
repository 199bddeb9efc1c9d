import JavaSource.Proofs.Imports.Batch
import JavaSource.Proofs.Imports.Invariant

/-!
# `Proofs.Imports.Settled` — what a batch does whatever the order of its candidates

An import list has *settled* a class when it imports it or records it as shadowed. A batch settles its foreign
candidates and no other class (`settled_batch_iff`), and it imports each of their names
(`importsName_batch_iff`); the order of the candidates is no part of that. It decides which class of a name is
imported, and with one package for each name it does not even decide that, since nothing is shadowed then
(`OnePackagePerName.conflicts_batch`).
-/

namespace JavaSource
namespace ImportList

variable {home : Package} {c e : ClassRef} {cs ds es : List ClassRef} {l : ImportList}

/-- **A list has settled a class**: it is imported, or recorded as shadowed. -/
def Settled (l : ImportList) (c : ClassRef) : Prop := l.contains c = true ∨ l.isShadowed c = true

/-- Some imported class has the simple name. -/
def ImportsName (l : ImportList) (name : String) : Prop := ∃ i ∈ l.classes, i.name = name

/-- Foreign candidates of one simple name are of one package. -/
def OnePackagePerName (home : Package) (cs : List ClassRef) : Prop :=
  ∀ a ∈ cs, ∀ b ∈ cs, a.ForeignTo home → b.ForeignTo home → a.name = b.name → a.package = b.package

instance (home : Package) (cs : List ClassRef) : Decidable (OnePackagePerName home cs) :=
  inferInstanceAs (Decidable (∀ a ∈ cs, ∀ b ∈ cs, _))

theorem mem_foreign : c ∈ foreign home cs ↔ c ∈ cs ∧ c.ForeignTo home := by
  unfold foreign
  rw [List.mem_filter, decide_eq_true_eq]

/-! ## Settled classes -/

/-- Whether a class is settled does not depend on its flags. -/
theorem Settled.of_same (h : l.Settled c) (hs : c.Same e) : l.Settled e := by
  rcases h with h | h
  · obtain ⟨i, hi, hic⟩ := contains_iff.mp h
    exact Or.inl (contains_iff.mpr ⟨i, hi, hic.trans hs⟩)
  · obtain ⟨k, hk, hkc⟩ := isShadowed_iff.mp h
    exact Or.inr (isShadowed_iff.mpr ⟨k, hk, hkc.trans hs⟩)

/-- Without conflicts, what is settled is imported. -/
theorem settled_iff_contains (h : l.conflicts = []) : l.Settled c ↔ l.contains c = true := by
  have hshadowed : l.isShadowed c = false := by
    unfold isShadowed
    rw [h]
    rfl
  unfold Settled
  rw [hshadowed]
  simp

/-! ## Batches -/

theorem mem_of_firstNamed? (h : firstNamed? es c = some e) : e ∈ es ∧ e.name = c.name := by
  unfold firstNamed? at h
  have hname := List.find?_some h
  exact ⟨List.mem_of_find?_eq_some h, beq_iff_eq.mp hname⟩

theorem shadowed_of_clash? {k : Conflict} (h : clash? es c = some k) : k.shadowed = c := by
  unfold clash? at h
  split at h
  · split at h
    · cases h
    · cases h
      rfl
  · cases h

/-- What a batch imports is one of its foreign candidates. -/
theorem mem_foreign_of_mem_classes_batch (h : c ∈ (batch home cs).classes) : c ∈ foreign home cs :=
  mem_of_mem_firsts h

/-- What a batch records as shadowed is one of its foreign candidates. -/
theorem mem_foreign_of_mem_conflicts_batch {k : Conflict} (h : k ∈ (batch home cs).conflicts) :
    k.shadowed ∈ foreign home cs := by
  obtain ⟨c, hc, hk⟩ := List.mem_filterMap.mp (mem_of_mem_firsts h)
  rw [shadowed_of_clash? hk]
  exact hc

/-- **A batch settles its foreign candidates**, and no other class. -/
theorem settled_batch_iff : (batch home cs).Settled c ↔ ∃ e ∈ foreign home cs, e.Same c := by
  constructor
  · rintro (h | h)
    · obtain ⟨i, hi, hic⟩ := contains_iff.mp h
      exact ⟨i, mem_foreign_of_mem_classes_batch hi, hic⟩
    · obtain ⟨k, hk, hkc⟩ := isShadowed_iff.mp h
      exact ⟨k.shadowed, mem_foreign_of_mem_conflicts_batch hk, hkc⟩
  · rintro ⟨e, he, hec⟩
    obtain ⟨hmem, hf⟩ := mem_foreign.mp he
    have hcovers := covers_merge {} (some home) hmem hf
    rw [merge_eq_batch] at hcovers
    exact Settled.of_same hcovers hec

/-- **A batch imports the names of its foreign candidates**, and no other name. -/
theorem importsName_batch_iff {name : String} :
    (batch home cs).ImportsName name ↔ ∃ e ∈ foreign home cs, e.name = name := by
  have hany : ((batch home cs).classes.any fun e => e.name == name) =
      (foreign home cs).any fun e => e.name == name := any_firsts _
  rw [Bool.eq_iff_iff] at hany
  simp only [List.any_eq_true, beq_iff_eq] at hany
  exact hany

/-- With one package for each name there is nothing to shadow. -/
theorem OnePackagePerName.conflicts_batch (h : OnePackagePerName home cs) :
    (batch home cs).conflicts = [] := by
  have hclash : ∀ c ∈ foreign home cs, clash? (foreign home cs) c = none := by
    intro c hc
    obtain ⟨first, hfirst⟩ := exists_firstNamed? hc
    obtain ⟨hmem, hname⟩ := mem_of_firstNamed? hfirst
    obtain ⟨hfirstmem, hfirstforeign⟩ := mem_foreign.mp hmem
    obtain ⟨hcmem, hcforeign⟩ := mem_foreign.mp hc
    have hpackage := h first hfirstmem c hcmem hfirstforeign hcforeign hname
    unfold clash?
    rw [hfirst]
    exact if_pos ⟨hname, hpackage⟩
  have hnone : (foreign home cs).filterMap (clash? (foreign home cs)) = [] :=
    List.filterMap_eq_nil_iff.mpr hclash
  unfold batch
  rw [hnone]
  rfl

/-- Candidates that are the same up to order and repetition have the same foreign ones. -/
theorem mem_foreign_congr (h : ∀ c, c ∈ cs ↔ c ∈ ds) : ∀ c, c ∈ foreign home cs ↔ c ∈ foreign home ds := by
  intro c
  rw [mem_foreign, mem_foreign, h c]

theorem OnePackagePerName.congr (hcs : OnePackagePerName home cs) (h : ∀ c, c ∈ cs ↔ c ∈ ds) :
    OnePackagePerName home ds :=
  fun a ha b hb => hcs a ((h a).mpr ha) b ((h b).mpr hb)

end ImportList
end JavaSource
