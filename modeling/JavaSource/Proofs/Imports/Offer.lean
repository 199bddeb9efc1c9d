import JavaSource.ImportList

/-!
# `Proofs.Imports.Offer` — what one offer to an import list does

`decision`, `offer` and `offerEvent?` branch on the same four questions. Here they are opened once:
`Offered` lists the six things that can become of an offer, each with its decision, its event and the list
afterwards, and `offered` says that every offer is one of them. What an offer preserves is then shown case
by case over `Offered`, and none of the three functions is opened again.

* `ClassRef.ForeignTo` — the classes that an import line could be for.
* `mem_of_bySimpleName?`, `contains_iff`, `isShadowed_iff` — the look-ups as membership.
* `offered`, `Offered.eq` — an offer is one of the six cases of `Offered`, and each case is that offer.
-/

namespace JavaSource

/-! ## Foreign classes -/

namespace ClassRef

/-- The class has a package, and it is another one than `home`. -/
def ForeignTo (c : ClassRef) (home : Package) : Prop := ∃ p, c.package = some p ∧ p ≠ home

theorem foreignTo_iff {c : ClassRef} {home : Package} :
    c.ForeignTo home ↔ c.package ≠ none ∧ c.package ≠ some home := by
  unfold ForeignTo
  cases hp : c.package with
  | none => simp
  | some p => simp

/-- What is not foreign has no package or is at home. -/
theorem not_foreignTo_iff {c : ClassRef} {home : Package} :
    ¬ c.ForeignTo home ↔ c.package = none ∨ c.package = some home := by
  rw [foreignTo_iff, Classical.not_and_iff_not_or_not, Classical.not_not, Classical.not_not]

/-- Whether a class is foreign does not depend on its flags. -/
theorem ForeignTo.of_same {c d : ClassRef} {home : Package} (h : c.ForeignTo home) (hs : c.Same d) :
    d.ForeignTo home := by
  obtain ⟨p, hp, hne⟩ := h
  exact ⟨p, hs.2.symm.trans hp, hne⟩

end ClassRef

namespace ImportList

variable {l : ImportList} {owner : Option Package} {c holder : ClassRef} {name : String}

/-! ## Look-ups as membership -/

theorem mem_of_bySimpleName? (h : l.bySimpleName? name = some holder) :
    holder ∈ l.classes ∧ holder.name = name := by
  unfold bySimpleName? at h
  have hmem : holder ∈ l.classes := List.mem_of_find?_eq_some h
  have hname := List.find?_some h
  exact ⟨hmem, beq_iff_eq.mp hname⟩

theorem bySimpleName?_eq_none_iff :
    l.bySimpleName? name = none ↔ ∀ d ∈ l.classes, d.name ≠ name := by
  unfold bySimpleName?
  simp only [List.find?_eq_none, beq_iff_eq, ne_eq]

theorem contains_iff : l.contains c = true ↔ ∃ d ∈ l.classes, d.Same c := by
  unfold contains
  simp only [List.any_eq_true, decide_eq_true_eq]

theorem isShadowed_iff : l.isShadowed c = true ↔ ∃ k ∈ l.conflicts, k.shadowed.Same c := by
  unfold isShadowed
  simp only [List.any_eq_true, decide_eq_true_eq]

theorem isOwn_iff {p : Package} : isOwn owner p = true ↔ p = owner.getD .unnamed := by
  unfold isOwn
  exact beq_iff_eq

/-! ## The six cases of an offer -/

/-- **What can become of an offer**: a decision, an event, and the list afterwards. Each case has the guard
    under which it arises; `holder` is the imported class of the candidate's simple name. -/
inductive Offered (l : ImportList) (owner : Option Package) (c : ClassRef) :
    Decision → Option ImportEvent → ImportList → Prop where
  | noPackage (hp : c.package = none) :
      Offered l owner c (.skipped .noPackage) (some (.noPackage c)) l
  | samePackage (hp : c.package = some (owner.getD .unnamed)) :
      Offered l owner c (.skipped .samePackage) (some (.samePackage c)) l
  | added (hf : c.ForeignTo (owner.getD .unnamed)) (hfree : l.bySimpleName? c.name = none) :
      Offered l owner c .added (some (.added c)) { l with classes := l.classes ++ [c] }
  | alreadyImported {holder : ClassRef} (hf : c.ForeignTo (owner.getD .unnamed))
      (hheld : l.bySimpleName? c.name = some holder) (hs : holder.Same c) :
      Offered l owner c (.skipped .alreadyImported) none l
  | knownConflict {holder : ClassRef} (hf : c.ForeignTo (owner.getD .unnamed))
      (hheld : l.bySimpleName? c.name = some holder) (hs : ¬ holder.Same c)
      (hknown : l.isShadowed c = true) :
      Offered l owner c (.skipped .nameTaken) none l
  | newConflict {holder : ClassRef} (hf : c.ForeignTo (owner.getD .unnamed))
      (hheld : l.bySimpleName? c.name = some holder) (hs : ¬ holder.Same c)
      (hnew : l.isShadowed c = false) :
      Offered l owner c (.skipped .nameTaken) (some (.conflict holder c))
        { l with conflicts := l.conflicts ++ [⟨holder, c⟩] }

/-- **Every offer is one of the six cases.** -/
theorem offered (l : ImportList) (owner : Option Package) (c : ClassRef) :
    Offered l owner c (l.decision owner c) (l.offerEvent? owner c) (l.offer owner c) := by
  unfold offerEvent? offer decision
  -- the four questions in the order in which `decision` asks them
  cases hp : c.package with
  | none => exact .noPackage hp
  | some p =>
    by_cases hown : isOwn owner p = true
    · simp only [hown, if_true]
      exact .samePackage (by rw [hp, isOwn_iff.mp hown])
    · have hf : c.ForeignTo (owner.getD .unnamed) := ⟨p, hp, fun he => hown (isOwn_iff.mpr he)⟩
      simp only [hown]
      cases hheld : l.bySimpleName? c.name with
      | none => exact .added hf hheld
      | some holder =>
        by_cases hs : holder.Same c
        · simp only [hs, if_true]
          exact .alreadyImported hf hheld hs
        · simp only [hs, if_false]
          cases hknown : l.isShadowed c with
          | true => exact .knownConflict hf hheld hs hknown
          | false => exact .newConflict hf hheld hs hknown

/-- **Each case is what an offer makes of it**: the guards of a case decide on its outcome. -/
theorem Offered.eq {dec : Decision} {ev : Option ImportEvent} {m : ImportList}
    (h : Offered l owner c dec ev m) :
    dec = l.decision owner c ∧ ev = l.offerEvent? owner c ∧ m = l.offer owner c := by
  have hown : ∀ {p : Package}, p ≠ owner.getD .unnamed → isOwn owner p = false := by
    intro p hne
    rw [← Bool.not_eq_true]
    exact fun ho => hne (isOwn_iff.mp ho)
  unfold offerEvent? offer decision
  cases h with
  | noPackage hp => simp [hp]
  | samePackage hp => simp [hp, isOwn]
  | added hf hfree =>
    obtain ⟨p, hp, hne⟩ := hf
    simp [hp, hown hne, hfree]
  | alreadyImported hf hheld hs =>
    obtain ⟨p, hp, hne⟩ := hf
    simp [hp, hown hne, hheld, hs]
  | knownConflict hf hheld hs hknown =>
    obtain ⟨p, hp, hne⟩ := hf
    simp [hp, hown hne, hheld, hs, hknown]
  | newConflict hf hheld hs hnew =>
    obtain ⟨p, hp, hne⟩ := hf
    simp [hp, hown hne, hheld, hs, hnew]

end ImportList
end JavaSource
