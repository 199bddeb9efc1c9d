import JavaSource.Proofs.Imports.Invariant

/-!
# `Proofs.Imports.Repeat` — offers that are made again

An offer is dealt with once and for all. From then on the list *absorbs* it (`ImportList.Absorbs`): the same
offer is skipped and changes nothing. That lasts whatever is requested in between, on behalf of whichever
owner, for a list only grows and the holders of its names stay.

* `Request`, `serveAll` — offers and merges in any mixture; `serveAll_induction` carries over what every single
  offer preserves.
* `Offered.absorbs`, `Extends.absorbs` — an offer is absorbed once it has been made, and from then on.
* `Absorbs.offered` — an absorbed offer is skipped, and `Decision.again` says for which reason.
-/

namespace JavaSource

/-- What becomes of an offer that is made again. One that was skipped for the package of the class is skipped
    for it again; any other is skipped because the class is imported, or else because its name is taken. -/
def Decision.again (imported : Bool) : Decision → Decision
  | .skipped .noPackage => .skipped .noPackage
  | .skipped .samePackage => .skipped .samePackage
  | _ => .skipped (if imported then .alreadyImported else .nameTaken)

namespace ImportList

variable {l m n : ImportList} {owner : Option Package} {home : Package} {c : ClassRef}
  {dec : Decision} {ev : Option ImportEvent}

/-! ## Requests -/

/-- A call on an import list: the offer of one class, or the merge of several, on behalf of an owner. -/
inductive Request where
  | offer (owner : Option Package) (c : ClassRef)
  | merge (owner : Option Package) (cs : List ClassRef)
  deriving DecidableEq, Repr

/-- The list after a request. -/
def serve (l : ImportList) : Request → ImportList
  | .offer owner c => l.offer owner c
  | .merge owner cs => l.merge owner cs

/-- The list after some requests, one after the other. -/
def serveAll (l : ImportList) : List Request → ImportList
  | [] => l
  | q :: qs => (l.serve q).serveAll qs

/-- What every offer preserves, on behalf of whichever owner, all requests preserve. -/
theorem serveAll_induction {P : ImportList → Prop}
    (hstep : ∀ {l m : ImportList} {owner : Option Package} {c : ClassRef} {dec : Decision}
      {ev : Option ImportEvent}, Offered l owner c dec ev m → P l → P m)
    (qs : List Request) (h : P l) : P (l.serveAll qs) := by
  induction qs generalizing l with
  | nil => exact h
  | cons q qs ih =>
    apply ih
    cases q with
    | offer owner c => exact hstep (l.offered owner c) h
    | merge owner cs => exact merge_induction hstep cs h

/-- **Requests only append.** -/
theorem extends_serveAll (l : ImportList) (qs : List Request) : l.Extends (l.serveAll qs) :=
  serveAll_induction (fun h hl => hl.trans h.extends) qs (.refl l)

/-- Whoever the owners are, no request imports a second class of one name. -/
theorem nodup_names_serveAll (hl : (l.classes.map ClassRef.name).Nodup) (qs : List Request) :
    ((l.serveAll qs).classes.map ClassRef.name).Nodup := by
  refine serveAll_induction (P := fun l => (l.classes.map ClassRef.name).Nodup) ?_ qs hl
  intro l m owner c dec ev h hl
  cases h with
  | noPackage _ => exact hl
  | samePackage _ => exact hl
  | added _ hfree => exact nodup_names_concat hl hfree
  | alreadyImported _ _ _ => exact hl
  | knownConflict _ _ _ _ => exact hl
  | newConflict _ _ _ _ => exact hl

/-! ## Absorbed offers -/

/-- **A list absorbs a class** that is offered on behalf of a unit in `home`: the class is not foreign, or its
    simple name has a holder, which is the class itself or is recorded as shadowing it. -/
def Absorbs (l : ImportList) (home : Package) (c : ClassRef) : Prop :=
  c.ForeignTo home → ∃ holder, l.bySimpleName? c.name = some holder ∧
    (holder.Same c ∨ l.isShadowed c = true)

/-- **An offer is absorbed once it has been made.** -/
theorem Offered.absorbs (h : Offered l owner c dec ev m) : m.Absorbs (owner.getD .unnamed) c := by
  intro hf
  cases h with
  | noPackage hp => exact absurd hf (ClassRef.not_foreignTo_iff.mpr (Or.inl hp))
  | samePackage hp => exact absurd hf (ClassRef.not_foreignTo_iff.mpr (Or.inr hp))
  | added _ hfree =>
    refine ⟨c, ?_, Or.inl (.refl c)⟩
    unfold bySimpleName? at hfree ⊢
    rw [List.find?_append, hfree]
    simp
  | alreadyImported _ hheld hs => exact ⟨_, hheld, Or.inl hs⟩
  | knownConflict _ hheld _ hknown => exact ⟨_, hheld, Or.inr hknown⟩
  | newConflict _ hheld _ _ =>
    exact ⟨_, hheld, Or.inr (isShadowed_iff.mpr ⟨_, List.mem_append_right _ List.mem_cons_self, .refl c⟩)⟩

/-- What a list absorbs, it absorbs for ever. -/
theorem Extends.absorbs (h : l.Extends m) (hl : l.Absorbs home c) : m.Absorbs home c := by
  intro hf
  obtain ⟨holder, hheld, hs | hsh⟩ := hl hf
  · exact ⟨holder, h.bySimpleName? hheld, Or.inl hs⟩
  · exact ⟨holder, h.bySimpleName? hheld, Or.inr (h.isShadowed hsh)⟩

/-- A merge absorbs its candidates: each one when it is offered, and the list only grows after that. -/
theorem absorbs_merge (l : ImportList) (owner : Option Package) {cs : List ClassRef} (hc : c ∈ cs) :
    (l.merge owner cs).Absorbs (owner.getD .unnamed) c := by
  induction cs generalizing l with
  | nil => exact absurd hc List.not_mem_nil
  | cons d ds ih =>
    rcases List.mem_cons.mp hc with rfl | hc
    · exact (extends_merge _ owner ds).absorbs (l.offered owner c).absorbs
    · exact ih (l.offer owner d) hc

/-- **An absorbed offer is skipped and changes nothing.** -/
theorem Absorbs.offered (hl : l.Absorbs (owner.getD .unnamed) c) (h : Offered l owner c dec ev m) :
    m = l ∧ ∃ reason, dec = .skipped reason := by
  cases h with
  | noPackage _ => exact ⟨rfl, _, rfl⟩
  | samePackage _ => exact ⟨rfl, _, rfl⟩
  | added hf hfree =>
    obtain ⟨holder, hheld, -⟩ := hl hf
    rw [hfree] at hheld
    cases hheld
  | alreadyImported _ _ _ => exact ⟨rfl, _, rfl⟩
  | knownConflict _ _ _ _ => exact ⟨rfl, _, rfl⟩
  | newConflict hf hheld hs hnew =>
    obtain ⟨other, hother, hsame | hsh⟩ := hl hf
    · rw [hheld] at hother
      cases hother
      exact absurd hsame hs
    · rw [hnew] at hsh
      cases hsh

/-- Absorbed candidates are merged without any effect. -/
theorem merge_of_absorbs {cs : List ClassRef} (h : ∀ c ∈ cs, l.Absorbs (owner.getD .unnamed) c) :
    l.merge owner cs = l ∧ l.addedCount owner cs = 0 := by
  induction cs with
  | nil => exact ⟨rfl, rfl⟩
  | cons c cs ih =>
    rw [List.forall_mem_cons] at h
    obtain ⟨hsame, reason, hskip⟩ := h.1.offered (l.offered owner c)
    obtain ⟨hmerge, hcount⟩ := ih h.2
    unfold addedCount at hcount ⊢
    rw [merge, decisions, hsame, hskip]
    exact ⟨hmerge, by simp [hcount]⟩

/-! ## The reason for skipping -/

/-- With distinct names, the holder of a simple name is the only imported class that can be another's self. -/
theorem contains_iff_of_held {holder : ClassRef} (hl : (l.classes.map ClassRef.name).Nodup)
    (hheld : l.bySimpleName? c.name = some holder) : l.contains c = true ↔ holder.Same c := by
  obtain ⟨hmem, hname⟩ := mem_of_bySimpleName? hheld
  constructor
  · intro hc
    obtain ⟨d, hd, hs⟩ := contains_iff.mp hc
    have hdh : d = holder := List.inj_on_of_nodup_map hl hd hmem (hs.1.trans hname.symm)
    exact hdh ▸ hs
  · intro hs
    exact contains_iff.mpr ⟨holder, hmem, hs⟩

/-- An offer on behalf of the same owner finds a class without a package, or one at home, as it did before;
    for a foreign class the list decides. -/
theorem Offered.decision_again {l' m' : ImportList} {dec' : Decision} {ev' : Option ImportEvent}
    (h : Offered l owner c dec ev m) (h' : Offered l' owner c dec' ev' m')
    (hl' : (l'.classes.map ClassRef.name).Nodup) (habs : l'.Absorbs (owner.getD .unnamed) c) :
    dec' = dec.again (l'.contains c) := by
  -- a foreign class is not skipped for its package, neither the first time nor now
  have hforeign : c.ForeignTo (owner.getD .unnamed) →
      dec' = .skipped (if l'.contains c then .alreadyImported else .nameTaken) := by
    intro hf
    cases h' with
    | noPackage hp => exact absurd hf (ClassRef.not_foreignTo_iff.mpr (Or.inl hp))
    | samePackage hp => exact absurd hf (ClassRef.not_foreignTo_iff.mpr (Or.inr hp))
    | added _ hfree =>
      obtain ⟨holder, hheld, -⟩ := habs hf
      rw [hfree] at hheld
      cases hheld
    | alreadyImported _ hheld hs => rw [if_pos ((contains_iff_of_held hl' hheld).mpr hs)]
    | knownConflict _ hheld hs _ => rw [if_neg fun hc => hs ((contains_iff_of_held hl' hheld).mp hc)]
    | newConflict _ hheld hs _ => rw [if_neg fun hc => hs ((contains_iff_of_held hl' hheld).mp hc)]
  cases h with
  | noPackage hp =>
    cases h' with
    | noPackage _ => rfl
    | samePackage hp' => rw [hp] at hp'; cases hp'
    | added hf _ | alreadyImported hf _ _ | knownConflict hf _ _ _ | newConflict hf _ _ _ =>
      exact absurd hf (ClassRef.not_foreignTo_iff.mpr (Or.inl hp))
  | samePackage hp =>
    cases h' with
    | noPackage hp' => rw [hp] at hp'; cases hp'
    | samePackage _ => rfl
    | added hf _ | alreadyImported hf _ _ | knownConflict hf _ _ _ | newConflict hf _ _ _ =>
      exact absurd hf (ClassRef.not_foreignTo_iff.mpr (Or.inr hp))
  | added hf _ => exact hforeign hf
  | alreadyImported hf _ _ => exact hforeign hf
  | knownConflict hf _ _ _ => exact hforeign hf
  | newConflict hf _ _ _ => exact hforeign hf

/-- **Offering again has no effect, ever.** Take any list that requests have led to, offer it a class, and make
    any further requests, on behalf of whichever owners. The same offer is then skipped, for the reason that
    `Decision.again` gives, and leaves the list as it is. Likewise candidates that have been merged are merged
    again without an import and without a change. -/
theorem repeated_requests_have_no_effect (before between : List Request) (owner : Option Package) :
    (∀ c : ClassRef,
      let l := ({} : ImportList).serveAll before
      let m := (l.offer owner c).serveAll between
      m.decision owner c = (l.decision owner c).again (m.contains c) ∧ m.offer owner c = m)
    ∧ ∀ cs : List ClassRef,
      let l := ({} : ImportList).serveAll before
      let m := (l.merge owner cs).serveAll between
      m.addedCount owner cs = 0 ∧ m.merge owner cs = m := by
  refine ⟨?_, ?_⟩
  · intro c l m
    have habs : m.Absorbs (owner.getD .unnamed) c :=
      (extends_serveAll _ between).absorbs (l.offered owner c).absorbs
    have hempty : (({} : ImportList).classes.map ClassRef.name).Nodup := List.nodup_nil
    -- the first offer counts among the requests that led to `m`
    have hnames : (m.classes.map ClassRef.name).Nodup :=
      nodup_names_serveAll (nodup_names_serveAll (nodup_names_serveAll hempty before) [.offer owner c])
        between
    exact ⟨(l.offered owner c).decision_again (m.offered owner c) hnames habs,
      (habs.offered (m.offered owner c)).1⟩
  · intro cs l m
    have habs : ∀ c ∈ cs, m.Absorbs (owner.getD .unnamed) c := fun c hc =>
      (extends_serveAll _ between).absorbs (absorbs_merge l owner hc)
    obtain ⟨hmerge, hcount⟩ := merge_of_absorbs habs
    exact ⟨hcount, hmerge⟩

end ImportList
end JavaSource
