import JavaSource.Proofs.ClassDecl.Check
import JavaSource.Proofs.ClassDecl.Step

/-!
# `Proofs.ClassDecl.WellFormed` — what holds of the parts of a declaration

`ClassDecl.WellFormed` collects what the checks are there for: supertypes are of the right kind, type
parameters have bounds, types in use declare nothing, and members belong to the declaration
(`Member.BelongsTo`). An empty declaration is well formed, and an accepted change keeps it so
(`WellFormed.stepped`), since an attached part has passed its check and nothing else looks at the parts that
were there.
-/

namespace JavaSource

variable {d e : ClassDecl} {change : Mutation} {m : Member}

/-! ## Members of a declaration -/

/-- **A member belongs to a declaration**: it is owned by the declared class, its content is fit, and if the
    declaration is an interface and the member a method, it is abstract. -/
structure Member.BelongsTo (m : Member) (d : ClassDecl) : Prop where
  owned : ∃ owner, m.owner = some owner ∧ owner.Same d.toRef
  fit : m.Fit
  abstracted : d.isInterface = true → ∀ method, m = .method method → method.isAbstract = true

/-- Whether a member belongs to a declaration depends on its package, name and kind alone; that the array
    flag may change does not matter, because it is no part of which class is meant. -/
theorem Member.BelongsTo.of_eq (h : m.BelongsTo d) (hpackage : e.package = d.package)
    (hname : e.name = d.name) (hkind : e.kind = d.kind) : m.BelongsTo e where
  owned := by
    obtain ⟨owner, howner, hs⟩ := h.owned
    refine ⟨owner, howner, hs.trans ⟨hname.symm, ?_⟩⟩
    show some d.package = some e.package
    rw [hpackage]
  fit := h.fit
  abstracted := by
    have hint : e.isInterface = d.isInterface := by
      unfold ClassDecl.isInterface
      rw [hkind]
    rw [hint]
    exact h.abstracted

/-- The owner is no part of the content of a member. -/
theorem Member.Fit.withOwner (h : m.Fit) (c : ClassRef) : (m.withOwner c).Fit := by
  cases m with
  | field f => exact ⟨h.bounded, h.uses⟩
  | method method => exact ⟨h.bounded, h.uses⟩
  | constructor con => exact ⟨h.bounded, h.uses⟩

theorem Member.Fit.abstracted (h : m.Fit) : m.abstracted.Fit := by
  cases m with
  | field f => exact h
  | method method => exact ⟨h.bounded, h.uses⟩
  | constructor con => exact h

/-- Attaching a member makes the declared class its owner, whatever its kind. -/
theorem Member.owner_withOwner (m : Member) (c : ClassRef) : (m.withOwner c).owner = some c := by
  cases m with
  | field f => rfl
  | method method => rfl
  | constructor con => rfl

/-- A method that an interface adopts is abstract. -/
theorem isAbstract_of_abstracted_withOwner {c : ClassRef} {method : Method}
    (h : m.abstracted.withOwner c = .method method) : method.isAbstract = true := by
  cases m with
  | field f => cases h
  | method given => cases h; rfl
  | constructor con => cases h

/-- **A fit member belongs to the declaration that adopts it.** -/
theorem Member.Fit.belongsTo_adopted (h : m.Fit) (d : ClassDecl) : (d.adopted m).BelongsTo d := by
  unfold ClassDecl.adopted
  refine ⟨⟨d.toRef, Member.owner_withOwner _ _, .refl _⟩, ?_, ?_⟩
  · cases d.isInterface with
    | true => exact h.abstracted.withOwner d.toRef
    | false => exact h.withOwner d.toRef
  · intro hint method hmethod
    rw [hint, if_pos rfl] at hmethod
    exact isAbstract_of_abstracted_withOwner hmethod

/-! ## Well-formed declarations -/

namespace ClassDecl

/-- **The structural invariant of a declaration.** -/
structure WellFormed (d : ClassDecl) : Prop where
  parent_of_interface : d.isInterface = true → d.parent = none
  parent_fit : ∀ t ∈ d.parent, t.FitFor .superclass
  interfaces_fit : ∀ t ∈ d.interfaces, t.FitFor .interface
  typeParameters_bounded : ∀ v ∈ d.typeParameters, ¬ v.Unbounded
  members_belong : ∀ m ∈ d.members, m.BelongsTo d

theorem wellFormed_fresh (package : Package) (name : String) (kind : ClassKind) :
    (fresh package name kind).WellFormed where
  parent_of_interface := fun _ => rfl
  parent_fit := by intro t ht; cases ht
  interfaces_fit := by intro t ht; exact absurd ht List.not_mem_nil
  typeParameters_bounded := by intro v hv; exact absurd hv List.not_mem_nil
  members_belong := by intro m hm; exact absurd hm List.not_mem_nil

/-- What holds of the members of a list and of one more item holds of the items of both. -/
theorem forall_mem_concat {α : Type} {P : α → Prop} {xs : List α} {x : α} (hxs : ∀ y ∈ xs, P y)
    (hx : P x) : ∀ y ∈ xs ++ [x], P y :=
  List.forall_mem_append.mpr ⟨hxs, List.forall_mem_singleton.mpr hx⟩

/-- A superclass is only accepted where there may be one. -/
theorem check_setParent_eq_ok_iff {t : JavaType} :
    d.check (.setParent t) = .ok () ↔ d.isInterface = false ∧ t.FitFor .superclass := by
  rw [← checkSupertype_eq_ok_iff]
  unfold check
  cases d.isInterface with
  | true => simp
  | false => simp

/-- **Recording an accepted change keeps a declaration well formed**: the part that it attaches has passed
    its check, and the other parts are not affected. -/
theorem WellFormed.record (hd : d.WellFormed) (h : d.check change = .ok ()) :
    (d.record change).WellFormed := by
  have hmembers : ∀ m ∈ d.members, m.BelongsTo (d.record change) := by
    intro m hm
    exact (hd.members_belong m hm).of_eq (record_package d change) (record_name d change)
      (record_kind d change)
  cases change with
  | setAccess a => exact { hd with members_belong := hmembers }
  | setArray flag => exact { hd with members_belong := hmembers }
  | annotate a => exact { hd with members_belong := hmembers }
  | addImport c => exact hd
  | addTypeParameter v =>
    have hv : ¬ v.Unbounded := TypeVariable.validate_eq_ok_iff.mp h
    exact { hd with
      typeParameters_bounded := forall_mem_concat hd.typeParameters_bounded hv
      members_belong := hmembers }
  | setParent t =>
    obtain ⟨hint, ht⟩ := check_setParent_eq_ok_iff.mp h
    refine { hd with parent_of_interface := ?_, parent_fit := ?_, members_belong := hmembers }
    · intro hyes
      have hboth : true = false := hyes.symm.trans hint
      cases hboth
    · intro u hu
      cases hu
      exact ht
  | addInterface t =>
    have ht : t.FitFor .interface := checkSupertype_eq_ok_iff.mp h
    exact { hd with
      interfaces_fit := forall_mem_concat hd.interfaces_fit ht
      members_belong := hmembers }
  | addMember m =>
    have hm : m.Fit := (checkMember_eq_ok_iff.mp h).2
    have hnew : (d.adopted m).BelongsTo (d.record (.addMember m)) :=
      (hm.belongsTo_adopted d).of_eq rfl rfl rfl
    exact { hd with members_belong := forall_mem_concat hmembers hnew }

/-- Imports are no matter of structure. -/
theorem WellFormed.with_imports (hd : d.WellFormed) (imports : ImportList) :
    ({ d with imports } : ClassDecl).WellFormed :=
  { hd with members_belong := fun m hm => (hd.members_belong m hm).of_eq rfl rfl rfl }

/-- **A step keeps a declaration well formed.** -/
theorem WellFormed.stepped (hd : d.WellFormed) (h : Stepped d change e) : e.WellFormed := by
  cases h with
  | refused _ => exact hd
  | accepted hcheck => exact (hd.record hcheck).with_imports _

/-- **Every reachable declaration is well formed.** -/
theorem Reachable.wellFormed (h : d.Reachable) : d.WellFormed := by
  induction h with
  | fresh package name kind => exact wellFormed_fresh package name kind
  | ofRef c =>
    -- an empty declaration but for its array flag
    exact { wellFormed_fresh c.homePackage c.name c.kind with members_belong := fun m hm => nomatch hm }
  | step change _ ih => exact ih.stepped (stepped _ change)

end ClassDecl
end JavaSource
