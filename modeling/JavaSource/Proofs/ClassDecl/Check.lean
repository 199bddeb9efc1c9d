import JavaSource.ClassDecl.Mutation
import JavaSource.Proofs.JavaType.Declarations

/-!
# `Proofs.ClassDecl.Check` — when a change is refused

Each check is a chain of tests that stops at the first failure. Here each is turned into a condition on what
it looks at: when it succeeds (`checkSupertype_eq_ok_iff`, `checkMember_eq_ok_iff`), and of what kind its
error is. `ClassDecl.Refused` puts the conditions together, one constructor for each way a change can be
refused, and `exists_check_error_iff` says that `check` refuses exactly what it lists.
-/

namespace JavaSource

variable {t : JavaType} {v : TypeVariable} {m : Member} {err : DeclarationError} {role : SupertypeRole}
  {site : UseSite} {k : ErrorKind}

/-! ## Checks and their errors -/

/-- A check that succeeds exactly if `P` holds, and whose errors are of one kind, fails exactly if `P` does
    not hold, and with that kind. -/
theorem exists_error_iff {outcome : Except DeclarationError Unit} {P : Prop} {kind : ErrorKind}
    (hok : outcome = .ok () ↔ P) (hkind : ∀ err, outcome = .error err → err.kind = kind) :
    (∃ err, outcome = .error err ∧ err.kind = k) ↔ ¬ P ∧ k = kind := by
  constructor
  · rintro ⟨err, herr, rfl⟩
    refine ⟨fun hP => ?_, hkind err herr⟩
    rw [hok.mpr hP] at herr
    cases herr
  · rintro ⟨hP, rfl⟩
    cases houtcome : outcome with
    | ok u => exact absurd (hok.mp houtcome) hP
    | error err => exact ⟨err, rfl, hkind err houtcome⟩

/-! ## Type variables -/

/-- The variable has no bound at all, neither a first one nor further ones. -/
def TypeVariable.Unbounded (v : TypeVariable) : Prop := v.bound = none ∧ v.moreBounds = []

theorem TypeVariable.isBounded_eq_false_iff : v.isBounded = false ↔ v.Unbounded := by
  unfold isBounded Unbounded
  simp

theorem TypeVariable.validate_eq_ok_iff : v.validate = .ok () ↔ ¬ v.Unbounded := by
  rw [← TypeVariable.isBounded_eq_false_iff]
  unfold validate
  cases v.isBounded with
  | true => simp
  | false => simp

theorem TypeVariable.kind_of_validate_error (h : v.validate = .error err) :
    err.kind = .invalidArgument := by
  unfold validate at h
  split at h
  · cases h
  · cases h
    rfl

/-! ## Uses of types -/

theorem checkUse_eq_ok_iff : checkUse site t = .ok () ↔ ¬ t.Declares := by
  rw [← JavaType.firstDeclaration?_eq_none_iff]
  unfold checkUse
  cases t.firstDeclaration? with
  | none => simp
  | some v => simp

theorem kind_of_checkUse_error (h : checkUse site t = .error err) : err.kind = .invalidArgument := by
  unfold checkUse at h
  split at h
  · cases h
    rfl
  · cases h

/-- **A type is fit for a place of a supertype**: it is a class or a generic class of the right kind, and
    declares no type variable. -/
structure JavaType.FitFor (t : JavaType) (role : SupertypeRole) : Prop where
  headed : ∃ head, t.headClass? = some head ∧ head.kind = role.kind
  uses : ¬ t.Declares

theorem checkSupertype_eq_ok_iff : checkSupertype role t = .ok () ↔ t.FitFor role := by
  unfold checkSupertype
  cases hhead : t.headClass? with
  | none =>
    constructor
    · intro h
      cases h
    · rintro ⟨⟨head, h, -⟩, -⟩
      rw [hhead] at h
      cases h
  | some head =>
    by_cases hkind : head.kind = role.kind
    · simp only [hkind, if_true, checkUse_eq_ok_iff]
      exact ⟨fun hu => ⟨⟨head, hhead, hkind⟩, hu⟩, fun h => h.uses⟩
    · simp only [hkind, if_false]
      constructor
      · intro h
        cases h
      · rintro ⟨⟨head', h, hk⟩, -⟩
        rw [hhead] at h
        cases h
        exact absurd hk hkind

theorem kind_of_checkSupertype_error (h : checkSupertype role t = .error err) :
    err.kind = .invalidArgument := by
  unfold checkSupertype at h
  split at h
  · cases h
    rfl
  · split at h
    · exact kind_of_checkUse_error h
    · cases h
      rfl

/-- A supertype is refused exactly if it is unfit. -/
theorem exists_checkSupertype_error_iff :
    (∃ err, checkSupertype role t = .error err ∧ err.kind = k) ↔
      ¬ t.FitFor role ∧ k = .invalidArgument :=
  exists_error_iff checkSupertype_eq_ok_iff fun _ => kind_of_checkSupertype_error

/-! ## Members -/

section firstRefusal

variable {α : Type} {test : α → Except DeclarationError Unit} {xs : List α}

/-- Nothing is refused exactly if every single check succeeds. -/
theorem firstRefusal_eq_ok_iff : firstRefusal test xs = .ok () ↔ ∀ x ∈ xs, test x = .ok () := by
  induction xs with
  | nil => simp [firstRefusal]
  | cons x xs ih =>
    rw [firstRefusal, List.forall_mem_cons]
    cases test x with
    | error err => simp
    | ok u => simp [ih]

/-- The first refusal is one of the single ones. -/
theorem exists_of_firstRefusal_error (h : firstRefusal test xs = .error err) :
    ∃ x ∈ xs, test x = .error err := by
  induction xs with
  | nil => cases h
  | cons x xs ih =>
    rw [firstRefusal] at h
    split at h
    · next herr =>
      cases h
      exact ⟨x, List.mem_cons_self, herr⟩
    · obtain ⟨y, hy, herr⟩ := ih h
      exact ⟨y, List.mem_cons_of_mem _ hy, herr⟩

end firstRefusal

/-- **The content of a member is fit**: its type parameters have bounds, and the types that it uses declare
    no type variable. -/
structure Member.Fit (m : Member) : Prop where
  bounded : ∀ v ∈ m.typeParameters, ¬ v.Unbounded
  uses : ∀ t ∈ m.useSites, ¬ t.Declares

/-- Checks of the content of a member. -/
theorem firstRefusals_eq_ok_iff (site : UseSite) :
    (firstRefusal TypeVariable.validate m.typeParameters = .ok ()
      ∧ firstRefusal (checkUse site) m.useSites = .ok ()) ↔ m.Fit := by
  simp only [firstRefusal_eq_ok_iff, TypeVariable.validate_eq_ok_iff, checkUse_eq_ok_iff]
  exact ⟨fun h => ⟨h.1, h.2⟩, fun h => ⟨h.bounded, h.uses⟩⟩

theorem checkMember_eq_ok_iff : checkMember m = .ok () ↔ m.owner = none ∧ m.Fit := by
  unfold checkMember
  cases m.owner with
  | some owner => simp
  | none =>
    rw [← firstRefusals_eq_ok_iff (.member m.memberName)]
    cases firstRefusal TypeVariable.validate m.typeParameters with
    | error err => simp
    | ok u => simp

/-- A member that has an owner is refused for that, and any other for its content. -/
theorem kind_of_checkMember_error (h : checkMember m = .error err) :
    err.kind = if m.owner = none then .invalidArgument else .invalidState := by
  unfold checkMember at h
  cases howner : m.owner with
  | some owner =>
    rw [howner] at h
    cases h
    rfl
  | none =>
    rw [howner] at h
    rw [if_pos rfl]
    cases hvars : firstRefusal TypeVariable.validate m.typeParameters with
    | error err' =>
      simp only [hvars] at h
      cases h
      obtain ⟨v, -, hv⟩ := exists_of_firstRefusal_error hvars
      exact TypeVariable.kind_of_validate_error hv
    | ok u =>
      simp only [hvars] at h
      obtain ⟨t, -, ht⟩ := exists_of_firstRefusal_error h
      exact kind_of_checkUse_error ht

/-- A member is refused exactly if it has an owner or its content is unfit, and the owner comes first. -/
theorem exists_checkMember_error_iff :
    (∃ err, checkMember m = .error err ∧ err.kind = k) ↔
      (m.owner ≠ none ∧ k = .invalidState) ∨ (m.owner = none ∧ ¬ m.Fit ∧ k = .invalidArgument) := by
  rw [exists_error_iff checkMember_eq_ok_iff fun _ => kind_of_checkMember_error]
  by_cases howner : m.owner = none
  · simp [howner]
  · simp [howner]

/-! ## Changes -/

namespace ClassDecl

/-- **Why a declaration refuses a change**, and of what kind the error is. -/
inductive Refused (d : ClassDecl) : Mutation → ErrorKind → Prop where
  /-- An interface has no superclass. -/
  | superclassOfInterface {t : JavaType} (h : d.isInterface = true) :
      Refused d (.setParent t) .unsupportedOperation
  | unfitSuperclass {t : JavaType} (h : d.isInterface = false) (ht : ¬ t.FitFor .superclass) :
      Refused d (.setParent t) .invalidArgument
  | unfitInterface {t : JavaType} (ht : ¬ t.FitFor .interface) :
      Refused d (.addInterface t) .invalidArgument
  | unboundedTypeParameter {v : TypeVariable} (hv : v.Unbounded) :
      Refused d (.addTypeParameter v) .invalidArgument
  /-- A member that belongs to a declaration is refused whatever it holds. -/
  | ownedMember {m : Member} (h : m.owner ≠ none) : Refused d (.addMember m) .invalidState
  | unfitMember {m : Member} (h : m.owner = none) (hm : ¬ m.Fit) :
      Refused d (.addMember m) .invalidArgument

variable {d : ClassDecl} {change : Mutation}

/-- **A change is refused exactly for the reasons that `Refused` lists**, and with their kinds. -/
theorem exists_check_error_iff :
    (∃ err, d.check change = .error err ∧ err.kind = k) ↔ d.Refused change k := by
  cases change with
  | setAccess _ | setArray _ | annotate _ | addImport _ =>
    constructor
    · rintro ⟨err, h, -⟩
      cases h
    · intro h
      cases h
  | addTypeParameter v =>
    have hcheck := exists_error_iff (k := k) v.validate_eq_ok_iff fun _ => v.kind_of_validate_error
    refine hcheck.trans ⟨?_, ?_⟩
    · rintro ⟨hv, rfl⟩
      exact .unboundedTypeParameter (Classical.not_not.mp hv)
    · intro h
      cases h with
      | unboundedTypeParameter hv => exact ⟨not_not_intro hv, rfl⟩
  | setParent t =>
    unfold check
    cases hint : d.isInterface with
    | true =>
      constructor
      · rintro ⟨err, h, rfl⟩
        cases h
        exact .superclassOfInterface hint
      · intro h
        cases h with
        | superclassOfInterface _ => exact ⟨_, rfl, rfl⟩
        | unfitSuperclass h _ => rw [hint] at h; cases h
    | false =>
      refine exists_checkSupertype_error_iff.trans ⟨?_, ?_⟩
      · rintro ⟨ht, rfl⟩
        exact .unfitSuperclass hint ht
      · intro h
        cases h with
        | superclassOfInterface h => rw [hint] at h; cases h
        | unfitSuperclass _ ht => exact ⟨ht, rfl⟩
  | addInterface t =>
    refine exists_checkSupertype_error_iff.trans ⟨?_, ?_⟩
    · rintro ⟨ht, rfl⟩
      exact .unfitInterface ht
    · intro h
      cases h with
      | unfitInterface ht => exact ⟨ht, rfl⟩
  | addMember m =>
    refine exists_checkMember_error_iff.trans ⟨?_, ?_⟩
    · rintro (⟨howner, rfl⟩ | ⟨howner, hm, rfl⟩)
      · exact .ownedMember howner
      · exact .unfitMember howner hm
    · intro h
      cases h with
      | ownedMember howner => exact Or.inl ⟨howner, rfl⟩
      | unfitMember howner hm => exact Or.inr ⟨howner, hm, rfl⟩

end ClassDecl
end JavaSource
