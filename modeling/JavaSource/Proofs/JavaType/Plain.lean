import JavaSource.JavaType.Basic

/-!
# `Proofs.JavaType.Plain` — plain types and their parts

A *plain* type is one that source text can spell (`JavaType.IsPlain`): it declares nothing, has wildcards only
as type arguments, and marks no base of a generic class as an array. The same type can still be written down in
more than one way, for arrays of a class have two forms and absent bounds may be empty ones;
`JavaType.spelledOut` settles on one.

A plain type is its *core*, inside so many *dimensions* of arrays (`JavaType.core`, `JavaType.dimensions`,
`JavaType.spelledOut_eq`). The core is an atom of the type or a generic class (`JavaType.IsPlain.core_cases`).
-/

namespace JavaSource

/-- The reference without the flag of an array. -/
def ClassRef.unmarked (c : ClassRef) : ClassRef := { c with isArray := false }

theorem ClassRef.unmarked_of_not_isArray {c : ClassRef} (h : c.isArray = false) : c.unmarked = c := by
  unfold unmarked
  rw [← h]

namespace JavaType

/-! ## Plain types -/

mutual

/-- **A type that source text can spell**, where types other than type arguments stand. -/
inductive IsPlain : JavaType → Prop where
  | primitive {p : Primitive} : IsPlain (.primitive p)
  | ofClass {c : ClassRef} : IsPlain (.ofClass c)
  | array {element : JavaType} (h : IsPlain element) : IsPlain (.array element)
  | variableRef {name : String} : IsPlain (.variableRef name)
  | parameterized {base : ClassRef} {arguments : List JavaType} (hbase : base.isArray = false)
      (h : ∀ t ∈ arguments, IsPlainArgument t) : IsPlain (.parameterized base arguments)

/-- **A type argument that source text can spell**: a plain type, or a wildcard with plain bounds. -/
inductive IsPlainArgument : JavaType → Prop where
  | type {t : JavaType} (h : IsPlain t) : IsPlainArgument t
  | wildcard {upper lower : Option (List JavaType)} (hupper : ∀ t ∈ upper.getD [], IsPlain t)
      (hlower : ∀ t ∈ lower.getD [], IsPlain t) : IsPlainArgument (.wildcard upper lower)

end

/-! ## One form for each type -/

/-- A list of bounds that is not there if it is empty. -/
def presentBounds {α : Type} : List α → Option (List α)
  | [] => none
  | bounds => some bounds

theorem getD_presentBounds {α : Type} (bounds : List α) : (presentBounds bounds).getD [] = bounds := by
  cases bounds <;> rfl

theorem presentBounds_map {α β : Type} (f : α → β) (bounds : List α) :
    (presentBounds bounds).map (List.map f) = presentBounds (bounds.map f) := by
  cases bounds <;> rfl

/-- The type with every array of a class written as an array type, and every empty list of bounds left out. -/
def spelledOut : JavaType → JavaType :=
  fold {
    primitive := .primitive
    ofClass := fun c => if c.isArray then .array (.ofClass c.unmarked) else .ofClass c
    array := .array
    variableDecl := fun v => .variableDecl v.name
    variableRef := .variableRef
    wildcard := fun upper lower =>
      .wildcard (presentBounds (upper.getD [])) (presentBounds (lower.getD []))
    parameterized := .parameterized }

/-- The classes, type variables and primitives that a type is made of, the classes without the flag of an
    array. -/
def atoms : JavaType → List JavaType :=
  fold {
    primitive := fun p => [.primitive p]
    ofClass := fun c => [.ofClass c.unmarked]
    array := id
    variableDecl := fun _ bound more => (bound.toList ++ more).flatten
    variableRef := fun name => [.variableRef name]
    wildcard := fun upper lower => (upper.getD []).flatten ++ (lower.getD []).flatten
    parameterized := fun base arguments => .ofClass base.unmarked :: arguments.flatten }

/-- How many pairs of brackets end a type: one for every array around its core. -/
def dimensions : JavaType → Nat :=
  fold {
    primitive := fun _ => 0
    ofClass := fun c => c.isArray.toNat
    array := fun n => n + 1
    variableDecl := fun _ _ _ => 0
    variableRef := fun _ => 0
    wildcard := fun _ _ => 0
    parameterized := fun _ _ => 0 }

/-- What is left of a type without the arrays around it. -/
def core : JavaType → JavaType
  | .array element => element.core
  | .ofClass c => .ofClass c.unmarked
  | t => t

/-- An array with so many dimensions. -/
def arrays : Nat → JavaType → JavaType
  | 0, t => t
  | n + 1, t => .array (arrays n t)

section equations

variable (p : Primitive) (c : ClassRef) (t : JavaType) (name : String) (bound : Option JavaType)
  (ts : List JavaType) (upper lower : Option (List JavaType))

@[simp] theorem spelledOut_primitive : (primitive p).spelledOut = .primitive p := rfl
@[simp] theorem spelledOut_ofClass :
    (ofClass c).spelledOut = if c.isArray then .array (.ofClass c.unmarked) else .ofClass c := rfl
@[simp] theorem spelledOut_array : (array t).spelledOut = .array t.spelledOut := rfl
@[simp] theorem spelledOut_variableDecl :
    (variableDecl name bound ts).spelledOut =
      .variableDecl name (bound.map spelledOut) (ts.map spelledOut) := by
  simp [spelledOut, fold]
@[simp] theorem spelledOut_variableRef : (variableRef name).spelledOut = .variableRef name := rfl
@[simp] theorem spelledOut_wildcard :
    (wildcard upper lower).spelledOut =
      .wildcard (presentBounds ((upper.getD []).map spelledOut))
        (presentBounds ((lower.getD []).map spelledOut)) := by
  cases upper <;> cases lower <;> simp [spelledOut, fold]
@[simp] theorem spelledOut_parameterized :
    (parameterized c ts).spelledOut = .parameterized c (ts.map spelledOut) := by
  simp [spelledOut, fold]

@[simp] theorem atoms_primitive : (primitive p).atoms = [.primitive p] := rfl
@[simp] theorem atoms_ofClass : (ofClass c).atoms = [.ofClass c.unmarked] := rfl
@[simp] theorem atoms_array : (array t).atoms = t.atoms := rfl
@[simp] theorem atoms_variableDecl :
    (variableDecl name bound ts).atoms = (bound.toList ++ ts).flatMap atoms := by
  cases bound <;> simp [atoms, fold, List.flatMap]
@[simp] theorem atoms_variableRef : (variableRef name).atoms = [.variableRef name] := rfl
@[simp] theorem atoms_wildcard :
    (wildcard upper lower).atoms = (upper.getD []).flatMap atoms ++ (lower.getD []).flatMap atoms := by
  cases upper <;> cases lower <;> simp [atoms, fold, List.flatMap]
@[simp] theorem atoms_parameterized :
    (parameterized c ts).atoms = .ofClass c.unmarked :: ts.flatMap atoms := by
  simp [atoms, fold, List.flatMap]

@[simp] theorem dimensions_array : (array t).dimensions = t.dimensions + 1 := rfl
@[simp] theorem core_array : (array t).core = t.core := by rw [core]
@[simp] theorem core_ofClass : (ofClass c).core = .ofClass c.unmarked := by rw [core]

end equations

/-! ## Atoms -/

/-- A primitive, a class without the flag of an array, or a type variable. -/
inductive IsAtom : JavaType → Prop where
  | primitive {p : Primitive} : IsAtom (.primitive p)
  | ofClass {c : ClassRef} (h : c.isArray = false) : IsAtom (.ofClass c)
  | variableRef {name : String} : IsAtom (.variableRef name)

theorem isAtom_of_mem_atoms {t a : JavaType} (h : a ∈ t.atoms) : a.IsAtom := by
  induction t using induct with
  | primitive p =>
    rw [List.mem_singleton.mp h]
    exact .primitive
  | ofClass c =>
    rw [List.mem_singleton.mp h]
    exact .ofClass rfl
  | array element ih => exact ih h
  | variableDecl name bound more ihb ihm =>
    rw [atoms_variableDecl, List.mem_flatMap] at h
    obtain ⟨t, ht, ha⟩ := h
    rcases List.mem_append.mp ht with hbound | hmore
    · exact ihb t (Option.mem_toList.mp hbound) ha
    · exact ihm t hmore ha
  | variableRef name =>
    rw [List.mem_singleton.mp h]
    exact .variableRef
  | wildcard upper lower ihu ihl =>
    rw [atoms_wildcard, List.mem_append, List.mem_flatMap, List.mem_flatMap] at h
    rcases h with ⟨t, ht, ha⟩ | ⟨t, ht, ha⟩
    · exact forall_mem_getD_iff.mpr ihu t ht ha
    · exact forall_mem_getD_iff.mpr ihl t ht ha
  | parameterized base arguments ih =>
    rw [atoms_parameterized, List.mem_cons, List.mem_flatMap] at h
    rcases h with rfl | ⟨t, ht, ha⟩
    · exact .ofClass rfl
    · exact ih t ht ha

/-- The atoms of a part are among those of all parts. -/
theorem atoms_subset {ts A : List JavaType} {t : JavaType} (h : ts.flatMap atoms ⊆ A) (ht : t ∈ ts) :
    t.atoms ⊆ A :=
  fun _ ha => h (List.mem_flatMap.mpr ⟨t, ht, ha⟩)

/-- The name of a type variable, for a type that is just a use of it. -/
def asVariable? : JavaType → Option String
  | .variableRef name => some name
  | _ => none

/-- The classes in a type, without the flag of an array. -/
def classes (t : JavaType) : List ClassRef := t.atoms.filterMap asClass?

/-- The type variables that are used in a type. -/
def variableNames (t : JavaType) : List String := t.atoms.filterMap asVariable?

/-! ## Cores and dimensions -/

/-- **A type is its core inside its dimensions.** -/
theorem spelledOut_eq (t : JavaType) : t.spelledOut = arrays t.dimensions t.core.spelledOut := by
  induction t using induct with
  | primitive p => rfl
  | ofClass c =>
    rw [spelledOut_ofClass, core_ofClass]
    show _ = arrays c.isArray.toNat (.ofClass c.unmarked)
    cases h : c.isArray with
    | true => rfl
    | false =>
      rw [ClassRef.unmarked_of_not_isArray h]
      rfl
  | array element ih =>
    rw [spelledOut_array, ih, dimensions_array, core_array]
    rfl
  | variableDecl name bound more _ _ => rfl
  | variableRef name => rfl
  | wildcard upper lower _ _ => rfl
  | parameterized base arguments _ => rfl

theorem bare_arrays (n : Nat) (t : JavaType) : (arrays n t).bare = arrays n t.bare := by
  induction n with
  | zero => rfl
  | succ n ih =>
    rw [arrays, bare_array, ih]
    rfl

/-- What a type is, apart from how it is written down and from the flags of its classes. -/
def form (t : JavaType) : JavaType := t.spelledOut.bare

theorem form_eq (t : JavaType) : t.form = arrays t.dimensions t.core.form := by
  unfold form
  rw [← bare_arrays, ← spelledOut_eq]

theorem form_ofClass {c : ClassRef} (h : c.isArray = false) : (ofClass c).form = .ofClass c.bare := by
  unfold form
  rw [spelledOut_ofClass, h]
  rfl

theorem form_wildcard (upper lower : Option (List JavaType)) :
    (wildcard upper lower).form =
      .wildcard (presentBounds ((upper.getD []).map form)) (presentBounds ((lower.getD []).map form)) := by
  unfold form
  rw [spelledOut_wildcard, bare_wildcard, presentBounds_map, presentBounds_map, List.map_map, List.map_map]
  rfl

theorem form_parameterized (c : ClassRef) (ts : List JavaType) :
    (parameterized c ts).form = .parameterized c.bare (ts.map form) := by
  unfold form
  rw [spelledOut_parameterized, bare_parameterized, List.map_map]
  rfl

/-- **The core of a plain type is one of its atoms, or a generic class** with plain arguments. -/
theorem IsPlain.core_cases {t : JavaType} (h : t.IsPlain) :
    t.core ∈ t.atoms ∨ ∃ base arguments, t.core = .parameterized base arguments
      ∧ .ofClass base ∈ t.atoms ∧ ∀ a ∈ arguments, a.IsPlainArgument ∧ a.atoms ⊆ t.atoms := by
  induction t using induct with
  | primitive p => exact Or.inl List.mem_cons_self
  | ofClass c => exact Or.inl List.mem_cons_self
  | array element ih =>
    cases h with
    | array helement => exact ih helement
  | variableDecl name bound more _ _ => cases h
  | variableRef name => exact Or.inl List.mem_cons_self
  | wildcard upper lower _ _ => cases h
  | parameterized base arguments _ =>
    cases h with
    | parameterized hbase harguments =>
      refine Or.inr ⟨base, arguments, rfl, ?_, fun a ha => ⟨harguments a ha, ?_⟩⟩
      · rw [atoms_parameterized, ClassRef.unmarked_of_not_isArray hbase]
        exact List.mem_cons_self
      · rw [atoms_parameterized]
        exact atoms_subset (List.subset_cons_self _ _) ha

end JavaType
end JavaSource
