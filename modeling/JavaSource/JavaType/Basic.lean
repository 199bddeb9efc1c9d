import JavaSource.ClassRef

/-!
# `JavaType` — the closed taxonomy of types

A type is a primitive, a class, an array, the declaration of a type variable, a use of one, a wildcard, or
a generic class with arguments. The three shapes with parts of their own also stand alone, as
`TypeVariable`, `Wildcard` and `ParameterizedType`; `toType` makes a type of each.

* `JavaType.induct` — the induction principle that every statement about types uses.
* `JavaType.fold` — the one recursion over types; every function on types is a fold of some `Algebra`.
* `JavaType.bare` — a type with the flags of all its class references at their defaults; two types are
  the *same* (`JavaType.Same`) when their bare forms are equal.
* `JavaType.firstDeclaration?` — the first type variable declared in a type.
-/

namespace JavaSource

/-- The primitive types, with `void`. -/
inductive Primitive where
  | boolean | byte | char | short | int | long | float | double | void
  deriving DecidableEq, Repr, Inhabited

namespace Primitive

/-- All primitives. -/
def all : List Primitive :=
  [.boolean, .byte, .char, .short, .int, .long, .float, .double, .void]

/-- The keyword of a primitive. -/
def keyword : Primitive → String
  | .boolean => "boolean"
  | .byte => "byte"
  | .char => "char"
  | .short => "short"
  | .int => "int"
  | .long => "long"
  | .float => "float"
  | .double => "double"
  | .void => "void"

/-- The primitive with a given keyword. -/
def ofKeyword? (word : String) : Option Primitive :=
  all.find? fun p => p.keyword == word

theorem ofKeyword?_keyword (p : Primitive) : ofKeyword? p.keyword = some p := by
  cases p <;> decide

end Primitive

/-- A type. A wildcard tells an absent list of bounds from an empty one. -/
inductive JavaType where
  | primitive (p : Primitive)
  | ofClass (c : ClassRef)
  | array (element : JavaType)
  | variableDecl (name : String) (bound : Option JavaType) (moreBounds : List JavaType)
  | variableRef (name : String)
  | wildcard (upper lower : Option (List JavaType))
  | parameterized (base : ClassRef) (arguments : List JavaType)
  deriving Repr, Inhabited

/-- A declared type parameter: a name, a first bound and further ones. It may be built without a bound,
    but not attached to a declaration so (`TypeVariable.isBounded`). -/
structure TypeVariable where
  name : String
  bound : Option JavaType := none
  moreBounds : List JavaType := []
  deriving Repr, Inhabited

/-- `?`, `? extends A & B`, `? super C`. -/
structure Wildcard where
  upper : Option (List JavaType) := none
  lower : Option (List JavaType) := none
  deriving Repr, Inhabited

/-- A generic class with its arguments. -/
structure ParameterizedType where
  base : ClassRef
  arguments : List JavaType
  deriving Repr, Inhabited

namespace TypeVariable

/-- The declaration as a type. -/
def toType (v : TypeVariable) : JavaType := .variableDecl v.name v.bound v.moreBounds

/-- A use of the variable. -/
def reference (v : TypeVariable) : JavaType := .variableRef v.name

/-- All bounds, the first one first. -/
def bounds (v : TypeVariable) : List JavaType := v.bound.toList ++ v.moreBounds

/-- Has the variable a bound at all? -/
def isBounded (v : TypeVariable) : Bool := v.bound.isSome || !v.moreBounds.isEmpty

end TypeVariable

/-- The wildcard as a type. -/
def Wildcard.toType (w : Wildcard) : JavaType := .wildcard w.upper w.lower

/-- The generic class with its arguments as a type. -/
def ParameterizedType.toType (p : ParameterizedType) : JavaType := .parameterized p.base p.arguments

namespace JavaType

def void : JavaType := .primitive .void

def isVoid : JavaType → Bool
  | .primitive .void => true
  | _ => false

/-- The class, for a type that is just a class. -/
def asClass? : JavaType → Option ClassRef
  | .ofClass c => some c
  | _ => none

/-- The class at the head of a class type or a parameterized type. -/
def headClass? : JavaType → Option ClassRef
  | .ofClass c => some c
  | .parameterized base _ => some base
  | _ => none

/-! ## Induction -/

/-- Induction over types: a statement holds of every type if it holds of one whenever it holds of its
    parts. -/
@[elab_as_elim]
theorem induct {motive : JavaType → Prop}
    (primitive : ∀ p, motive (.primitive p))
    (ofClass : ∀ c, motive (.ofClass c))
    (array : ∀ element, motive element → motive (.array element))
    (variableDecl : ∀ name bound more, (∀ t ∈ bound, motive t) → (∀ t ∈ more, motive t) →
      motive (.variableDecl name bound more))
    (variableRef : ∀ name, motive (.variableRef name))
    (wildcard : ∀ upper lower, (∀ ts ∈ upper, ∀ t ∈ ts, motive t) →
      (∀ ts ∈ lower, ∀ t ∈ ts, motive t) → motive (.wildcard upper lower))
    (parameterized : ∀ base arguments, (∀ t ∈ arguments, motive t) →
      motive (.parameterized base arguments))
    (t : JavaType) : motive t :=
  @JavaType.rec
    motive
    (fun bound => ∀ t ∈ bound, motive t)
    (fun ts => ∀ t ∈ ts, motive t)
    (fun bounds => ∀ ts ∈ bounds, ∀ t ∈ ts, motive t)
    primitive ofClass array variableDecl variableRef wildcard parameterized
    (fun _ h => nomatch h)
    (fun _ ht _ h => by cases h; exact ht)
    (fun _ h => nomatch h)
    (fun _ _ ht hts u hu => by
      rcases List.mem_cons.1 hu with rfl | hu
      · exact ht
      · exact hts u hu)
    (fun _ h => nomatch h)
    (fun _ hts _ h => by cases h; exact hts)
    t

/-- An absent list of bounds is as good as an empty one where every bound is spoken of. -/
theorem forall_mem_getD_iff {α : Type} {P : α → Prop} {bounds : Option (List α)} :
    (∀ a ∈ bounds.getD [], P a) ↔ ∀ as ∈ bounds, ∀ a ∈ as, P a := by
  cases bounds with
  | none => simp
  | some as => simp

/-! ## Folding -/

end JavaType

/-- What a fold over types does at each shape, given what it made of the parts. At the declaration of a
    type variable it is also given the declaration itself. -/
structure JavaType.Algebra (α : Type) where
  primitive : Primitive → α
  ofClass : ClassRef → α
  array : α → α
  variableDecl : TypeVariable → Option α → List α → α
  variableRef : String → α
  wildcard : Option (List α) → Option (List α) → α
  parameterized : ClassRef → List α → α

namespace JavaType

variable {α : Type}

mutual

/-- Folds a type, from its innermost parts outwards. -/
def fold (A : Algebra α) : JavaType → α
  | .primitive p => A.primitive p
  | .ofClass c => A.ofClass c
  | .array t => A.array (fold A t)
  | .variableDecl name bound more =>
    A.variableDecl { name, bound, moreBounds := more } (foldOption A bound) (foldList A more)
  | .variableRef name => A.variableRef name
  | .wildcard upper lower => A.wildcard (foldBounds A upper) (foldBounds A lower)
  | .parameterized base ts => A.parameterized base (foldList A ts)
termination_by structural t => t

def foldOption (A : Algebra α) : Option JavaType → Option α
  | none => none
  | some t => some (fold A t)
termination_by structural t => t

def foldList (A : Algebra α) : List JavaType → List α
  | [] => []
  | t :: ts => fold A t :: foldList A ts
termination_by structural ts => ts

def foldBounds (A : Algebra α) : Option (List JavaType) → Option (List α)
  | none => none
  | some ts => some (foldList A ts)
termination_by structural ts => ts

end

@[simp] theorem foldOption_eq_map (A : Algebra α) (t : Option JavaType) :
    foldOption A t = t.map (fold A) := by
  cases t <;> rfl

@[simp] theorem foldList_eq_map (A : Algebra α) (ts : List JavaType) :
    foldList A ts = ts.map (fold A) := by
  induction ts with
  | nil => rfl
  | cons t ts ih => simp [foldList, ih]

@[simp] theorem foldBounds_eq_map (A : Algebra α) (ts : Option (List JavaType)) :
    foldBounds A ts = ts.map (List.map (fold A)) := by
  cases ts <;> simp [foldBounds]

/-! ## Equality -/

/-- Do the items of a list pass the tests of a list, one each? -/
def passAll {β : Type} : List (β → Bool) → List β → Bool
  | [], [] => true
  | test :: tests, b :: bs => test b && passAll tests bs
  | _, _ => false

/-- Is an optional item there exactly if a test is, and does it pass it? -/
def passOption {β : Type} : Option (β → Bool) → Option β → Bool
  | none, none => true
  | some test, some b => test b
  | _, _ => false

/-- The test for being equal to a type, made of the tests for its parts. -/
def equalAlgebra : Algebra (JavaType → Bool) where
  primitive p
    | .primitive q => p == q
    | _ => false
  ofClass c
    | .ofClass d => c == d
    | _ => false
  array test
    | .array u => test u
    | _ => false
  variableDecl v bound more
    | .variableDecl name bound' more' => v.name == name && passOption bound bound' && passAll more more'
    | _ => false
  variableRef name
    | .variableRef name' => name == name'
    | _ => false
  wildcard upper lower
    | .wildcard upper' lower' =>
      passOption (upper.map passAll) upper' && passOption (lower.map passAll) lower'
    | _ => false
  parameterized base tests
    | .parameterized base' ts => base == base' && passAll tests ts
    | _ => false

/-- Are two types equal, flags of class references included? -/
def equal (t : JavaType) : JavaType → Bool := fold equalAlgebra t

theorem passAll_map_iff {ts us : List JavaType} (h : ∀ t ∈ ts, ∀ u, equal t u = true ↔ t = u) :
    passAll (ts.map equal) us = true ↔ ts = us := by
  induction ts generalizing us with
  | nil => cases us <;> simp [passAll]
  | cons t ts ih =>
    cases us with
    | nil => simp [passAll]
    | cons u us =>
      simp [passAll, h t (by simp) u, ih fun v hv => h v (List.mem_cons_of_mem _ hv)]

theorem passOption_map_iff {β : Type} {test : β → β → Bool} {o p : Option β}
    (h : ∀ b ∈ o, ∀ c, test b c = true ↔ b = c) : passOption (o.map test) p = true ↔ o = p := by
  cases o with
  | none => cases p <;> simp [passOption]
  | some b =>
    cases p with
    | none => simp [passOption]
    | some c => simpa [passOption] using h b rfl c

theorem equal_iff {t u : JavaType} : equal t u = true ↔ t = u := by
  have hfold : fold equalAlgebra = equal := rfl
  induction t using induct generalizing u with
  | primitive p => cases u <;> simp [equal, fold, equalAlgebra]
  | ofClass c => cases u <;> simp [equal, fold, equalAlgebra]
  | array t ih =>
    rw [equal, fold, hfold]
    cases u <;> simp [equalAlgebra, ih]
  | variableDecl name bound more ihb ihm =>
    have hbound := fun o => @passOption_map_iff _ equal bound o fun t ht u => ihb t ht
    have hmore := fun us => @passAll_map_iff more us fun t ht u => ihm t ht
    rw [equal, fold, foldOption_eq_map, foldList_eq_map, hfold]
    cases u <;> simp [equalAlgebra, hbound, hmore, and_assoc]
  | variableRef name => cases u <;> simp [equal, fold, equalAlgebra]
  | wildcard up lo ihu ihl =>
    have key : ∀ (o p : Option (List JavaType)),
        (∀ ts ∈ o, ∀ t ∈ ts, ∀ {u : JavaType}, equal t u = true ↔ t = u) →
        (passOption (o.map fun ts => passAll (ts.map equal)) p = true ↔ o = p) := by
      intro o p h
      exact passOption_map_iff fun ts hts us => passAll_map_iff fun t ht u => h ts hts t ht
    rw [equal, fold, foldBounds_eq_map, foldBounds_eq_map, hfold]
    cases u with
    | wildcard up' lo' =>
      simp only [equalAlgebra, Option.map_map, Bool.and_eq_true, wildcard.injEq]
      exact and_congr (key up up' ihu) (key lo lo' ihl)
    | _ => simp [equalAlgebra]
  | parameterized base ts ih =>
    have hargs := fun us => @passAll_map_iff ts us fun t ht u => ih t ht
    rw [equal, fold, foldList_eq_map, hfold]
    cases u <;> simp [equalAlgebra, hargs]

instance : DecidableEq JavaType := fun _ _ => decidable_of_iff _ equal_iff

/-! ## Types up to the flags of class references -/

/-- The type with every class reference bare. -/
def bare : JavaType → JavaType :=
  fold {
    primitive := .primitive
    ofClass := fun c => .ofClass c.bare
    array := .array
    variableDecl := fun v => .variableDecl v.name
    variableRef := .variableRef
    wildcard := .wildcard
    parameterized := fun base => .parameterized base.bare }

/-- Two types are the same when they differ at most in the flags of their class references. -/
def Same (t u : JavaType) : Prop := t.bare = u.bare

instance (t u : JavaType) : Decidable (t.Same u) := inferInstanceAs (Decidable (_ = _))

section bare

variable (p : Primitive) (c : ClassRef) (t : JavaType) (name : String) (bound : Option JavaType)
  (ts : List JavaType) (upper lower : Option (List JavaType))

@[simp] theorem bare_primitive : (primitive p).bare = .primitive p := rfl
@[simp] theorem bare_ofClass : (ofClass c).bare = .ofClass c.bare := rfl
@[simp] theorem bare_array : (array t).bare = .array t.bare := rfl
@[simp] theorem bare_variableDecl :
    (variableDecl name bound ts).bare = .variableDecl name (bound.map bare) (ts.map bare) := by
  simp [bare, fold]
@[simp] theorem bare_variableRef : (variableRef name).bare = .variableRef name := rfl
@[simp] theorem bare_wildcard :
    (wildcard upper lower).bare = .wildcard (upper.map (List.map bare)) (lower.map (List.map bare)) := by
  simp [bare, fold]
@[simp] theorem bare_parameterized :
    (parameterized c ts).bare = .parameterized c.bare (ts.map bare) := by
  simp [bare, fold]

end bare

/-! ## Declarations inside types -/

/-- The first type variable declared in a type, in the order in which its class references are listed:
    lower bounds of a wildcard before upper ones, arguments from left to right. -/
def firstDeclaration? : JavaType → Option TypeVariable :=
  fold {
    primitive := fun _ => none
    ofClass := fun _ => none
    array := id
    variableDecl := fun v _ _ => some v
    variableRef := fun _ => none
    wildcard := fun upper lower => ((lower.getD []).findSome? id).or ((upper.getD []).findSome? id)
    parameterized := fun _ ts => ts.findSome? id }

section firstDeclaration

variable (p : Primitive) (c : ClassRef) (t : JavaType) (name : String) (bound : Option JavaType)
  (ts : List JavaType) (upper lower : Option (List JavaType))

@[simp] theorem firstDeclaration?_primitive : (primitive p).firstDeclaration? = none := rfl
@[simp] theorem firstDeclaration?_ofClass : (ofClass c).firstDeclaration? = none := rfl
@[simp] theorem firstDeclaration?_array : (array t).firstDeclaration? = t.firstDeclaration? := rfl
@[simp] theorem firstDeclaration?_variableDecl :
    (variableDecl name bound ts).firstDeclaration? = some { name, bound, moreBounds := ts } := rfl
@[simp] theorem firstDeclaration?_variableRef : (variableRef name).firstDeclaration? = none := rfl
@[simp] theorem firstDeclaration?_wildcard :
    (wildcard upper lower).firstDeclaration? =
      ((lower.getD []).findSome? firstDeclaration?).or ((upper.getD []).findSome? firstDeclaration?) := by
  cases upper <;> cases lower <;> simp [firstDeclaration?, fold, List.findSome?_map]
@[simp] theorem firstDeclaration?_parameterized :
    (parameterized c ts).firstDeclaration? = ts.findSome? firstDeclaration? := by
  simp [firstDeclaration?, fold, List.findSome?_map]

end firstDeclaration

end JavaType

instance : DecidableEq TypeVariable
  | ⟨m, b, ts⟩, ⟨n, c, us⟩ =>
    decidable_of_iff (m = n ∧ b = c ∧ ts = us) (by simp)

instance : DecidableEq Wildcard
  | ⟨u, l⟩, ⟨v, m⟩ => decidable_of_iff (u = v ∧ l = m) (by simp)

instance : DecidableEq ParameterizedType
  | ⟨c, ts⟩, ⟨d, us⟩ => decidable_of_iff (c = d ∧ ts = us) (by simp)

/-- The variable with every class reference in its bounds bare. -/
def TypeVariable.bare (v : TypeVariable) : TypeVariable :=
  { name := v.name, bound := v.bound.map JavaType.bare, moreBounds := v.moreBounds.map JavaType.bare }

end JavaSource
