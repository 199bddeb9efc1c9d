import JavaSource.ClassDecl.Basic
import JavaSource.ClassDecl.Error

/-!
# `ClassDecl.Mutation` — changing a declaration

A change is a value of type `Mutation`. It is *checked* first, and a refused change leaves everything as
it was; then it is *recorded*, and the classes it mentions are offered to the import list on behalf of the
declaration's package. Whether a change is refused depends on the change and on the kind of the
declaration alone.

* `ClassDecl.check` — why a change is refused.
* `ClassDecl.apply` — the declaration after a change, or the refusal.
* `ClassDecl.run` — the declaration after a list of changes, refused ones left out.
* `ClassDecl.Reachable` — the declarations that changes can lead to from an empty one.
-/

namespace JavaSource

/-- A change of a declaration. -/
inductive Mutation where
  | setAccess (a : Access)
  | setArray (flag : Bool)
  | annotate (a : Annotation)
  | addImport (c : ClassRef)
  | addTypeParameter (v : TypeVariable)
  | setParent (t : JavaType)
  | addInterface (t : JavaType)
  | addMember (m : Member)
  deriving DecidableEq, Repr

/-- The classes that a change offers to the import list. -/
def Mutation.candidates : Mutation → List ClassRef
  | .setAccess _ | .setArray _ => []
  | .annotate a => a.references
  | .addImport c => [c]
  | .addTypeParameter v => v.references
  | .setParent t | .addInterface t => t.references
  | .addMember m => m.references

/-! ## Checks -/

/-- A type that is used declares no type variable. -/
def checkUse (site : UseSite) (t : JavaType) : Except DeclarationError Unit :=
  match t.firstDeclaration? with
  | some v => .error (.declaredAtUseSite site v.name)
  | none => .ok ()

/-- A supertype is headed by a class of the right kind and declares no type variable. -/
def checkSupertype (role : SupertypeRole) (t : JavaType) : Except DeclarationError Unit :=
  match t.headClass? with
  | none => .error (.notAClassType role t)
  | some head =>
    if head.kind = role.kind then checkUse (.supertype role) t else .error (.wrongKind role head)

/-- The first refusal of a list of checks. -/
def firstRefusal {α : Type} (test : α → Except DeclarationError Unit) :
    List α → Except DeclarationError Unit
  | [] => .ok ()
  | a :: rest =>
    match test a with
    | .error e => .error e
    | .ok () => firstRefusal test rest

/-- A member can be attached when it has no owner, all its type parameters are bounded, and the types it
    uses declare nothing. -/
def checkMember (m : Member) : Except DeclarationError Unit :=
  match m.owner with
  | some owner => .error (.alreadyOwned m.memberName owner)
  | none =>
    match firstRefusal TypeVariable.validate m.typeParameters with
    | .error e => .error e
    | .ok () => firstRefusal (checkUse (.member m.memberName)) m.useSites

namespace ClassDecl

/-- Why a change is refused, if it is. -/
def check (d : ClassDecl) : Mutation → Except DeclarationError Unit
  | .setAccess _ | .setArray _ | .annotate _ | .addImport _ => .ok ()
  | .addTypeParameter v => v.validate
  | .setParent t =>
    if d.isInterface then .error (.superclassOfInterface d.name) else checkSupertype .superclass t
  | .addInterface t => checkSupertype .interface t
  | .addMember m => checkMember m

/-! ## Effects -/

/-- The declaration with a change recorded, its imports aside. -/
def record (d : ClassDecl) : Mutation → ClassDecl
  | .setAccess a => { d with access := a }
  | .setArray flag => { d with isArray := flag }
  | .annotate a => { d with annotations := d.annotations ++ [a] }
  | .addImport _ => d
  | .addTypeParameter v => { d with typeParameters := d.typeParameters ++ [v] }
  | .setParent t => { d with parent := some t }
  | .addInterface t => { d with interfaces := d.interfaces ++ [t] }
  | .addMember m => { d with members := d.members ++ [d.adopted m] }

/-- The import list after a change. -/
def importsAfter (d : ClassDecl) (m : Mutation) : ImportList :=
  d.imports.merge (some d.package) m.candidates

/-- The declaration after a change, or the reason why the change is refused. -/
def apply (d : ClassDecl) (m : Mutation) : Except DeclarationError ClassDecl :=
  match d.check m with
  | .error e => .error e
  | .ok () => .ok { d.record m with imports := d.importsAfter m }

/-- What a change logs: nothing if it is refused. -/
def applyEvents (d : ClassDecl) (m : Mutation) : List ImportEvent :=
  match d.check m with
  | .error _ => []
  | .ok () => d.imports.mergeEvents (some d.package) m.candidates

/-- Does the import list take the class when it is offered? -/
def wouldImport (d : ClassDecl) (c : ClassRef) : Bool :=
  d.imports.decision (some d.package) c == .added

/-! ## Runs -/

/-- The declaration after a change; a refused change changes nothing. -/
def step (d : ClassDecl) (m : Mutation) : ClassDecl :=
  match d.apply m with
  | .ok e => e
  | .error _ => d

/-- The declaration after a list of changes. -/
def run (d : ClassDecl) : List Mutation → ClassDecl
  | [] => d
  | m :: ms => (d.step m).run ms

/-- The declarations that changes lead to from an empty one. -/
inductive Reachable : ClassDecl → Prop
  | fresh (package : Package) (name : String) (kind : ClassKind) : Reachable (fresh package name kind)
  | ofRef (c : ClassRef) : Reachable (ofRef c)
  | step {d : ClassDecl} (m : Mutation) : Reachable d → Reachable (d.step m)

theorem run_append (d : ClassDecl) (ms ns : List Mutation) :
    d.run (ms ++ ns) = (d.run ms).run ns := by
  induction ms generalizing d with
  | nil => rfl
  | cons m ms ih => exact ih (d.step m)

/-- Whatever a list of changes leads to is reachable. -/
theorem Reachable.run {d : ClassDecl} (h : Reachable d) (ms : List Mutation) :
    Reachable (d.run ms) := by
  induction ms generalizing d with
  | nil => exact h
  | cons m ms ih => exact ih (.step m h)

end ClassDecl
end JavaSource
