import JavaSource.ClassDecl.Mutation

/-!
# `ClassDecl.Procedure` — carrying changes out

`ClassDecl.apply` says at once what becomes of a change. Here a change is *carried out*, one action after
the other, on a `Draft`: a declaration with the log of its import list. A `Procedure` can fail between two
actions, and a failure undoes nothing. That a refused change leaves no trace is therefore a matter of the
order of the actions, with all checks before the first effect.

* `Procedure.exec` — the outcome of a procedure, and the draft it leaves behind.
* `Procedure.perform` — the procedure for a change.
-/

namespace JavaSource

/-- A declaration under construction, and what offers to its import list have logged. -/
structure Draft where
  decl : ClassDecl
  log : List ImportEvent := []
  deriving DecidableEq, Repr

/-- A sequence of actions on a draft. When it fails, the draft keeps what was done before. -/
abbrev Procedure (α : Type) := ExceptT DeclarationError (StateM Draft) α

namespace Procedure

/-- The outcome of a procedure on a draft, and the draft afterwards. -/
def exec {α : Type} (p : Procedure α) (w : Draft) : Except DeclarationError α × Draft :=
  StateT.run (ExceptT.run p) w

/-! ## Actions -/

/-- Changes the declaration. -/
def edit (f : ClassDecl → ClassDecl) : Procedure Unit := modify fun w => { w with decl := f w.decl }

/-- Goes on if a check has succeeded, and fails with its error otherwise. -/
def require (outcome : Except DeclarationError Unit) : Procedure Unit := MonadExcept.ofExcept outcome

/-- Offers a class to the import list on behalf of the declaration's package, and tells whether it was
    added. -/
def offer (c : ClassRef) : Procedure Bool := do
  let w ← get
  let owner := some w.decl.package
  set ({ decl := { w.decl with imports := w.decl.imports.offer owner c }
         log := w.log ++ (w.decl.imports.offerEvent? owner c).toList } : Draft)
  return w.decl.imports.decision owner c == .added

/-- Offers classes one by one. -/
def offerAll (cs : List ClassRef) : Procedure Unit := cs.forM fun c => discard (offer c)

/-! ## Changes -/

def setAccess (a : Access) : Procedure Unit := edit fun d => { d with access := a }

def setArray (flag : Bool) : Procedure Unit := edit fun d => { d with isArray := flag }

def addAnnotation (a : Annotation) : Procedure Unit := do
  offerAll a.references
  edit fun d => { d with annotations := d.annotations ++ [a] }

/-- Imports a class explicitly, under the rules for derived imports; tells whether it was added. -/
def addImport (c : ClassRef) : Procedure Bool := offer c

def addTypeParameter (v : TypeVariable) : Procedure Unit := do
  require v.validate
  offerAll v.references
  edit fun d => { d with typeParameters := d.typeParameters ++ [v] }

/-- Sets the superclass. Interfaces have none, whatever type is given. -/
def setParent (t : JavaType) : Procedure Unit := do
  let w ← get
  if w.decl.isInterface then throw (.superclassOfInterface w.decl.name)
  require (checkSupertype .superclass t)
  offerAll t.references
  edit fun d => { d with parent := some t }

def addInterface (t : JavaType) : Procedure Unit := do
  require (checkSupertype .interface t)
  offerAll t.references
  edit fun d => { d with interfaces := d.interfaces ++ [t] }

/-- Attaches a member as it is. -/
def attach (m : Member) : Procedure Unit := do
  require (checkMember m)
  offerAll m.references
  edit fun d => { d with members := d.members ++ [m.withOwner d.toRef] }

def addField (f : Field) : Procedure Unit := attach (.field f)

/-- Attaches a method. It is made abstract for an interface before it is checked. -/
def addMethod (m : Method) : Procedure Unit := do
  let w ← get
  attach (.method (if w.decl.isInterface then { m with isAbstract := true } else m))

def addConstructor (c : Constructor) : Procedure Unit := attach (.constructor c)

/-- Attaches a member in the way of its kind. -/
def addMember : Member → Procedure Unit
  | .field f => addField f
  | .method m => addMethod m
  | .constructor c => addConstructor c

/-- Carries a change out. -/
def perform : Mutation → Procedure Unit
  | .setAccess a => setAccess a
  | .setArray flag => setArray flag
  | .annotate a => addAnnotation a
  | .addImport c => discard (addImport c)
  | .addTypeParameter v => addTypeParameter v
  | .setParent t => setParent t
  | .addInterface t => addInterface t
  | .addMember m => addMember m

end Procedure
end JavaSource
