import JavaSource.Annotation
import JavaSource.JavaType.References

/-!
# `Member` — fields, methods and constructors

Members are built on their own and then attached to a declaration, which becomes their owner. All kinds
share a `MemberHeader`. `Member.references` lists the classes that a member mentions, its owner aside:
bounds of its type parameters, annotations, and then the types it uses.
-/

namespace JavaSource

/-- What every member carries: its owner once attached, its access, its annotations. -/
structure MemberHeader where
  owner : Option ClassRef := none
  access : Access := .privateAccess
  annotations : List Annotation := []
  deriving DecidableEq, Repr, Inhabited

/-- A parameter of a method or constructor. -/
structure Parameter where
  type : JavaType
  name : String
  deriving DecidableEq, Repr, Inhabited

structure Field where
  header : MemberHeader := {}
  type : JavaType
  name : String
  isStatic : Bool := false
  isFinal : Bool := false
  deriving DecidableEq, Repr, Inhabited

/-- A method. It may have no body, which differs from an empty one only in the model. -/
structure Method where
  header : MemberHeader := {}
  name : String
  returnType : JavaType
  parameters : List Parameter := []
  typeParameters : List TypeVariable := []
  isAbstract : Bool := false
  isStatic : Bool := false
  isFinal : Bool := false
  body : Option (List String) := none
  deriving DecidableEq, Repr, Inhabited

structure Constructor where
  header : MemberHeader := {}
  parameters : List Parameter := []
  typeParameters : List TypeVariable := []
  body : Option (List String) := none
  deriving DecidableEq, Repr, Inhabited

inductive Member where
  | field (f : Field)
  | method (m : Method)
  | constructor (c : Constructor)
  deriving DecidableEq, Repr

/-- How a message names a member. -/
inductive MemberName where
  | field (name : String)
  | method (name : String)
  | constructor
  deriving DecidableEq, Repr, Inhabited

def MemberName.describe : MemberName → String
  | .field name => "field `" ++ name ++ "`"
  | .method name => "method `" ++ name ++ "`"
  | .constructor => "constructor"

namespace Member

def memberName : Member → MemberName
  | .field f => .field f.name
  | .method m => .method m.name
  | .constructor _ => .constructor

def header : Member → MemberHeader
  | .field f => f.header
  | .method m => m.header
  | .constructor c => c.header

/-- Replaces the header by a function of it. -/
def mapHeader (g : MemberHeader → MemberHeader) : Member → Member
  | .field f => .field { f with header := g f.header }
  | .method m => .method { m with header := g m.header }
  | .constructor c => .constructor { c with header := g c.header }

def owner (m : Member) : Option ClassRef := m.header.owner

def annotations (m : Member) : List Annotation := m.header.annotations

def withOwner (m : Member) (c : ClassRef) : Member := m.mapHeader fun h => { h with owner := some c }

/-- Makes a method abstract and leaves other members as they are. -/
def abstracted : Member → Member
  | .method m => .method { m with isAbstract := true }
  | member => member

/-- The type parameters of a member; a field has none. -/
def typeParameters : Member → List TypeVariable
  | .field _ => []
  | .method m => m.typeParameters
  | .constructor c => c.typeParameters

def parameters : Member → List Parameter
  | .field _ => []
  | .method m => m.parameters
  | .constructor c => c.parameters

/-- The types a member uses: the type of a field or the return type of a method, then the types of the
    parameters. -/
def useSites : Member → List JavaType
  | .field f => [f.type]
  | .method m => m.returnType :: m.parameters.map Parameter.type
  | .constructor c => c.parameters.map Parameter.type

def asField? : Member → Option Field
  | .field f => some f
  | _ => none

def asMethod? : Member → Option Method
  | .method m => some m
  | _ => none

def asConstructor? : Member → Option Constructor
  | .constructor c => some c
  | _ => none

end Member

/-! ## References -/

def Parameter.references (p : Parameter) : List ClassRef := p.type.references

def Field.references (f : Field) : List ClassRef :=
  f.header.annotations.flatMap Annotation.references ++ f.type.references

def Method.references (m : Method) : List ClassRef :=
  m.typeParameters.flatMap TypeVariable.references ++ m.header.annotations.flatMap Annotation.references
    ++ m.returnType.references ++ m.parameters.flatMap Parameter.references

def Constructor.references (c : Constructor) : List ClassRef :=
  c.typeParameters.flatMap TypeVariable.references ++ c.header.annotations.flatMap Annotation.references
    ++ c.parameters.flatMap Parameter.references

/-- The classes a member mentions. -/
def Member.references : Member → List ClassRef
  | .field f => f.references
  | .method m => m.references
  | .constructor c => c.references

/-! ## Members up to the flags of class references -/

def Parameter.bare (p : Parameter) : Parameter := { p with type := p.type.bare }

def MemberHeader.bare (h : MemberHeader) : MemberHeader :=
  { h with owner := h.owner.map ClassRef.bare, annotations := h.annotations.map Annotation.bare }

/-- The member with every class reference bare. -/
def Member.bare : Member → Member
  | .field f => .field { f with header := f.header.bare, type := f.type.bare }
  | .method m =>
    .method { m with
      header := m.header.bare
      returnType := m.returnType.bare
      parameters := m.parameters.map Parameter.bare
      typeParameters := m.typeParameters.map TypeVariable.bare }
  | .constructor c =>
    .constructor { c with
      header := c.header.bare
      parameters := c.parameters.map Parameter.bare
      typeParameters := c.typeParameters.map TypeVariable.bare }

/-- Two members are the same when they differ at most in the flags of their class references. -/
def Member.Same (m n : Member) : Prop := m.bare = n.bare

instance (m n : Member) : Decidable (m.Same n) := inferInstanceAs (Decidable (_ = _))

/-! ## Edits -/

/-- One step in building a member. -/
inductive MemberEdit where
  | access (a : Access)
  | annotate (a : Annotation)
  | setStatic (flag : Bool)
  | setFinal (flag : Bool)
  | setAbstract (flag : Bool)
  | parameter (p : Parameter)
  | typeParameter (v : TypeVariable)
  | body (lines : List String)
  deriving DecidableEq, Repr

/-- Applies a step, if the member is of a kind that knows it. -/
def Member.edit? : Member → MemberEdit → Option Member
  | m, .access a => some (m.mapHeader fun h => { h with access := a })
  | m, .annotate a => some (m.mapHeader fun h => { h with annotations := h.annotations ++ [a] })
  | .field f, .setStatic flag => some (.field { f with isStatic := flag })
  | .field f, .setFinal flag => some (.field { f with isFinal := flag })
  | .method m, .setStatic flag => some (.method { m with isStatic := flag })
  | .method m, .setFinal flag => some (.method { m with isFinal := flag })
  | .method m, .setAbstract flag => some (.method { m with isAbstract := flag })
  | .method m, .parameter p => some (.method { m with parameters := m.parameters ++ [p] })
  | .constructor c, .parameter p => some (.constructor { c with parameters := c.parameters ++ [p] })
  | .method m, .typeParameter v => some (.method { m with typeParameters := m.typeParameters ++ [v] })
  | .constructor c, .typeParameter v =>
    some (.constructor { c with typeParameters := c.typeParameters ++ [v] })
  | .method m, .body lines => some (.method { m with body := some lines })
  | .constructor c, .body lines => some (.constructor { c with body := some lines })
  | _, _ => none

end JavaSource
