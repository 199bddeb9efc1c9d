import JavaSource.ImportList
import JavaSource.Member

/-!
# `ClassDecl` — a declared class or interface with its imports

A declaration has the shape of a Java class: head, members, and the list of imports that its parts call
for. This module has the data and its views; `ClassDecl.Mutation` has the changes.
-/

namespace JavaSource

/-- A class or interface under construction. -/
structure ClassDecl where
  package : Package
  name : String
  kind : ClassKind
  access : Access := .publicAccess
  isArray : Bool := false
  annotations : List Annotation := []
  typeParameters : List TypeVariable := []
  parent : Option JavaType := none
  interfaces : List JavaType := []
  members : List Member := []
  imports : ImportList := {}
  deriving DecidableEq, Repr

namespace ClassDecl

/-- An empty declaration. -/
def fresh (package : Package) (name : String) (kind : ClassKind) : ClassDecl := { package, name, kind }

/-- An empty declaration of the class that a reference names. A missing package becomes the default
    one. -/
def ofRef (c : ClassRef) : ClassDecl :=
  { package := c.homePackage, name := c.name, kind := c.kind, isArray := c.isArray }

/-- The reference to the declared class. -/
def toRef (d : ClassDecl) : ClassRef :=
  { package := some d.package, name := d.name, kind := d.kind, isArray := d.isArray }

def fullName (d : ClassDecl) : String := d.toRef.fullName

/-- The declared class as a type. -/
def toType (d : ClassDecl) : JavaType := .ofClass d.toRef

def isInterface (d : ClassDecl) : Bool := d.kind == .interface

/-- Is the declared class one of `java.lang`? -/
def isSystem (d : ClassDecl) : Bool := d.package.isJavaLang

/-- Two declarations are of the same class when package and name agree, whatever they contain. -/
def Same (d e : ClassDecl) : Prop := d.name = e.name ∧ d.package = e.package

instance (d e : ClassDecl) : Decidable (d.Same e) := inferInstanceAs (Decidable (_ ∧ _))

def fields (d : ClassDecl) : List Field := d.members.filterMap Member.asField?

def methods (d : ClassDecl) : List Method := d.members.filterMap Member.asMethod?

def constructors (d : ClassDecl) : List Constructor := d.members.filterMap Member.asConstructor?

/-- The classes that the parts of the declaration mention. -/
def references (d : ClassDecl) : List ClassRef :=
  d.annotations.flatMap Annotation.references ++ d.typeParameters.flatMap TypeVariable.references
    ++ d.parent.toList.flatMap JavaType.references ++ d.interfaces.flatMap JavaType.references
    ++ d.members.flatMap Member.references

/-- The member as it stands in the declaration: owned by it, and abstract if it is a method of an
    interface. -/
def adopted (d : ClassDecl) (m : Member) : Member :=
  (if d.isInterface then m.abstracted else m).withOwner d.toRef

end ClassDecl
end JavaSource
