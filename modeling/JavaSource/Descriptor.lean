import JavaSource.ClassDecl.Basic

/-!
# `Descriptor` — classes described from outside

A class that is known only by data, say a row of a schema file, is given by a `Descriptor`: a package
name as it was written, a simple name, and whether it is an interface. `Descriptor.ofQualifiedName` reads
the name of a class as tools print it: the package ends at the last dot, and a nested class stands after
the last dollar sign.
-/

namespace JavaSource
open Text

/-- The description of a class. The package is kept as written. -/
structure Descriptor where
  package : Option String
  name : String
  isInterface : Bool := false
  deriving DecidableEq, Repr, Inhabited

/-- Reads a qualified name; blanks around it do not count. -/
def Descriptor.ofQualifiedName (qualified : String) : Descriptor :=
  let text := trim qualified.toList
  match splitLast '.' text with
  | some (package, binaryName) =>
    { package := some (String.ofList package), name := String.ofList (afterLast '$' binaryName) }
  | none => { package := none, name := String.ofList (afterLast '$' text) }

/-- The kind of the described class. -/
def Descriptor.kind (d : Descriptor) : ClassKind := if d.isInterface then .interface else .ordinary

/-- The reference to the described class. The package name is read as a dotted name, and a missing one
    means the default package. -/
def ClassRef.ofDescriptor (d : Descriptor) : ClassRef :=
  { package := some ((d.package.map Package.ofDotted).getD .unnamed), name := d.name, kind := d.kind }

/-- An empty declaration of the described class. -/
def ClassDecl.ofDescriptor (d : Descriptor) : ClassDecl := ClassDecl.ofRef (.ofDescriptor d)

end JavaSource
