import JavaSource.Package

/-!
# `ClassRef` — references to classes and interfaces

A reference names a class by package and simple name, and carries two flags that say how it is used here:
whether it is a class or an interface, and whether it stands for an array of that class. Two references
are to the *same class* (`ClassRef.Same`) when name and package agree; the flags are no part of that.
-/

namespace JavaSource
open Text

/-- An ordinary class, or an interface. -/
inductive ClassKind where
  | ordinary
  | interface
  deriving DecidableEq, Repr, Inhabited

/-- The word that introduces a declaration of the kind. -/
def ClassKind.keyword : ClassKind → String
  | .ordinary => "class"
  | .interface => "interface"

/-- A reference to a named class or interface. A reference without a package is one that is taken to be
    in scope already. -/
structure ClassRef where
  package : Option Package
  name : String
  kind : ClassKind := .ordinary
  isArray : Bool := false
  deriving DecidableEq, Repr, Inhabited

namespace ClassRef

/-- A class of a package. -/
def ofPackage (package : Package) (name : String) : ClassRef := { package := some package, name }

/-- A class without a package. -/
def unpackaged (name : String) : ClassRef := { package := none, name }

/-- The name of the package, if the reference has one. -/
def packageName? (c : ClassRef) : Option String := c.package.map Package.name

/-- The package the class belongs to when a missing package counts as the default one. -/
def homePackage (c : ClassRef) : Package := c.package.getD .unnamed

theorem homePackage_of_package {c : ClassRef} {p : Package} (h : c.package = some p) :
    c.homePackage = p := by
  unfold homePackage
  rw [h]
  rfl

def isInterface (c : ClassRef) : Bool := c.kind == .interface

/-- Is this a class of `java.lang`? -/
def isSystem (c : ClassRef) : Bool := c.package.any Package.isJavaLang

/-- `package.Name`, and the bare name for a class without a package or in the default one. -/
def fullName (c : ClassRef) : String :=
  match c.package with
  | some p => if p.isDefault then c.name else p.name ++ "." ++ c.name
  | none => c.name

/-- `"[]"` for an array of the class. -/
def arraySuffix (c : ClassRef) : String := if c.isArray then "[]" else ""

/-- The reference to the same class with both flags at their defaults. -/
def bare (c : ClassRef) : ClassRef := { package := c.package, name := c.name }

/-- Two references are to the same class when name and package agree. -/
def Same (c d : ClassRef) : Prop := c.name = d.name ∧ c.package = d.package

instance (c d : ClassRef) : Decidable (c.Same d) := inferInstanceAs (Decidable (_ ∧ _))

theorem Same.refl (c : ClassRef) : c.Same c := ⟨rfl, rfl⟩

theorem Same.symm {c d : ClassRef} (h : c.Same d) : d.Same c := ⟨h.1.symm, h.2.symm⟩

theorem Same.trans {c d e : ClassRef} (h : c.Same d) (g : d.Same e) : c.Same e :=
  ⟨h.1.trans g.1, h.2.trans g.2⟩

theorem same_iff_bare_eq {c d : ClassRef} : c.Same d ↔ c.bare = d.bare := by
  simp [Same, bare, and_comm]

end ClassRef
end JavaSource
