import JavaSource.ClassRef

/-!
# `Annotation` — annotations and access modifiers

What declarations and members carry in front of themselves.
-/

namespace JavaSource

/-- A use of an annotation, with the text of its single element if it has one. -/
structure Annotation where
  annotationClass : ClassRef
  value : Option String := none
  deriving DecidableEq, Repr, Inhabited

/-- The annotation with its class reference bare. -/
def Annotation.bare (a : Annotation) : Annotation := { a with annotationClass := a.annotationClass.bare }

/-- The class an annotation mentions. -/
def Annotation.references (a : Annotation) : List ClassRef := [a.annotationClass]

/-- Who may use a declaration or a member. -/
inductive Access where
  | publicAccess
  | protectedAccess
  | packageAccess
  | privateAccess
  deriving DecidableEq, Repr, Inhabited

/-- The modifier in source text; access within the package is written by no word at all. -/
def Access.keyword : Access → String
  | .publicAccess => "public"
  | .protectedAccess => "protected"
  | .packageAccess => ""
  | .privateAccess => "private"

end JavaSource
