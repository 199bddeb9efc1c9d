import JavaSource.Member

/-!
# `Proofs.Piece.Basic` — whatever mentions classes

A *piece* is any structure in which class references stand: a type, one of its shapes on its own, an
annotation, a parameter or a member. `Piece.references` is the walk over it, whatever it is.
-/

namespace JavaSource

/-- A piece of structure that mentions classes. -/
inductive Piece where
  | type (t : JavaType)
  | typeVariable (v : TypeVariable)
  | wildcard (w : Wildcard)
  | parameterized (p : ParameterizedType)
  | annotation (a : Annotation)
  | parameter (p : Parameter)
  | member (m : Member)

/-- The classes that a piece mentions. -/
def Piece.references : Piece → List ClassRef
  | type t => t.references
  | typeVariable v => v.references
  | wildcard w => w.references
  | parameterized p => p.references
  | annotation a => a.references
  | parameter p => p.references
  | member m => m.references

end JavaSource
