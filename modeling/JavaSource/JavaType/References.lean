import JavaSource.JavaType.Basic

/-!
# `JavaType.References` — the classes that a type mentions

`references` lists every class reference that stands in a type, depth first. A class is a leaf: what it
declares is not looked at, so the walk is over the type alone. The lower bounds of a wildcard come before
its upper ones, the base of a generic class before its arguments.
-/

namespace JavaSource
namespace JavaType

/-- The class references in a type, in walking order. -/
def references : JavaType → List ClassRef :=
  fold {
    primitive := fun _ => []
    ofClass := fun c => [c]
    array := id
    variableDecl := fun _ bound more => bound.getD [] ++ more.flatten
    variableRef := fun _ => []
    wildcard := fun upper lower => (lower.getD []).flatten ++ (upper.getD []).flatten
    parameterized := fun base ts => base :: ts.flatten }

section references

variable (p : Primitive) (c : ClassRef) (t : JavaType) (name : String) (bound : Option JavaType)
  (ts : List JavaType) (upper lower : Option (List JavaType))

@[simp] theorem references_primitive : (primitive p).references = [] := rfl
@[simp] theorem references_ofClass : (ofClass c).references = [c] := rfl
@[simp] theorem references_array : (array t).references = t.references := rfl
@[simp] theorem references_variableDecl :
    (variableDecl name bound ts).references = (bound.toList ++ ts).flatMap references := by
  cases bound <;> simp [references, fold, List.flatMap]
@[simp] theorem references_variableRef : (variableRef name).references = [] := rfl
@[simp] theorem references_wildcard :
    (wildcard upper lower).references =
      (lower.getD []).flatMap references ++ (upper.getD []).flatMap references := by
  cases upper <;> cases lower <;> simp [references, fold, List.flatMap]
@[simp] theorem references_parameterized :
    (parameterized c ts).references = c :: ts.flatMap references := by
  simp [references, fold, List.flatMap]

end references

end JavaType

/-- The class references in the bounds of a type variable. -/
def TypeVariable.references (v : TypeVariable) : List ClassRef := v.bounds.flatMap JavaType.references

/-- The class references in the bounds of a wildcard, lower bounds first. -/
def Wildcard.references (w : Wildcard) : List ClassRef :=
  (w.lower.getD []).flatMap JavaType.references ++ (w.upper.getD []).flatMap JavaType.references

/-- The base of a generic class and the class references in its arguments. -/
def ParameterizedType.references (p : ParameterizedType) : List ClassRef :=
  p.base :: p.arguments.flatMap JavaType.references

theorem TypeVariable.references_toType (v : TypeVariable) : v.toType.references = v.references := by
  simp [toType, references, bounds]

theorem Wildcard.references_toType (w : Wildcard) : w.toType.references = w.references := by
  simp [toType, references]

theorem ParameterizedType.references_toType (p : ParameterizedType) :
    p.toType.references = p.references := by
  simp [toType, references]

end JavaSource
