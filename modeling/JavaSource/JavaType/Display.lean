import JavaSource.JavaType.Basic

/-!
# `JavaType.Display` — types in messages

`display` writes a type with simple class names, as messages and logs show it. A declared variable shows
its bounds. The base of a generic class shows its name alone, without the mark of an array.
-/

namespace JavaSource
open Text

/-- A word with the bounds that follow it; nothing if there are none. -/
def boundsClause (word : String) : List String → String
  | [] => ""
  | bounds => " " ++ word ++ " " ++ joinWith " & " bounds

namespace JavaType

/-- The text of a type in a message. -/
def display : JavaType → String :=
  fold {
    primitive := Primitive.keyword
    ofClass := fun c => c.name ++ c.arraySuffix
    array := fun element => element ++ "[]"
    variableDecl := fun v bound more => v.name ++ boundsClause "extends" (bound.toList ++ more)
    variableRef := id
    wildcard := fun upper lower =>
      "?" ++ boundsClause "extends" (upper.getD []) ++ boundsClause "super" (lower.getD [])
    parameterized := fun base arguments => base.name ++ "<" ++ joinWith ", " arguments ++ ">" }

section display

variable (p : Primitive) (c : ClassRef) (t : JavaType) (name : String) (bound : Option JavaType)
  (ts : List JavaType) (upper lower : Option (List JavaType))

@[simp] theorem display_primitive : (primitive p).display = p.keyword := rfl
@[simp] theorem display_ofClass : (ofClass c).display = c.name ++ c.arraySuffix := rfl
@[simp] theorem display_array : (array t).display = t.display ++ "[]" := rfl
@[simp] theorem display_variableDecl :
    (variableDecl name bound ts).display =
      name ++ boundsClause "extends" ((bound.toList ++ ts).map display) := by
  cases bound <;> simp [display, fold]
@[simp] theorem display_variableRef : (variableRef name).display = name := rfl
@[simp] theorem display_wildcard :
    (wildcard upper lower).display =
      "?" ++ boundsClause "extends" ((upper.getD []).map display) ++
        boundsClause "super" ((lower.getD []).map display) := by
  cases upper <;> cases lower <;> simp [display, fold]
@[simp] theorem display_parameterized :
    (parameterized c ts).display = c.name ++ "<" ++ joinWith ", " (ts.map display) ++ ">" := by
  simp [display, fold]

end display

end JavaType

/-- The text of a type variable in a message: its declaration. -/
def TypeVariable.display (v : TypeVariable) : String := v.toType.display

end JavaSource
