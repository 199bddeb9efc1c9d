import JavaSource.ClassDecl.Basic
import JavaSource.JavaType.Display

/-!
# `Emission.Renderer` — types as they are written in a compilation unit

Inside the unit of a declaration a class is written by its simple name, unless that name means another
class there: then the class is *hidden*, and it is written by its full name if the renderer qualifies.
-/

namespace JavaSource
open Text

/-- What has to be known of a unit to write types in it. -/
structure Renderer where
  unitPackage : Package
  unitName : String
  imports : ImportList
  /-- Are hidden classes written by their full names? -/
  qualify : Bool
  deriving DecidableEq, Repr

/-- The renderer for the unit of a declaration. -/
def ClassDecl.renderer (d : ClassDecl) (qualify : Bool) : Renderer :=
  { unitPackage := d.package, unitName := d.name, imports := d.imports, qualify }

namespace Renderer

/-- Does the simple name of a class mean another class in the unit? The name of the unit means the
    declared class; any other name means the imported class of that name, if there is one. -/
def isHidden (r : Renderer) (c : ClassRef) : Bool :=
  if c.name = r.unitName then c.homePackage != r.unitPackage
  else
    match r.imports.bySimpleName? c.name with
    | some holder => !decide (holder.Same c)
    | none => false

/-- How a class is written, with the mark of an array where it has the flag. -/
def className (r : Renderer) (c : ClassRef) : String :=
  (if r.qualify && r.isHidden c then c.fullName else c.name) ++ c.arraySuffix

/-- How a type is written where types are used. A declared variable is written as a use of it. -/
def render (r : Renderer) : JavaType → String :=
  JavaType.fold {
    primitive := Primitive.keyword
    ofClass := r.className
    array := fun element => element ++ "[]"
    variableDecl := fun v _ _ => v.name
    variableRef := id
    wildcard := fun upper lower =>
      "?" ++ boundsClause "extends" (upper.getD []) ++ boundsClause "super" (lower.getD [])
    parameterized := fun base arguments => r.className base ++ "<" ++ joinWith ", " arguments ++ ">" }

section render

variable (r : Renderer) (p : Primitive) (c : ClassRef) (t : JavaType) (name : String)
  (bound : Option JavaType) (ts : List JavaType) (upper lower : Option (List JavaType))

@[simp] theorem render_primitive : r.render (.primitive p) = p.keyword := rfl
@[simp] theorem render_ofClass : r.render (.ofClass c) = r.className c := rfl
@[simp] theorem render_array : r.render (.array t) = r.render t ++ "[]" := rfl
@[simp] theorem render_variableDecl : r.render (.variableDecl name bound ts) = name := rfl
@[simp] theorem render_variableRef : r.render (.variableRef name) = name := rfl
@[simp] theorem render_wildcard :
    r.render (.wildcard upper lower) =
      "?" ++ boundsClause "extends" ((upper.getD []).map r.render) ++
        boundsClause "super" ((lower.getD []).map r.render) := by
  cases upper <;> cases lower <;> simp [render, JavaType.fold]
@[simp] theorem render_parameterized :
    r.render (.parameterized c ts) =
      r.className c ++ "<" ++ joinWith ", " (ts.map r.render) ++ ">" := by
  simp [render, JavaType.fold]

end render

/-- How a type variable is written where it is declared. -/
def declaration (r : Renderer) (v : TypeVariable) : String :=
  v.name ++ boundsClause "extends" (v.bounds.map r.render)

end Renderer
end JavaSource
