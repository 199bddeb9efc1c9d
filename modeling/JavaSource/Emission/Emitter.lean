import JavaSource.Config.Basic
import JavaSource.Emission.Line
import JavaSource.Emission.Renderer

/-!
# `Emission.Emitter` — the source text of a declaration

An `Emitter` carries the settings that bear on the text. `Emitter.unitLines` lays out the compilation unit
of a declaration: package line, import lines, annotations, head, members, closing brace. `Emitter.emit`
is its text. The declaration is only read; its imports have been derived while it was built.
-/

namespace JavaSource
open Text

/-- The settings for emission. -/
structure Emitter where
  imports : ImportsConfig := {}
  format : FormatConfig := {}
  deriving DecidableEq, Repr, Inhabited

namespace Emitter

/-- The emitter for a configuration. -/
def ofConfig (c : Config) : Emitter := { imports := c.imports, format := c.format }

/-- Does an imported class get no line because its package is an implicit one? -/
def isImplicit (e : Emitter) (c : ClassRef) : Bool := c.packageName?.any e.imports.isImplicit

/-- The imports that are written: those of implicit packages are not, nor is one that has the name of the
    declared class. -/
def visibleImports (e : Emitter) (d : ClassDecl) : List ClassRef :=
  (d.imports.classes.filter fun c => !e.isImplicit c).filter fun c => c.name != d.name

/-! ## Parts of a declaration -/

/-- The modifiers in front of a declaration, each followed by a blank. -/
def modifiers (access : Access) (flags : List (Bool × String)) : String :=
  String.join (((access.keyword :: (flags.filter Prod.fst).map Prod.snd).filter fun word =>
    !word.isEmpty).map fun word => word ++ " ")

/-- Annotations, one a line. -/
def annotationLines (r : Renderer) (depth : Nat) (annotations : List Annotation) : List Line :=
  annotations.map fun a =>
    .code depth <| "@" ++ r.className a.annotationClass ++
      match a.value with
      | some value => "(" ++ value ++ ")"
      | none => ""

/-- Type parameters in angle brackets; nothing if there are none. -/
def typeParameterList (r : Renderer) : List TypeVariable → String
  | [] => ""
  | vs => "<" ++ joinWith ", " (vs.map r.declaration) ++ ">"

/-- The type parameters of a member, with a blank after them if there are any. -/
def leadingTypeParameters (r : Renderer) : List TypeVariable → String
  | [] => ""
  | vs => typeParameterList r vs ++ " "

/-- The parameters of a method or constructor. -/
def parameterList (r : Renderer) (ps : List Parameter) : String :=
  joinWith ", " (ps.map fun p => r.render p.type ++ " " ++ p.name)

/-- A signature with its body in braces. -/
def blockLines (signature : String) (body : List String) : List Line :=
  .code 1 (signature ++ " \x7b") :: body.map (Line.ofBody 2) ++ [.code 1 "\x7d"]

def fieldSignature (r : Renderer) (f : Field) : String :=
  modifiers f.header.access [(f.isStatic, "static"), (f.isFinal, "final")] ++ r.render f.type ++ " "
    ++ f.name

/-- The signature of a method. Methods of interfaces are abstract without saying so. -/
def methodSignature (r : Renderer) (kind : ClassKind) (m : Method) : String :=
  modifiers m.header.access
      [(m.isAbstract && kind == .ordinary, "abstract"), (m.isStatic, "static"), (m.isFinal, "final")]
    ++ leadingTypeParameters r m.typeParameters ++ r.render m.returnType ++ " " ++ m.name ++ "("
    ++ parameterList r m.parameters ++ ")"

def constructorSignature (r : Renderer) (className : String) (c : Constructor) : String :=
  modifiers c.header.access [] ++ leadingTypeParameters r c.typeParameters ++ className ++ "("
    ++ parameterList r c.parameters ++ ")"

/-- A method: a signature that ends in a semicolon if it is abstract, a block otherwise. -/
def methodLines (r : Renderer) (kind : ClassKind) (m : Method) : List Line :=
  if m.isAbstract then [.code 1 (methodSignature r kind m ++ ";")]
  else blockLines (methodSignature r kind m) (m.body.getD [])

/-- The lines of a member below its annotations. -/
def memberBodyLines (r : Renderer) (d : ClassDecl) : Member → List Line
  | .field f => [.code 1 (fieldSignature r f ++ ";")]
  | .method m => methodLines r d.kind m
  | .constructor c => blockLines (constructorSignature r d.name c) (c.body.getD [])

/-- The lines of a member. -/
def memberLines (r : Renderer) (d : ClassDecl) (m : Member) : List Line :=
  annotationLines r 1 m.annotations ++ memberBodyLines r d m

/-- The word before the interfaces in the head of a declaration. -/
def interfacesWord : ClassKind → String
  | .ordinary => " implements "
  | .interface => " extends "

/-- The head of a declaration, up to the opening brace. -/
def headText (r : Renderer) (d : ClassDecl) : String :=
  modifiers d.access [] ++ d.kind.keyword ++ " " ++ d.name ++ typeParameterList r d.typeParameters ++
    (match d.parent with
      | some t => " extends " ++ r.render t
      | none => "") ++
    (match d.interfaces with
      | [] => ""
      | ts => interfacesWord d.kind ++ joinWith ", " (ts.map r.render))

/-! ## The unit -/

def packageLines (d : ClassDecl) : List Line :=
  if d.package.isDefault then [] else [.code 0 ("package " ++ d.package.name ++ ";"), .blank]

/-- The line that imports a class. -/
def importLine (c : ClassRef) : Line := .code 0 ("import " ++ c.fullName ++ ";")

def importLines (e : Emitter) (d : ClassDecl) : List Line :=
  match e.visibleImports d with
  | [] => []
  | cs => cs.map importLine ++ [.blank]

/-- Everything below the imports. -/
def declarationLines (e : Emitter) (d : ClassDecl) : List Line :=
  let r := d.renderer e.imports.qualifyConflicts
  annotationLines r 0 d.annotations ++ .code 0 (headText r d ++ " \x7b") ::
    Line.stack e.format.blankLineBetweenMembers (d.members.map (memberLines r d)) ++ [.code 0 "\x7d"]

/-- The compilation unit of a declaration. -/
def unitLines (e : Emitter) (d : ClassDecl) : List Line :=
  packageLines d ++ e.importLines d ++ e.declarationLines d

/-- The source text of a declaration. -/
def emit (e : Emitter) (d : ClassDecl) : String :=
  Line.printAll e.format.indentUnit (e.unitLines d)

/-- What emission logs. -/
def emitEvent (e : Emitter) (d : ClassDecl) : Event :=
  { level := .debug, target := "javagen.emit", message := "emitted class",
    fields := [("class", .text d.fullName), ("imports", .count (e.visibleImports d).length),
      ("members", .count d.members.length)] }

end Emitter
end JavaSource
