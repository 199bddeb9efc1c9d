import JavaSource.Proofs.Emission.Separation
import JavaSource.Proofs.Text.Balance

/-!
# `Proofs.Emission.Balance` — the brackets of a compilation unit

A unit takes over some texts as they are: names, the values of annotations, and the lines of bodies. Everything
else in it is written by the emitter, and the emitter opens no bracket that it does not close. So where those
texts are in order (`ClassDecl.TextsInBalance`), the unit is balanced (`ClassDecl.isBalanced_emit`).

* `ClassDecl.names` — every name that the text of a unit can be made of.
* `Renderer.isBalanced_render` and the lemmas below it — each part that the emitter writes, from the innermost
  types to whole signatures, is balanced on its own.
* `Line.content` — a line without indentation. Bodies are balanced as a whole, not line by line, so units are
  treated as lists of lines (`Line.balanced_printAll_iff`).
-/

namespace JavaSource
open Text

/-! ## The names in a unit -/

/-- The name of the package of a class, if it has one, and its simple name. -/
def ClassRef.names (c : ClassRef) : List String := c.packageName?.toList ++ [c.name]

namespace JavaType

/-- All names in a type: those of its classes and those of type variables, declared or used. -/
def names : JavaType → List String :=
  fold {
    primitive := fun _ => []
    ofClass := ClassRef.names
    array := id
    variableDecl := fun v bound more => v.name :: (bound.toList ++ more).flatten
    variableRef := fun name => [name]
    wildcard := fun upper lower => (upper.getD []).flatten ++ (lower.getD []).flatten
    parameterized := fun base ts => base.names ++ ts.flatten }

section names

variable (p : Primitive) (c : ClassRef) (t : JavaType) (name : String) (bound : Option JavaType)
  (ts : List JavaType) (upper lower : Option (List JavaType))

@[simp] theorem names_primitive : (primitive p).names = [] := rfl
@[simp] theorem names_ofClass : (ofClass c).names = c.names := rfl
@[simp] theorem names_array : (array t).names = t.names := rfl
@[simp] theorem names_variableDecl :
    (variableDecl name bound ts).names = name :: (bound.toList ++ ts).flatMap names := by
  cases bound <;> simp [names, fold, List.flatMap]
@[simp] theorem names_variableRef : (variableRef name).names = [name] := rfl
@[simp] theorem names_wildcard :
    (wildcard upper lower).names = (upper.getD []).flatMap names ++ (lower.getD []).flatMap names := by
  cases upper <;> cases lower <;> simp [names, fold, List.flatMap]
@[simp] theorem names_parameterized :
    (parameterized c ts).names = c.names ++ ts.flatMap names := by
  simp [names, fold, List.flatMap]

end names

end JavaType

def TypeVariable.names (v : TypeVariable) : List String := v.name :: v.bounds.flatMap JavaType.names

def Annotation.names (a : Annotation) : List String := a.annotationClass.names

def Parameter.names (p : Parameter) : List String := p.name :: p.type.names

/-- All names in a member: its own, those of its parameters, and those in its types and annotations. -/
def Member.names : Member → List String
  | .field f => f.name :: f.type.names ++ f.header.annotations.flatMap Annotation.names
  | .method m =>
    m.name :: m.returnType.names ++ m.typeParameters.flatMap TypeVariable.names
      ++ m.parameters.flatMap Parameter.names ++ m.header.annotations.flatMap Annotation.names
  | .constructor c =>
    c.typeParameters.flatMap TypeVariable.names ++ c.parameters.flatMap Parameter.names
      ++ c.header.annotations.flatMap Annotation.names

/-- The lines of the body of a member, if it has one. -/
def Member.bodyLines : Member → List String
  | .field _ => []
  | .method m => m.body.getD []
  | .constructor c => c.body.getD []

/-- All names in a declaration: its own and that of its package, those of its imports, and those in its
    parts. -/
def ClassDecl.names (d : ClassDecl) : List String :=
  d.package.name :: d.name :: d.imports.classes.flatMap ClassRef.names
    ++ d.annotations.flatMap Annotation.names ++ d.typeParameters.flatMap TypeVariable.names
    ++ d.parent.toList.flatMap JavaType.names ++ d.interfaces.flatMap JavaType.names
    ++ d.members.flatMap Member.names

/-- **The texts that a unit takes over are in order**: no name holds a bracket, the value of every annotation
    is balanced, and so are the lines of every body, put together. -/
structure ClassDecl.TextsInBalance (d : ClassDecl) : Prop where
  names : ∀ name ∈ d.names, IsBracketFree name
  values : ∀ a ∈ d.annotations ++ d.members.flatMap Member.annotations, ∀ value ∈ a.value, IsBalanced value
  bodies : ∀ m ∈ d.members, IsBalanced (String.join m.bodyLines)

/-! ## Types -/

theorem ClassRef.isBalanced_fullName {c : ClassRef} (h : ∀ name ∈ c.names, IsBracketFree name) :
    IsBalanced c.fullName := by
  unfold names packageName? at h
  rw [List.forall_mem_append, List.forall_mem_singleton] at h
  obtain ⟨hpackage, hname⟩ := h
  unfold fullName
  cases hp : c.package with
  | none => exact hname.isBalanced
  | some p =>
    rw [hp, Option.map_some, Option.toList_some, List.forall_mem_singleton] at hpackage
    show IsBalanced (if p.isDefault then c.name else p.name ++ "." ++ c.name)
    split
    · exact hname.isBalanced
    · exact (hpackage.isBalanced.append (by decide)).append hname.isBalanced

/-- Words in front of balanced bounds. -/
theorem isBalanced_boundsClause {word : String} (hword : IsBalanced word) {bounds : List String}
    (h : ∀ bound ∈ bounds, IsBalanced bound) : IsBalanced (boundsClause word bounds) := by
  cases bounds with
  | nil => exact isBalanced_empty
  | cons bound bounds =>
    have hblank : IsBalanced " " := by decide
    exact ((hblank.append hword).append hblank).append (isBalanced_joinWith (by decide) h)

namespace Renderer

variable {r : Renderer} {c : ClassRef} {t : JavaType} {v : TypeVariable}

theorem isBalanced_className (h : ∀ name ∈ c.names, IsBracketFree name) : IsBalanced (r.className c) := by
  have hsimple : IsBracketFree c.name := h c.name (List.mem_append_right _ List.mem_cons_self)
  have hmark : IsBalanced c.arraySuffix := by
    unfold ClassRef.arraySuffix
    split
    · decide
    · exact isBalanced_empty
  unfold className
  refine IsBalanced.append ?_ hmark
  split
  · exact ClassRef.isBalanced_fullName h
  · exact hsimple.isBalanced

/-- **A rendered type is balanced**: every constructor closes the brackets that it opens. -/
theorem isBalanced_render (h : ∀ name ∈ t.names, IsBracketFree name) : IsBalanced (r.render t) := by
  induction t using JavaType.induct with
  | primitive p =>
    rw [render_primitive]
    cases p <;> decide
  | ofClass c => exact isBalanced_className h
  | array element ih =>
    rw [render_array]
    exact (ih h).append (by decide)
  | variableDecl name bound more _ _ =>
    rw [JavaType.names_variableDecl, List.forall_mem_cons] at h
    exact h.1.isBalanced
  | variableRef name => exact IsBracketFree.isBalanced (h name List.mem_cons_self)
  | wildcard upper lower ihu ihl =>
    rw [JavaType.names_wildcard, List.forall_mem_append, List.forall_mem_flatMap, List.forall_mem_flatMap,
      JavaType.forall_mem_getD_iff, JavaType.forall_mem_getD_iff] at h
    obtain ⟨hu, hl⟩ := h
    have hupper : ∀ bound ∈ (upper.getD []).map r.render, IsBalanced bound :=
      List.forall_mem_map.mpr <| JavaType.forall_mem_getD_iff.mpr fun ts hts t ht =>
        ihu ts hts t ht (hu ts hts t ht)
    have hlower : ∀ bound ∈ (lower.getD []).map r.render, IsBalanced bound :=
      List.forall_mem_map.mpr <| JavaType.forall_mem_getD_iff.mpr fun ts hts t ht =>
        ihl ts hts t ht (hl ts hts t ht)
    have hmark : IsBalanced "?" := by decide
    rw [render_wildcard]
    exact (hmark.append (isBalanced_boundsClause (by decide) hupper)).append
      (isBalanced_boundsClause (by decide) hlower)
  | parameterized base arguments ih =>
    rw [JavaType.names_parameterized, List.forall_mem_append, List.forall_mem_flatMap] at h
    obtain ⟨hbase, harguments⟩ := h
    have hrendered : ∀ argument ∈ arguments.map r.render, IsBalanced argument :=
      List.forall_mem_map.mpr fun t ht => ih t ht (harguments t ht)
    rw [render_parameterized]
    exact (isBalanced_className hbase).append_wrap (isBalanced_joinWith (by decide) hrendered) rfl rfl rfl

theorem isBalanced_declaration (h : ∀ name ∈ v.names, IsBracketFree name) :
    IsBalanced (r.declaration v) := by
  unfold TypeVariable.names at h
  rw [List.forall_mem_cons, List.forall_mem_flatMap] at h
  obtain ⟨hname, hbounds⟩ := h
  unfold declaration
  exact hname.isBalanced.append <| isBalanced_boundsClause (by decide) <|
    List.forall_mem_map.mpr fun t ht => isBalanced_render (hbounds t ht)

end Renderer

/-! ## Signatures -/

namespace Emitter

variable {r : Renderer} {d : ClassDecl}

theorem isBalanced_modifiers (access : Access) {flags : List (Bool × String)}
    (h : ∀ word ∈ flags.map Prod.snd, IsBalanced word) : IsBalanced (modifiers access flags) := by
  rw [List.forall_mem_map] at h
  have hwords : ∀ word ∈ access.keyword :: (flags.filter Prod.fst).map Prod.snd, IsBalanced word := by
    rw [List.forall_mem_cons, List.forall_mem_map]
    refine ⟨?_, fun flag hflag => h flag (List.mem_of_mem_filter hflag)⟩
    cases access <;> decide
  unfold modifiers
  refine isBalanced_join (List.forall_mem_map.mpr fun word hword => ?_)
  exact (hwords word (List.mem_of_mem_filter hword)).append (by decide)

theorem isBalanced_typeParameterList {vs : List TypeVariable}
    (h : ∀ name ∈ vs.flatMap TypeVariable.names, IsBracketFree name) :
    IsBalanced (typeParameterList r vs) := by
  rw [List.forall_mem_flatMap] at h
  cases vs with
  | nil => exact isBalanced_empty
  | cons v vs =>
    have hdeclared : ∀ text ∈ (v :: vs).map r.declaration, IsBalanced text :=
      List.forall_mem_map.mpr fun v hv => Renderer.isBalanced_declaration (h v hv)
    exact (isBalanced_joinWith (by decide) hdeclared).wrap rfl rfl rfl

theorem isBalanced_leadingTypeParameters {vs : List TypeVariable}
    (h : ∀ name ∈ vs.flatMap TypeVariable.names, IsBracketFree name) :
    IsBalanced (leadingTypeParameters r vs) := by
  cases vs with
  | nil => exact isBalanced_empty
  | cons v vs => exact (isBalanced_typeParameterList h).append (by decide)

theorem isBalanced_parameterList {ps : List Parameter}
    (h : ∀ name ∈ ps.flatMap Parameter.names, IsBracketFree name) : IsBalanced (parameterList r ps) := by
  rw [List.forall_mem_flatMap] at h
  unfold parameterList
  refine isBalanced_joinWith (by decide) (List.forall_mem_map.mpr fun p hp => ?_)
  obtain ⟨hname, htype⟩ := List.forall_mem_cons.mp (h p hp)
  exact ((Renderer.isBalanced_render htype).append (by decide)).append hname.isBalanced

theorem isBalanced_fieldSignature {f : Field}
    (h : ∀ name ∈ (Member.field f).names, IsBracketFree name) : IsBalanced (fieldSignature r f) := by
  unfold Member.names at h
  rw [List.forall_mem_append, List.forall_mem_cons] at h
  obtain ⟨⟨hname, htype⟩, -⟩ := h
  have hwords : ∀ word ∈ ["static", "final"], IsBalanced word := by decide
  have hmodifiers : IsBalanced (modifiers f.header.access [(f.isStatic, "static"), (f.isFinal, "final")]) :=
    isBalanced_modifiers _ hwords
  unfold fieldSignature
  exact ((hmodifiers.append (Renderer.isBalanced_render htype)).append (by decide)).append hname.isBalanced

theorem isBalanced_methodSignature {kind : ClassKind} {m : Method}
    (h : ∀ name ∈ (Member.method m).names, IsBracketFree name) :
    IsBalanced (methodSignature r kind m) := by
  unfold Member.names at h
  rw [List.forall_mem_append, List.forall_mem_append, List.forall_mem_append, List.forall_mem_cons] at h
  obtain ⟨⟨⟨⟨hname, hreturn⟩, hvariables⟩, hparameters⟩, -⟩ := h
  have hwords : ∀ word ∈ ["abstract", "static", "final"], IsBalanced word := by decide
  have hmodifiers : IsBalanced (modifiers m.header.access
      [(m.isAbstract && kind == .ordinary, "abstract"), (m.isStatic, "static"), (m.isFinal, "final")]) :=
    isBalanced_modifiers _ hwords
  have hhead := hmodifiers.append (isBalanced_leadingTypeParameters (r := r) hvariables)
  have htyped := (hhead.append (Renderer.isBalanced_render (r := r) hreturn)).append (t := " ") (by decide)
  unfold methodSignature
  exact (htyped.append hname.isBalanced).append_wrap (isBalanced_parameterList hparameters) rfl rfl rfl

theorem isBalanced_constructorSignature {className : String} (hclass : IsBracketFree className)
    {c : Constructor} (h : ∀ name ∈ (Member.constructor c).names, IsBracketFree name) :
    IsBalanced (constructorSignature r className c) := by
  unfold Member.names at h
  rw [List.forall_mem_append, List.forall_mem_append] at h
  obtain ⟨⟨hvariables, hparameters⟩, -⟩ := h
  have hmodifiers : IsBalanced (modifiers c.header.access []) := isBalanced_modifiers _ (by decide)
  have hhead := hmodifiers.append (isBalanced_leadingTypeParameters (r := r) hvariables)
  unfold constructorSignature
  exact (hhead.append hclass.isBalanced).append_wrap (isBalanced_parameterList hparameters) rfl rfl rfl

end Emitter

/-! ## Lines -/

namespace Line

variable {unit s : String} {lines more : List Line}

/-- The characters of a line, without indentation. -/
def content : Line → List Char
  | .blank => []
  | .code _ text => text.toList

/-- Printing a line adds no bracket to it. -/
theorem filter_isBracket_print (hunit : ∀ c ∈ unit.toList, isBlank c = true) (line : Line) :
    (line.print unit).toList.filter isBracket = line.content.filter isBracket := by
  have hbreak : "\n".toList.filter isBracket = [] := rfl
  cases line with
  | blank => exact hbreak
  | code depth text =>
    show (indentation unit depth ++ text ++ "\n").toList.filter isBracket = text.toList.filter isBracket
    rw [String.toList_append, String.toList_append, List.filter_append, List.filter_append, hbreak,
      filter_isBracket_of_isBlank (isBlank_of_mem_indentation hunit depth), List.nil_append, List.append_nil]

theorem filter_isBracket_printAll (hunit : ∀ c ∈ unit.toList, isBlank c = true) (lines : List Line) :
    (printAll unit lines).toList.filter isBracket = (lines.flatMap content).filter isBracket := by
  induction lines with
  | nil => rfl
  | cons line lines ih =>
    rw [printAll, String.toList_append, List.filter_append, filter_isBracket_print hunit, ih,
      List.flatMap_cons, List.filter_append]

/-- A line of a body that is left blank had no bracket. -/
theorem filter_isBracket_ofBody (depth : Nat) (text : String) :
    (ofBody depth text).content.filter isBracket = text.toList.filter isBracket := by
  unfold ofBody
  split
  · next hblank =>
    rw [List.isEmpty_iff] at hblank
    exact (filter_isBracket_of_isBlank (isBlank_of_trim_eq_nil hblank)).symm
  · rfl

/-- The contents of some lines are balanced, put together. -/
def AreBalanced (lines : List Line) : Prop := Balanced (lines.flatMap content)

/-- **Printed lines are balanced exactly if their contents are.** -/
theorem isBalanced_printAll_iff (hunit : ∀ c ∈ unit.toList, isBlank c = true) (lines : List Line) :
    IsBalanced (printAll unit lines) ↔ AreBalanced lines :=
  balanced_congr (filter_isBracket_printAll hunit lines)

theorem areBalanced_nil : AreBalanced [] := .nil

theorem areBalanced_blank : AreBalanced [.blank] := .nil

theorem areBalanced_code (depth : Nat) (hs : IsBalanced s) : AreBalanced [.code depth s] := by
  unfold AreBalanced
  rw [List.flatMap_singleton]
  exact hs

theorem AreBalanced.append (h : AreBalanced lines) (g : AreBalanced more) : AreBalanced (lines ++ more) := by
  unfold AreBalanced
  rw [List.flatMap_append]
  exact Balanced.append h g

theorem areBalanced_map {α : Type} {f : α → Line} {as : List α}
    (h : ∀ a ∈ as, Balanced (f a).content) : AreBalanced (as.map f) := by
  unfold AreBalanced
  rw [List.flatMap_map]
  exact balanced_flatMap h

/-- The lines of a body are balanced in the unit exactly if they are by themselves. -/
theorem areBalanced_ofBody_iff (depth : Nat) (body : List String) :
    AreBalanced (body.map (ofBody depth)) ↔ IsBalanced (String.join body) := by
  refine balanced_congr ?_
  rw [String.toList_join]
  induction body with
  | nil => rfl
  | cons text body ih =>
    rw [List.map_cons, List.flatMap_cons, List.flatMap_cons, List.filter_append, List.filter_append,
      filter_isBracket_ofBody, ih]

/-- Balanced lines in braces, behind a balanced head. -/
theorem areBalanced_braces (depth : Nat) (hs : IsBalanced s) (h : AreBalanced lines) :
    AreBalanced (code depth (s ++ " \x7b") :: lines ++ [code depth "\x7d"]) := by
  have hall : Balanced (s.toList ++ ' ' :: ('\x7b' :: lines.flatMap content ++ ['\x7d'])) :=
    Balanced.append hs (.skip rfl (.wrap rfl h))
  unfold AreBalanced
  rw [List.flatMap_append, List.flatMap_cons, List.flatMap_singleton]
  show Balanced ((s ++ " \x7b").toList ++ lines.flatMap content ++ ['\x7d'])
  rw [String.toList_append, List.append_assoc, List.append_assoc]
  exact hall

/-- A stack of balanced blocks is balanced, for the gaps are blank. -/
theorem areBalanced_stack (separate : Bool) {blocks : List (List Line)}
    (h : ∀ block ∈ blocks, AreBalanced block) : AreBalanced (stack separate blocks) := by
  unfold AreBalanced
  rw [flatMap_stack rfl]
  induction blocks with
  | nil => exact .nil
  | cons block rest ih =>
    rw [List.forall_mem_cons] at h
    rw [List.flatten_cons, List.flatMap_append]
    exact Balanced.append h.1 (ih h.2)

end Line

/-! ## The unit -/

namespace Emitter

variable {r : Renderer} {d : ClassDecl} {m : Member}

theorem areBalanced_annotationLines (depth : Nat) {annotations : List Annotation}
    (hnames : ∀ name ∈ annotations.flatMap Annotation.names, IsBracketFree name)
    (hvalues : ∀ a ∈ annotations, ∀ value ∈ a.value, IsBalanced value) :
    Line.AreBalanced (annotationLines r depth annotations) := by
  rw [List.forall_mem_flatMap] at hnames
  refine Line.areBalanced_map fun a ha => ?_
  have hat : IsBalanced "@" := by decide
  have hclass : IsBalanced (r.className a.annotationClass) := Renderer.isBalanced_className (hnames a ha)
  refine IsBalanced.append (hat.append hclass) ?_
  split
  · next value hvalue => exact (hvalues a ha value hvalue).wrap rfl rfl rfl
  · exact isBalanced_empty

theorem areBalanced_blockLines {signature : String} {body : List String} (hs : IsBalanced signature)
    (hbody : IsBalanced (String.join body)) : Line.AreBalanced (blockLines signature body) :=
  Line.areBalanced_braces 1 hs ((Line.areBalanced_ofBody_iff 2 body).mpr hbody)

theorem areBalanced_memberBodyLines (hclass : IsBracketFree d.name)
    (hnames : ∀ name ∈ m.names, IsBracketFree name) (hbody : IsBalanced (String.join m.bodyLines)) :
    Line.AreBalanced (memberBodyLines r d m) := by
  have hend : IsBalanced ";" := by decide
  cases m with
  | field f => exact Line.areBalanced_code 1 ((isBalanced_fieldSignature hnames).append hend)
  | method m =>
    have hsignature : IsBalanced (methodSignature r d.kind m) := isBalanced_methodSignature hnames
    show Line.AreBalanced (methodLines r d.kind m)
    unfold methodLines
    split
    · exact Line.areBalanced_code 1 (hsignature.append hend)
    · exact areBalanced_blockLines hsignature hbody
  | constructor c => exact areBalanced_blockLines (isBalanced_constructorSignature hclass hnames) hbody

theorem areBalanced_memberLines (hclass : IsBracketFree d.name)
    (hnames : ∀ name ∈ m.names, IsBracketFree name)
    (hvalues : ∀ a ∈ m.annotations, ∀ value ∈ a.value, IsBalanced value)
    (hbody : IsBalanced (String.join m.bodyLines)) : Line.AreBalanced (memberLines r d m) := by
  have hannotations : ∀ name ∈ m.annotations.flatMap Annotation.names, IsBracketFree name := by
    cases m with
    | field f => exact (List.forall_mem_append.mp hnames).2
    | method m => exact (List.forall_mem_append.mp hnames).2
    | constructor c => exact (List.forall_mem_append.mp hnames).2
  exact (areBalanced_annotationLines 1 hannotations hvalues).append
    (areBalanced_memberBodyLines hclass hnames hbody)

theorem isBalanced_headText (hname : IsBracketFree d.name)
    (hvariables : ∀ name ∈ d.typeParameters.flatMap TypeVariable.names, IsBracketFree name)
    (hparent : ∀ name ∈ d.parent.toList.flatMap JavaType.names, IsBracketFree name)
    (hinterfaces : ∀ name ∈ d.interfaces.flatMap JavaType.names, IsBracketFree name) :
    IsBalanced (headText r d) := by
  have hmodifiers : IsBalanced (modifiers d.access []) := isBalanced_modifiers _ (by decide)
  have hkeyword : IsBalanced d.kind.keyword := by cases d.kind <;> decide
  have hstart := ((hmodifiers.append hkeyword).append (t := " ") (by decide)).append hname.isBalanced
  unfold headText
  refine ((hstart.append (isBalanced_typeParameterList hvariables)).append ?_).append ?_
  · split
    · next t ht =>
      rw [ht, Option.toList_some, List.flatMap_singleton] at hparent
      exact IsBalanced.append (by decide) (Renderer.isBalanced_render hparent)
    · exact isBalanced_empty
  · split
    · exact isBalanced_empty
    · rw [List.forall_mem_flatMap] at hinterfaces
      have hword : IsBalanced (interfacesWord d.kind) := by cases d.kind <;> decide
      exact hword.append <| isBalanced_joinWith (by decide) <|
        List.forall_mem_map.mpr fun t ht => Renderer.isBalanced_render (hinterfaces t ht)

theorem areBalanced_packageLines (h : IsBracketFree d.package.name) : Line.AreBalanced (packageLines d) := by
  have hline : IsBalanced ("package " ++ d.package.name ++ ";") :=
    (IsBalanced.append (by decide) h.isBalanced).append (by decide)
  unfold packageLines
  split
  · exact Line.areBalanced_nil
  · exact (Line.areBalanced_code 0 hline).append Line.areBalanced_blank

theorem areBalanced_importLines (e : Emitter)
    (h : ∀ name ∈ d.imports.classes.flatMap ClassRef.names, IsBracketFree name) :
    Line.AreBalanced (e.importLines d) := by
  rw [List.forall_mem_flatMap] at h
  have hlines : Line.AreBalanced ((e.visibleImports d).map importLine) := by
    refine Line.areBalanced_map fun c hc => ?_
    have hname : IsBalanced c.fullName :=
      ClassRef.isBalanced_fullName (h c ((visibleImports_sublist e d).subset hc))
    exact (IsBalanced.append (by decide) hname).append (t := ";") (by decide)
  unfold importLines
  cases hvisible : e.visibleImports d with
  | nil => exact Line.areBalanced_nil
  | cons c cs =>
    rw [hvisible] at hlines
    exact hlines.append Line.areBalanced_blank

end Emitter

namespace ClassDecl

variable {d : ClassDecl}

/-- **A unit is balanced** if no name in its declaration holds a bracket, and the annotation values and the
    bodies are balanced; the settings of the emitter have no part in it. -/
theorem TextsInBalance.isBalanced_emit (h : d.TextsInBalance) (e : Emitter) : IsBalanced (e.emit d) := by
  have hnames := h.names
  unfold ClassDecl.names at hnames
  rw [List.forall_mem_append, List.forall_mem_append, List.forall_mem_append, List.forall_mem_append,
    List.forall_mem_append, List.forall_mem_cons, List.forall_mem_cons] at hnames
  obtain ⟨⟨⟨⟨⟨⟨hpackage, hname, himports⟩, hannotations⟩, hvariables⟩, hparent⟩, hinterfaces⟩, hmembers⟩ :=
    hnames
  obtain ⟨hvalues, hmemberValues⟩ := List.forall_mem_append.mp h.values
  rw [List.forall_mem_flatMap] at hmembers hmemberValues
  have hbody : Line.AreBalanced (Line.stack e.format.blankLineBetweenMembers
      (d.members.map (Emitter.memberLines (d.renderer e.imports.qualifyConflicts) d))) :=
    Line.areBalanced_stack _ <| List.forall_mem_map.mpr fun m hm =>
      Emitter.areBalanced_memberLines hname (hmembers m hm) (hmemberValues m hm) (h.bodies m hm)
  have hdeclaration : Line.AreBalanced (e.declarationLines d) := by
    unfold Emitter.declarationLines
    rw [List.append_assoc]
    exact (Emitter.areBalanced_annotationLines 0 hannotations hvalues).append
      (Line.areBalanced_braces 0 (Emitter.isBalanced_headText hname hvariables hparent hinterfaces) hbody)
  have hunit : Line.AreBalanced (e.unitLines d) :=
    ((Emitter.areBalanced_packageLines hpackage).append (Emitter.areBalanced_importLines e himports)).append
      hdeclaration
  exact (Line.isBalanced_printAll_iff e.format.isBlank_of_mem_indentUnit _).mpr hunit

/-- A class `com.acme.Catalogue` with a bracketed annotation value, nested generic types, and a body whose first
    and last lines are balanced only together. -/
def catalogue : ClassDecl :=
  (fresh ⟨"com.acme"⟩ "Catalogue" .ordinary).run
    [.annotate { annotationClass := .ofPackage ⟨"org.books"⟩ "Indexed",
                 value := some "\x7bTITLE, YEAR\x7d" },
     .addTypeParameter { name := "T",
                         bound := some (.parameterized (.ofPackage ⟨"java.lang"⟩ "Comparable")
                           [.variableRef "T"]) },
     .setParent (.parameterized (.ofPackage ⟨"java.util"⟩ "ArrayList") [.array (.variableRef "T")]),
     .addMember (.method
       { name := "addEach", returnType := .void,
         parameters := [{ type := .parameterized (.ofPackage ⟨"java.util"⟩ "List")
                            [.wildcard (some [.array (.variableRef "T")]) none],
                          name := "rows" }],
         body := some ["for (T[] row : rows) \x7b", "    add(row);", "\x7d"] })]

theorem catalogue_textsInBalance : catalogue.TextsInBalance where
  names := by decide
  values := by decide
  bodies := by decide

theorem catalogue_isBalanced_emit :
    catalogue.TextsInBalance ∧ ¬ IsBalanced "for (T[] row : rows) \x7b"
    ∧ IsBalanced (Emitter.emit {} catalogue) :=
  ⟨catalogue_textsInBalance, by decide, catalogue_textsInBalance.isBalanced_emit {}⟩

end ClassDecl
end JavaSource
