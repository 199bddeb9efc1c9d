import JavaSource.Emission.Emitter
import JavaSource.Proofs.ClassDecl.Completeness

/-!
# `Proofs.Emission.Agreement` — the text depends on mentioned classes alone

Two walks go over a declaration: one lists the classes that its parts mention, the other writes the parts.
Here they are shown to visit the same classes. If two renderers *agree* on the classes that a piece mentions
(`Renderer.AgreeOn`), they write the piece alike, and so on upwards: types (`render_congr`), the clauses made
of them, members (`memberLines_congr`), and all that stands below the imports (`declarationLines_congr`).
What a class was imported for beyond that cannot be seen in the text.
-/

namespace JavaSource
open Text

namespace Renderer

variable {r s : Renderer} {cs ds : List ClassRef}

/-! ## Agreement -/

/-- **Two renderers agree on some classes**: they write each of them alike. -/
def AgreeOn (r s : Renderer) (cs : List ClassRef) : Prop := ∀ c ∈ cs, r.className c = s.className c

instance (r s : Renderer) (cs : List ClassRef) : Decidable (r.AgreeOn s cs) :=
  inferInstanceAs (Decidable (∀ c ∈ cs, r.className c = s.className c))

theorem AgreeOn.subset (h : r.AgreeOn s ds) (hsub : cs ⊆ ds) : r.AgreeOn s cs :=
  fun c hc => h c (hsub hc)

theorem AgreeOn.left (h : r.AgreeOn s (cs ++ ds)) : r.AgreeOn s cs :=
  h.subset (List.subset_append_left cs ds)

theorem AgreeOn.right (h : r.AgreeOn s (cs ++ ds)) : r.AgreeOn s ds :=
  h.subset (List.subset_append_right cs ds)

theorem AgreeOn.of_mem {α : Type} {f : α → List ClassRef} {xs : List α} {x : α}
    (h : r.AgreeOn s (xs.flatMap f)) (hx : x ∈ xs) : r.AgreeOn s (f x) :=
  fun c hc => h c (List.mem_flatMap.mpr ⟨x, hx, hc⟩)

/-- What is written alike for each of some pieces is written alike for all of them. -/
theorem AgreeOn.map_congr {α β : Type} {f : α → List ClassRef} {xs : List α} {g k : α → β}
    (hone : ∀ x ∈ xs, r.AgreeOn s (f x) → g x = k x) (h : r.AgreeOn s (xs.flatMap f)) :
    xs.map g = xs.map k :=
  List.map_congr_left fun x hx => hone x hx (h.of_mem hx)

/-! ## Types and type variables -/

variable {t : JavaType} {v : TypeVariable}

/-- **A type is written by the names of the classes it mentions.** The two walks take the bounds of a
    wildcard in different orders, and the bounds of a declared variable are listed but not written. -/
theorem render_congr (h : r.AgreeOn s t.references) : r.render t = s.render t := by
  induction t using JavaType.induct with
  | primitive p => rfl
  | ofClass c =>
    rw [render_ofClass, render_ofClass]
    exact h c List.mem_cons_self
  | array element ih =>
    rw [render_array, render_array, ih h]
  | variableDecl name bound more _ _ => rfl
  | variableRef name => rfl
  | wildcard upper lower ihu ihl =>
    rw [JavaType.references_wildcard] at h
    have hupper : (upper.getD []).map r.render = (upper.getD []).map s.render :=
      AgreeOn.map_congr (JavaType.forall_mem_getD_iff.mpr ihu) h.right
    have hlower : (lower.getD []).map r.render = (lower.getD []).map s.render :=
      AgreeOn.map_congr (JavaType.forall_mem_getD_iff.mpr ihl) h.left
    rw [render_wildcard, render_wildcard, hupper, hlower]
  | parameterized base arguments ih =>
    rw [JavaType.references_parameterized] at h
    have hbase : r.className base = s.className base := h base List.mem_cons_self
    have harguments : arguments.map r.render = arguments.map s.render :=
      AgreeOn.map_congr ih (h.subset (List.subset_cons_self _ _))
    rw [render_parameterized, render_parameterized, hbase, harguments]

/-- A type variable is written by the names of the classes in its bounds. -/
theorem declaration_congr (h : r.AgreeOn s v.references) : r.declaration v = s.declaration v := by
  unfold declaration
  rw [AgreeOn.map_congr (fun _ _ => render_congr) h]

end Renderer

namespace Emitter

variable {r s : Renderer} {d : ClassDecl} {m : Member}

open Renderer

/-! ## Clauses -/

theorem annotationLines_congr (depth : Nat) {annotations : List Annotation}
    (h : r.AgreeOn s (annotations.flatMap Annotation.references)) :
    annotationLines r depth annotations = annotationLines s depth annotations := by
  refine AgreeOn.map_congr (fun a _ ha => ?_) h
  rw [ha a.annotationClass List.mem_cons_self]

theorem typeParameterList_congr {vs : List TypeVariable}
    (h : r.AgreeOn s (vs.flatMap TypeVariable.references)) :
    typeParameterList r vs = typeParameterList s vs := by
  cases vs with
  | nil => rfl
  | cons v vs =>
    have hmap : (v :: vs).map r.declaration = (v :: vs).map s.declaration :=
      AgreeOn.map_congr (fun _ _ => declaration_congr) h
    show "<" ++ joinWith ", " ((v :: vs).map r.declaration) ++ ">" = _
    rw [hmap]
    rfl

theorem leadingTypeParameters_congr {vs : List TypeVariable}
    (h : r.AgreeOn s (vs.flatMap TypeVariable.references)) :
    leadingTypeParameters r vs = leadingTypeParameters s vs := by
  cases vs with
  | nil => rfl
  | cons v vs =>
    show typeParameterList r (v :: vs) ++ " " = _
    rw [typeParameterList_congr h]
    rfl

theorem parameterList_congr {ps : List Parameter}
    (h : r.AgreeOn s (ps.flatMap Parameter.references)) : parameterList r ps = parameterList s ps := by
  unfold parameterList
  congr 1
  refine AgreeOn.map_congr (fun p _ hp => ?_) h
  rw [render_congr hp]

/-! ## Members -/

theorem fieldSignature_congr {f : Field} (h : r.AgreeOn s f.references) :
    fieldSignature r f = fieldSignature s f := by
  unfold fieldSignature
  rw [render_congr h.right]

theorem methodSignature_congr {kind : ClassKind} {m : Method} (h : r.AgreeOn s m.references) :
    methodSignature r kind m = methodSignature s kind m := by
  unfold methodSignature
  rw [leadingTypeParameters_congr h.left.left.left, render_congr h.left.right,
    parameterList_congr h.right]

theorem constructorSignature_congr {name : String} {c : Constructor} (h : r.AgreeOn s c.references) :
    constructorSignature r name c = constructorSignature s name c := by
  unfold constructorSignature
  rw [leadingTypeParameters_congr h.left.left, parameterList_congr h.right]

/-- The annotations of a member are among what it mentions, whatever its kind. -/
theorem annotations_subset_references (m : Member) :
    m.annotations.flatMap Annotation.references ⊆ m.references := by
  cases m with
  | field f => exact List.subset_append_left _ _
  | method m =>
    have hparts := List.subset_append_right (m.typeParameters.flatMap TypeVariable.references)
      (m.header.annotations.flatMap Annotation.references)
    exact List.subset_append_of_subset_left _ (List.subset_append_of_subset_left _ hparts)
  | constructor c => exact List.subset_append_of_subset_left _ (List.subset_append_right _ _)

theorem memberBodyLines_congr (h : r.AgreeOn s m.references) :
    memberBodyLines r d m = memberBodyLines s d m := by
  cases m with
  | field f => rw [memberBodyLines, memberBodyLines, fieldSignature_congr h]
  | method m =>
    rw [memberBodyLines, memberBodyLines]
    unfold methodLines
    rw [methodSignature_congr h]
  | constructor c => rw [memberBodyLines, memberBodyLines, constructorSignature_congr h]

/-- **A member is written by the names of the classes it mentions.** -/
theorem memberLines_congr (h : r.AgreeOn s m.references) : memberLines r d m = memberLines s d m := by
  unfold memberLines
  rw [annotationLines_congr 1 (h.subset (annotations_subset_references m)), memberBodyLines_congr h]

/-! ## Declarations -/

/-- **The head is written by the names of the classes it mentions.** -/
theorem headText_congr (hvars : r.AgreeOn s (d.typeParameters.flatMap TypeVariable.references))
    (hparent : r.AgreeOn s (d.parent.toList.flatMap JavaType.references))
    (hinterfaces : r.AgreeOn s (d.interfaces.flatMap JavaType.references)) :
    headText r d = headText s d := by
  unfold headText
  rw [typeParameterList_congr hvars]
  congr 1
  · congr 1
    cases hp : d.parent with
    | none => rfl
    | some t =>
      rw [hp] at hparent
      exact congrArg (" extends " ++ ·) (render_congr (hparent.of_mem (Option.mem_toList.mpr rfl)))
  · cases hi : d.interfaces with
    | nil => rfl
    | cons t ts =>
      rw [hi] at hinterfaces
      have hmap : (t :: ts).map r.render = (t :: ts).map s.render :=
        AgreeOn.map_congr (fun _ _ => render_congr) hinterfaces
      exact congrArg (fun names => interfacesWord d.kind ++ joinWith ", " names) hmap

/-- The imports of a declaration bear on what stands below them only through the renderer. -/
theorem declarationLines_with_imports (e : Emitter) (d : ClassDecl) (imports : ImportList) :
    e.declarationLines { d with imports } =
      let r := ({ d with imports } : ClassDecl).renderer e.imports.qualifyConflicts
      annotationLines r 0 d.annotations ++ .code 0 (headText r d ++ " \x7b") ::
        Line.stack e.format.blankLineBetweenMembers (d.members.map (memberLines r d))
        ++ [.code 0 "\x7d"] := rfl

/-- **Below the imports a declaration is written by the names of the classes it mentions.** -/
theorem declarationLines_congr {e : Emitter} {imports : ImportList}
    (h : (d.renderer e.imports.qualifyConflicts).AgreeOn
      (({ d with imports } : ClassDecl).renderer e.imports.qualifyConflicts) d.references) :
    e.declarationLines { d with imports } = e.declarationLines d := by
  -- annotations, type parameters, parent, interfaces and members, as `references` lists them
  have hannotations := annotationLines_congr 0 h.left.left.left.left
  have hhead := headText_congr h.left.left.left.right h.left.left.right h.left.right
  have hmembers := AgreeOn.map_congr (fun m _ hm => memberLines_congr (d := d) hm) h.right
  rw [declarationLines_with_imports, declarationLines]
  simp only [hannotations, hhead, hmembers]

end Emitter

namespace ClassDecl

variable {d : ClassDecl}

/-- Explicit imports change the import list and nothing else. -/
theorem run_addImport (d : ClassDecl) (cs : List ClassRef) :
    d.run (cs.map .addImport) = { d with imports := d.imports.merge (some d.package) cs } := by
  induction cs generalizing d with
  | nil => rfl
  | cons c cs ih =>
    rw [List.map_cons, run, ih]
    rfl

/-- **Nothing that is printed escapes the list of mentioned classes.** Renderers that agree on the classes
    that a type or a type variable mentions write it alike; and explicit imports that leave the names of the
    classes alone that a declaration mentions leave all text below its import lines alone. -/
theorem text_depends_on_references :
    (∀ (r s : Renderer) (t : JavaType), r.AgreeOn s t.references → r.render t = s.render t)
    ∧ (∀ (r s : Renderer) (v : TypeVariable), r.AgreeOn s v.references →
      r.declaration v = s.declaration v)
    ∧ ∀ (e : Emitter) (d : ClassDecl) (cs : List ClassRef),
      (d.renderer e.imports.qualifyConflicts).AgreeOn
        ((d.run (cs.map .addImport)).renderer e.imports.qualifyConflicts) d.references →
      ∃ text,
        e.emit d =
          Line.printAll e.format.indentUnit (Emitter.packageLines d ++ e.importLines d) ++ text
        ∧ e.emit (d.run (cs.map .addImport)) =
          Line.printAll e.format.indentUnit
            (Emitter.packageLines d ++ e.importLines (d.run (cs.map .addImport))) ++ text := by
  refine ⟨fun _ _ _ => Renderer.render_congr, fun _ _ _ => Renderer.declaration_congr, ?_⟩
  intro e d cs h
  rw [run_addImport] at h ⊢
  refine ⟨Line.printAll e.format.indentUnit (e.declarationLines d), ?_, ?_⟩
  · rw [← Line.printAll_append]
    rfl
  · rw [← Emitter.declarationLines_congr h, ← Line.printAll_append]
    rfl

/-- `ledger` with a class imported that nothing in it mentions. -/
def widenedLedger : ClassDecl := ledger.run ([.ofPackage ⟨"org.plane"⟩ "Point"].map .addImport)

theorem widenedLedger_text_below_imports :
    widenedLedger.imports ≠ ledger.imports
    ∧ (ledger.renderer true).AgreeOn (widenedLedger.renderer true) ledger.references
    ∧ ∃ text,
      Emitter.emit {} ledger =
        Line.printAll "    " (Emitter.packageLines ledger ++ Emitter.importLines {} ledger) ++ text
      ∧ Emitter.emit {} widenedLedger =
        Line.printAll "    " (Emitter.packageLines ledger ++ Emitter.importLines {} widenedLedger)
          ++ text := by
  have hagree : (ledger.renderer true).AgreeOn (widenedLedger.renderer true) ledger.references := by
    decide
  exact ⟨by decide, hagree,
    text_depends_on_references.2.2 {} ledger [.ofPackage ⟨"org.plane"⟩ "Point"] hagree⟩

end ClassDecl
end JavaSource
