import JavaSource.ClassDecl.Mutation
import Mathlib.Tactic.Tauto

/-!
# `Proofs.ClassDecl.Step` — what one change does to a declaration

`Stepped` is the step relation of declarations: a change is refused and nothing happens, or it is recorded
and the import list merges its candidates. `stepped` ties it to `step`; whatever every change preserves is
shown over its two cases. Beside it stands what recording a change does to the mentioned classes: they are
the old ones and the candidates of the change, for attaching a member changes none of the classes it
mentions.
-/

namespace JavaSource

namespace Member

/-- The owner is no part of what a member mentions. -/
theorem references_withOwner (m : Member) (c : ClassRef) : (m.withOwner c).references = m.references := by
  cases m with
  | field f => rfl
  | method m => rfl
  | constructor m => rfl

theorem references_abstracted (m : Member) : m.abstracted.references = m.references := by
  cases m with
  | field f => rfl
  | method m => rfl
  | constructor m => rfl

end Member

namespace ClassDecl

variable {d e : ClassDecl} {m : Mutation} {err : DeclarationError}

theorem references_adopted (d : ClassDecl) (m : Member) : (d.adopted m).references = m.references := by
  unfold adopted
  rw [Member.references_withOwner]
  split
  · exact Member.references_abstracted m
  · rfl

/-! ## Recording a change -/

@[simp] theorem record_package (d : ClassDecl) (m : Mutation) : (d.record m).package = d.package := by
  cases m <;> rfl

theorem record_name (d : ClassDecl) (m : Mutation) : (d.record m).name = d.name := by
  cases m <;> rfl

theorem record_kind (d : ClassDecl) (m : Mutation) : (d.record m).kind = d.kind := by
  cases m <;> rfl

/-- A mentioned class is mentioned by one of the five parts. -/
theorem mem_references {c : ClassRef} :
    c ∈ d.references ↔
      c ∈ d.annotations.flatMap Annotation.references ∨
      c ∈ d.typeParameters.flatMap TypeVariable.references ∨
      c ∈ d.parent.toList.flatMap JavaType.references ∨
      c ∈ d.interfaces.flatMap JavaType.references ∨
      c ∈ d.members.flatMap Member.references := by
  unfold references
  simp only [List.mem_append, or_assoc]

/-- A part with one more item at its end mentions what it did, and what the item does. -/
theorem mem_flatMap_concat {α : Type} {f : α → List ClassRef} {xs : List α} {x : α} {c : ClassRef} :
    c ∈ (xs ++ [x]).flatMap f ↔ c ∈ xs.flatMap f ∨ c ∈ f x := by
  rw [List.flatMap_append, List.flatMap_singleton, List.mem_append]

/-- **What a change attaches, it offers**: a class that the changed declaration mentions was mentioned
    before or is a candidate of the change. -/
theorem mem_references_record {c : ClassRef} (h : c ∈ (d.record m).references) :
    c ∈ d.references ∨ c ∈ m.candidates := by
  rw [mem_references] at h ⊢
  cases m with
  | setAccess a => exact Or.inl h
  | setArray flag => exact Or.inl h
  | addImport c => exact Or.inl h
  | annotate a =>
    simp only [record, Mutation.candidates, mem_flatMap_concat] at h ⊢
    tauto
  | addTypeParameter v =>
    simp only [record, Mutation.candidates, mem_flatMap_concat] at h ⊢
    tauto
  | setParent t =>
    -- the old parent goes, so this part is mentioned afresh
    simp only [record, Mutation.candidates, Option.toList_some, List.flatMap_singleton] at h ⊢
    tauto
  | addInterface t =>
    simp only [record, Mutation.candidates, mem_flatMap_concat] at h ⊢
    tauto
  | addMember m =>
    simp only [record, Mutation.candidates, mem_flatMap_concat, references_adopted] at h ⊢
    tauto

/-! ## The step relation -/

/-- **A step**: a refused change leaves the declaration alone, an accepted one is recorded and its
    candidates are merged into the import list. -/
inductive Stepped (d : ClassDecl) (m : Mutation) : ClassDecl → Prop where
  | refused {err : DeclarationError} (h : d.check m = .error err) : Stepped d m d
  | accepted (h : d.check m = .ok ()) : Stepped d m { d.record m with imports := d.importsAfter m }

theorem stepped (d : ClassDecl) (m : Mutation) : Stepped d m (d.step m) := by
  unfold step apply
  cases h : d.check m with
  | error err => exact .refused h
  | ok u => exact .accepted h

/-- A step does not move a declaration to another package. -/
theorem Stepped.package_eq (h : Stepped d m e) : e.package = d.package := by
  cases h with
  | refused _ => rfl
  | accepted _ => exact record_package d m

/-- A step does not rename a declaration. -/
theorem Stepped.name_eq (h : Stepped d m e) : e.name = d.name := by
  cases h with
  | refused _ => rfl
  | accepted _ => exact record_name d m

/-- A step does not make a class an interface, or an interface a class. -/
theorem Stepped.kind_eq (h : Stepped d m e) : e.kind = d.kind := by
  cases h with
  | refused _ => rfl
  | accepted _ => exact record_kind d m

/-- What every step preserves, a run preserves. -/
theorem run_induction {P : ClassDecl → Prop}
    (hstep : ∀ {d e : ClassDecl} {m : Mutation}, Stepped d m e → P d → P e) (ms : List Mutation) (h : P d) :
    P (d.run ms) := by
  induction ms generalizing d with
  | nil => exact h
  | cons m ms ih => exact ih (hstep (stepped d m) h)

theorem run_package (d : ClassDecl) (ms : List Mutation) : (d.run ms).package = d.package :=
  run_induction (P := fun e => e.package = d.package) (fun hs he => hs.package_eq.trans he) ms rfl

theorem run_name (d : ClassDecl) (ms : List Mutation) : (d.run ms).name = d.name :=
  run_induction (P := fun e => e.name = d.name) (fun hs he => hs.name_eq.trans he) ms rfl

theorem run_kind (d : ClassDecl) (ms : List Mutation) : (d.run ms).kind = d.kind :=
  run_induction (P := fun e => e.kind = d.kind) (fun hs he => hs.kind_eq.trans he) ms rfl

/-! ## The outcome of a check, and what it decides -/

theorem step_of_check_error (h : d.check m = .error err) : d.step m = d := by
  unfold step apply
  rw [h]

theorem step_of_check_ok (h : d.check m = .ok ()) :
    d.step m = { d.record m with imports := d.importsAfter m } := by
  unfold step apply
  rw [h]

theorem applyEvents_of_check_error (h : d.check m = .error err) : d.applyEvents m = [] := by
  unfold applyEvents
  rw [h]

theorem applyEvents_of_check_ok (h : d.check m = .ok ()) :
    d.applyEvents m = d.imports.mergeEvents (some d.package) m.candidates := by
  unfold applyEvents
  rw [h]

end ClassDecl
end JavaSource
