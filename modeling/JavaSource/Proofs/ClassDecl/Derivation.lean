import JavaSource.Proofs.ClassDecl.Step
import JavaSource.Proofs.Imports.Batch
import JavaSource.Proofs.Imports.Invariant

/-!
# `Proofs.ClassDecl.Derivation` — the imports of a declaration, derived in one go

The imports of a declaration grow with every change. `ClassDecl.offers` collects what a list of changes
offers on the way: the candidates of the accepted ones, in order. A run merges exactly these
(`run_imports`), so what it leaves behind is their batch, whatever lay between the offers
(`run_imports_eq_batch`).
-/

namespace JavaSource
namespace ClassDecl

/-- The classes that a list of changes offers to the import list: the candidates of each change that is
    accepted when its turn comes, in order. -/
def offers (d : ClassDecl) : List Mutation → List ClassRef
  | [] => []
  | m :: ms =>
    match d.check m with
    | .error _ => (d.step m).offers ms
    | .ok () => m.candidates ++ (d.step m).offers ms

variable {d : ClassDecl}

/-- **A run merges what it offers**, and nothing else. -/
theorem run_imports (d : ClassDecl) (ms : List Mutation) :
    (d.run ms).imports = d.imports.merge (some d.package) (d.offers ms) := by
  induction ms generalizing d with
  | nil => rfl
  | cons m ms ih =>
    have hpack : (d.step m).package = d.package := (stepped d m).package_eq
    rw [run, ih, hpack, offers]
    cases hcheck : d.check m with
    | error err => rw [step_of_check_error hcheck]
    | ok u =>
      rw [step_of_check_ok hcheck]
      exact (ImportList.merge_append _ _ _ _).symm

/-- **The imports of a declaration only grow.** -/
theorem run_imports_extends (d : ClassDecl) (ms : List Mutation) : d.imports.Extends (d.run ms).imports := by
  rw [run_imports]
  exact ImportList.extends_merge _ _ _

/-- What a run has offered is imported or shadowed, if it is foreign. -/
theorem run_imports_covers {c : ClassRef} {ms : List Mutation} (hc : c ∈ d.offers ms) :
    (d.run ms).imports.Covers d.package c := by
  rw [run_imports]
  exact ImportList.covers_merge d.imports (some d.package) hc

/-- From an empty import list on, a run leaves the batch of its offers behind. -/
theorem run_imports_of_empty (h : d.imports = {}) (ms : List Mutation) :
    (d.run ms).imports = .batch d.package (d.offers ms) := by
  rw [run_imports, h, ImportList.merge_eq_batch]
  rfl

/-- **Imports that grow change by change are those of one batch.** Whatever is done to an empty declaration,
    its imports and conflicts are the batch of the classes that the accepted changes offered; the same holds
    of a merge into an empty list on behalf of any owner, and a merge counts the imports that it adds. -/
theorem run_imports_eq_batch :
    (∀ (package : Package) (name : String) (kind : ClassKind) (ms : List Mutation),
      ((fresh package name kind).run ms).imports
        = .batch package ((fresh package name kind).offers ms))
    ∧ (∀ (c : ClassRef) (ms : List Mutation),
      ((ofRef c).run ms).imports = .batch c.homePackage ((ofRef c).offers ms))
    ∧ (∀ (owner : Option Package) (cs : List ClassRef),
      ({} : ImportList).merge owner cs = .batch (owner.getD .unnamed) cs)
    ∧ ∀ (l : ImportList) (owner : Option Package) (cs : List ClassRef),
      (l.merge owner cs).classes.length = l.classes.length + l.addedCount owner cs := by
  refine ⟨?_, ?_, ImportList.merge_eq_batch, ImportList.length_classes_merge⟩
  · intro package name kind ms
    exact run_imports_of_empty rfl ms
  · intro c ms
    exact run_imports_of_empty rfl ms

end ClassDecl
end JavaSource
