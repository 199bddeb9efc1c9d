import JavaSource.ClassDecl.Mutation
import JavaSource.Emission.Renderer
import JavaSource.Proofs.JavaType.Declarations
import Mathlib.Algebra.GroupWithZero.Nat

/-!
# `Proofs.Emission.Display` — types in messages and types in source text

Two printers write types: `JavaType.display` for messages, and the renderer of a unit, here one that writes
every class by its simple name. Outside declarations of type variables they differ in one place. Where the base
of a generic class has the flag of an array, the renderer writes the mark and the message leaves it out.
`JavaType.markedBases` counts these places, and the rendered text is longer by two characters for each
(`Renderer.length_render`); so the printers agree exactly on the types without such a base.
-/

namespace JavaSource
open Text

/-! ## Lengths of joined texts -/

section lengths

variable {α : Type} {f g : α → String} {excess : α → Nat} {as : List α}

/-- Two texts joined in the same way differ in length by what their parts differ by. -/
theorem Text.length_joinWith_map (sep : String) (h : ∀ a ∈ as, (f a).length = (g a).length + 2 * excess a) :
    (joinWith sep (as.map f)).length = (joinWith sep (as.map g)).length + 2 * (as.map excess).sum := by
  induction as with
  | nil => rfl
  | cons a as ih =>
    rw [List.forall_mem_cons] at h
    obtain ⟨ha, has⟩ := h
    cases as with
    | nil => simpa [joinWith] using ha
    | cons b bs =>
      have hrest := ih has
      simp only [List.map_cons, joinWith, List.sum_cons, String.length_append] at hrest ⊢
      omega

theorem length_boundsClause_map (word : String)
    (h : ∀ a ∈ as, (f a).length = (g a).length + 2 * excess a) :
    (boundsClause word (as.map f)).length =
      (boundsClause word (as.map g)).length + 2 * (as.map excess).sum := by
  cases as with
  | nil => rfl
  | cons a as =>
    have hjoin := length_joinWith_map " & " h
    simp only [List.map_cons, boundsClause, String.length_append] at hjoin ⊢
    omega

end lengths

theorem sum_map_eq_zero_iff {α : Type} {f : α → Nat} {as : List α} :
    (as.map f).sum = 0 ↔ ∀ a ∈ as, f a = 0 := by
  rw [List.sum_eq_zero_iff_forall_eq_nat, List.forall_mem_map]

/-! ## Marked bases -/

namespace JavaType

/-- How many bases of generic classes in a type have the flag of an array. -/
def markedBases : JavaType → Nat :=
  fold {
    primitive := fun _ => 0
    ofClass := fun _ => 0
    array := id
    variableDecl := fun _ bound more => (bound.toList ++ more).sum
    variableRef := fun _ => 0
    wildcard := fun upper lower => (upper.getD []).sum + (lower.getD []).sum
    parameterized := fun base arguments => base.isArray.toNat + arguments.sum }

section markedBases

variable (p : Primitive) (c : ClassRef) (t : JavaType) (name : String) (bound : Option JavaType)
  (ts : List JavaType) (upper lower : Option (List JavaType))

@[simp] theorem markedBases_primitive : (primitive p).markedBases = 0 := rfl
@[simp] theorem markedBases_ofClass : (ofClass c).markedBases = 0 := rfl
@[simp] theorem markedBases_array : (array t).markedBases = t.markedBases := rfl
@[simp] theorem markedBases_variableDecl :
    (variableDecl name bound ts).markedBases = ((bound.toList ++ ts).map markedBases).sum := by
  cases bound <;> simp [markedBases, fold]
@[simp] theorem markedBases_variableRef : (variableRef name).markedBases = 0 := rfl
@[simp] theorem markedBases_wildcard :
    (wildcard upper lower).markedBases =
      ((upper.getD []).map markedBases).sum + ((lower.getD []).map markedBases).sum := by
  cases upper <;> cases lower <;> simp [markedBases, fold]
@[simp] theorem markedBases_parameterized :
    (parameterized c ts).markedBases = c.isArray.toNat + (ts.map markedBases).sum := by
  simp [markedBases, fold]

end markedBases

end JavaType

/-! ## The two printers -/

namespace Renderer

variable {r : Renderer} {t : JavaType} {v : TypeVariable}

theorem className_of_not_qualify (hq : r.qualify = false) (c : ClassRef) :
    r.className c = c.name ++ c.arraySuffix := by
  unfold className
  rw [hq, Bool.false_and]
  rfl

/-- **The rendered text of a type has two characters more than its message for every marked base.** -/
theorem length_render (hq : r.qualify = false) (ht : ¬ t.Declares) :
    (r.render t).length = t.display.length + 2 * t.markedBases := by
  induction t using JavaType.induct with
  | primitive p => rfl
  | ofClass c =>
    rw [render_ofClass, className_of_not_qualify hq]
    rfl
  | array element ih =>
    rw [JavaType.declares_array_iff] at ht
    have helement := ih ht
    simp only [render_array, JavaType.display_array, JavaType.markedBases_array, String.length_append]
    omega
  | variableDecl name bound more _ _ => exact absurd .here ht
  | variableRef name => rfl
  | wildcard upper lower ihu ihl =>
    obtain ⟨htu, htl⟩ := JavaType.not_declares_wildcard_iff.mp ht
    have hextends := length_boundsClause_map "extends" <|
      JavaType.forall_mem_getD_iff.mpr fun ts hts t hmem => ihu ts hts t hmem (htu ts hts t hmem)
    have hsuper := length_boundsClause_map "super" <|
      JavaType.forall_mem_getD_iff.mpr fun ts hts t hmem => ihl ts hts t hmem (htl ts hts t hmem)
    simp only [render_wildcard, JavaType.display_wildcard, JavaType.markedBases_wildcard,
      String.length_append]
    omega
  | parameterized base arguments ih =>
    rw [JavaType.not_declares_parameterized_iff] at ht
    have harguments := length_joinWith_map ", " fun t hmem => ih t hmem (ht t hmem)
    have hbase : base.arraySuffix.length = 2 * base.isArray.toNat := by
      unfold ClassRef.arraySuffix
      cases base.isArray <;> rfl
    simp only [render_parameterized, JavaType.display_parameterized, JavaType.markedBases_parameterized,
      className_of_not_qualify hq, String.length_append]
    omega

/-- Without a marked base the two texts are equal. -/
theorem render_eq_display (hq : r.qualify = false) (ht : ¬ t.Declares) (hm : t.markedBases = 0) :
    r.render t = t.display := by
  induction t using JavaType.induct with
  | primitive p => rfl
  | ofClass c => exact className_of_not_qualify hq c
  | array element ih =>
    rw [JavaType.declares_array_iff] at ht
    rw [render_array, JavaType.display_array, ih ht hm]
  | variableDecl name bound more _ _ => exact absurd .here ht
  | variableRef name => rfl
  | wildcard upper lower ihu ihl =>
    obtain ⟨htu, htl⟩ := JavaType.not_declares_wildcard_iff.mp ht
    rw [JavaType.markedBases_wildcard, Nat.add_eq_zero_iff, sum_map_eq_zero_iff, sum_map_eq_zero_iff,
      JavaType.forall_mem_getD_iff, JavaType.forall_mem_getD_iff] at hm
    obtain ⟨hmu, hml⟩ := hm
    have hupper : ∀ t ∈ upper.getD [], r.render t = t.display :=
      JavaType.forall_mem_getD_iff.mpr fun ts hts t hmem =>
        ihu ts hts t hmem (htu ts hts t hmem) (hmu ts hts t hmem)
    have hlower : ∀ t ∈ lower.getD [], r.render t = t.display :=
      JavaType.forall_mem_getD_iff.mpr fun ts hts t hmem =>
        ihl ts hts t hmem (htl ts hts t hmem) (hml ts hts t hmem)
    rw [render_wildcard, JavaType.display_wildcard, List.map_congr_left hupper, List.map_congr_left hlower]
  | parameterized base arguments ih =>
    rw [JavaType.not_declares_parameterized_iff] at ht
    rw [JavaType.markedBases_parameterized, Nat.add_eq_zero_iff, sum_map_eq_zero_iff] at hm
    obtain ⟨hbase, hnone⟩ := hm
    have harguments : ∀ t ∈ arguments, r.render t = t.display := fun t hmem =>
      ih t hmem (ht t hmem) (hnone t hmem)
    have hunmarked : base.arraySuffix = "" := by
      unfold ClassRef.arraySuffix
      rw [Bool.toNat_eq_zero.mp hbase]
      rfl
    rw [render_parameterized, JavaType.display_parameterized, className_of_not_qualify hq, hunmarked,
      List.map_congr_left harguments, String.append_empty]

/-- **The two printers agree exactly on the types without a marked base.** -/
theorem render_eq_display_iff (hq : r.qualify = false) (ht : ¬ t.Declares) :
    r.render t = t.display ↔ t.markedBases = 0 := by
  constructor
  · intro h
    have hlength := length_render hq ht
    rw [h] at hlength
    omega
  · exact render_eq_display hq ht

end Renderer

/-! ## Declared type variables -/

namespace TypeVariable

variable {r : Renderer} {v : TypeVariable}

theorem display_eq (v : TypeVariable) :
    v.display = v.name ++ boundsClause "extends" (v.bounds.map JavaType.display) :=
  JavaType.display_variableDecl v.name v.bound v.moreBounds

/-- How many bases in the bounds of a variable have the flag of an array. -/
def markedBases (v : TypeVariable) : Nat := (v.bounds.map JavaType.markedBases).sum

/-- A declaration is longer than its message by what its bounds are longer. -/
theorem length_declaration (hq : r.qualify = false) (hv : ∀ t ∈ v.bounds, ¬ t.Declares) :
    (r.declaration v).length = v.display.length + 2 * v.markedBases := by
  have hbounds := length_boundsClause_map "extends" fun t hmem => Renderer.length_render hq (hv t hmem)
  rw [display_eq]
  unfold Renderer.declaration markedBases
  rw [String.length_append, String.length_append, hbounds, Nat.add_assoc]

theorem declaration_eq_display_iff (hq : r.qualify = false) (hv : ∀ t ∈ v.bounds, ¬ t.Declares) :
    r.declaration v = v.display ↔ v.markedBases = 0 := by
  constructor
  · intro h
    have hlength := length_declaration hq hv
    rw [h] at hlength
    omega
  · intro hm
    have hbounds : ∀ t ∈ v.bounds, r.render t = t.display := fun t hmem =>
      Renderer.render_eq_display hq (hv t hmem) (sum_map_eq_zero_iff.mp hm t hmem)
    rw [display_eq]
    unfold Renderer.declaration
    rw [List.map_congr_left hbounds]

end TypeVariable

namespace ClassDecl

/-- **The two printers, compared.** Take a unit that writes classes by their simple names. A type without
    declarations of type variables is rendered as messages show it exactly if no base of a generic class in it
    has the flag of an array; each such base makes the rendered text longer by two characters. The same holds
    of the declaration of a type variable whose bounds declare nothing. -/
theorem printers_agree_iff (d : ClassDecl) :
    (∀ t : JavaType, ¬ t.Declares →
      ((d.renderer false).render t = t.display ↔ t.markedBases = 0)
      ∧ ((d.renderer false).render t).length = t.display.length + 2 * t.markedBases)
    ∧ ∀ v : TypeVariable, (∀ t ∈ v.bounds, ¬ t.Declares) →
      ((d.renderer false).declaration v = v.display ↔ v.markedBases = 0)
      ∧ ((d.renderer false).declaration v).length = v.display.length + 2 * v.markedBases := by
  refine ⟨?_, ?_⟩
  · intro t ht
    exact ⟨Renderer.render_eq_display_iff rfl ht, Renderer.length_render rfl ht⟩
  · intro v hv
    exact ⟨TypeVariable.declaration_eq_display_iff rfl hv, TypeVariable.length_declaration rfl hv⟩

/-- A list whose class has the flag of an array, of books. -/
def bookArrays : JavaType :=
  .parameterized { ClassRef.ofPackage ⟨"java.util"⟩ "ArrayList" with isArray := true }
    [.ofClass (.ofPackage ⟨"org.books"⟩ "Book")]

/-- A class `com.acme.Shelf` that extends such a list. -/
def shelf : ClassDecl := (fresh ⟨"com.acme"⟩ "Shelf" .ordinary).run [.setParent bookArrays]

theorem shelf_reachable : shelf.Reachable := Reachable.run (.fresh _ _ _) _

/-- On the shelf an array of books is written as messages show it, and so is a variable that is bounded by
    one; with the marked list both are two characters longer. -/
theorem shelf_printers_agree_iff :
    (shelf.renderer false).render (.array (.ofClass (.ofPackage ⟨"org.books"⟩ "Book"))) = "Book[]"
    ∧ ((shelf.renderer false).render bookArrays).length = bookArrays.display.length + 2
    ∧ ((shelf.renderer false).declaration { name := "T", bound := some bookArrays }).length =
      "T extends ArrayList<Book>".length + 2 := by
  obtain ⟨htypes, hvariables⟩ := printers_agree_iff shelf
  refine ⟨?_, ?_, ?_⟩
  · exact (htypes (.array (.ofClass (.ofPackage ⟨"org.books"⟩ "Book"))) (by decide)).1.mpr (by decide)
  · exact (htypes bookArrays (by decide)).2
  · exact (hvariables { name := "T", bound := some bookArrays } (by decide)).2

/-- The printers do not agree on every type without a declaration: the shelf writes `ArrayList[]<Book>` where
    messages show `ArrayList<Book>`. -/
theorem not_printers_agree :
    ¬ ∀ (d : ClassDecl) (t : JavaType), d.Reachable → ¬ t.Declares →
      (d.renderer false).render t = t.display := by
  intro h
  have hshelf := h shelf bookArrays shelf_reachable (by decide)
  revert hshelf
  decide

end ClassDecl
end JavaSource
