import JavaSource.Proofs.Piece.Basic
import Mathlib.Data.List.Nodup

/-!
# `Proofs.Piece.Place` — the places inside a piece

The parts of a piece stand in its *slots*: `Piece.content` gives the contents of each. A *place* is a way into
a piece, by slots and by indices into their contents. At every place stands a piece (`Piece.at?`), and in it
at most one class of its own (`Piece.ownClass?`), so the places tell all occurrences of classes apart. The
owner of a member does not stand in a slot.

`Piece.walk` lists the places in walking order. It leads to every place and to none twice (`Piece.mem_walk_iff`,
`Piece.nodup_walk`). What is read off on the way comes from the piece itself and then from its slots, one after
the other (`Piece.readOff_eq`).
-/

namespace JavaSource
namespace Piece

/-! ## Slots -/

/-- The slots in which parts of pieces stand. -/
inductive Slot where
  | element
  | bound
  | moreBounds
  | lowerBounds
  | upperBounds
  | arguments
  | typeParameters
  | annotations
  | type
  | parameters
  deriving DecidableEq, Repr

/-- All slots, in walking order. No piece has parts in all of them. -/
def Slot.all : List Slot :=
  [.element, .bound, .moreBounds, .lowerBounds, .upperBounds, .arguments, .typeParameters, .annotations, .type,
    .parameters]

theorem Slot.mem_all (slot : Slot) : slot ∈ all := by cases slot <;> decide

theorem Slot.nodup_all : all.Nodup := by decide

/-- The types that stand in a slot of a type. -/
def typeContent : JavaType → Slot → List JavaType
  | .array element, .element => [element]
  | .variableDecl _ bound _, .bound => bound.toList
  | .variableDecl _ _ more, .moreBounds => more
  | .wildcard _ lower, .lowerBounds => lower.getD []
  | .wildcard upper _, .upperBounds => upper.getD []
  | .parameterized _ arguments, .arguments => arguments
  | _, _ => []

/-- The pieces that stand in a slot of a member. -/
def memberContent : Member → Slot → List Piece
  | m, .typeParameters => m.typeParameters.map typeVariable
  | m, .annotations => m.annotations.map annotation
  | .field f, .type => [type f.type]
  | .method m, .type => [type m.returnType]
  | m, .parameters => m.parameters.map parameter
  | _, _ => []

/-- What stands in a slot of a piece. -/
def content : Piece → Slot → List Piece
  | type t, slot => (typeContent t slot).map type
  | typeVariable v, slot => (typeContent v.toType slot).map type
  | wildcard w, slot => (typeContent w.toType slot).map type
  | parameterized p, slot => (typeContent p.toType slot).map type
  | annotation _, _ => []
  | parameter p, slot => if slot = .type then [type p.type] else []
  | member m, slot => memberContent m slot

/-- The class that stands in a piece itself, and not in a part of it: the head of a type, or the class of an
    annotation. -/
def ownClass? : Piece → Option ClassRef
  | type t => t.headClass?
  | typeVariable v => v.toType.headClass?
  | wildcard w => w.toType.headClass?
  | parameterized p => p.toType.headClass?
  | annotation a => some a.annotationClass
  | parameter _ => none
  | member _ => none

/-! ## Places -/

/-- A way into a piece: slots, each with an index. -/
abbrev Place := List (Slot × Nat)

/-- The piece at a place, if there is such a place. -/
def at? (p : Piece) : Place → Option Piece
  | [] => some p
  | (slot, i) :: place => (p.content slot)[i]?.bind fun q => q.at? place

/-- The class that stands at a place. -/
def classAt? (p : Piece) (place : Place) : Option ClassRef := (p.at? place).bind ownClass?

/-! ## Induction over parts -/

section induction

/-- What holds of a type whenever it holds of its parts holds of every type. -/
theorem induct_type {motive : JavaType → Prop}
    (h : ∀ t, (∀ slot, ∀ u ∈ typeContent t slot, motive u) → motive t) (t : JavaType) : motive t := by
  induction t using JavaType.induct with
  | primitive p => exact h _ fun slot u hu => nomatch hu
  | ofClass c => exact h _ fun slot u hu => nomatch hu
  | array element ih =>
    apply h
    intro slot u hu
    cases slot with
    | element => exact List.mem_singleton.mp hu ▸ ih
    | _ => cases hu
  | variableDecl name bound more ihb ihm =>
    apply h
    intro slot u hu
    cases slot with
    | bound => exact ihb u (Option.mem_toList.mp hu)
    | moreBounds => exact ihm u hu
    | _ => cases hu
  | variableRef name => exact h _ fun slot u hu => nomatch hu
  | wildcard upper lower ihu ihl =>
    apply h
    intro slot u hu
    cases slot with
    | lowerBounds => exact JavaType.forall_mem_getD_iff.mpr ihl u hu
    | upperBounds => exact JavaType.forall_mem_getD_iff.mpr ihu u hu
    | _ => cases hu
  | parameterized base arguments ih =>
    apply h
    intro slot u hu
    cases slot with
    | arguments => exact ih u hu
    | _ => cases hu

variable {motive : Piece → Prop}

theorem forall_mem_map_type (h : ∀ t, motive (type t)) (ts : List JavaType) : ∀ q ∈ ts.map type, motive q := by
  intro q hq
  obtain ⟨t, -, rfl⟩ := List.mem_map.mp hq
  exact h t

/-- **Induction over pieces**: a statement holds of every piece if it holds of one whenever it holds of its
    parts. -/
theorem induct (h : ∀ p : Piece, (∀ slot, ∀ q ∈ p.content slot, motive q) → motive p) (p : Piece) : motive p := by
  -- types first, since all else is made of them
  have htype : ∀ t, motive (type t) := by
    apply induct_type
    intro t ih
    apply h
    intro slot q hq
    obtain ⟨u, hu, rfl⟩ := List.mem_map.mp hq
    exact ih slot u hu
  have hvariable : ∀ v, motive (typeVariable v) := fun v => h _ fun slot => forall_mem_map_type htype _
  have hannotation : ∀ a, motive ( annotation a) := fun a => h _ fun slot q hq => nomatch hq
  have hparameter : ∀ r, motive (parameter r) := by
    intro r
    apply h
    intro slot q hq
    simp only [content] at hq
    split at hq
    · exact List.mem_singleton.mp hq ▸ htype _
    · cases hq
  cases p with
  | type t => exact htype t
  | typeVariable v => exact hvariable v
  | wildcard w => exact h _ fun slot => forall_mem_map_type htype _
  | parameterized p => exact h _ fun slot => forall_mem_map_type htype _
  | annotation a => exact hannotation a
  | parameter r => exact hparameter r
  | member m =>
    apply h
    intro slot q hq
    simp only [content, memberContent] at hq
    split at hq
    · obtain ⟨v, -, rfl⟩ := List.mem_map.mp hq
      exact hvariable v
    · obtain ⟨a, -, rfl⟩ := List.mem_map.mp hq
      exact hannotation a
    · exact List.mem_singleton.mp hq ▸ htype _
    · exact List.mem_singleton.mp hq ▸ htype _
    · obtain ⟨r, -, rfl⟩ := List.mem_map.mp hq
      exact hparameter r
    · cases hq

end induction

/-- A piece is a part of another: it stands in one of its slots. -/
def IsPart (q p : Piece) : Prop := ∃ slot, q ∈ p.content slot

/-- Going from pieces to their parts comes to an end. -/
instance : WellFoundedRelation Piece where
  rel := IsPart
  wf := ⟨induct fun p ih => Acc.intro p fun q ⟨slot, hq⟩ => ih slot q hq⟩

/-! ## The walk -/

/-- The parts of a piece in walking order, each with its slot and index. -/
def parts (p : Piece) : List ((Slot × Nat) × Piece) :=
  Slot.all.flatMap fun slot => (p.content slot).zipIdx.map fun x => ((slot, x.2), x.1)

variable {p q : Piece} {t : JavaType} {slot : Slot} {i : Nat} {place : Place} {β : Type}

/-- **The parts in walking order are all that stands in slots.** -/
theorem mem_parts_iff : ((slot, i), q) ∈ p.parts ↔ (p.content slot)[i]? = some q := by
  unfold parts
  rw [List.mem_flatMap]
  constructor
  · rintro ⟨slot', -, hmem⟩
    obtain ⟨⟨r, j⟩, hr, heq⟩ := List.mem_map.mp hmem
    cases heq
    exact List.mem_zipIdx_iff_getElem?.mp hr
  · intro h
    exact ⟨slot, slot.mem_all, List.mem_map.mpr ⟨(q, i), List.mem_zipIdx_iff_getElem?.mpr h, rfl⟩⟩

/-- No two parts have slot and index in common. -/
theorem pairwise_parts (p : Piece) : p.parts.Pairwise fun x y => x.1 ≠ y.1 := by
  unfold parts
  rw [List.pairwise_flatMap]
  constructor
  · intro slot _
    rw [List.pairwise_map]
    -- within a slot it is the indices that differ
    have hindex : (p.content slot).zipIdx.Pairwise fun x y => x.2 ≠ y.2 := by
      rw [← List.pairwise_map, List.zipIdx_map_snd]
      exact List.nodup_range' 1
    refine hindex.imp ?_
    intro x y hxy heq
    exact hxy (Prod.mk.inj heq).2
  · refine Slot.nodup_all.imp ?_
    intro slot slot' hne x hx y hy heq
    obtain ⟨a, -, rfl⟩ := List.mem_map.mp hx
    obtain ⟨b, -, rfl⟩ := List.mem_map.mp hy
    exact hne (Prod.mk.inj heq).1

/-- The places in a piece, in walking order: the piece itself, and then the places in its parts. -/
def walk (p : Piece) : List Place :=
  [] :: p.parts.attach.flatMap fun x => (walk x.1.2).map (x.1.1 :: ·)
termination_by p
decreasing_by exact ⟨_, List.mem_of_getElem? (mem_parts_iff.mp x.2)⟩

theorem walk_eq (p : Piece) : p.walk = [] :: p.parts.flatMap fun x => x.2.walk.map (x.1 :: ·) := by
  rw [walk, List.flatMap_def, List.flatMap_def]
  rw [List.attach_map_val (f := fun x : (Slot × Nat) × Piece => x.2.walk.map (x.1 :: ·))]

theorem nil_mem_walk (p : Piece) : [] ∈ p.walk := by
  rw [walk_eq]
  exact List.mem_cons_self

theorem cons_mem_walk_iff {step : Slot × Nat} :
    step :: place ∈ p.walk ↔ ∃ q, (step, q) ∈ p.parts ∧ place ∈ q.walk := by
  rw [walk_eq, List.mem_cons, List.mem_flatMap]
  constructor
  · rintro (h | ⟨⟨step', q⟩, hq, h⟩)
    · cases h
    · obtain ⟨place', hplace, heq⟩ := List.mem_map.mp h
      cases heq
      exact ⟨q, hq, hplace⟩
  · rintro ⟨q, hq, h⟩
    exact Or.inr ⟨(step, q), hq, List.mem_map.mpr ⟨place, h, rfl⟩⟩

/-- **The walk leads to every place.** -/
theorem mem_walk_iff : place ∈ p.walk ↔ (p.at? place).isSome = true := by
  induction place generalizing p with
  | nil => simp only [nil_mem_walk, at?, Option.isSome_some]
  | cons step place ih =>
    obtain ⟨slot, i⟩ := step
    rw [cons_mem_walk_iff, at?]
    constructor
    · rintro ⟨q, hq, h⟩
      rw [mem_parts_iff.mp hq]
      exact ih.mp h
    · intro h
      cases hq : (p.content slot)[i]? with
      | none =>
        rw [hq] at h
        cases h
      | some q =>
        rw [hq] at h
        exact ⟨q, mem_parts_iff.mpr hq, ih.mpr h⟩

/-- **The walk leads to no place twice.** -/
theorem nodup_walk (p : Piece) : p.walk.Nodup := by
  induction p using induct with
  | h p ih =>
    rw [walk_eq, List.nodup_cons, List.nodup_flatMap]
    refine ⟨?_, ?_, ?_⟩
    · -- a way into a part is not empty
      intro h
      obtain ⟨x, -, hx⟩ := List.mem_flatMap.mp h
      obtain ⟨place, -, heq⟩ := List.mem_map.mp hx
      cases heq
    · intro x hx
      have hq : x.2 ∈ p.content x.1.1 := List.mem_of_getElem? (mem_parts_iff.mp hx)
      exact (ih x.1.1 x.2 hq).map fun _ _ h => (List.cons.inj h).2
    · -- ways into two parts differ in the first step
      refine (pairwise_parts p).imp ?_
      intro x y hne place hx hy
      obtain ⟨_, -, rfl⟩ := List.mem_map.mp hx
      obtain ⟨_, -, heq⟩ := List.mem_map.mp hy
      exact hne (List.cons.inj heq).1.symm

/-! ## What is read off on a walk -/

/-- What is read off the pieces at all places, in walking order. -/
def readOff (g : Piece → Option β) (p : Piece) : List β := p.walk.filterMap fun place => (p.at? place).bind g

theorem flatMap_parts (f : Piece → List β) :
    p.parts.flatMap (fun x => f x.2) = Slot.all.flatMap fun slot => (p.content slot).flatMap f := by
  unfold parts
  rw [List.flatMap_assoc]
  apply List.flatMap_congr
  intro slot _
  rw [List.flatMap_map, ← List.flatMap_map Prod.fst, List.zipIdx_map_fst]

/-- **First comes what a piece has itself, and then what its slots hold**, one slot after the other. -/
theorem readOff_eq (g : Piece → Option β) (p : Piece) :
    p.readOff g = (g p).toList ++ Slot.all.flatMap fun slot => (p.content slot).flatMap (readOff g) := by
  have hpart : ∀ x ∈ p.parts,
      (x.2.walk.map (x.1 :: ·)).filterMap (fun place => (p.at? place).bind g) = x.2.readOff g := by
    rintro ⟨⟨slot, i⟩, q⟩ hx
    rw [List.filterMap_map]
    apply List.filterMap_congr
    intro place _
    show (((p.content slot)[i]?.bind fun q => q.at? place).bind g) = (q.at? place).bind g
    rw [mem_parts_iff.mp hx]
    rfl
  have hhere : (p.at? []).bind g = g p := rfl
  unfold readOff
  rw [walk_eq, List.filterMap_cons, List.filterMap_flatMap, List.flatMap_congr hpart, flatMap_parts, hhere]
  cases g p <;> rfl

end Piece
end JavaSource
