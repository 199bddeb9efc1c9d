import JavaSource.Proofs.Piece.Place
import Mathlib.Data.Set.Card

/-!
# `Proofs.Piece.Walk` — the walk over references is complete and exact

`Piece.references` and `JavaType.firstDeclaration?` are recursions of their own, one over all pieces and one
over types. Both read off what stands at the places of a piece, in the order of `Piece.walk`: the one takes
every class (`Piece.references_eq_readOff`), the other the first declaration of a type variable
(`Piece.firstDeclaration?_eq_head?_readOff`). As the walk leads to each place once, a class is listed as often
as there are places at which it stands (`Piece.references_exact_and_search_follows`).
-/

namespace JavaSource

/-! ## Declarations -/

/-- The type variable that a type declares, for a type that is just a declaration. -/
def JavaType.asDeclaration? : JavaType → Option TypeVariable
  | .variableDecl name bound more => some { name, bound, moreBounds := more }
  | _ => none

namespace Piece

variable {p : Piece} {place : Place}

/-- The type variable that a piece declares. -/
def ownDeclaration? : Piece → Option TypeVariable
  | type t => t.asDeclaration?
  | typeVariable v => some v
  | _ => none

/-- The type variable that is declared at a place. -/
def declarationAt? (p : Piece) (place : Place) : Option TypeVariable := (p.at? place).bind ownDeclaration?

/-- A type declares itself first, and then what its slots declare. -/
theorem firstDeclaration?_eq (t : JavaType) :
    t.firstDeclaration? = (t.asDeclaration?.toList
      ++ Slot.all.flatMap fun slot => (typeContent t slot).filterMap JavaType.firstDeclaration?).head? := by
  cases t with
  | array element =>
    -- the search goes on with the element itself, and not with a list of one type
    cases h : element.firstDeclaration? <;> simp [Slot.all, typeContent, JavaType.asDeclaration?, h]
  | _ => simp [Slot.all, typeContent, JavaType.asDeclaration?]

/-- **The search finds what a walk meets first.** -/
theorem firstDeclaration?_eq_head?_readOff (t : JavaType) :
    t.firstDeclaration? = ((type t).readOff ownDeclaration?).head? := by
  induction t using induct_type with
  | h t ih =>
    have hslot : ∀ slot, ((typeContent t slot).filterMap JavaType.firstDeclaration?).head?
        = (((type t).content slot).flatMap (readOff ownDeclaration?)).head? := by
      intro slot
      rw [List.filterMap_congr (ih slot), List.head?_filterMap, content, List.flatMap_map, List.head?_flatMap]
    rw [firstDeclaration?_eq, readOff_eq, List.head?_append, List.head?_append, List.head?_flatMap,
      List.head?_flatMap]
    simp only [hslot]
    rfl

/-! ## Classes -/

theorem flatMap_references_map_type (ts : List JavaType) :
    (ts.map type).flatMap references = ts.flatMap JavaType.references := by
  rw [List.flatMap_map]
  rfl

/-- A type mentions its own class, and then what its slots mention. -/
theorem references_type (t : JavaType) :
    t.references
      = t.headClass?.toList ++ Slot.all.flatMap fun slot => (typeContent t slot).flatMap JavaType.references := by
  cases t <;> simp [Slot.all, typeContent, JavaType.headClass?]

/-- **Any piece mentions its own class, and then what its slots mention.** -/
theorem references_eq (p : Piece) :
    p.references = p.ownClass?.toList ++ Slot.all.flatMap fun slot => (p.content slot).flatMap references := by
  have htype : ∀ t : JavaType, t.references
      = t.headClass?.toList
        ++ Slot.all.flatMap fun slot => ((typeContent t slot).map type).flatMap references := by
    intro t
    rw [references_type]
    simp only [flatMap_references_map_type]
  cases p with
  | type t => exact htype t
  | typeVariable v => exact v.references_toType.symm.trans (htype v.toType)
  | wildcard w => exact w.references_toType.symm.trans (htype w.toType)
  | parameterized p => exact p.references_toType.symm.trans (htype p.toType)
  | annotation a => rfl
  | parameter p => simp [references, Parameter.references, ownClass?, Slot.all, content]
  | member m =>
    cases m with
    | field f =>
      simp [references, Member.references, Field.references, ownClass?, Slot.all, content, memberContent,
        Member.typeParameters, Member.annotations, Member.header, Member.parameters, List.flatMap_map]
    | method m =>
      simp [references, Member.references, Method.references, ownClass?, Slot.all, content, memberContent,
        Member.typeParameters, Member.annotations, Member.header, Member.parameters, List.flatMap_map]
    | constructor c =>
      simp [references, Member.references, Constructor.references, ownClass?, Slot.all, content, memberContent,
        Member.typeParameters, Member.annotations, Member.header, Member.parameters, List.flatMap_map]

/-- **The walk over references reads the classes off the places**, in order. -/
theorem references_eq_readOff (p : Piece) : p.references = p.readOff ownClass? := by
  induction p using induct with
  | h p ih =>
    rw [references_eq, readOff_eq]
    congr 1
    apply List.flatMap_congr
    intro slot _
    exact List.flatMap_congr (ih slot)

/-! ## Occurrences -/

/-- What is read off a list without repetitions occurs as often as there are members at which it is read, if the
    list has all of these. -/
theorem count_filterMap_eq_ncard {α β : Type} [DecidableEq β] {f : α → Option β} {as : List α} (hnodup : as.Nodup)
    (hall : ∀ a, (f a).isSome = true → a ∈ as) (b : β) :
    {a | f a = some b}.Finite ∧ (as.filterMap f).count b = {a | f a = some b}.ncard := by
  classical
  have hset : {a | f a = some b} = ((as.filter fun a => f a = some b).toFinset : Set α) := by
    ext a
    rw [Set.mem_ofPred_eq, List.coe_toFinset, Set.mem_ofPred_eq, List.mem_filter, decide_eq_true_iff]
    constructor
    · intro h
      exact ⟨hall a (h ▸ rfl), h⟩
    · exact And.right
  rw [hset, Set.ncard_coe_finset, List.toFinset_card_of_nodup (hnodup.filter _)]
  refine ⟨Finset.finite_toSet _, ?_⟩
  rw [List.count_filterMap, List.countP_eq_length_filter]
  congr 1
  apply List.filter_congr
  intro a _
  exact beq_eq_decide (f a) (some b)

/-- What is read at a place is read off a piece. -/
theorem isSome_at?_of_bind {β : Type} {g : Piece → Option β} (h : ((p.at? place).bind g).isSome = true) :
    (p.at? place).isSome = true := by
  cases hq : p.at? place with
  | none =>
    rw [hq] at h
    cases h
  | some q => rfl

/-- **References are complete and exact, and the search for declarations follows them.** A class is listed for
    a piece as often as it stands at a place in it. The classes are listed in the order of a walk that leads
    to each place once, and the declaration that is found in a type is the first one on that walk; there is
    none exactly if no type variable is declared at any place. -/
theorem references_exact_and_search_follows :
    (∀ (p : Piece) (c : ClassRef), {place | p.classAt? place = some c}.Finite
      ∧ p.references.count c = {place | p.classAt? place = some c}.ncard)
    ∧ (∀ p : Piece, p.walk.Nodup ∧ (∀ place, place ∈ p.walk ↔ (p.at? place).isSome = true)
      ∧ p.references = p.walk.filterMap p.classAt?)
    ∧ ∀ t : JavaType, t.firstDeclaration? = (type t).walk.findSome? (type t).declarationAt?
      ∧ (t.firstDeclaration? = none ↔ ∀ place v, (type t).declarationAt? place ≠ some v) := by
  refine ⟨?_, ?_, ?_⟩
  · intro p c
    rw [references_eq_readOff]
    exact count_filterMap_eq_ncard p.nodup_walk (fun place h => mem_walk_iff.mpr (isSome_at?_of_bind h)) c
  · intro p
    exact ⟨p.nodup_walk, fun place => mem_walk_iff, p.references_eq_readOff⟩
  · intro t
    have hwalk : t.firstDeclaration? = (type t).walk.findSome? (type t).declarationAt? := by
      rw [firstDeclaration?_eq_head?_readOff, readOff, List.head?_filterMap]
      rfl
    refine ⟨hwalk, ?_⟩
    rw [hwalk, List.findSome?_eq_none_iff]
    constructor
    · intro h place v hv
      have hsome : ((type t).declarationAt? place).isSome = true := by
        rw [hv]
        rfl
      rw [h place (mem_walk_iff.mpr (isSome_at?_of_bind hsome))] at hv
      cases hv
    · intro h place _
      exact Option.eq_none_iff_forall_ne_some.mpr (h place)

end Piece
end JavaSource
