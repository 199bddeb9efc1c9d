import JavaSource.Emission.Emitter
import JavaSource.Proofs.Imports.Offer
import JavaSource.Proofs.Piece.Basic
import Mathlib.Data.List.Forall2

/-!
# `Proofs.Imports.Flags` — the flags of class references play no part in imports

A class reference carries two flags, for an interface and for an array, which are no part of its identity. So
pieces that differ in flags alone are equal, and imports must not tell them apart. The proofs never follow two
runs side by side. They take the flags away on one side, and find that everything commutes with that: the walk
over a piece (`Piece.references_bare`), an offer (`offer_bare`), a merge (`merge_bare`) and the look-ups. Two
runs that agree but for flags then agree because their bare runs are one.

* `Piece.Same` — pieces that are equal but for flags.
* `ImportList.Same` — import lists with the same classes and conflicts, one by one.
* `flags_play_no_part` — what that means for two runs.
-/

namespace JavaSource

section lists

variable {α β : Type} {R : α → α → Prop} {f : α → β} {as bs : List α}

/-- Lists are related one by one, by agreement under a function, exactly if they agree under it. -/
theorem forall₂_iff_map_eq (hR : ∀ a b, R a b ↔ f a = f b) : List.Forall₂ R as bs ↔ as.map f = bs.map f := by
  have hrel : R = fun a b => f a = f b := funext fun a => funext fun b => propext (hR a b)
  rw [hrel, ← List.forall₂_eq_eq_eq, List.forall₂_map_left_iff, List.forall₂_map_right_iff]

end lists

theorem ClassRef.forall₂_same_iff {cs ds : List ClassRef} :
    List.Forall₂ ClassRef.Same cs ds ↔ cs.map ClassRef.bare = ds.map ClassRef.bare :=
  forall₂_iff_map_eq fun _ _ => ClassRef.same_iff_bare_eq

/-! ## Walks without flags -/

/-- The walk over a list of things commutes with taking flags away if the walk over each does. -/
theorem flatMap_map_bare {α : Type} {walk : α → List ClassRef} {bare : α → α} {as : List α}
    (h : ∀ a ∈ as, walk (bare a) = (walk a).map ClassRef.bare) :
    (as.map bare).flatMap walk = (as.flatMap walk).map ClassRef.bare := by
  rw [List.flatMap_map, List.map_flatMap]
  exact List.flatMap_congr h

/-- **The walk over a type does not see flags.** -/
theorem JavaType.references_bare (t : JavaType) : t.bare.references = t.references.map ClassRef.bare := by
  induction t using JavaType.induct with
  | primitive p => rfl
  | ofClass c => rfl
  | array element ih => exact ih
  | variableDecl name bound more ihb ihm =>
    have hbounds : ∀ t ∈ bound.toList ++ more, t.bare.references = t.references.map ClassRef.bare := by
      rw [List.forall_mem_append]
      exact ⟨fun t ht => ihb t (Option.mem_toList.mp ht), ihm⟩
    rw [bare_variableDecl, references_variableDecl, references_variableDecl, ← flatMap_map_bare hbounds,
      List.map_append, Option.toList_map]
  | variableRef name => rfl
  | wildcard upper lower ihu ihl =>
    have hmap : ∀ bounds : Option (List JavaType),
        (bounds.map (List.map bare)).getD [] = (bounds.getD []).map bare := by
      intro bounds
      cases bounds <;> rfl
    rw [bare_wildcard, references_wildcard, references_wildcard, hmap, hmap,
      flatMap_map_bare (forall_mem_getD_iff.mpr ihl), flatMap_map_bare (forall_mem_getD_iff.mpr ihu),
      List.map_append]
  | parameterized base arguments ih =>
    rw [bare_parameterized, references_parameterized, references_parameterized, flatMap_map_bare ih]
    rfl

theorem TypeVariable.references_bare (v : TypeVariable) : v.bare.references = v.references.map ClassRef.bare := by
  have htype : v.bare.toType = v.toType.bare := (JavaType.bare_variableDecl v.name v.bound v.moreBounds).symm
  rw [← references_toType, htype, JavaType.references_bare, references_toType]

/-- The wildcard with every class reference bare. -/
def Wildcard.bare (w : Wildcard) : Wildcard :=
  { upper := w.upper.map (List.map JavaType.bare), lower := w.lower.map (List.map JavaType.bare) }

theorem Wildcard.references_bare (w : Wildcard) : w.bare.references = w.references.map ClassRef.bare := by
  have htype : w.bare.toType = w.toType.bare := (JavaType.bare_wildcard w.upper w.lower).symm
  rw [← references_toType, htype, JavaType.references_bare, references_toType]

/-- The generic class with every class reference bare. -/
def ParameterizedType.bare (p : ParameterizedType) : ParameterizedType :=
  { base := p.base.bare, arguments := p.arguments.map JavaType.bare }

theorem ParameterizedType.references_bare (p : ParameterizedType) :
    p.bare.references = p.references.map ClassRef.bare := by
  have htype : p.bare.toType = p.toType.bare := (JavaType.bare_parameterized p.base p.arguments).symm
  rw [← references_toType, htype, JavaType.references_bare, references_toType]

theorem Annotation.references_bare (a : Annotation) : a.bare.references = a.references.map ClassRef.bare := rfl

theorem Parameter.references_bare (p : Parameter) : p.bare.references = p.references.map ClassRef.bare :=
  JavaType.references_bare p.type

/-- **The walk over a member does not see flags.** -/
theorem Member.references_bare (m : Member) : m.bare.references = m.references.map ClassRef.bare := by
  have hannotations : ∀ annotations : List Annotation,
      (annotations.map Annotation.bare).flatMap Annotation.references =
        (annotations.flatMap Annotation.references).map ClassRef.bare := fun _ =>
    flatMap_map_bare fun a _ => a.references_bare
  have hvariables : ∀ vs : List TypeVariable,
      (vs.map TypeVariable.bare).flatMap TypeVariable.references =
        (vs.flatMap TypeVariable.references).map ClassRef.bare := fun _ =>
    flatMap_map_bare fun v _ => v.references_bare
  have hparameters : ∀ ps : List Parameter,
      (ps.map Parameter.bare).flatMap Parameter.references =
        (ps.flatMap Parameter.references).map ClassRef.bare := fun _ =>
    flatMap_map_bare fun p _ => p.references_bare
  cases m with
  | field f =>
    simp only [bare, references, Field.references, MemberHeader.bare, hannotations,
      JavaType.references_bare, List.map_append]
  | method m =>
    simp only [bare, references, Method.references, MemberHeader.bare, hvariables, hannotations,
      JavaType.references_bare, hparameters, List.map_append]
  | constructor c =>
    simp only [bare, references, Constructor.references, MemberHeader.bare, hvariables, hannotations,
      hparameters, List.map_append]

/-! ## Pieces -/

namespace Piece

/-- The piece with every class reference bare. -/
def bare : Piece → Piece
  | type t => type t.bare
  | typeVariable v => typeVariable v.bare
  | wildcard w => wildcard w.bare
  | parameterized p => parameterized p.bare
  | annotation a => annotation a.bare
  | parameter p => parameter p.bare
  | member m => member m.bare

/-- Two pieces are the same when they differ at most in the flags of their class references. -/
def Same (p q : Piece) : Prop := p.bare = q.bare

/-- **The walk over a piece does not see flags.** -/
theorem references_bare (p : Piece) : p.bare.references = p.references.map ClassRef.bare := by
  cases p with
  | type t => exact t.references_bare
  | typeVariable v => exact v.references_bare
  | wildcard w => exact w.references_bare
  | parameterized p => exact p.references_bare
  | annotation a => exact a.references_bare
  | parameter p => exact p.references_bare
  | member m => exact m.references_bare

/-- Pieces that are the same mention the same classes, one by one. -/
theorem Same.forall₂_references {p q : Piece} (h : p.Same q) :
    List.Forall₂ ClassRef.Same p.references q.references := by
  rw [ClassRef.forall₂_same_iff, ← references_bare, ← references_bare, h]

end Piece

/-! ## Import lists without flags -/

/-- Two conflicts are the same when the classes on both sides are. -/
def Conflict.Same (k j : Conflict) : Prop := k.imported.Same j.imported ∧ k.shadowed.Same j.shadowed

/-- The conflict with both class references bare. -/
def Conflict.bare (k : Conflict) : Conflict := ⟨k.imported.bare, k.shadowed.bare⟩

theorem Conflict.same_iff_bare_eq {k j : Conflict} : k.Same j ↔ k.bare = j.bare := by
  simp only [Same, bare, Conflict.mk.injEq, ClassRef.same_iff_bare_eq]

/-- The event with every class reference bare. -/
def ImportEvent.bare : ImportEvent → ImportEvent
  | noPackage c => noPackage c.bare
  | samePackage c => samePackage c.bare
  | conflict imported shadowed => conflict imported.bare shadowed.bare
  | added c => added c.bare

namespace ImportList

variable {l m : ImportList} {owner : Option Package} {c : ClassRef} {cs ds : List ClassRef} {dec : Decision}
  {ev : Option ImportEvent}

/-- Two import lists are the same when their classes and their conflicts are, one by one. -/
structure Same (l m : ImportList) : Prop where
  classes : List.Forall₂ ClassRef.Same l.classes m.classes
  conflicts : List.Forall₂ Conflict.Same l.conflicts m.conflicts

/-- The import list with every class reference bare. -/
def bare (l : ImportList) : ImportList :=
  { classes := l.classes.map ClassRef.bare, conflicts := l.conflicts.map Conflict.bare }

theorem same_iff_bare_eq : l.Same m ↔ l.bare = m.bare := by
  have hconflicts : List.Forall₂ Conflict.Same l.conflicts m.conflicts ↔
      l.conflicts.map Conflict.bare = m.conflicts.map Conflict.bare :=
    forall₂_iff_map_eq fun _ _ => Conflict.same_iff_bare_eq
  unfold bare
  rw [ImportList.mk.injEq, ← ClassRef.forall₂_same_iff, ← hconflicts]
  exact ⟨fun h => ⟨h.classes, h.conflicts⟩, fun h => ⟨h.1, h.2⟩⟩

theorem bySimpleName?_bare (l : ImportList) (name : String) :
    l.bare.bySimpleName? name = (l.bySimpleName? name).map ClassRef.bare := by
  unfold bySimpleName? bare
  rw [List.find?_map]
  rfl

theorem isShadowed_bare (l : ImportList) (c : ClassRef) : l.bare.isShadowed c.bare = l.isShadowed c := by
  unfold isShadowed bare
  rw [List.any_map]
  rfl

/-- **An offer without flags** is the same case, with the list and the event without flags. -/
theorem Offered.bare (h : Offered l owner c dec ev m) :
    Offered l.bare owner c.bare dec (ev.map ImportEvent.bare) m.bare := by
  have hheld : ∀ {holder : ClassRef}, l.bySimpleName? c.name = some holder →
      l.bare.bySimpleName? c.bare.name = some holder.bare := by
    intro holder h
    rw [bySimpleName?_bare]
    exact congrArg (Option.map ClassRef.bare) h
  cases h with
  | noPackage hp => exact .noPackage hp
  | samePackage hp => exact .samePackage hp
  | added hf hfree =>
    have hfree' : l.bare.bySimpleName? c.bare.name = none := by
      rw [bySimpleName?_bare]
      exact congrArg (Option.map ClassRef.bare) hfree
    have hadded := Offered.added (c := c.bare) hf hfree'
    simpa [ImportList.bare, ImportEvent.bare] using hadded
  | alreadyImported hf h hs => exact .alreadyImported hf (hheld h) hs
  | knownConflict hf h hs hknown =>
    exact .knownConflict hf (hheld h) hs ((isShadowed_bare l c).trans hknown)
  | newConflict hf h hs hnew =>
    have hconflict := Offered.newConflict (c := c.bare) hf (hheld h) hs ((isShadowed_bare l c).trans hnew)
    simpa [ImportList.bare, Conflict.bare, ImportEvent.bare] using hconflict

theorem decision_bare (l : ImportList) (owner : Option Package) (c : ClassRef) :
    l.bare.decision owner c.bare = l.decision owner c :=
  (l.offered owner c).bare.eq.1.symm

theorem offer_bare (l : ImportList) (owner : Option Package) (c : ClassRef) :
    l.bare.offer owner c.bare = (l.offer owner c).bare :=
  (l.offered owner c).bare.eq.2.2.symm

/-- **A merge does not see flags**: neither what becomes of each candidate nor the list afterwards. -/
theorem merge_bare (l : ImportList) (owner : Option Package) (cs : List ClassRef) :
    l.bare.decisions owner (cs.map ClassRef.bare) = l.decisions owner cs
      ∧ l.bare.merge owner (cs.map ClassRef.bare) = (l.merge owner cs).bare := by
  induction cs generalizing l with
  | nil => exact ⟨rfl, rfl⟩
  | cons c cs ih =>
    obtain ⟨hdecisions, hmerge⟩ := ih (l.offer owner c)
    rw [List.map_cons, decisions, decisions, merge, merge, offer_bare, decision_bare, hdecisions, hmerge]
    exact ⟨rfl, rfl⟩

/-- Same candidates meet the same fate in lists that are the same, and leave lists that are the same. -/
theorem Same.merge (hl : l.Same m) (owner : Option Package) (hc : List.Forall₂ ClassRef.Same cs ds) :
    l.decisions owner cs = m.decisions owner ds ∧ (l.merge owner cs).Same (m.merge owner ds) := by
  rw [same_iff_bare_eq] at hl ⊢
  rw [ClassRef.forall₂_same_iff] at hc
  obtain ⟨hdecisions, hmerge⟩ := l.merge_bare owner cs
  obtain ⟨hdecisions', hmerge'⟩ := m.merge_bare owner ds
  rw [← hdecisions, ← hdecisions', ← hmerge, ← hmerge', hl, hc]
  exact ⟨rfl, rfl⟩

end ImportList

/-! ## Units whose imports are the same -/

/-- **A renderer does not see flags**: it hides the same classes of units with one name and package, whose
    imports are the same. -/
theorem Renderer.isHidden_eq_of_same {r s : Renderer} {c d : ClassRef} (hpackage : r.unitPackage = s.unitPackage)
    (hname : r.unitName = s.unitName) (himports : r.imports.Same s.imports) (hc : c.Same d) :
    r.isHidden c = s.isHidden d := by
  have hheld : (r.imports.bySimpleName? c.name).map ClassRef.bare =
      (s.imports.bySimpleName? d.name).map ClassRef.bare := by
    rw [← ImportList.bySimpleName?_bare, ← ImportList.bySimpleName?_bare,
      ImportList.same_iff_bare_eq.mp himports, hc.1]
  have hhome : c.homePackage = d.homePackage := by
    unfold ClassRef.homePackage
    rw [hc.2]
  unfold isHidden
  rw [hhome, hpackage, hname, hc.1]
  rw [hc.1] at hheld
  cases hr : r.imports.bySimpleName? d.name with
  | none =>
    rw [hr] at hheld
    rw [Option.map_eq_none_iff.mp hheld.symm]
  | some holder =>
    rw [hr] at hheld
    obtain ⟨holder', hs, hbare⟩ := Option.map_eq_some_iff.mp hheld.symm
    have hsame : holder.Same holder' := ClassRef.same_iff_bare_eq.mpr hbare.symm
    have hiff : holder.Same c ↔ holder'.Same d :=
      ⟨fun h => hsame.symm.trans (h.trans hc), fun h => hsame.trans (h.trans hc.symm)⟩
    rw [hs]
    simp only [hiff]

namespace Emitter

theorem map_bare_visibleImports (e : Emitter) (d : ClassDecl) :
    (e.visibleImports d).map ClassRef.bare =
      (d.imports.bare.classes.filter fun c => !e.isImplicit c).filter fun c => c.name != d.name := by
  unfold visibleImports ImportList.bare
  rw [List.filter_map, List.filter_map]
  rfl

/-- Import lines are those of the written imports without flags. -/
theorem importLines_eq (e : Emitter) (d : ClassDecl) :
    e.importLines d =
      match (e.visibleImports d).map ClassRef.bare with
      | [] => []
      | cs => cs.map importLine ++ [.blank] := by
  unfold importLines
  cases e.visibleImports d with
  | nil => rfl
  | cons c cs =>
    have htext : importLine ∘ ClassRef.bare = importLine := rfl
    simp only [List.map_cons, List.map_map, htext]
    rfl

/-- The same imports are written in the same lines. -/
theorem importLines_eq_of_same (e : Emitter) {d d' : ClassDecl} (hname : d.name = d'.name)
    (himports : d.imports.Same d'.imports) : e.importLines d = e.importLines d' := by
  rw [importLines_eq, importLines_eq, map_bare_visibleImports, map_bare_visibleImports,
    ImportList.same_iff_bare_eq.mp himports, hname]

end Emitter

/-- **Flags of class references play no part in imports.** Pieces that differ in flags alone, one or several,
    mention the same classes one by one. If the candidates of two merges are the same one by one, on behalf of
    one owner and into lists that are the same, then each candidate meets the same fate, as many are added, and
    the lists afterwards are the same; two declarations of one class with these imports hide the same classes
    and have the same import lines. -/
theorem flags_play_no_part :
    (∀ p q : Piece, p.Same q → List.Forall₂ ClassRef.Same p.references q.references)
    ∧ (∀ ps qs : List Piece, List.Forall₂ Piece.Same ps qs →
      List.Forall₂ ClassRef.Same (ps.flatMap Piece.references) (qs.flatMap Piece.references))
    ∧ ∀ (owner : Option Package) (l m : ImportList) (cs ds : List ClassRef), l.Same m →
      List.Forall₂ ClassRef.Same cs ds →
      l.addedCount owner cs = m.addedCount owner ds
      ∧ (l.merge owner cs).Same (m.merge owner ds)
      ∧ l.decisions owner cs = m.decisions owner ds
      ∧ ∀ d d' : ClassDecl, d.Same d' → d.imports = l.merge owner cs → d'.imports = m.merge owner ds →
        (∀ (q q' : Bool) (c c' : ClassRef), c.Same c' →
          (d.renderer q).isHidden c = (d'.renderer q').isHidden c')
        ∧ ∀ e : Emitter, e.importLines d = e.importLines d' := by
  refine ⟨fun p q => Piece.Same.forall₂_references, ?_, ?_⟩
  · intro ps qs h
    rw [ClassRef.forall₂_same_iff, ← flatMap_map_bare fun p _ => p.references_bare,
      ← flatMap_map_bare fun q _ => q.references_bare, (forall₂_iff_map_eq fun _ _ => Iff.rfl).mp h]
  · intro owner l m cs ds hl hc
    obtain ⟨hdecisions, hmerge⟩ := hl.merge owner hc
    refine ⟨?_, hmerge, hdecisions, ?_⟩
    · unfold ImportList.addedCount
      rw [hdecisions]
    · intro d d' hd himports himports'
      have hsame : d.imports.Same d'.imports := by rwa [himports, himports']
      exact ⟨fun q q' c c' => Renderer.isHidden_eq_of_same hd.2 hd.1 hsame,
        fun e => e.importLines_eq_of_same hd.1 hsame⟩

/-- A list of dates, whose classes have the given flags. -/
def dateList (kind : ClassKind) (isArray : Bool) : JavaType :=
  .parameterized { package := some ⟨"java.util"⟩, name := "List", kind, isArray }
    [.ofClass { package := some ⟨"java.util"⟩, name := "Date", kind, isArray }]

/-- As a list of interfaces or of arrays it is one piece, and a unit that has imported another `Date` merges
    its classes alike. -/
theorem dateList_flags_play_no_part :
    (Piece.type (dateList .interface false)).Same (.type (dateList .ordinary true))
    ∧ List.Forall₂ ClassRef.Same (dateList .interface false).references (dateList .ordinary true).references
    ∧ ImportList.decisions { classes := [.ofPackage ⟨"java.sql"⟩ "Date"] } none
        (dateList .ordinary true).references = [.added, .skipped .nameTaken] := by
  have hpieces : (Piece.type (dateList .interface false)).Same (.type (dateList .ordinary true)) := rfl
  have hlists : ImportList.Same { classes := [.ofPackage ⟨"java.sql"⟩ "Date"] }
      { classes := [.ofPackage ⟨"java.sql"⟩ "Date"] } := ImportList.same_iff_bare_eq.mpr rfl
  obtain ⟨hwalk, -, hmerges⟩ := flags_play_no_part
  have hclasses := hwalk _ _ hpieces
  obtain ⟨-, -, hdecisions, -⟩ := hmerges none _ _ _ _ hlists hclasses
  exact ⟨hpieces, hclasses, hdecisions.symm.trans (by decide)⟩

end JavaSource
