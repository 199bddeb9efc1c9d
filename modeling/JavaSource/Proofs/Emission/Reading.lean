import JavaSource.Proofs.ClassDecl.Completeness
import JavaSource.Proofs.Emission.TypeText

/-!
# `Proofs.Emission.Reading` — a written type can be read in one way only

Rendering a plain type loses nothing, as long as the names in it can be told apart (`Renderer.NamesApart`): two
plain types are rendered alike exactly if they are the same type, spelled out
(`Renderer.NamesApart.render_eq_iff`).

The proof reads two equal texts from left to right. Types in them are followed by other text, so the statements
that go through the induction speak of two types, each in front of some text, and say that both end at the same
place (`Renderer.TellsCore`, `Renderer.TellsArgument`). There is one lemma for each shape that the core of a
type or a type argument can have: atoms, generic classes, wildcards.
-/

namespace JavaSource
open Text

/-- A name that can stand for a class or a type variable: a word, and not the keyword of a primitive. -/
def IsTypeName (s : String) : Prop := IsWord s ∧ Primitive.ofKeyword? s = none

instance (s : String) : Decidable (IsTypeName s) := inferInstanceAs (Decidable (_ ∧ _))

/-- A keyword is nobody's name. -/
theorem IsTypeName.ne_keyword {s : String} (h : IsTypeName s) (p : Primitive) : p.keyword ≠ s := by
  rintro rfl
  have hnone := h.2
  rw [Primitive.ofKeyword?_keyword] at hnone
  cases hnone

namespace Renderer

variable {r : Renderer} {A : List JavaType} {t u a b : JavaType} {rest rest' : List Char}

/-- **The names in some types can be told apart**: classes and type variables have names, different classes are
    written by different ones, and no type variable is called like a class is written. -/
structure NamesApart (r : Renderer) (classes : List ClassRef) (variableNames : List String) : Prop where
  className : ∀ c ∈ classes, IsTypeName (r.className c)
  variableName : ∀ name ∈ variableNames, IsTypeName name
  injective : ∀ c ∈ classes, ∀ d ∈ classes, r.className c = r.className d → c.Same d
  apart : ∀ c ∈ classes, ∀ name ∈ variableNames, r.className c ≠ name

/-! ## Atoms -/

/-- Atoms are spelled out as they are, and written by words, different ones by different words. -/
structure Distinguishes (r : Renderer) (A : List JavaType) : Prop where
  form : ∀ a ∈ A, a.form = a.bare
  word : ∀ a ∈ A, IsWord (r.render a)
  same : ∀ a ∈ A, ∀ b ∈ A, r.render a = r.render b → a.Same b

theorem isWord_keyword (p : Primitive) : IsWord p.keyword := by
  cases p <;> decide

/-- Names that can be told apart distinguish atoms. -/
theorem NamesApart.distinguishes
    (h : r.NamesApart (A.filterMap JavaType.asClass?) (A.filterMap JavaType.asVariable?))
    (hatoms : ∀ a ∈ A, a.IsAtom) : r.Distinguishes A := by
  have hclass : ∀ {c : ClassRef}, .ofClass c ∈ A → c ∈ A.filterMap JavaType.asClass? := fun hc =>
    List.mem_filterMap.mpr ⟨_, hc, rfl⟩
  have hvariable : ∀ {name : String}, .variableRef name ∈ A → name ∈ A.filterMap JavaType.asVariable? :=
    fun hname => List.mem_filterMap.mpr ⟨_, hname, rfl⟩
  constructor
  · intro a ha
    cases hatoms a ha with
    | primitive => rfl
    | ofClass hmark => exact JavaType.form_ofClass hmark
    | variableRef => rfl
  · intro a ha
    cases hatoms a ha with
    | @primitive p => exact isWord_keyword p
    | ofClass _ => exact (h.className _ (hclass ha)).1
    | variableRef => exact (h.variableName _ (hvariable ha)).1
  · intro a ha b hb heq
    cases hatoms a ha with
    | @primitive p =>
      cases hatoms b hb with
      | @primitive q =>
        have hpq : Primitive.ofKeyword? p.keyword = Primitive.ofKeyword? q.keyword := congrArg _ heq
        rw [Primitive.ofKeyword?_keyword, Primitive.ofKeyword?_keyword] at hpq
        exact congrArg (fun p => JavaType.bare (.primitive p)) (Option.some.inj hpq)
      | ofClass _ => exact absurd heq ((h.className _ (hclass hb)).ne_keyword p)
      | variableRef => exact absurd heq ((h.variableName _ (hvariable hb)).ne_keyword p)
    | ofClass _ =>
      cases hatoms b hb with
      | @primitive q => exact absurd heq.symm ((h.className _ (hclass ha)).ne_keyword q)
      | ofClass _ =>
        have hsame := h.injective _ (hclass ha) _ (hclass hb) heq
        exact congrArg JavaType.ofClass (ClassRef.same_iff_bare_eq.mp hsame)
      | variableRef => exact absurd heq (h.apart _ (hclass ha) _ (hvariable hb))
    | variableRef =>
      cases hatoms b hb with
      | @primitive q => exact absurd heq.symm ((h.variableName _ (hvariable ha)).ne_keyword q)
      | ofClass _ => exact absurd heq.symm (h.apart _ (hclass hb) _ (hvariable ha))
      | variableRef => exact congrArg (fun name => JavaType.bare (.variableRef name)) heq

/-! ## Cores -/

section cores

variable {base base' : ClassRef} {arguments arguments' : List JavaType}

/-- A generic class begins with the word of its base, and an opening bracket follows. -/
theorem toList_render_parameterized (base : ClassRef) (arguments : List JavaType) (rest : List Char) :
    (r.render (.parameterized base arguments)).toList ++ rest =
      (r.render (.ofClass base)).toList ++
        '<' :: ((joinWith ", " (arguments.map r.render)).toList ++ '>' :: rest) := by
  rw [render_parameterized, String.toList_append, String.toList_append, String.toList_append]
  simp only [List.append_assoc]
  rfl

theorem tells_atoms (hA : r.Distinguishes A) (ha : a ∈ A) (hb : b ∈ A) :
    Tells (Stops continuesCore) r.render JavaType.form a b := by
  intro rest rest' hrest hrest' heq
  obtain ⟨hwords, hrests⟩ := word_append_inj (hA.word a ha).2 (hA.word b hb).2 (stops_isWordChar hrest)
    (stops_isWordChar hrest') heq
  have hsame : a.bare = b.bare := hA.same a ha b hb (String.toList_inj.mp hwords)
  exact ⟨by rw [hA.form a ha, hA.form b hb, hsame], hrests⟩

/-- An atom is no generic class: no bracket follows it. -/
theorem tells_atom_generic (hA : r.Distinguishes A) (ha : a ∈ A) (hbase : .ofClass base ∈ A) :
    Tells (Stops continuesCore) r.render JavaType.form a (.parameterized base arguments) := by
  intro rest rest' hrest _ heq
  rw [toList_render_parameterized] at heq
  obtain ⟨-, hrests⟩ := word_append_inj (hA.word a ha).2 (hA.word _ hbase).2 (stops_isWordChar hrest)
    (stops_cons_iff.mpr (by decide)) heq
  rw [hrests, stops_cons_iff] at hrest
  exact absurd hrest (by decide)

/-- Generic classes are told apart by their bases and their arguments. -/
theorem tells_generic (hA : r.Distinguishes A) (hbase : .ofClass base ∈ A) (hbase' : .ofClass base' ∈ A)
    (htells : ∀ a ∈ arguments, ∀ b ∈ arguments', Tells BehindArgument r.render JavaType.form a b)
    (hfirst : ∀ a ∈ arguments ++ arguments', ∃ c cs, (r.render a).toList = c :: cs ∧ c ≠ '>') :
    Tells (Stops continuesCore) r.render JavaType.form (.parameterized base arguments)
      (.parameterized base' arguments') := by
  intro rest rest' hrest hrest' heq
  have hbracket : ∀ cs, Stops isWordChar ('<' :: cs) := fun cs => stops_cons_iff.mpr (by decide)
  rw [toList_render_parameterized, toList_render_parameterized] at heq
  obtain ⟨hwords, hclauses⟩ := word_append_inj (hA.word _ hbase).2 (hA.word _ hbase').2 (hbracket _)
    (hbracket _) heq
  have hbases : base.bare = base'.bare :=
    JavaType.ofClass.inj (hA.same _ hbase _ hbase' (String.toList_inj.mp hwords))
  obtain ⟨hforms, hrests⟩ := arguments_append_inj htells hfirst (List.cons.inj hclauses).2
  refine ⟨?_, hrests⟩
  rw [JavaType.form_parameterized, JavaType.form_parameterized, hforms, hbases]

/-- A plain type begins with a character of a word, the first one of its core. -/
theorem exists_first_of_isPlain (hA : r.Distinguishes A) (ht : t.IsPlain) (hatoms : t.atoms ⊆ A) :
    ∃ c cs, (r.render t).toList = c :: cs ∧ isWordChar c = true := by
  have hatom : ∀ a ∈ A, ∃ c cs, (r.render a).toList = c :: cs ∧ isWordChar c = true := by
    intro a ha
    cases hlist : (r.render a).toList with
    | nil => exact absurd (String.toList_eq_nil_iff.mp hlist) (hA.word a ha).1
    | cons c cs => exact ⟨c, cs, rfl, (hA.word a ha).2 c (hlist ▸ List.mem_cons_self)⟩
  rw [toList_render]
  rcases ht.core_cases with hcore | ⟨base, arguments, hcore, hbase, -⟩
  · obtain ⟨c, cs, hlist, hc⟩ := hatom _ (hatoms hcore)
    rw [hlist]
    exact ⟨c, _, rfl, hc⟩
  · obtain ⟨c, cs, hlist, hc⟩ := hatom _ (hatoms hbase)
    rw [hcore, toList_render_parameterized, hlist]
    exact ⟨c, _, rfl, hc⟩

theorem exists_first_of_isPlainArgument (hA : r.Distinguishes A) (ht : t.IsPlainArgument)
    (hatoms : t.atoms ⊆ A) : ∃ c cs, (r.render t).toList = c :: cs ∧ c ≠ '>' := by
  cases ht with
  | type ht =>
    obtain ⟨c, cs, hlist, hc⟩ := exists_first_of_isPlain hA ht hatoms
    refine ⟨c, cs, hlist, ?_⟩
    rintro rfl
    exact absurd hc (by decide)
  | @wildcard upper lower _ _ =>
    rw [render_wildcard, String.append_assoc, String.toList_append]
    exact ⟨'?', _, rfl, by decide⟩

end cores

/-! ## Type arguments -/

section arguments

variable {upper lower : Option (List JavaType)}

/-- A wildcard begins with a question mark, and no other type does. -/
theorem tells_type_wildcard (hA : r.Distinguishes A) (ht : t.IsPlain) (hatoms : t.atoms ⊆ A) :
    Tells BehindArgument r.render JavaType.form t (.wildcard upper lower) := by
  intro rest rest' _ _ heq
  obtain ⟨c, cs, hlist, hc⟩ := exists_first_of_isPlain hA ht hatoms
  rw [hlist, render_wildcard, String.append_assoc, String.toList_append] at heq
  have hmark : c = '?' := (List.cons.inj heq).1
  rw [hmark] at hc
  exact absurd hc (by decide)

end arguments

/-! ## The induction -/

/-- The core of a type is told from the cores of all plain types over some atoms. -/
def TellsCore (r : Renderer) (A : List JavaType) (t : JavaType) : Prop :=
  ∀ u : JavaType, u.IsPlain → u.atoms ⊆ A → Tells (Stops continuesCore) r.render JavaType.form t.core u.core

/-- A type argument is told from all plain ones over some atoms. -/
def TellsArgument (r : Renderer) (A : List JavaType) (t : JavaType) : Prop :=
  ∀ u : JavaType, u.IsPlainArgument → u.atoms ⊆ A → Tells BehindArgument r.render JavaType.form t u

section induction

variable {base : ClassRef} {arguments : List JavaType} {upper lower : Option (List JavaType)}

theorem tellsCore_of_atom (hA : r.Distinguishes A) (hcore : t.core ∈ A) : r.TellsCore A t := by
  intro u hu hua
  rcases hu.core_cases with hatom | ⟨base, arguments, hgeneric, hbase, -⟩
  · exact tells_atoms hA hcore (hua hatom)
  · rw [hgeneric]
    exact tells_atom_generic hA hcore (hua hbase)

/-- A generic class is told apart if its arguments are. -/
theorem tellsCore_parameterized (hA : r.Distinguishes A) (hbase : .ofClass base ∈ A)
    (hplain : ∀ a ∈ arguments, a.IsPlainArgument) (hatoms : ∀ a ∈ arguments, a.atoms ⊆ A)
    (htells : ∀ a ∈ arguments, r.TellsArgument A a) : r.TellsCore A (.parameterized base arguments) := by
  intro u hu hua
  rcases hu.core_cases with hatom | ⟨base', arguments', hgeneric, hbase', hplain'⟩
  · exact (tells_atom_generic hA (hua hatom) hbase).symm
  · have hfirst : ∀ a ∈ arguments ++ arguments', ∃ c cs, (r.render a).toList = c :: cs ∧ c ≠ '>' := by
      intro a ha
      rcases List.mem_append.mp ha with ha | ha
      · exact exists_first_of_isPlainArgument hA (hplain a ha) (hatoms a ha)
      · exact exists_first_of_isPlainArgument hA (hplain' a ha).1 (List.Subset.trans (hplain' a ha).2 hua)
    rw [hgeneric]
    exact tells_generic hA hbase (hua hbase')
      (fun a ha b hb => htells a ha b (hplain' b hb).1 (List.Subset.trans (hplain' b hb).2 hua)) hfirst

/-- A plain type is told apart as a type argument if its core is. -/
theorem TellsCore.tellsArgument (hcore : r.TellsCore A t) (hA : r.Distinguishes A) (ht : t.IsPlain)
    (hatoms : t.atoms ⊆ A) : r.TellsArgument A t := by
  intro u hu hua
  cases hu with
  | type hu => exact (tells_type (hcore u hu hua)).mono fun _ => BehindArgument.stops
  | wildcard _ _ => exact tells_type_wildcard hA ht hatoms

/-- A wildcard is told apart if its bounds are. -/
theorem tellsArgument_wildcard (hA : r.Distinguishes A) (hupper : ∀ b ∈ upper.getD [], r.TellsCore A b)
    (hlower : ∀ b ∈ lower.getD [], r.TellsCore A b) : r.TellsArgument A (.wildcard upper lower) := by
  intro u hu hua
  cases hu with
  | type hu => exact (tells_type_wildcard hA hu hua).symm
  | wildcard hupper' hlower' =>
    rw [JavaType.atoms_wildcard, List.append_subset] at hua
    refine tells_wildcard (fun a ha b hb => ?_) (fun a ha b hb => ?_)
    · exact tells_type (hupper a ha b (hupper' b hb) (JavaType.atoms_subset hua.1 hb))
    · exact tells_type (hlower a ha b (hlower' b hb) (JavaType.atoms_subset hua.2 hb))

/-- **Plain types are told apart**, wherever they stand, if their atoms are. -/
theorem tellsCore_and_tellsArgument (hA : r.Distinguishes A) (t : JavaType) (hatoms : t.atoms ⊆ A) :
    (t.IsPlain → r.TellsCore A t) ∧ (t.IsPlainArgument → r.TellsArgument A t) := by
  -- outside wildcards the second statement comes down to the first
  have hboth : ∀ t : JavaType, t.atoms ⊆ A → (t.IsPlainArgument → t.IsPlain) →
      (t.IsPlain → r.TellsCore A t) →
      (t.IsPlain → r.TellsCore A t) ∧ (t.IsPlainArgument → r.TellsArgument A t) :=
    fun t hatoms hplain hcore =>
      ⟨hcore, fun h => (hcore (hplain h)).tellsArgument hA (hplain h) hatoms⟩
  induction t using JavaType.induct with
  | primitive p =>
    refine hboth _ hatoms (fun _ => .primitive) fun _ => ?_
    exact tellsCore_of_atom hA (hatoms List.mem_cons_self)
  | ofClass c =>
    refine hboth _ hatoms (fun _ => .ofClass) fun _ => ?_
    exact tellsCore_of_atom hA (hatoms List.mem_cons_self)
  | array element ih =>
    refine hboth _ hatoms (fun h => by cases h with | type h => exact h) fun h => ?_
    cases h with
    | array h => exact (ih hatoms).1 h
  | variableDecl name bound more _ _ =>
    refine hboth _ hatoms (fun h => by cases h with | type h => exact h) fun h => ?_
    cases h
  | variableRef name =>
    refine hboth _ hatoms (fun _ => .variableRef) fun _ => ?_
    exact tellsCore_of_atom hA (hatoms List.mem_cons_self)
  | wildcard upper lower ihu ihl =>
    rw [JavaType.atoms_wildcard, List.append_subset] at hatoms
    refine ⟨fun h => (by cases h), fun h => ?_⟩
    cases h with
    | type h => cases h
    | wildcard hupper hlower =>
      refine tellsArgument_wildcard hA (fun b hb => ?_) (fun b hb => ?_)
      · have hinner : b.atoms ⊆ A := JavaType.atoms_subset hatoms.1 hb
        exact (JavaType.forall_mem_getD_iff.mpr ihu b hb hinner).1 (hupper b hb)
      · have hinner : b.atoms ⊆ A := JavaType.atoms_subset hatoms.2 hb
        exact (JavaType.forall_mem_getD_iff.mpr ihl b hb hinner).1 (hlower b hb)
  | parameterized base arguments ih =>
    refine hboth _ hatoms (fun h => by cases h with | type h => exact h) fun h => ?_
    cases h with
    | parameterized hmark hplain =>
      rw [JavaType.atoms_parameterized, ClassRef.unmarked_of_not_isArray hmark, List.cons_subset] at hatoms
      have hinner : ∀ a ∈ arguments, a.atoms ⊆ A := fun a ha => JavaType.atoms_subset hatoms.2 ha
      exact tellsCore_parameterized hA hatoms.1 hplain hinner fun a ha =>
        (ih a ha (hinner a ha)).2 (hplain a ha)

end induction

/-! ## Rendered types -/

/-- Rendering does not see how a plain type is written down. -/
theorem render_form (r : Renderer) (h : t.IsPlainArgument) : r.render t.form = r.render t := by
  induction t using JavaType.induct with
  | primitive p => rfl
  | ofClass c =>
    have hspelling : r.className c.bare = r.spelling c := String.append_empty
    show r.render (if c.isArray then .array (.ofClass c.unmarked) else .ofClass c : JavaType).bare = _
    rw [render_ofClass, className_eq]
    unfold ClassRef.arraySuffix
    cases c.isArray with
    | true => exact congrArg (· ++ "[]") hspelling
    | false => exact hspelling.trans String.append_empty.symm
  | array element ih =>
    cases h with
    | type h =>
      cases h with
      | array h => exact congrArg (· ++ "[]") (ih (.type h))
  | variableDecl name bound more _ _ =>
    cases h with
    | type h => cases h
  | variableRef name => rfl
  | wildcard upper lower ihu ihl =>
    cases h with
    | type h => cases h
    | wildcard hupper hlower =>
      have hbounds : ∀ bounds : List JavaType, (∀ b ∈ bounds, r.render b.form = r.render b) →
          (bounds.map JavaType.form).map r.render = bounds.map r.render := by
        intro bounds hb
        rw [List.map_map]
        exact List.map_congr_left hb
      have hu := hbounds (upper.getD []) fun b hb =>
        JavaType.forall_mem_getD_iff.mpr ihu b hb (.type (hupper b hb))
      have hl := hbounds (lower.getD []) fun b hb =>
        JavaType.forall_mem_getD_iff.mpr ihl b hb (.type (hlower b hb))
      rw [JavaType.form_wildcard, render_wildcard, render_wildcard, JavaType.getD_presentBounds,
        JavaType.getD_presentBounds, hu, hl]
  | parameterized base arguments ih =>
    cases h with
    | type h =>
      cases h with
      | parameterized hmark harguments =>
        have hbase : r.className base.bare = r.className base := by
          rw [className_eq, className_eq]
          unfold ClassRef.arraySuffix
          rw [hmark]
          rfl
        have hmap : (arguments.map JavaType.form).map r.render = arguments.map r.render := by
          rw [List.map_map]
          exact List.map_congr_left fun a ha => ih a ha (harguments a ha)
        rw [JavaType.form_parameterized, render_parameterized, render_parameterized, hbase, hmap]

/-- **Rendering loses nothing.** Two plain types, in which the names can be told apart, are rendered alike
    exactly if they are the same type, spelled out. -/
theorem NamesApart.render_eq_iff
    (h : r.NamesApart (t.classes ++ u.classes) (t.variableNames ++ u.variableNames)) (ht : t.IsPlain)
    (hu : u.IsPlain) : r.render t = r.render u ↔ t.spelledOut.Same u.spelledOut := by
  constructor
  · intro heq
    have hatoms : ∀ a ∈ t.atoms ++ u.atoms, a.IsAtom :=
      List.forall_mem_append.mpr ⟨fun _ => JavaType.isAtom_of_mem_atoms, fun _ => JavaType.isAtom_of_mem_atoms⟩
    unfold JavaType.classes JavaType.variableNames at h
    rw [← List.filterMap_append, ← List.filterMap_append] at h
    have htells : r.TellsCore (t.atoms ++ u.atoms) t :=
      (tellsCore_and_tellsArgument (h.distinguishes hatoms) t (List.subset_append_left _ _)).1 ht
    have hends : Stops continuesType [] := stops_nil _
    exact (tells_type (htells u hu (List.subset_append_right _ _)) hends hends (by rw [heq])).1
  · intro hsame
    have hforms : t.form = u.form := hsame
    rw [← r.render_form (.type ht), ← r.render_form (.type hu), hforms]

end Renderer

/-! ## Two ways to write down a type -/

namespace JavaType

/-- Lists of arrays of a type variable. -/
def arrayLists : JavaType := .parameterized (.ofPackage ⟨"java.util"⟩ "List") [.array (.variableRef "T")]

/-- Maps from arrays of dates to such lists, the class marked as an array, with an empty list of lower bounds. -/
def markedDates : JavaType :=
  .parameterized (.ofPackage ⟨"java.util"⟩ "Map")
    [.wildcard (some [.ofClass { ClassRef.ofPackage ⟨"java.sql"⟩ "Date" with isArray := true }]) (some []),
     arrayLists]

/-- The same with an array type, and without lower bounds. -/
def arrayDates : JavaType :=
  .parameterized (.ofPackage ⟨"java.util"⟩ "Map")
    [.wildcard (some [.array (.ofClass (.ofPackage ⟨"java.sql"⟩ "Date"))]) none, arrayLists]

theorem arrayLists_isPlainArgument : arrayLists.IsPlainArgument :=
  .type (.parameterized rfl (List.forall_mem_singleton.mpr (.type (.array .variableRef))))

theorem markedDates_isPlain : markedDates.IsPlain := by
  refine .parameterized rfl (List.forall_mem_cons.mpr ⟨?_, ?_⟩)
  · exact .wildcard (List.forall_mem_singleton.mpr .ofClass) (List.forall_mem_nil _)
  · exact List.forall_mem_singleton.mpr arrayLists_isPlainArgument

theorem arrayDates_isPlain : arrayDates.IsPlain := by
  refine .parameterized rfl (List.forall_mem_cons.mpr ⟨?_, ?_⟩)
  · exact .wildcard (List.forall_mem_singleton.mpr (.array .ofClass)) (List.forall_mem_nil _)
  · exact List.forall_mem_singleton.mpr arrayLists_isPlainArgument

/-- The names that the ledger writes these types with can be told apart, the full one among them. -/
theorem dates_namesApart :
    (ClassDecl.ledger.renderer true).NamesApart (markedDates.classes ++ arrayDates.classes)
      (markedDates.variableNames ++ arrayDates.variableNames) where
  className := by decide
  variableName := by decide
  injective := by decide
  apart := by decide

/-- Both ways are written `Map<? extends java.sql.Date[], List<T[]>>`, and are the same spelled out. -/
theorem dates_render_eq_iff :
    markedDates ≠ arrayDates
    ∧ (ClassDecl.ledger.renderer true).render markedDates =
      "Map<? extends java.sql.Date[], List<T[]>>"
    ∧ (ClassDecl.ledger.renderer true).render arrayDates =
      "Map<? extends java.sql.Date[], List<T[]>>"
    ∧ markedDates.spelledOut.Same arrayDates.spelledOut := by
  have hmarked : (ClassDecl.ledger.renderer true).render markedDates =
      "Map<? extends java.sql.Date[], List<T[]>>" := by decide
  have harray : (ClassDecl.ledger.renderer true).render arrayDates =
      "Map<? extends java.sql.Date[], List<T[]>>" := by decide
  exact ⟨by decide, hmarked, harray,
    (dates_namesApart.render_eq_iff markedDates_isPlain arrayDates_isPlain).mp (hmarked.trans harray.symm)⟩

end JavaType
end JavaSource
