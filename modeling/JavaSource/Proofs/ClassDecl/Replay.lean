import JavaSource.Proofs.ClassDecl.Step
import Mathlib.Data.List.Forall2

/-!
# `Proofs.ClassDecl.Replay` — a declaration is the replay of its accepted changes

The verdict on a change depends on the kind of the declaration and on the change (`verdict_eq_of_kind_eq`), and
changes keep the kind, so which changes of a list are accepted can be told before the first of them is made
(`accepted_eq_filter`). What a list leaves behind is read off the accepted changes, part by part: `IsReplay`
says how. Each change is recorded in one part (`Mutation.part`), and a part does not see the changes for
another one, except that an attached member records its owner with the array flag of the moment.

* `IsReplay.record`, `IsReplay.run` — one change replayed, and a list of changes.
* `IsFresh.contents_run_eq` — lists with the same changes for each part leave the same behind.
* `record_comm`, `run_swap` — neighbours for different parts can be swapped.
-/

namespace JavaSource

/-! ## Parts of a declaration -/

/-- The part of a declaration that a change is for. -/
inductive Part where
  | access
  | arrayFlag
  | annotations
  | imports
  | typeParameters
  | parent
  | interfaces
  | members
  deriving DecidableEq, Repr

namespace Mutation

@[simp] def part : Mutation → Part
  | .setAccess _ => .access
  | .setArray _ => .arrayFlag
  | .annotate _ => .annotations
  | .addImport _ => .imports
  | .addTypeParameter _ => .typeParameters
  | .setParent _ => .parent
  | .addInterface _ => .interfaces
  | .addMember _ => .members

@[simp] def access? : Mutation → Option Access
  | .setAccess a => some a
  | _ => none

@[simp] def arrayFlag? : Mutation → Option Bool
  | .setArray flag => some flag
  | _ => none

@[simp] def annotation? : Mutation → Option Annotation
  | .annotate a => some a
  | _ => none

@[simp] def typeParameter? : Mutation → Option TypeVariable
  | .addTypeParameter v => some v
  | _ => none

@[simp] def parent? : Mutation → Option JavaType
  | .setParent t => some t
  | _ => none

@[simp] def interface? : Mutation → Option JavaType
  | .addInterface t => some t
  | _ => none

@[simp] def member? : Mutation → Option Member
  | .addMember m => some m
  | _ => none

/-- What is read off the changes for one part is read off the list of these changes. -/
theorem filterMap_congr_part {α : Type} {f : Mutation → Option α} {p : Part} {ms ns : List Mutation}
    (hf : ∀ m : Mutation, m.part ≠ p → f m = none)
    (h : (ms.filter fun m => m.part = p) = ns.filter fun m => m.part = p) :
    ms.filterMap f = ns.filterMap f := by
  have hfilter : ∀ ks : List Mutation, ks.filterMap f = (ks.filter fun m => m.part = p).filterMap f := by
    intro ks
    rw [List.filterMap_filter]
    refine List.filterMap_congr fun m _ => ?_
    by_cases hm : m.part = p
    · simp only [hm, decide_true, if_true]
    · simp only [hm, decide_false, hf m hm, ite_self]
  rw [hfilter ms, hfilter ns, h]

end Mutation

/-! ## Members as they are held -/

/-- The three kinds of members. -/
inductive MemberKind where
  | field
  | method
  | constructor
  deriving DecidableEq, Repr

namespace Member

def kind : Member → MemberKind
  | .field _ => .field
  | .method _ => .method
  | .constructor _ => .constructor

/-- **A declaration holds a member that it was given**: it is the same member, but owned by the declared
    class, and abstract if it is a method and the declaration an interface. The owner is recorded with the
    array flag of the moment, which is no part of which class it is. -/
def HeldBy (d : ClassDecl) (given held : Member) : Prop :=
  ∃ flag, held =
    (if d.isInterface then given.abstracted else given).withOwner { d.toRef with isArray := flag }

/-- The member with the flags of its owner left out. -/
def withBareOwner (m : Member) : Member := m.mapHeader fun h => { h with owner := h.owner.map ClassRef.bare }

theorem withBareOwner_withOwner (m : Member) (c : ClassRef) :
    (m.withOwner c).withBareOwner = m.withOwner c.bare := by
  cases m with
  | field f => rfl
  | method m => rfl
  | constructor m => rfl

/-- A member that is held is the given one, up to the flags of the owner. -/
theorem HeldBy.withBareOwner_eq {d : ClassDecl} {given held : Member} (h : HeldBy d given held) :
    held.withBareOwner = (if d.isInterface then given.abstracted else given).withOwner d.toRef.bare := by
  obtain ⟨flag, rfl⟩ := h
  rw [withBareOwner_withOwner]
  rfl

end Member

namespace ClassDecl

variable {d e o : ClassDecl} {m n : Mutation} {ms ns : List Mutation}

/-- The view of one kind of members, as members again, is those of that kind in their order. -/
theorem map_filterMap_eq_filter_kind {α : Type} {as? : Member → Option α} {mk : α → Member} {k : MemberKind}
    (h : ∀ m, (as? m).map mk = if m.kind = k then some m else none) (members : List Member) :
    (members.filterMap as?).map mk = members.filter fun m => m.kind = k := by
  rw [List.map_filterMap, ← List.filterMap_eq_filter]
  refine List.filterMap_congr fun m _ => ?_
  rw [h]
  simp only [Option.guard, decide_eq_true_eq]

/-- **Fields, methods and constructors are the members, split by kind**, each in the order of the members. -/
theorem members_split (d : ClassDecl) :
    d.fields.map Member.field = d.members.filter (fun m => m.kind = .field)
    ∧ d.methods.map Member.method = d.members.filter (fun m => m.kind = .method)
    ∧ d.constructors.map Member.constructor = d.members.filter fun m => m.kind = .constructor := by
  refine ⟨map_filterMap_eq_filter_kind ?_ _, map_filterMap_eq_filter_kind ?_ _,
    map_filterMap_eq_filter_kind ?_ _⟩
  all_goals
    intro m
    cases m <;> rfl

/-! ## Fresh declarations -/

/-- A declaration with which nothing has been done. -/
inductive IsFresh : ClassDecl → Prop
  | fresh (package : Package) (name : String) (kind : ClassKind) : IsFresh (fresh package name kind)
  | ofRef (c : ClassRef) : IsFresh (ofRef c)

theorem IsFresh.imports_eq (h : d.IsFresh) : d.imports = {} := by
  cases h with
  | fresh package name kind => rfl
  | ofRef c => rfl

theorem IsFresh.reachable (h : d.IsFresh) : d.Reachable := by
  cases h with
  | fresh package name kind => exact .fresh package name kind
  | ofRef c => exact .ofRef c

/-! ## Verdicts -/

/-- The verdict on a change: the kind of the error if the change is refused, and nothing if it is accepted. -/
def verdict (d : ClassDecl) (m : Mutation) : Option ErrorKind :=
  match d.apply m with
  | .error err => some err.kind
  | .ok _ => none

/-- The changes of a list that are accepted when their turn comes. -/
def accepted (d : ClassDecl) : List Mutation → List Mutation
  | [] => []
  | m :: ms =>
    match d.apply m with
    | .error _ => d.accepted ms
    | .ok e => m :: e.accepted ms

theorem apply_of_check_error {err : DeclarationError} (h : d.check m = .error err) :
    d.apply m = .error err := by
  unfold apply
  rw [h]

theorem apply_of_check_ok (h : d.check m = .ok ()) : d.apply m = .ok (d.step m) := by
  rw [step_of_check_ok h]
  unfold apply
  rw [h]

theorem verdict_of_check_error {err : DeclarationError} (h : d.check m = .error err) :
    d.verdict m = some err.kind := by
  unfold verdict
  rw [apply_of_check_error h]

theorem verdict_of_check_ok (h : d.check m = .ok ()) : d.verdict m = none := by
  unfold verdict
  rw [apply_of_check_ok h]

/-- What is checked alike is judged alike. -/
theorem verdict_eq_of_check_eq (h : e.check m = d.check m) : e.verdict m = d.verdict m := by
  cases hcheck : d.check m with
  | error err => rw [verdict_of_check_error hcheck, verdict_of_check_error (h.trans hcheck)]
  | ok u => rw [verdict_of_check_ok hcheck, verdict_of_check_ok (h.trans hcheck)]

theorem check_setParent_of_interface (t : JavaType) (h : d.isInterface = true) :
    d.check (.setParent t) = .error (.superclassOfInterface d.name) :=
  if_pos h

theorem check_setParent_of_class (t : JavaType) (h : d.isInterface = false) :
    d.check (.setParent t) = checkSupertype .superclass t :=
  if_neg (ne_true_of_eq_false h)

/-- **The verdict on a change depends on the kind of the declaration alone.** -/
theorem verdict_eq_of_kind_eq (h : e.kind = d.kind) (m : Mutation) : e.verdict m = d.verdict m := by
  cases m with
  | setParent t =>
    -- the one check that looks at the declaration; its error names the declaration, but its kind does not
    have hint : e.isInterface = d.isInterface := by
      unfold isInterface
      rw [h]
    cases hd : d.isInterface with
    | true =>
      rw [verdict_of_check_error (check_setParent_of_interface t hd),
        verdict_of_check_error (check_setParent_of_interface t (hint.trans hd))]
      rfl
    | false =>
      refine verdict_eq_of_check_eq ?_
      rw [check_setParent_of_class t hd, check_setParent_of_class t (hint.trans hd)]
  | setAccess a => rfl
  | setArray flag => rfl
  | annotate a => rfl
  | addImport c => rfl
  | addTypeParameter v => exact verdict_eq_of_check_eq rfl
  | addInterface t => exact verdict_eq_of_check_eq rfl
  | addMember m => exact verdict_eq_of_check_eq rfl

theorem verdict_run (d : ClassDecl) (before : List Mutation) (m : Mutation) :
    (d.run before).verdict m = d.verdict m :=
  verdict_eq_of_kind_eq (run_kind d before) m

theorem accepted_cons_of_check_error {err : DeclarationError} (h : d.check m = .error err) :
    d.accepted (m :: ms) = d.accepted ms := by
  rw [accepted, apply_of_check_error h]

theorem accepted_cons_of_check_ok (h : d.check m = .ok ()) :
    d.accepted (m :: ms) = m :: (d.step m).accepted ms := by
  rw [accepted, apply_of_check_ok h]

/-- **Which changes are accepted can be told beforehand.** -/
theorem accepted_eq_filter (d : ClassDecl) (ms : List Mutation) :
    d.accepted ms = ms.filter fun m => d.verdict m = none := by
  induction ms generalizing d with
  | nil => rfl
  | cons m ms ih =>
    cases h : d.check m with
    | error err =>
      rw [accepted_cons_of_check_error h, ih, List.filter_cons_of_neg]
      simp [verdict_of_check_error h]
    | ok u =>
      have hkind : ∀ n, (d.step m).verdict n = d.verdict n :=
        verdict_eq_of_kind_eq (stepped d m).kind_eq
      rw [accepted_cons_of_check_ok h, ih, List.filter_cons_of_pos]
      · simp only [hkind]
      · simp [verdict_of_check_ok h]

/-! ## Recording, part by part -/

theorem record_access (d : ClassDecl) (m : Mutation) : (d.record m).access = m.access?.getD d.access := by
  cases m <;> rfl

theorem record_isArray (d : ClassDecl) (m : Mutation) :
    (d.record m).isArray = m.arrayFlag?.getD d.isArray := by
  cases m <;> rfl

theorem record_annotations (d : ClassDecl) (m : Mutation) :
    (d.record m).annotations = d.annotations ++ m.annotation?.toList := by
  cases m <;> simp [record]

theorem record_typeParameters (d : ClassDecl) (m : Mutation) :
    (d.record m).typeParameters = d.typeParameters ++ m.typeParameter?.toList := by
  cases m <;> simp [record]

theorem record_parent (d : ClassDecl) (m : Mutation) : (d.record m).parent = m.parent?.or d.parent := by
  cases m <;> rfl

theorem record_interfaces (d : ClassDecl) (m : Mutation) :
    (d.record m).interfaces = d.interfaces ++ m.interface?.toList := by
  cases m <;> simp [record]

theorem record_members (d : ClassDecl) (m : Mutation) :
    (d.record m).members = d.members ++ (m.member?.map d.adopted).toList := by
  cases m <;> simp [record]

/-! ## Replays -/

/-- **A declaration is the replay of some changes**: its package, name and kind are those of the origin; a
    part that is set is what it was set to last; a part that grows is what was attached to it, in order. -/
structure IsReplay (origin : ClassDecl) (changes : List Mutation) (d : ClassDecl) : Prop where
  package : d.package = origin.package
  name : d.name = origin.name
  kind : d.kind = origin.kind
  access : d.access = (changes.filterMap Mutation.access?).getLast?.getD origin.access
  isArray : d.isArray = (changes.filterMap Mutation.arrayFlag?).getLast?.getD origin.isArray
  annotations : d.annotations = changes.filterMap Mutation.annotation?
  typeParameters : d.typeParameters = changes.filterMap Mutation.typeParameter?
  parent : d.parent = (changes.filterMap Mutation.parent?).getLast?
  interfaces : d.interfaces = changes.filterMap Mutation.interface?
  members : List.Forall₂ (Member.HeldBy origin) (changes.filterMap Mutation.member?) d.members

theorem IsFresh.isReplay_nil (h : d.IsFresh) : IsReplay d [] d := by
  cases h with
  | fresh package name kind => exact ⟨rfl, rfl, rfl, rfl, rfl, rfl, rfl, rfl, rfl, .nil⟩
  | ofRef c => exact ⟨rfl, rfl, rfl, rfl, rfl, rfl, rfl, rfl, rfl, .nil⟩

section concat

variable {α β : Type}

/-- One more change adds what is read off it. -/
theorem filterMap_concat (f : Mutation → Option α) (ms : List Mutation) (m : Mutation) :
    (ms ++ [m]).filterMap f = ms.filterMap f ++ (f m).toList := by
  rw [List.filterMap_append]
  cases h : f m <;> simp [h]

theorem getLast?_append_toList (xs : List α) (x : Option α) :
    (xs ++ x.toList).getLast? = x.or xs.getLast? := by
  cases x <;> simp

/-- Lists that are related stay so when each gets an item that is related to the other's. -/
theorem forall₂_append_toList {R : α → β → Prop} {f : α → β} {xs : List α} {ys : List β}
    (h : List.Forall₂ R xs ys) (x : Option α) (hx : ∀ a, R a (f a)) :
    List.Forall₂ R (xs ++ x.toList) (ys ++ (x.map f).toList) := by
  refine List.rel_append h ?_
  cases x with
  | none => exact .nil
  | some a => exact .cons (hx a) .nil

end concat

/-- What a declaration adopts, it holds. -/
theorem IsReplay.heldBy_adopted (h : IsReplay o ms d) (given : Member) : given.HeldBy o (d.adopted given) := by
  have hint : d.isInterface = o.isInterface := by
    unfold isInterface
    rw [h.kind]
  have href : d.toRef = { o.toRef with isArray := d.isArray } := by
    unfold toRef
    rw [h.package, h.name, h.kind]
  refine ⟨d.isArray, ?_⟩
  unfold adopted
  rw [hint, href]

/-- **Recording a change replays one change more.** -/
theorem IsReplay.record (h : IsReplay o ms d) (m : Mutation) : IsReplay o (ms ++ [m]) (d.record m) where
  package := (record_package d m).trans h.package
  name := (record_name d m).trans h.name
  kind := (record_kind d m).trans h.kind
  access := by
    rw [record_access, h.access, filterMap_concat, getLast?_append_toList, Option.getD_or]
  isArray := by
    rw [record_isArray, h.isArray, filterMap_concat, getLast?_append_toList, Option.getD_or]
  annotations := by rw [record_annotations, h.annotations, filterMap_concat]
  typeParameters := by rw [record_typeParameters, h.typeParameters, filterMap_concat]
  parent := by rw [record_parent, h.parent, filterMap_concat, getLast?_append_toList]
  interfaces := by rw [record_interfaces, h.interfaces, filterMap_concat]
  members := by
    rw [record_members, filterMap_concat]
    exact forall₂_append_toList h.members _ h.heldBy_adopted

/-- A replay says nothing about imports. -/
theorem IsReplay.with_imports (h : IsReplay o ms d) (imports : ImportList) :
    IsReplay o ms { d with imports } :=
  { h with }

/-- **A run is the replay of what it accepts**: a refused change leaves the replay as it is, an accepted one
    is recorded. -/
theorem IsReplay.run (h : IsReplay o ns d) (ms : List Mutation) :
    IsReplay o (ns ++ d.accepted ms) (d.run ms) := by
  -- `ns` collects what has been accepted so far, from the origin on
  induction ms generalizing d ns with
  | nil =>
    rw [accepted, List.append_nil]
    exact h
  | cons m ms ih =>
    rw [ClassDecl.run]
    cases hcheck : d.check m with
    | error err =>
      rw [accepted_cons_of_check_error hcheck, step_of_check_error hcheck]
      exact ih h
    | ok u =>
      have hstep : IsReplay o (ns ++ [m]) (d.step m) := by
        rw [step_of_check_ok hcheck]
        exact (h.record m).with_imports _
      rw [accepted_cons_of_check_ok hcheck, List.append_cons]
      exact ih hstep

theorem IsFresh.isReplay_run (h : d.IsFresh) (ms : List Mutation) :
    IsReplay d (d.accepted ms) (d.run ms) :=
  h.isReplay_nil.run ms

/-! ## The same changes for each part -/

/-- Everything about a declaration but its imports. The owner of a member counts as the class that it is, so
    its flags are left out. -/
def contents (d : ClassDecl) : ClassDecl :=
  { d with members := d.members.map Member.withBareOwner, imports := {} }

/-- What is held for given members is determined by them, up to the flags of the owner. -/
theorem map_withBareOwner_eq {given held : List Member} (h : List.Forall₂ (Member.HeldBy o) given held) :
    held.map Member.withBareOwner =
      given.map fun m => (if o.isInterface then m.abstracted else m).withOwner o.toRef.bare := by
  induction h with
  | nil => rfl
  | cons hone _ ih => rw [List.map_cons, List.map_cons, hone.withBareOwner_eq, ih]

/-- **Replays of lists with the same changes for each part agree**, imports aside. -/
theorem IsReplay.contents_eq (h : IsReplay o ms d) (g : IsReplay o ns e)
    (hparts : ∀ p, (ms.filter fun m => m.part = p) = ns.filter fun m => m.part = p) :
    d.contents = e.contents := by
  have hread : ∀ {α : Type} (f : Mutation → Option α) (p : Part),
      (∀ m : Mutation, m.part ≠ p → f m = none) → ms.filterMap f = ns.filterMap f :=
    fun f p hf => Mutation.filterMap_congr_part hf (hparts p)
  have haccess := hread Mutation.access? .access (by intro m; cases m <;> simp)
  have harray := hread Mutation.arrayFlag? .arrayFlag (by intro m; cases m <;> simp)
  have hannotations := hread Mutation.annotation? .annotations (by intro m; cases m <;> simp)
  have hvariables := hread Mutation.typeParameter? .typeParameters (by intro m; cases m <;> simp)
  have hparent := hread Mutation.parent? .parent (by intro m; cases m <;> simp)
  have hinterfaces := hread Mutation.interface? .interfaces (by intro m; cases m <;> simp)
  have hmembers := hread Mutation.member? .members (by intro m; cases m <;> simp)
  unfold contents
  rw [map_withBareOwner_eq h.members, map_withBareOwner_eq g.members, hmembers, h.package, h.name, h.kind,
    h.access, h.isArray, h.annotations, h.typeParameters, h.parent, h.interfaces, haccess, harray,
    hannotations, hvariables, hparent, hinterfaces, g.package, g.name, g.kind, g.access, g.isArray,
    g.annotations, g.typeParameters, g.parent, g.interfaces]

/-- **What a list of changes leaves behind depends on what it holds for each part**, imports aside. -/
theorem IsFresh.contents_run_eq (h : d.IsFresh)
    (hparts : ∀ p, (ms.filter fun m => m.part = p) = ns.filter fun m => m.part = p) :
    (d.run ms).contents = (d.run ns).contents := by
  refine (h.isReplay_run ms).contents_eq (h.isReplay_run ns) fun p => ?_
  -- which changes are accepted does not depend on the others, so the two filters can be exchanged
  rw [accepted_eq_filter, accepted_eq_filter, List.filter_comm, hparts p, List.filter_comm]

/-! ## Swapping two changes -/

/-- Everything about a declaration but its imports. -/
def withoutImports (d : ClassDecl) : ClassDecl := { d with imports := {} }

theorem withoutImports_record (d : ClassDecl) (m : Mutation) :
    (d.record m).withoutImports = d.withoutImports.record m := by
  cases m <;> rfl

/-- Imports aside, a run records what it accepts. -/
theorem withoutImports_run (d : ClassDecl) (ms : List Mutation) :
    (d.run ms).withoutImports = (d.accepted ms).foldl record d.withoutImports := by
  induction ms generalizing d with
  | nil => rfl
  | cons m ms ih =>
    rw [run, ih]
    cases h : d.check m with
    | error err => rw [step_of_check_error h, accepted_cons_of_check_error h]
    | ok u =>
      have hstep : (d.step m).withoutImports = (d.record m).withoutImports := by
        rw [step_of_check_ok h]
        rfl
      rw [accepted_cons_of_check_ok h, List.foldl_cons, hstep, withoutImports_record]

/-- **Changes for different parts commute**, unless one sets the array flag, with which the other, attaching
    a member, records its owner. -/
theorem record_comm (h : m.part ≠ n.part) (hmn : m.part = .arrayFlag → n.part ≠ .members)
    (hnm : n.part = .arrayFlag → m.part ≠ .members) (d : ClassDecl) :
    (d.record m).record n = (d.record n).record m := by
  cases m <;> cases n <;>
    first
    | rfl
    | exact absurd rfl h
    | exact absurd rfl (hmn rfl)
    | exact absurd rfl (hnm rfl)

/-- Two neighbours that commute can be swapped within a run. -/
theorem run_swap (hcomm : ∀ d : ClassDecl, (d.record m).record n = (d.record n).record m)
    (d : ClassDecl) (before after : List Mutation) :
    (d.run (before ++ m :: n :: after)).withoutImports = (d.run (before ++ n :: m :: after)).withoutImports := by
  simp only [withoutImports_run, accepted_eq_filter, List.filter_append, List.foldl_append, List.filter_cons]
  -- if one of them is refused there is nothing to swap
  by_cases hm : d.verdict m = none
  · by_cases hn : d.verdict n = none
    · simp only [hm, hn, decide_true, if_true, List.foldl_cons, hcomm]
    · simp only [hn, decide_false, Bool.false_eq_true, if_false]
  · simp only [hm, decide_false, Bool.false_eq_true, if_false]

/-- Two neighbours for different parts can be swapped without a change in what there is for a part. -/
theorem filter_part_swap (h : m.part ≠ n.part) (before after : List Mutation) (p : Part) :
    ((before ++ m :: n :: after).filter fun k => k.part = p) =
      (before ++ n :: m :: after).filter fun k => k.part = p := by
  simp only [List.filter_append, List.filter_cons]
  by_cases hm : m.part = p
  · have hn : n.part ≠ p := fun hn => h (hm.trans hn.symm)
    simp only [hn, decide_false, Bool.false_eq_true, if_false]
  · simp only [hm, decide_false, Bool.false_eq_true, if_false]

/-- **A declaration is the replay of its accepted changes.** Whether a change is accepted, and the kind of
    its error, is decided by the kind of the declaration and the change; a run leaves the replay of the
    accepted changes behind; the three views of the members are these, split by kind; what is left behind for
    a part depends on the changes for this part alone; and neighbours for different parts can be swapped. Here
    the owner of a member is the class that it is. With the flags that it is recorded with, neighbours can
    still be swapped, unless one sets the array flag and the other attaches a member. -/
theorem IsFresh.run_replays_accepted (h : d.IsFresh) :
    (∀ (e : ClassDecl) (m : Mutation), e.kind = d.kind → e.verdict m = d.verdict m)
    ∧ (∀ (before : List Mutation) (m : Mutation), (d.run before).verdict m = d.verdict m)
    ∧ (∀ ms : List Mutation, IsReplay d (d.accepted ms) (d.run ms)
      ∧ (d.run ms).fields.map Member.field = (d.run ms).members.filter (fun m => m.kind = .field)
      ∧ (d.run ms).methods.map Member.method = (d.run ms).members.filter (fun m => m.kind = .method)
      ∧ (d.run ms).constructors.map Member.constructor =
          (d.run ms).members.filter fun m => m.kind = .constructor)
    ∧ (∀ ms ns : List Mutation,
      (∀ p, (ms.filter fun m => m.part = p) = ns.filter fun m => m.part = p) →
        (d.run ms).contents = (d.run ns).contents)
    ∧ ∀ (before after : List Mutation) (m n : Mutation), m.part ≠ n.part →
      (d.run (before ++ m :: n :: after)).contents = (d.run (before ++ n :: m :: after)).contents
      ∧ ((m.part = .arrayFlag → n.part ≠ .members) → (n.part = .arrayFlag → m.part ≠ .members) →
        (d.run (before ++ m :: n :: after)).withoutImports =
          (d.run (before ++ n :: m :: after)).withoutImports) := by
  refine ⟨fun e m hkind => verdict_eq_of_kind_eq hkind m, verdict_run d, ?_, fun ms ns => h.contents_run_eq, ?_⟩
  · intro ms
    exact ⟨h.isReplay_run ms, members_split (d.run ms)⟩
  · intro before after m n hparts
    exact ⟨h.contents_run_eq (filter_part_swap hparts before after),
      fun hmn hnm => run_swap (record_comm hparts hmn hnm) d before after⟩

/-- Changes for an interface: one of them, the third, is refused, and the flag is set while a method with a
    body is attached. -/
def figureChanges : List Mutation :=
  [.setArray true,
   .addMember (.method { name := "area", returnType := .primitive .double, body := some ["return 0;"] }),
   .setParent (.ofClass (.ofPackage ⟨"com.shapes"⟩ "Shape")),
   .setArray false,
   .addInterface (.ofClass { package := some ⟨"java.lang"⟩, name := "Comparable", kind := .interface }),
   .addMember (.field { type := .primitive .int, name := "EDGES", isStatic := true })]

theorem figure_run_replays_accepted :
    (fresh ⟨"com.shapes"⟩ "Figure" .interface).IsFresh
    ∧ IsReplay (fresh ⟨"com.shapes"⟩ "Figure" .interface) (figureChanges.eraseIdx 2)
        ((fresh ⟨"com.shapes"⟩ "Figure" .interface).run figureChanges)
    ∧ (Mutation.setArray true).part ≠ (Mutation.addMember (.constructor {})).part
    ∧ ((fresh ⟨"com.shapes"⟩ "Figure" .interface).run
          ([] ++ .setArray true :: .addMember (.constructor {}) :: figureChanges)).contents
        = ((fresh ⟨"com.shapes"⟩ "Figure" .interface).run
          ([] ++ .addMember (.constructor {}) :: .setArray true :: figureChanges)).contents := by
  have hfresh : (fresh ⟨"com.shapes"⟩ "Figure" .interface).IsFresh := .fresh _ _ _
  have hparts : (Mutation.setArray true).part ≠ (Mutation.addMember (.constructor {})).part := by decide
  have haccepted : (fresh ⟨"com.shapes"⟩ "Figure" .interface).accepted figureChanges
      = figureChanges.eraseIdx 2 := by decide
  obtain ⟨-, -, hreplay, -, hswap⟩ := hfresh.run_replays_accepted
  rw [← haccepted]
  exact ⟨hfresh, (hreplay figureChanges).1, hparts, (hswap [] figureChanges _ _ hparts).1⟩

end ClassDecl
end JavaSource
