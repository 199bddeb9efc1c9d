import JavaSource.ClassRef
import JavaSource.Event

/-!
# `ImportList` — which classes a compilation unit imports

An import list holds the imported classes in order, with pairwise different simple names, and the
conflicts: classes that lost their simple name to an imported one. Classes are *offered* one at a time on
behalf of an owner package; `decision` says what becomes of an offer, `offer` is the list afterwards, and
`offerEvent?` is what the offer logs.

A class is skipped when it has no package, when it is of the owner's package, when it is imported already,
or when its simple name is taken. In the last case it is recorded as a conflict, once.
-/

namespace JavaSource

/-- An imported class, and one of the same simple name that it shadows. -/
structure Conflict where
  imported : ClassRef
  shadowed : ClassRef
  deriving DecidableEq, Repr

/-- Imported classes and conflicts, both in the order in which they were recorded. -/
structure ImportList where
  classes : List ClassRef := []
  conflicts : List Conflict := []
  deriving DecidableEq, Repr, Inhabited

/-- Why an offered class is not imported. -/
inductive SkipReason where
  | noPackage
  | samePackage
  | alreadyImported
  | nameTaken
  deriving DecidableEq, Repr

/-- What becomes of an offered class. -/
inductive Decision where
  | added
  | skipped (reason : SkipReason)
  deriving DecidableEq, Repr

/-- What an offer logs. -/
inductive ImportEvent where
  | noPackage (c : ClassRef)
  | samePackage (c : ClassRef)
  | conflict (imported shadowed : ClassRef)
  | added (c : ClassRef)
  deriving DecidableEq, Repr

/-- The target of events about imports. -/
def ImportEvent.target : String := "javagen.imports"

/-- The log event for an offer. -/
def ImportEvent.toEvent : ImportEvent → Event
  | .noPackage c =>
    { level := .trace, target, message := "skipping class without package",
      fields := [("class", .text c.name)] }
  | .samePackage c =>
    { level := .trace, target, message := "skipping same-package class",
      fields := [("class", .text c.fullName)] }
  | .conflict imported shadowed =>
    { level := .warn, target, message := "simple name already imported; keeping the first class",
      fields := [("imported", .text imported.fullName), ("shadowed", .text shadowed.fullName)] }
  | .added c =>
    { level := .debug, target, message := "adding import", fields := [("class", .text c.fullName)] }

namespace ImportList

/-- Is the class imported? -/
def contains (l : ImportList) (c : ClassRef) : Bool := l.classes.any fun d => decide (d.Same c)

/-- The imported class with a simple name. -/
def bySimpleName? (l : ImportList) (name : String) : Option ClassRef :=
  l.classes.find? fun c => c.name == name

/-- Is the class recorded as shadowed by an imported one? -/
def isShadowed (l : ImportList) (c : ClassRef) : Bool :=
  l.conflicts.any fun k => decide (k.shadowed.Same c)

/-! ## Offers -/

/-- Is a class with this package of the owner's own package? A missing owner counts as the default
    package. -/
def isOwn (owner : Option Package) (p : Package) : Bool := p == owner.getD .unnamed

/-- What becomes of a class offered on behalf of `owner`. -/
def decision (l : ImportList) (owner : Option Package) (c : ClassRef) : Decision :=
  match c.package with
  | none => .skipped .noPackage
  | some p =>
    if isOwn owner p then .skipped .samePackage
    else
      match l.bySimpleName? c.name with
      | none => .added
      | some holder => if holder.Same c then .skipped .alreadyImported else .skipped .nameTaken

/-- The list after an offer. -/
def offer (l : ImportList) (owner : Option Package) (c : ClassRef) : ImportList :=
  match l.decision owner c, l.bySimpleName? c.name with
  | .added, _ => { l with classes := l.classes ++ [c] }
  | .skipped .nameTaken, some holder =>
    if l.isShadowed c then l else { l with conflicts := l.conflicts ++ [⟨holder, c⟩] }
  | _, _ => l

/-- What an offer logs. A class that is imported already, or known to be shadowed, is passed over in
    silence. -/
def offerEvent? (l : ImportList) (owner : Option Package) (c : ClassRef) : Option ImportEvent :=
  match l.decision owner c, l.bySimpleName? c.name with
  | .added, _ => some (.added c)
  | .skipped .noPackage, _ => some (.noPackage c)
  | .skipped .samePackage, _ => some (.samePackage c)
  | .skipped .nameTaken, some holder => if l.isShadowed c then none else some (.conflict holder c)
  | _, _ => none

/-! ## Merging a list of candidates -/

/-- The list after offering the candidates one by one. -/
def merge (l : ImportList) (owner : Option Package) : List ClassRef → ImportList
  | [] => l
  | c :: cs => (l.offer owner c).merge owner cs

/-- The decisions taken while merging. -/
def decisions (l : ImportList) (owner : Option Package) : List ClassRef → List Decision
  | [] => []
  | c :: cs => l.decision owner c :: (l.offer owner c).decisions owner cs

/-- How many candidates a merge imports. -/
def addedCount (l : ImportList) (owner : Option Package) (cs : List ClassRef) : Nat :=
  (l.decisions owner cs).count .added

/-- What a merge logs. -/
def mergeEvents (l : ImportList) (owner : Option Package) : List ClassRef → List ImportEvent
  | [] => []
  | c :: cs => (l.offerEvent? owner c).toList ++ (l.offer owner c).mergeEvents owner cs

theorem merge_append (l : ImportList) (owner : Option Package) (cs ds : List ClassRef) :
    l.merge owner (cs ++ ds) = (l.merge owner cs).merge owner ds := by
  induction cs generalizing l with
  | nil => rfl
  | cons c cs ih => exact ih (l.offer owner c)

end ImportList
end JavaSource
