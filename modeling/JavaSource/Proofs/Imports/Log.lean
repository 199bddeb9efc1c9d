import JavaSource.Proofs.ClassDecl.Procedure
import JavaSource.Proofs.Imports.Repeat

/-!
# `Proofs.Imports.Log` — the log tells the truth about an import list

An offer reports what became of it: an import at level debug, a conflict as a warning, a class that is skipped
for its package at level trace. A class that the list has dealt with before is passed over in silence. Whoever
reads such a log, and never sees the list, knows the list (`ImportList.Tells`): the additions are its classes
and the warnings its conflicts, both in order, and the traces are as many as the skips for a package.

* `ImportList.logAll`, `answersAll` — what requests log, and what becomes of the classes that they offer.
* `Offered.tells` — one more offer keeps a log true, and so does any request (`Tells.serveAll`).
* `Offered.silent_iff`, `Offered.trace_iff` — what a single offer logs.
-/

namespace JavaSource

/-! ## Events about imports -/

namespace Event

/-- Is the event one about imports, of the given level? -/
def isAboutImports (level : Level) (e : Event) : Bool := e.target == ImportEvent.target && e.level == level

/-- Does the event report that a class has been imported? -/
def isAddition (e : Event) : Bool := e.isAboutImports .debug && e.message == "adding import"

end Event

/-- The fields of the event that reports the import of a class. -/
def ClassRef.additionFields (c : ClassRef) : List (String × FieldValue) := [("class", .text c.fullName)]

/-- The fields of the event that warns of a conflict. -/
def Conflict.warningFields (k : Conflict) : List (String × FieldValue) :=
  [("imported", .text k.imported.fullName), ("shadowed", .text k.shadowed.fullName)]

namespace ImportList

/-! ## The log of requests -/

/-- What the offer of a class logs. -/
def offerLog (l : ImportList) (owner : Option Package) (c : ClassRef) : List Event :=
  (l.offerEvent? owner c).toList.map ImportEvent.toEvent

/-- What a request logs. -/
def log (l : ImportList) : Request → List Event
  | .offer owner c => l.offerLog owner c
  | .merge owner cs => (l.mergeEvents owner cs).map ImportEvent.toEvent

/-- What some requests log, one after the other. -/
def logAll (l : ImportList) : List Request → List Event
  | [] => []
  | q :: qs => l.log q ++ (l.serve q).logAll qs

/-- What becomes of the classes that a request offers. -/
def answers (l : ImportList) : Request → List Decision
  | .offer owner c => [l.decision owner c]
  | .merge owner cs => l.decisions owner cs

/-- What becomes of the classes that some requests offer, one after the other. -/
def answersAll (l : ImportList) : List Request → List Decision
  | [] => []
  | q :: qs => l.answers q ++ (l.serve q).answersAll qs

/-! ## True logs -/

section tells

variable {l m : ImportList} {owner : Option Package} {c : ClassRef} {dec : Decision}
  {ev : Option ImportEvent} {decs : List Decision} {es : List Event}

/-- **A log tells the truth** about an import list, and about what became of the classes offered to it. -/
structure Tells (l : ImportList) (decs : List Decision) (es : List Event) : Prop where
  /-- The additions are the imported classes, in order. -/
  additions : (es.filter Event.isAddition).map Event.fields = l.classes.map ClassRef.additionFields
  /-- The warnings are the conflicts, in order. -/
  warnings :
    (es.filter (Event.isAboutImports .warn)).map Event.fields = l.conflicts.map Conflict.warningFields
  /-- Every class that is skipped for its package leaves one trace. -/
  traces : (es.filter (Event.isAboutImports .trace)).length =
    decs.count (.skipped .noPackage) + decs.count (.skipped .samePackage)
  /-- Nothing else is logged. -/
  length_eq : es.length = l.classes.length + l.conflicts.length +
    (decs.count (.skipped .noPackage) + decs.count (.skipped .samePackage))

theorem tells_empty : Tells {} [] [] := ⟨rfl, rfl, rfl, rfl⟩

/-- An offer reports an addition exactly if it imports the class. -/
theorem Offered.additions (h : Offered l owner c dec ev m) :
    m.classes.map ClassRef.additionFields = l.classes.map ClassRef.additionFields ++
      ((ev.toList.map ImportEvent.toEvent).filter Event.isAddition).map Event.fields := by
  cases h with
  | noPackage _ => exact (List.append_nil _).symm
  | samePackage _ => exact (List.append_nil _).symm
  | added _ _ => exact List.map_append
  | alreadyImported _ _ _ => exact (List.append_nil _).symm
  | knownConflict _ _ _ _ => exact (List.append_nil _).symm
  | newConflict _ _ _ _ => exact (List.append_nil _).symm

/-- An offer warns exactly if it records a conflict. -/
theorem Offered.warnings (h : Offered l owner c dec ev m) :
    m.conflicts.map Conflict.warningFields = l.conflicts.map Conflict.warningFields ++
      ((ev.toList.map ImportEvent.toEvent).filter (Event.isAboutImports .warn)).map Event.fields := by
  cases h with
  | noPackage _ => exact (List.append_nil _).symm
  | samePackage _ => exact (List.append_nil _).symm
  | added _ _ => exact (List.append_nil _).symm
  | alreadyImported _ _ _ => exact (List.append_nil _).symm
  | knownConflict _ _ _ _ => exact (List.append_nil _).symm
  | newConflict _ _ _ _ => exact List.map_append

/-- An offer leaves a trace exactly if it skips the class for its package. -/
theorem Offered.traces (h : Offered l owner c dec ev m) :
    ((ev.toList.map ImportEvent.toEvent).filter (Event.isAboutImports .trace)).length =
      [dec].count (.skipped .noPackage) + [dec].count (.skipped .samePackage) := by
  cases h with
  | noPackage _ => rfl
  | samePackage _ => rfl
  | added _ _ => rfl
  | alreadyImported _ _ _ => rfl
  | knownConflict _ _ _ _ => rfl
  | newConflict _ _ _ _ => rfl

/-- What an offer does to the list and to the traces, it says in one event. -/
theorem Offered.length_eq (h : Offered l owner c dec ev m) :
    m.classes.length + m.conflicts.length +
        ([dec].count (.skipped .noPackage) + [dec].count (.skipped .samePackage)) =
      l.classes.length + l.conflicts.length + ev.toList.length := by
  cases h with
  | noPackage _ => rfl
  | samePackage _ => rfl
  | added _ _ => simp; omega
  | alreadyImported _ _ _ => rfl
  | knownConflict _ _ _ _ => rfl
  | newConflict _ _ _ _ => simp; omega

/-- **One more offer keeps a log true**, when its event is put behind. -/
theorem Offered.tells (h : Offered l owner c dec ev m) (hl : l.Tells decs es) :
    m.Tells (decs ++ [dec]) (es ++ ev.toList.map ImportEvent.toEvent) where
  additions := by rw [List.filter_append, List.map_append, hl.additions, ← h.additions]
  warnings := by rw [List.filter_append, List.map_append, hl.warnings, ← h.warnings]
  traces := by
    rw [List.filter_append, List.length_append, List.count_append, List.count_append, hl.traces, h.traces]
    omega
  length_eq := by
    have hlength := h.length_eq
    rw [List.length_append, List.length_map, List.count_append, List.count_append, hl.length_eq]
    omega

theorem Tells.offer (hl : l.Tells decs es) (owner : Option Package) (c : ClassRef) :
    (l.offer owner c).Tells (decs ++ [l.decision owner c]) (es ++ l.offerLog owner c) :=
  (l.offered owner c).tells hl

/-- A merge keeps a log true: each of its offers does. -/
theorem Tells.merge (hl : l.Tells decs es) (owner : Option Package) (cs : List ClassRef) :
    (l.merge owner cs).Tells (decs ++ l.decisions owner cs)
      (es ++ (l.mergeEvents owner cs).map ImportEvent.toEvent) := by
  induction cs generalizing l decs es with
  | nil =>
    rw [decisions, mergeEvents, List.map_nil, List.append_nil, List.append_nil]
    exact hl
  | cons c cs ih =>
    have hrest := ih (hl.offer owner c)
    rw [List.append_assoc, List.append_assoc] at hrest
    rw [ImportList.merge, decisions, mergeEvents, List.map_append]
    exact hrest

/-- **Requests keep a log true.** -/
theorem Tells.serveAll (hl : l.Tells decs es) (qs : List Request) :
    (l.serveAll qs).Tells (decs ++ l.answersAll qs) (es ++ l.logAll qs) := by
  induction qs generalizing l decs es with
  | nil =>
    rw [answersAll, logAll, List.append_nil, List.append_nil]
    exact hl
  | cons q qs ih =>
    have hone : (l.serve q).Tells (decs ++ l.answers q) (es ++ l.log q) := by
      cases q with
      | offer owner c => exact hl.offer owner c
      | merge owner cs => exact hl.merge owner cs
    have hrest := ih hone
    rw [List.append_assoc, List.append_assoc] at hrest
    exact hrest

/-! ## The log of one offer -/

/-- **An offer is silent** exactly if the class is imported, or known to be shadowed. -/
theorem Offered.silent_iff (h : Offered l owner c dec ev m) :
    ev.toList.map ImportEvent.toEvent = [] ↔
      dec = .skipped .alreadyImported ∨ (dec = .skipped .nameTaken ∧ l.isShadowed c = true) := by
  cases h with
  | noPackage _ => simp
  | samePackage _ => simp
  | added _ _ => simp
  | alreadyImported _ _ _ => simp
  | knownConflict _ _ _ hknown => simp [hknown]
  | newConflict _ _ _ hnew => simp [hnew]

/-- **An offer leaves one trace** exactly if it skips the class for its package. -/
theorem Offered.trace_iff (h : Offered l owner c dec ev m) :
    (∃ e, ev.toList.map ImportEvent.toEvent = [e] ∧ e.isAboutImports .trace = true) ↔
      dec = .skipped .noPackage ∨ dec = .skipped .samePackage := by
  -- of the four kinds of events two have the level of a trace
  cases h with
  | noPackage _ => exact ⟨fun _ => Or.inl rfl, fun _ => ⟨_, rfl, rfl⟩⟩
  | samePackage _ => exact ⟨fun _ => Or.inr rfl, fun _ => ⟨_, rfl, rfl⟩⟩
  | added _ _ => simp [Event.isAboutImports, ImportEvent.toEvent]
  | alreadyImported _ _ _ => simp
  | knownConflict _ _ _ _ => simp
  | newConflict _ _ _ _ => simp [Event.isAboutImports, ImportEvent.toEvent]

/-- A merge logs what its offers log. -/
theorem log_merge (l : ImportList) (owner : Option Package) (cs : List ClassRef) :
    l.log (.merge owner cs) = l.logAll (cs.map (.offer owner)) := by
  induction cs generalizing l with
  | nil => rfl
  | cons c cs ih =>
    show (l.mergeEvents owner (c :: cs)).map ImportEvent.toEvent =
      l.offerLog owner c ++ (l.offer owner c).logAll (cs.map (.offer owner))
    rw [mergeEvents, List.map_append, ← ih]
    rfl

end tells

/-- **The log tells the truth about an import list.** Whatever is requested of an empty list, on behalf of
    whichever owners, the log of it tells the list and the skips for a package. A single offer, alone or in a
    merge, is silent exactly if the class is imported already, or is known to be shadowed, and leaves one trace
    exactly if the class is skipped for its package. A change of a declaration that fails logs nothing. -/
theorem log_tells_imports :
    (∀ qs : List Request,
      (({} : ImportList).serveAll qs).Tells (({} : ImportList).answersAll qs) (({} : ImportList).logAll qs))
    ∧ (∀ (l : ImportList) (owner : Option Package) (cs : List ClassRef),
      l.log (.merge owner cs) = l.logAll (cs.map (.offer owner)))
    ∧ (∀ (l : ImportList) (owner : Option Package) (c : ClassRef),
      (l.log (.offer owner c) = [] ↔ l.decision owner c = .skipped .alreadyImported
        ∨ (l.decision owner c = .skipped .nameTaken ∧ l.isShadowed c = true))
      ∧ ((∃ e, l.log (.offer owner c) = [e] ∧ e.isAboutImports .trace = true) ↔
        l.decision owner c = .skipped .noPackage ∨ l.decision owner c = .skipped .samePackage))
    ∧ ∀ (change : Mutation) (w w' : Draft) (err : DeclarationError),
      Procedure.exec (.perform change) w = (.error err, w') → w'.log = w.log := by
  refine ⟨?_, log_merge, ?_, ?_⟩
  · intro qs
    exact tells_empty.serveAll qs
  · intro l owner c
    exact ⟨(l.offered owner c).silent_iff, (l.offered owner c).trace_iff⟩
  · intro change w w' err h
    rw [Procedure.exec_perform] at h
    have hcheck : w.decl.check change = .error err := congrArg Prod.fst h
    have hw' : _ = w' := congrArg Prod.snd h
    rw [← hw', ClassDecl.applyEvents_of_check_error hcheck, List.append_nil]

/-- An offer and a merge that come upon two `Date`s, one of them twice, and a class without a package. -/
def dateRequests : List Request :=
  [.offer none (.ofPackage ⟨"java.util"⟩ "Date"),
   .merge (some ⟨"com.acme"⟩)
    [.ofPackage ⟨"java.sql"⟩ "Date", .unpackaged "Local", .ofPackage ⟨"java.sql"⟩ "Date"]]

/-- Their log has one addition, one warning and one trace; and the interface `Shape`, which refuses a method of
    another class, says nothing of it. -/
theorem dateRequests_log_tells_imports :
    (((({} : ImportList).logAll dateRequests).filter Event.isAddition).map Event.fields =
        [[("class", .text "java.util.Date")]]
      ∧ ((({} : ImportList).logAll dateRequests).filter (Event.isAboutImports .warn)).map Event.fields =
        [[("imported", .text "java.util.Date"), ("shadowed", .text "java.sql.Date")]]
      ∧ (({} : ImportList).logAll dateRequests).length = 3)
    ∧ ∃ err w', Procedure.exec (.perform Procedure.borrowed) Procedure.shape = (.error err, w')
      ∧ w'.log = Procedure.shape.log := by
  obtain ⟨htells, -, -, hfailed⟩ := log_tells_imports
  have hdates := htells dateRequests
  refine ⟨⟨hdates.additions.trans (by decide), hdates.warnings.trans (by decide),
    hdates.length_eq.trans (by decide)⟩, ?_⟩
  have hexec := Procedure.exec_perform Procedure.borrowed Procedure.shape
  have hcheck : Procedure.shape.decl.check Procedure.borrowed =
      .error (.alreadyOwned (.method "points") (.ofPackage ⟨"com.acme"⟩ "Circle")) := by decide
  rw [hcheck] at hexec
  exact ⟨_, _, hexec, hfailed _ _ _ _ hexec⟩

end ImportList
end JavaSource
