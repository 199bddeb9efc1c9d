import JavaSource.ClassDecl.Procedure
import JavaSource.Proofs.ClassDecl.Check
import JavaSource.Proofs.ClassDecl.Step

/-!
# `Proofs.ClassDecl.Procedure` — changes that fail leave no trace

Carrying a change out comes to its check, its step and its events (`exec_perform`). Most changes are one
sequence, *check, offer, edit*, and `exec_checked` deals with it once; for methods, which are made abstract
first when they go into an interface, it matters that neither the check nor the offers look at that flag.

A failure then leaves the draft as it was, because the step of a refused change is none, and it comes about
exactly as `ClassDecl.Refused` says (`perform_fails_iff_and_leaves_no_trace`).
-/

namespace JavaSource

/-! ## Members made abstract -/

namespace Member

/-- The check of a member does not ask whether it is abstract. -/
theorem checkMember_abstracted (m : Member) : checkMember m.abstracted = checkMember m := by
  cases m with
  | field f => rfl
  | method m => rfl
  | constructor m => rfl

end Member

namespace Procedure

variable {α β : Type} {p : Procedure α} {f : α → Procedure β} {w w' : Draft} {a : α}
  {err : DeclarationError} {change : Mutation}

/-! ## Sequences of actions -/

/-- What follows a success starts from the draft that it left. -/
theorem exec_bind_of_ok (h : exec p w = (.ok a, w')) : exec (p >>= f) w = exec (f a) w' := by
  unfold exec at h ⊢
  rw [ExceptT.run_bind, StateT.run_bind, h]
  rfl

/-- A failure ends a sequence, on the draft that it left. -/
theorem exec_bind_of_error (h : exec p w = (.error err, w')) :
    exec (p >>= f) w = (.error err, w') := by
  unfold exec at h ⊢
  rw [ExceptT.run_bind, StateT.run_bind, h]
  rfl

/-- The draft after classes have been offered. -/
def offered (w : Draft) (cs : List ClassRef) : Draft where
  decl := { w.decl with imports := w.decl.imports.merge (some w.decl.package) cs }
  log := w.log ++ w.decl.imports.mergeEvents (some w.decl.package) cs

/-- Offering classes one by one merges them, and logs what the merge logs. -/
theorem exec_offerAll (cs : List ClassRef) (w : Draft) :
    exec (offerAll cs) w = (.ok (), offered w cs) := by
  induction cs generalizing w with
  | nil =>
    unfold offered
    rw [ImportList.mergeEvents, List.append_nil]
    rfl
  | cons c cs ih =>
    have hone : exec (discard (offer c)) w = (.ok (), offered w [c]) := by
      unfold offered
      rw [ImportList.mergeEvents, ImportList.mergeEvents, List.append_nil]
      rfl
    have hsplit : offerAll (c :: cs) = discard (offer c) >>= fun _ => offerAll cs := List.forM_cons
    rw [hsplit, exec_bind_of_ok hone, ih]
    unfold offered
    simp only [ImportList.merge, ImportList.mergeEvents, List.append_nil, List.append_assoc]

/-- **Check, offer, edit**: the sequence for most changes. If the edit records the change, whatever the
    imports are, carrying it out is checking, stepping and logging. -/
theorem exec_checked (change : Mutation) {f : ClassDecl → ClassDecl}
    (hf : ∀ imports, f { w.decl with imports } = { w.decl.record change with imports }) :
    exec (do require (w.decl.check change); offerAll change.candidates; edit f) w =
      (w.decl.check change, ⟨w.decl.step change, w.log ++ w.decl.applyEvents change⟩) := by
  cases hcheck : w.decl.check change with
  | error err =>
    have hstop : exec (require (.error err)) w = (.error err, w) := rfl
    rw [exec_bind_of_error hstop, ClassDecl.step_of_check_error hcheck,
      ClassDecl.applyEvents_of_check_error hcheck, List.append_nil]
  | ok u =>
    have hgo : exec (require (.ok ())) w = (.ok (), w) := rfl
    rw [exec_bind_of_ok hgo, exec_bind_of_ok (exec_offerAll _ w), ClassDecl.step_of_check_ok hcheck,
      ClassDecl.applyEvents_of_check_ok hcheck]
    show (Except.ok (), (⟨f (offered w change.candidates).decl, (offered w change.candidates).log⟩ : Draft))
      = _
    unfold offered
    rw [hf]
    rfl

/-! ## Changes -/

/-- The member as it is when it comes to be attached. -/
theorem exec_addMember (m : Member) (w : Draft) :
    exec (addMember m) w = exec (attach (if w.decl.isInterface then m.abstracted else m)) w := by
  cases m with
  | field f =>
    show exec (attach (.field f)) w = exec (attach (if w.decl.isInterface then .field f else .field f)) w
    rw [ite_self]
  | constructor c =>
    show exec (attach (.constructor c)) w =
      exec (attach (if w.decl.isInterface then .constructor c else .constructor c)) w
    rw [ite_self]
  | method m =>
    show exec (attach (.method (if w.decl.isInterface then { m with isAbstract := true } else m))) w = _
    cases w.decl.isInterface with
    | true => rfl
    | false => rfl

theorem exec_perform_addMember (m : Member) (w : Draft) :
    exec (perform (.addMember m)) w =
      (w.decl.check (.addMember m),
        ⟨w.decl.step (.addMember m), w.log ++ w.decl.applyEvents (.addMember m)⟩) := by
  have hattach : exec (attach (if w.decl.isInterface then m.abstracted else m)) w =
      exec (do
        require (w.decl.check (.addMember m))
        offerAll (Mutation.addMember m).candidates
        edit fun d => { d with
          members := d.members ++ [(if w.decl.isInterface then m.abstracted else m).withOwner d.toRef] })
        w := by
    -- the flag that an interface sets is not looked at before the member is stored
    unfold attach
    cases w.decl.isInterface with
    | true => simp only [if_true, Member.checkMember_abstracted, Member.references_abstracted]; rfl
    | false => rfl
  rw [perform, exec_addMember, hattach]
  exact exec_checked (.addMember m) fun _ => rfl

/-- **Carrying a change out is checking, stepping and logging.** -/
theorem exec_perform (change : Mutation) (w : Draft) :
    exec (perform change) w =
      (w.decl.check change, ⟨w.decl.step change, w.log ++ w.decl.applyEvents change⟩) := by
  cases change with
  | setAccess a =>
    show _ = (Except.ok (), (⟨_, w.log ++ []⟩ : Draft))
    rw [List.append_nil]
    rfl
  | setArray flag =>
    show _ = (Except.ok (), (⟨_, w.log ++ []⟩ : Draft))
    rw [List.append_nil]
    rfl
  | annotate a =>
    rw [perform, addAnnotation, exec_bind_of_ok (exec_offerAll _ w)]
    rfl
  | addImport c =>
    show _ = (Except.ok (), (⟨_, w.log ++ (_ ++ [])⟩ : Draft))
    rw [List.append_nil]
    rfl
  | addTypeParameter v => exact exec_checked (.addTypeParameter v) fun _ => rfl
  | addInterface t => exact exec_checked (.addInterface t) fun _ => rfl
  | addMember m => exact exec_perform_addMember m w
  | setParent t =>
    have hget : exec (get : Procedure Draft) w = (.ok w, w) := rfl
    rw [perform, setParent, exec_bind_of_ok hget]
    cases hint : w.decl.isInterface with
    | true =>
      have hcheck : w.decl.check (.setParent t) = .error (.superclassOfInterface w.decl.name) := by
        unfold ClassDecl.check
        rw [hint]
        rfl
      rw [hcheck, ClassDecl.step_of_check_error hcheck, ClassDecl.applyEvents_of_check_error hcheck,
        List.append_nil]
      rfl
    | false =>
      have hcheck : checkSupertype .superclass t = w.decl.check (.setParent t) := by
        unfold ClassDecl.check
        rw [hint]
        rfl
      show exec (do require (checkSupertype .superclass t); offerAll t.references; _) w = _
      rw [hcheck]
      exact exec_checked (.setParent t) fun _ => rfl

/-! ## Failures -/

/-- **A change fails exactly when it should, and then leaves no trace.** Whatever the draft holds, a change
    fails with an error of some kind exactly if it is refused for a reason of that kind, and a change that
    fails leaves the declaration, its imports and the log as they were. -/
theorem perform_fails_iff_and_leaves_no_trace (change : Mutation) (w : Draft) :
    (∀ k, (∃ err w', exec (perform change) w = (.error err, w') ∧ err.kind = k)
      ↔ w.decl.Refused change k)
    ∧ ∀ err w', exec (perform change) w = (.error err, w') → w' = w := by
  rw [exec_perform]
  constructor
  · intro k
    rw [← ClassDecl.exists_check_error_iff]
    constructor
    · rintro ⟨err, w', h, hk⟩
      exact ⟨err, congrArg Prod.fst h, hk⟩
    · rintro ⟨err, h, hk⟩
      exact ⟨err, _, by rw [h], hk⟩
  · intro err w' h
    have hcheck : w.decl.check change = .error err := congrArg Prod.fst h
    have hw' : _ = w' := congrArg Prod.snd h
    rw [← hw', ClassDecl.step_of_check_error hcheck, ClassDecl.applyEvents_of_check_error hcheck,
      List.append_nil]

/-- A draft of an interface `com.acme.Shape` that has imported one of two `Point`s. -/
def shape : Draft :=
  (exec (do
      discard (addImport (.ofPackage ⟨"java.awt"⟩ "Point"))
      addMethod { returnType := .ofClass (.ofPackage ⟨"org.plane"⟩ "Point"), name := "center" })
    { decl := .fresh ⟨"com.acme"⟩ "Shape" .interface }).2

/-- A method of another class, whose type parameter has no bound. -/
def borrowed : Mutation :=
  .addMember (.method {
    header := { owner := some (.ofPackage ⟨"com.acme"⟩ "Circle") }
    returnType := .ofClass (.ofPackage ⟨"java.util"⟩ "List"), name := "points"
    typeParameters := [{ name := "T" }] })

/-- Attaching it fails for its owner, before its type parameter is looked at, and nothing is imported. -/
theorem shape_refuses_borrowed :
    ∃ err, exec (perform borrowed) shape = (.error err, shape) ∧ err.kind = .invalidState := by
  obtain ⟨hfails, htrace⟩ := perform_fails_iff_and_leaves_no_trace borrowed shape
  obtain ⟨err, w', hexec, hk⟩ := (hfails .invalidState).mpr (.ownedMember (by decide))
  exact ⟨err, by rw [hexec, htrace err w' hexec], hk⟩

end Procedure
end JavaSource
