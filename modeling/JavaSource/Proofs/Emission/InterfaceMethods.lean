import JavaSource.Proofs.ClassDecl.WellFormed
import JavaSource.Proofs.Emission.Layout

/-!
# `Proofs.Emission.InterfaceMethods` — an interface writes signatures

An interface makes its methods abstract when it adopts them, and an abstract method is written as one line.
So neither the body nor the flag that a method came with can be seen in the text. `Method.signatureOnly`
erases both. Erasing them from a declaration goes with every change (`step_signatureOnly`) and so with every
run (`run_signatureOnly`), and the text of a well-formed interface does not notice
(`Emitter.emit_signaturesOnly`).
-/

namespace JavaSource

/-! ## Erasing bodies and flags -/

/-- A method as an interface writes it: abstract, and without a body. -/
def Method.signatureOnly (m : Method) : Method := { m with isAbstract := true, body := none }

/-- Erases flag and body of a method, and leaves other members as they are. -/
def Member.signatureOnly : Member → Member
  | .method m => .method m.signatureOnly
  | member => member

/-- Erases flag and body of the method that a change attaches. -/
def Mutation.signatureOnly : Mutation → Mutation
  | .addMember m => .addMember m.signatureOnly
  | change => change

/-- Erases flags and bodies of all methods of a declaration. -/
def ClassDecl.signaturesOnly (d : ClassDecl) : ClassDecl :=
  { d with members := d.members.map Member.signatureOnly }

/-! ## Steps and runs -/

namespace Member

/-- The check of a member looks at neither flag nor body. -/
theorem checkMember_signatureOnly (m : Member) : checkMember m.signatureOnly = checkMember m := by
  cases m with
  | field f => rfl
  | method method => rfl
  | constructor con => rfl

theorem references_signatureOnly (m : Member) : m.signatureOnly.references = m.references := by
  cases m with
  | field f => rfl
  | method method => rfl
  | constructor con => rfl

end Member

theorem Mutation.candidates_signatureOnly (change : Mutation) :
    change.signatureOnly.candidates = change.candidates := by
  cases change with
  | addMember m => exact m.references_signatureOnly
  | _ => rfl

namespace ClassDecl

variable {d : ClassDecl}

theorem adopted_signatureOnly (d : ClassDecl) (m : Member) :
    d.signaturesOnly.adopted m.signatureOnly = (d.adopted m).signatureOnly := by
  have hint : d.signaturesOnly.isInterface = d.isInterface := rfl
  have href : d.signaturesOnly.toRef = d.toRef := rfl
  unfold adopted
  rw [hint, href]
  cases d.isInterface <;> cases m <;> rfl

theorem check_signatureOnly (d : ClassDecl) (change : Mutation) :
    d.signaturesOnly.check change.signatureOnly = d.check change := by
  cases change with
  | addMember m => exact m.checkMember_signatureOnly
  | _ => rfl

theorem record_signatureOnly (d : ClassDecl) (change : Mutation) :
    d.signaturesOnly.record change.signatureOnly = (d.record change).signaturesOnly := by
  cases change with
  | addMember m =>
    have hmembers :
        d.members.map Member.signatureOnly ++ [d.signaturesOnly.adopted m.signatureOnly] =
          (d.members ++ [d.adopted m]).map Member.signatureOnly := by
      rw [adopted_signatureOnly, List.map_append, List.map_singleton]
    exact congrArg (fun members => ({ d with members } : ClassDecl)) hmembers
  | _ => rfl

theorem importsAfter_signatureOnly (d : ClassDecl) (change : Mutation) :
    d.signaturesOnly.importsAfter change.signatureOnly = d.importsAfter change := by
  unfold importsAfter
  rw [Mutation.candidates_signatureOnly]
  rfl

/-- **A change does not look at flags and bodies**, so erasing them goes with it. -/
theorem step_signatureOnly (d : ClassDecl) (change : Mutation) :
    d.signaturesOnly.step change.signatureOnly = (d.step change).signaturesOnly := by
  unfold step apply
  rw [check_signatureOnly]
  cases d.check change with
  | error err => rfl
  | ok u =>
    rw [record_signatureOnly, importsAfter_signatureOnly]
    rfl

/-- **Erasing flags and bodies goes with every run.** -/
theorem run_signatureOnly (d : ClassDecl) (changes : List Mutation) :
    d.signaturesOnly.run (changes.map Mutation.signatureOnly) = (d.run changes).signaturesOnly := by
  induction changes generalizing d with
  | nil => rfl
  | cons change changes ih => rw [List.map_cons, run, step_signatureOnly, ih, run]

theorem kind_of_isInterface (h : d.isInterface = true) : d.kind = .interface := eq_of_beq h

end ClassDecl

/-! ## The text of an interface -/

namespace Emitter

variable {r : Renderer} {d : ClassDecl} {m : Member} {method : Method}

/-- The signature of an interface method says nothing of the flag, and never of a body. -/
theorem methodSignature_signatureOnly (r : Renderer) (method : Method) :
    methodSignature r .interface method.signatureOnly = methodSignature r .interface method := by
  have hword (flag : Bool) : (flag && ClassKind.interface == .ordinary) = false := Bool.and_false flag
  unfold methodSignature
  rw [hword, hword]
  rfl

/-- An abstract method is one line that ends in a semicolon. -/
theorem methodLines_of_isAbstract (r : Renderer) (kind : ClassKind) (method : Method)
    (h : method.isAbstract = true) :
    methodLines r kind method = [.code 1 (methodSignature r kind method ++ ";")] :=
  if_pos h

/-- **An interface writes a member and its erasure alike.** -/
theorem memberLines_signatureOnly (hint : d.isInterface = true) (hm : m.BelongsTo d) :
    memberLines r d m.signatureOnly = memberLines r d m := by
  cases m with
  | field f => rfl
  | constructor con => rfl
  | method method =>
    have habstract : method.isAbstract = true := hm.abstracted hint method rfl
    have hlines : methodLines r d.kind method.signatureOnly = methodLines r d.kind method := by
      rw [ClassDecl.kind_of_isInterface hint, methodLines_of_isAbstract r _ method habstract,
        methodLines_of_isAbstract r _ method.signatureOnly rfl, methodSignature_signatureOnly]
    exact congrArg (annotationLines r 1 method.header.annotations ++ ·) hlines

/-- How a member is written depends on the kind and the name of its declaration alone. -/
theorem memberLines_of_signaturesOnly (r : Renderer) (d : ClassDecl) (m : Member) :
    memberLines r d.signaturesOnly m = memberLines r d m := by
  cases m with
  | field f => rfl
  | method method => rfl
  | constructor con => rfl

/-- **A well-formed interface and its erasure have the same text.** -/
theorem emit_signaturesOnly (e : Emitter) (hint : d.isInterface = true) (hd : d.WellFormed) :
    e.emit d.signaturesOnly = e.emit d := by
  have hmembers (r : Renderer) :
      d.signaturesOnly.members.map (memberLines r d.signaturesOnly) = d.members.map (memberLines r d) := by
    show (d.members.map Member.signatureOnly).map _ = _
    rw [List.map_map]
    refine List.map_congr_left fun m hm => ?_
    rw [Function.comp_apply, memberLines_of_signaturesOnly]
    exact memberLines_signatureOnly hint (hd.members_belong m hm)
  have hdeclaration : e.declarationLines d.signaturesOnly = e.declarationLines d := by
    unfold declarationLines
    simp only [hmembers]
    rfl
  unfold emit unitLines
  rw [hdeclaration]
  rfl

/-- **A method of a well-formed interface in its unit**: below its annotations there is one line, its
    signature with a semicolon. -/
theorem emit_interface_method (e : Emitter) {before after : List Member} (hint : d.isInterface = true)
    (hd : d.WellFormed) (h : d.members = before ++ .method method :: after) :
    e.emit d =
      let r := d.renderer e.imports.qualifyConflicts
      Line.printAll e.format.indentUnit <|
        e.linesAbove d before ++ annotationLines r 1 method.header.annotations ++
          .code 1 (methodSignature r .interface method ++ ";") :: e.linesBelow d after := by
  have hmem : Member.method method ∈ d.members := by
    rw [h]
    exact List.mem_append_right before List.mem_cons_self
  have habstract : method.isAbstract = true := (hd.members_belong _ hmem).abstracted hint method rfl
  rw [emit, unitLines_at e h, memberLines, memberBodyLines, ClassDecl.kind_of_isInterface hint,
    methodLines_of_isAbstract _ _ method habstract]
  simp only [Member.annotations, Member.header, List.append_assoc, List.cons_append, List.nil_append]

end Emitter

/-! ## Reachable declarations -/

namespace ClassDecl

variable {d : ClassDecl}

/-- **What holds of every reachable declaration.** It is well formed; and an interface writes each of its
    methods as one signature with a semicolon, so that runs which differ in the flags and bodies of the
    methods they attach lead to the same text. -/
theorem Reachable.wellFormed_and_writes_signatures (h : d.Reachable) :
    d.WellFormed ∧
    (d.isInterface = true →
      (∀ (e : Emitter) (before after : List Member) (method : Method),
        d.members = before ++ .method method :: after →
        e.emit d =
          let r := d.renderer e.imports.qualifyConflicts
          Line.printAll e.format.indentUnit <|
            e.linesAbove d before ++ Emitter.annotationLines r 1 method.header.annotations ++
              .code 1 (Emitter.methodSignature r .interface method ++ ";") :: e.linesBelow d after)
      ∧ ∀ (e : Emitter) (changes others : List Mutation),
        changes.map Mutation.signatureOnly = others.map Mutation.signatureOnly →
        e.emit (d.run changes) = e.emit (d.run others)) := by
  refine ⟨h.wellFormed, fun hint => ⟨?_, ?_⟩⟩
  · intro e before after method hsplit
    exact e.emit_interface_method hint h.wellFormed hsplit
  · intro e changes others hsame
    have herase (ms : List Mutation) : e.emit (d.run ms).signaturesOnly = e.emit (d.run ms) := by
      refine e.emit_signaturesOnly ?_ (h.run ms).wellFormed
      unfold isInterface
      rw [run_kind]
      exact hint
    calc e.emit (d.run changes)
        = e.emit (d.run changes).signaturesOnly := (herase changes).symm
      _ = e.emit (d.signaturesOnly.run (changes.map Mutation.signatureOnly)) := by
          rw [run_signatureOnly]
      _ = e.emit (d.signaturesOnly.run (others.map Mutation.signatureOnly)) := by rw [hsame]
      _ = e.emit (d.run others).signaturesOnly := by rw [run_signatureOnly]
      _ = e.emit (d.run others) := herase others

/-- A method with a body, as it is given. -/
def greet : Method :=
  { header := { access := .publicAccess }, returnType := .primitive .void, name := "greet"
    body := some ["return;"] }

/-- An interface `com.acme.Greeter` with a type parameter, another interface and a method; what has been
    tried in vain is to give it a superclass. -/
def greeter : ClassDecl :=
  (fresh ⟨"com.acme"⟩ "Greeter" .interface).run
    [.addTypeParameter { name := "T", bound := some (.ofClass (.ofPackage ⟨"java.util"⟩ "Date")) },
     .addInterface (.ofClass { package := some ⟨"java.lang"⟩, name := "Runnable", kind := .interface }),
     .setParent (.ofClass (.ofPackage ⟨"java.util"⟩ "Date")),
     .addMember (.method greet)]

theorem greeter_writes_signatures :
    greeter.isInterface = true ∧ greeter.WellFormed
    ∧ Emitter.emit {} greeter =
      Line.printAll "    " (Emitter.linesAbove {} greeter [] ++
        .code 1 "public void greet();" :: Emitter.linesBelow {} greeter [])
    ∧ Emitter.emit {} (greeter.run [.addMember (.method { greet with name := "leave" })]) =
      Emitter.emit {} (greeter.run [.addMember (.method { greet with name := "leave", body := none })]) := by
  have hreach : greeter.Reachable := Reachable.run (.fresh _ _ _) _
  have hint : greeter.isInterface = true := by decide
  have hmembers : greeter.members = [] ++ [greeter.adopted (.method greet)] := by decide
  obtain ⟨hwell, hsignatures⟩ := hreach.wellFormed_and_writes_signatures
  obtain ⟨hwritten, hruns⟩ := hsignatures hint
  refine ⟨hint, hwell, ?_, hruns {} _ _ (by decide)⟩
  have htext := hwritten {} [] [] _ hmembers
  have hline : Emitter.methodSignature (greeter.renderer true) .interface greet ++ ";" =
      "public void greet();" := by decide
  rw [← hline]
  exact htext

end ClassDecl
end JavaSource
