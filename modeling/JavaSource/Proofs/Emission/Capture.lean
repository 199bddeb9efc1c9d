import JavaSource.Proofs.Emission.Scope

/-!
# `Proofs.Emission.Capture` — bare names and type variables

In the scope of a type variable its name means the variable. A class mentioned there and written by the same
bare name is *captured*: a reader of the source takes the class for the variable. A renderer compares a
class with the declared class and with the imported ones, and type variables play no part in that. So the
classes that are captured are those with the name of a variable that no other class hides
(`Reachable.capturedBy_iff`).
-/

namespace JavaSource

/-- A member mentions a class, and a type variable that the member declares is in scope there. -/
def Member.MentionsUnder (m : Member) (v : TypeVariable) (c : ClassRef) : Prop :=
  v ∈ m.typeParameters ∧ c ∈ m.references

instance (m : Member) (v : TypeVariable) (c : ClassRef) : Decidable (m.MentionsUnder v c) :=
  inferInstanceAs (Decidable (_ ∧ _))

namespace ClassDecl

variable {d : ClassDecl} {v : TypeVariable} {c : ClassRef} {q : Bool}

/-! ## Scopes -/

/-- The classes mentioned where the type variables of the declaration are in scope: everywhere but in its
    annotations. -/
def scopeReferences (d : ClassDecl) : List ClassRef :=
  d.typeParameters.flatMap TypeVariable.references ++ d.parent.toList.flatMap JavaType.references
    ++ d.interfaces.flatMap JavaType.references ++ d.members.flatMap Member.references

/-- A class is mentioned in the scope of a type variable, of the declaration or of one of its members. -/
def MentionsUnder (d : ClassDecl) (v : TypeVariable) (c : ClassRef) : Prop :=
  (v ∈ d.typeParameters ∧ c ∈ d.scopeReferences) ∨ ∃ m ∈ d.members, m.MentionsUnder v c

instance (d : ClassDecl) (v : TypeVariable) (c : ClassRef) : Decidable (d.MentionsUnder v c) :=
  inferInstanceAs (Decidable (_ ∨ _))

theorem references_eq_append_scopeReferences (d : ClassDecl) :
    d.references = d.annotations.flatMap Annotation.references ++ d.scopeReferences := by
  unfold references scopeReferences
  simp only [List.append_assoc]

/-- What is mentioned in a scope is mentioned in the declaration, so its imports account for it. -/
theorem MentionsUnder.mem_references (h : d.MentionsUnder v c) : c ∈ d.references := by
  rcases h with ⟨-, hc⟩ | ⟨m, hm, -, hc⟩
  · rw [references_eq_append_scopeReferences]
    exact List.mem_append_right _ hc
  · exact List.mem_append_right _ (List.mem_flatMap.mpr ⟨m, hm, hc⟩)

/-! ## Captured classes -/

/-- A class is written by its simple name, which is the name of a type variable. -/
def CapturedBy (d : ClassDecl) (q : Bool) (c : ClassRef) (v : TypeVariable) : Prop :=
  (d.renderer q).className c = c.name ++ c.arraySuffix ∧ c.name = v.name

instance (d : ClassDecl) (q : Bool) (c : ClassRef) (v : TypeVariable) : Decidable (d.CapturedBy q c v) :=
  inferInstanceAs (Decidable (_ ∧ _))

/-- A captured class is written like a use of the variable. -/
theorem CapturedBy.render_eq (h : d.CapturedBy q c v) :
    (d.renderer q).render (.ofClass c) = (d.renderer q).render (.variableRef v.name) ++ c.arraySuffix := by
  rw [Renderer.render_ofClass, Renderer.render_variableRef, h.1, h.2]

/-- Only what a class is hidden by keeps it from being captured. -/
theorem capturedBy_iff_isHidden (hp : c.InNamedPackage) :
    d.CapturedBy true c v ↔ c.name = v.name ∧ (d.renderer true).isHidden c = false := by
  have hq : (d.renderer true).qualify = true := rfl
  unfold CapturedBy
  rw [Renderer.className_eq, String.append_left_inj, Renderer.spelling_eq_name_iff hq hp, and_comm]

/-- **Which classes type variables capture.** A class of a named package, mentioned in the scope of a type
    variable, is written by a bare name that is the name of the variable exactly if it has that name and
    holds it among the classes of the unit: it is the declared class, or imported, or a sibling whose name
    no imported class has. Otherwise a class with the name of the variable is written by its full name. -/
theorem Reachable.capturedBy_iff (h : d.Reachable) (hm : d.MentionsUnder v c) (hp : c.InNamedPackage) :
    (d.CapturedBy true c v ↔ c.name = v.name ∧ d.HoldsBareName c)
    ∧ (c.name = v.name → ¬ d.CapturedBy true c v →
      (d.renderer true).className c = c.fullName ++ c.arraySuffix) := by
  have hd : d.ImportsComplete := h.importsComplete
  rw [capturedBy_iff_isHidden hp, hd.isHidden_eq_false_iff hm.mem_references hp.package_ne_none]
  refine ⟨Iff.rfl, ?_⟩
  intro hn hnot
  -- a class that does not hold its name is hidden, and so it is qualified
  have hhidden : (d.renderer true).isHidden c = true := by
    rw [← Bool.not_eq_false, hd.isHidden_eq_false_iff hm.mem_references hp.package_ne_none]
    exact fun hholds => hnot ⟨hn, hholds⟩
  rw [Renderer.className_eq, Renderer.spelling_of_isHidden rfl hhidden]

/-- A type variable `T extends Number`. -/
def boxVariable : TypeVariable :=
  { name := "T", bound := some (.ofClass (.ofPackage ⟨"java.lang"⟩ "Number")) }

/-- A class `com.acme.Box` with this variable that mentions two classes named `T`. -/
def box : ClassDecl :=
  (fresh ⟨"com.acme"⟩ "Box" .ordinary).run
    [.addTypeParameter boxVariable,
     .addMember (.field { type := .ofClass (.ofPackage ⟨"org.lib"⟩ "T"), name := "content" }),
     .addMember (.field { type := .ofClass (.ofPackage ⟨"org.other"⟩ "T"), name := "label" })]

theorem box_reachable : box.Reachable := Reachable.run (.fresh _ _ _) _

/-- The class that was mentioned first is imported and captured, the other one is qualified. -/
theorem box_capturedBy :
    (box.renderer true).render (.ofClass (.ofPackage ⟨"org.lib"⟩ "T"))
        = (box.renderer true).render (.variableRef "T")
      ∧ (box.renderer true).className (.ofPackage ⟨"org.other"⟩ "T") = "org.other.T" := by
  have hlib : box.MentionsUnder boxVariable (.ofPackage ⟨"org.lib"⟩ "T") := by decide
  have hother : box.MentionsUnder boxVariable (.ofPackage ⟨"org.other"⟩ "T") := by decide
  have himported : .ofPackage ⟨"org.lib"⟩ "T" ∈ box.imports.classes := by decide
  constructor
  · obtain ⟨hiff, -⟩ := box_reachable.capturedBy_iff hlib (by decide)
    exact (hiff.mpr ⟨rfl, .imported (by decide) himported (.refl _)⟩).render_eq
  · obtain ⟨-, hqualified⟩ := box_reachable.capturedBy_iff hother (by decide)
    exact hqualified rfl (by decide)

/-- **Type variables capture classes**: it is not so that a class of a named package is never written by a
    bare name that means a type variable where it stands. -/
theorem not_never_capturedBy :
    ¬ ∀ (d : ClassDecl) (v : TypeVariable) (c : ClassRef), d.Reachable → d.MentionsUnder v c →
      c.InNamedPackage → ¬ d.CapturedBy true c v := by
  intro h
  have hnever := h box boxVariable (.ofPackage ⟨"org.lib"⟩ "T") box_reachable (by decide) (by decide)
  exact absurd (by decide) hnever

end ClassDecl
end JavaSource
