import JavaSource.JavaType.References

/-!
# `Proofs.JavaType.Normal` — types whose packages are in normal form

A class reference is *normal* if its package, as far as it has one, is in normal form. A type is normal if
every class reference in it is (`JavaType.IsNormal`); the `_iff` lemmas pass this on to the parts of a type.
-/

namespace JavaSource

/-- The package of a class reference, if there is one, is in normal form. -/
def ClassRef.IsNormal (c : ClassRef) : Prop := ∀ p ∈ c.package, p.IsNormal

instance (c : ClassRef) : Decidable c.IsNormal :=
  match h : c.package with
  | none => isTrue (by intro p hp; rw [h] at hp; cases hp)
  | some p => decidable_of_iff p.IsNormal
      ⟨fun hp q hq => by rw [h] at hq; cases hq; exact hp, fun hc => hc p h⟩

namespace JavaType

/-- **Every package in a type is in normal form.** -/
def IsNormal (t : JavaType) : Prop := ∀ c ∈ t.references, c.IsNormal

instance (t : JavaType) : Decidable t.IsNormal :=
  inferInstanceAs (Decidable (∀ c ∈ t.references, c.IsNormal))

variable {t : JavaType} {p : Primitive} {c : ClassRef} {name : String} {bound : Option JavaType}
  {ts : List JavaType} {upper lower : Option (List JavaType)}

theorem isNormal_primitive : (primitive p).IsNormal := fun _ hc => absurd hc List.not_mem_nil

theorem isNormal_variableRef : (variableRef name).IsNormal := fun _ hc => absurd hc List.not_mem_nil

theorem isNormal_ofClass_iff : (ofClass c).IsNormal ↔ c.IsNormal := by
  unfold IsNormal
  rw [references_ofClass, List.forall_mem_singleton]

theorem isNormal_array_iff : (array t).IsNormal ↔ t.IsNormal := Iff.rfl

theorem isNormal_variableDecl_iff :
    (variableDecl name bound ts).IsNormal ↔ (∀ t ∈ bound, t.IsNormal) ∧ ∀ t ∈ ts, t.IsNormal := by
  unfold IsNormal
  rw [references_variableDecl, List.forall_mem_flatMap, List.forall_mem_append]
  simp only [Option.mem_toList, Option.mem_def]

theorem isNormal_wildcard_iff :
    (wildcard upper lower).IsNormal ↔
      (∀ ts ∈ upper, ∀ t ∈ ts, t.IsNormal) ∧ ∀ ts ∈ lower, ∀ t ∈ ts, t.IsNormal := by
  rw [← forall_mem_getD_iff, ← forall_mem_getD_iff, and_comm]
  unfold IsNormal
  rw [references_wildcard, List.forall_mem_append, List.forall_mem_flatMap, List.forall_mem_flatMap]

theorem isNormal_parameterized_iff :
    (parameterized c ts).IsNormal ↔ c.IsNormal ∧ ∀ t ∈ ts, t.IsNormal := by
  unfold IsNormal
  rw [references_parameterized, List.forall_mem_cons, List.forall_mem_flatMap]

end JavaType
end JavaSource
