import JavaSource.JavaType.Basic

/-!
# `Proofs.JavaType.Declarations` — type variables declared inside types

`JavaType.Declares` says that a type variable is declared somewhere in a type, however deep in arrays, bounds
of wildcards and type arguments. `firstDeclaration?` finds a declaration exactly then
(`firstDeclaration?_eq_none_iff`).
-/

namespace JavaSource
namespace JavaType

variable {t : JavaType} {p : Primitive} {c : ClassRef} {name : String} {ts : List JavaType}
  {upper lower : Option (List JavaType)}

/-- **A type variable is declared in a type**: the type is a declaration, or has one in a part. -/
inductive Declares : JavaType → Prop where
  | here {name : String} {bound : Option JavaType} {more : List JavaType} :
      Declares (.variableDecl name bound more)
  | element {t : JavaType} (h : Declares t) : Declares (.array t)
  | upperBound {ts : List JavaType} {t : JavaType} {lower : Option (List JavaType)} (ht : t ∈ ts)
      (h : Declares t) : Declares (.wildcard (some ts) lower)
  | lowerBound {ts : List JavaType} {t : JavaType} {upper : Option (List JavaType)} (ht : t ∈ ts)
      (h : Declares t) : Declares (.wildcard upper (some ts))
  | argument {c : ClassRef} {ts : List JavaType} {t : JavaType} (ht : t ∈ ts) (h : Declares t) :
      Declares (.parameterized c ts)

theorem not_declares_primitive : ¬ (primitive p).Declares := by
  intro h
  cases h

theorem not_declares_ofClass : ¬ (ofClass c).Declares := by
  intro h
  cases h

theorem not_declares_variableRef : ¬ (variableRef name).Declares := by
  intro h
  cases h

theorem declares_array_iff : (array t).Declares ↔ t.Declares := by
  constructor
  · intro h
    cases h with
    | element h => exact h
  · exact .element

theorem declares_wildcard_iff :
    (wildcard upper lower).Declares ↔
      (∃ ts ∈ lower, ∃ t ∈ ts, t.Declares) ∨ ∃ ts ∈ upper, ∃ t ∈ ts, t.Declares := by
  constructor
  · intro h
    cases h with
    | upperBound ht h => exact Or.inr ⟨_, rfl, _, ht, h⟩
    | lowerBound ht h => exact Or.inl ⟨_, rfl, _, ht, h⟩
  · rintro (⟨ts, hts, t, ht, h⟩ | ⟨ts, hts, t, ht, h⟩)
    · cases hts
      exact .lowerBound ht h
    · cases hts
      exact .upperBound ht h

theorem declares_parameterized_iff : (parameterized c ts).Declares ↔ ∃ t ∈ ts, t.Declares := by
  constructor
  · intro h
    cases h with
    | argument ht h => exact ⟨_, ht, h⟩
  · rintro ⟨t, ht, h⟩
    exact .argument ht h

theorem not_declares_wildcard_iff :
    ¬ (wildcard upper lower).Declares ↔
      (∀ ts ∈ upper, ∀ t ∈ ts, ¬ t.Declares) ∧ ∀ ts ∈ lower, ∀ t ∈ ts, ¬ t.Declares := by
  rw [declares_wildcard_iff, not_or, and_comm]
  simp only [not_exists, not_and]

theorem not_declares_parameterized_iff : ¬ (parameterized c ts).Declares ↔ ∀ t ∈ ts, ¬ t.Declares := by
  rw [declares_parameterized_iff]
  simp only [not_exists, not_and]

/-- A search through lists of bounds fails exactly if no bound declares anything. -/
theorem findSome?_bounds_eq_none_iff {bounds : Option (List JavaType)}
    (ih : ∀ ts ∈ bounds, ∀ t ∈ ts, t.firstDeclaration? = none ↔ ¬ t.Declares) :
    (bounds.getD []).findSome? firstDeclaration? = none ↔ ¬ ∃ ts ∈ bounds, ∃ t ∈ ts, t.Declares := by
  cases bounds with
  | none => simp
  | some ts =>
    rw [Option.getD_some, List.findSome?_eq_none_iff]
    constructor
    · rintro hnone ⟨us, hus, t, ht, h⟩
      cases hus
      exact (ih _ rfl t ht).mp (hnone t ht) h
    · intro hno t ht
      exact (ih ts rfl t ht).mpr fun h => hno ⟨ts, rfl, t, ht, h⟩

/-- **A declaration is found exactly if there is one.** -/
theorem firstDeclaration?_eq_none_iff : t.firstDeclaration? = none ↔ ¬ t.Declares := by
  induction t using induct with
  | primitive p => simp [not_declares_primitive]
  | ofClass c => simp [not_declares_ofClass]
  | array element ih => rw [firstDeclaration?_array, declares_array_iff, ih]
  | variableDecl name bound more _ _ => simp [Declares.here]
  | variableRef name => simp [not_declares_variableRef]
  | wildcard upper lower ihu ihl =>
    rw [firstDeclaration?_wildcard, declares_wildcard_iff, Option.or_eq_none_iff,
      findSome?_bounds_eq_none_iff ihl, findSome?_bounds_eq_none_iff ihu, not_or]
  | parameterized base arguments ih =>
    rw [firstDeclaration?_parameterized, declares_parameterized_iff, List.findSome?_eq_none_iff]
    constructor
    · rintro hnone ⟨t, ht, h⟩
      exact (ih t ht).mp (hnone t ht) h
    · intro hno t ht
      exact (ih t ht).mpr fun h => hno ⟨t, ht, h⟩

instance : Decidable t.Declares :=
  decidable_of_iff (¬ t.firstDeclaration? = none) (by rw [firstDeclaration?_eq_none_iff, Classical.not_not])

end JavaType
end JavaSource
