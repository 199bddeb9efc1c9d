/-!
# `Fields` — reading the fields of a record of named values

The fields of a record are a list of named values; what counts for a name is its first value. Each reader
looks up one name and reads the value there, and the readers differ in what a missing value means. They take
values of any type, so they work on records of any format, and on values that have been read in part.

A record is given with a name for each value, or as the list of its values in the order of its names
(`Record`); `Record.fields?` names the values in both cases. A list is read item by item, with `List.mapM`.
-/

namespace JavaSource
namespace Fields

variable {α β : Type}

/-- A field that has to be there. -/
def required (fields : List (String × β)) (name : String) (read : β → Option α) : Option α :=
  match fields.lookup name with
  | some v => read v
  | none => none

/-- A field that may be missing or null, where `isNull` tells null. -/
def nullableBy (isNull : β → Bool) (fields : List (String × β)) (name : String)
    (read : β → Option α) : Option (Option α) :=
  match fields.lookup name with
  | some v => if isNull v then some none else (read v).map some
  | none => some none

/-- A field that may be missing and then has a default value. -/
def defaulted (fields : List (String × β)) (name : String) (default : α) (read : β → Option α) :
    Option α :=
  match fields.lookup name with
  | some v => read v
  | none => some default

/-! ## Records -/

/-- The names of the fields of a record in their order: those that are needed, and behind them those that a
    list of values may leave out. -/
structure Names where
  needed : List String := []
  more : List String := []

namespace Names

/-- The names in their order. -/
def order (names : Names) : List String := names.needed ++ names.more

/-- None of the names is there twice. -/
def Unrepeated (names : Names) (fields : List (String × β)) : Prop :=
  ∀ name ∈ names.order, (fields.map Prod.fst).count name ≤ 1

/-- There is a value for each name that is needed, and none beyond the last name. -/
def Fits (names : Names) (values : List β) : Prop :=
  names.needed.length ≤ values.length ∧ values.length ≤ names.order.length

instance (names : Names) (fields : List (String × β)) : Decidable (names.Unrepeated fields) :=
  inferInstanceAs (Decidable (∀ name ∈ names.order, (fields.map Prod.fst).count name ≤ 1))

instance (names : Names) (values : List β) : Decidable (names.Fits values) :=
  inferInstanceAs (Decidable (_ ∧ _))

end Names

/-- A record as it is given: with a name for each value, or as a list of values alone. -/
inductive Record (β : Type) where
  | named (fields : List (String × β))
  | listed (values : List β)

namespace Record

variable {γ : Type}

/-- The named values of a record, if it is given properly. -/
def fields? (names : Names) : Record β → Option (List (String × β))
  | .named fields => if names.Unrepeated fields then some fields else none
  | .listed values => if names.Fits values then some (names.order.zip values) else none

/-- The value for the name that comes first in the order. -/
def first? (name : String) : Record β → Option β
  | .named fields => fields.lookup name
  | .listed values => values.head?

/-- The values of a record. -/
def values : Record β → List β
  | .named fields => fields.map Prod.snd
  | .listed values => values

/-- A record with each value replaced. -/
def map (f : β → γ) : Record β → Record γ
  | .named fields => .named (fields.map fun field => (field.1, f field.2))
  | .listed values => .listed (values.map f)

theorem values_map (f : β → γ) (r : Record β) : (r.map f).values = r.values.map f := by
  cases r with
  | named fields => simp [map, values]
  | listed values => rfl

variable {names : Names} {r : Record β} {fields : List (String × β)} {field : String × β}

/-- All names with a value for each, in order, are a record. -/
theorem fields?_named (hnodup : names.order.Nodup) (h : fields.map Prod.fst = names.order) :
    (named fields).fields? names = some fields := by
  refine if_pos fun name _ => ?_
  rw [h]
  exact List.nodup_iff_count.mp hnodup name

/-- What has a name in a record is one of its values. -/
theorem mem_values_of_fields? (h : r.fields? names = some fields) (hfield : field ∈ fields) :
    field.2 ∈ r.values := by
  cases r with
  | named given =>
    obtain ⟨-, hgiven⟩ := Option.ite_none_right_eq_some.mp h
    cases hgiven
    exact List.mem_map_of_mem hfield
  | listed values =>
    obtain ⟨-, hvalues⟩ := Option.ite_none_right_eq_some.mp h
    cases hvalues
    exact (List.of_mem_zip hfield).2

end Record

/-! ## Fields that are there -/

variable {fields : List (String × β)} {name : String} {read : β → Option α} {isNull : β → Bool}
  {default a : α} {o : Option α} {v : β}

theorem required_of_lookup (h : fields.lookup name = some v) : required fields name read = read v := by
  unfold required
  rw [h]

theorem defaulted_of_lookup (h : fields.lookup name = some v) :
    defaulted fields name default read = read v := by
  unfold defaulted
  rw [h]

/-- A value stands for an optional item: it is null for none, and reads as the item otherwise. -/
def StandsFor (isNull : β → Bool) (read : β → Option α) (v : β) : Option α → Prop
  | none => isNull v = true
  | some a => isNull v = false ∧ read v = some a

theorem nullableBy_of_lookup (h : fields.lookup name = some v) (hv : StandsFor isNull read v o) :
    nullableBy isNull fields name read = some o := by
  unfold nullableBy
  rw [h]
  cases o with
  | none => exact if_pos hv
  | some a =>
    obtain ⟨hnull, hread⟩ := hv
    simp only [hnull, hread, Bool.false_eq_true, if_false, Option.map_some]

/-! ## What has been read -/

theorem mem_of_lookup (h : fields.lookup name = some v) : (name, v) ∈ fields := by
  induction fields with
  | nil => cases h
  | cons field rest ih =>
    obtain ⟨other, w⟩ := field
    rw [List.lookup_cons] at h
    by_cases hname : name = other
    · subst hname
      rw [BEq.rfl] at h
      cases h
      exact List.mem_cons_self
    · rw [beq_false_of_ne hname] at h
      exact List.mem_cons_of_mem _ (ih h)

/-- What a required field reads as stands in the record. -/
theorem exists_of_required (h : required fields name read = some a) :
    ∃ v, (name, v) ∈ fields ∧ read v = some a := by
  unfold required at h
  split at h
  · next v hv => exact ⟨v, mem_of_lookup hv, h⟩
  · cases h

/-- What an optional field reads as, if anything, stands in the record. -/
theorem exists_of_nullableBy (h : nullableBy isNull fields name read = some o) (ha : a ∈ o) :
    ∃ v, (name, v) ∈ fields ∧ read v = some a := by
  unfold nullableBy at h
  split at h
  · next v hv =>
    split at h
    · cases h
      cases ha
    · obtain ⟨b, hb, rfl⟩ := Option.map_eq_some_iff.mp h
      cases ha
      exact ⟨v, mem_of_lookup hv, hb⟩
  · cases h
    cases ha

/-- What a field with a default reads as is the default, or stands in the record. -/
theorem exists_of_defaulted (h : defaulted fields name default read = some a) :
    a = default ∨ ∃ v, (name, v) ∈ fields ∧ read v = some a := by
  unfold defaulted at h
  split at h
  · next v hv => exact Or.inr ⟨v, mem_of_lookup hv, h⟩
  · cases h
    exact Or.inl rfl

/-! ## Lists -/

section lists

variable {write : α → β} {read : β → Option α} {xs : List α} {ys : List β} {x : α}

/-- A list reads back if its items do. -/
theorem mapM_map_eq_some (h : ∀ x ∈ xs, read (write x) = some x) :
    (xs.map write).mapM read = some xs := by
  induction xs with
  | nil => rfl
  | cons x xs ih =>
    rw [List.forall_mem_cons] at h
    rw [List.map_cons, List.mapM_cons, h.1, ih h.2]
    rfl

/-- Each item of a list that has been read has been read from an item. -/
theorem exists_of_mapM_eq_some (h : ys.mapM read = some xs) (hx : x ∈ xs) :
    ∃ y ∈ ys, read y = some x := by
  induction ys generalizing xs with
  | nil =>
    cases h
    cases hx
  | cons y ys ih =>
    rw [List.mapM_cons] at h
    obtain ⟨first, hfirst, hrest⟩ := Option.bind_eq_some_iff.mp h
    obtain ⟨rest, hys, hxs⟩ := Option.bind_eq_some_iff.mp hrest
    cases hxs
    rcases List.mem_cons.mp hx with rfl | hx
    · exact ⟨y, List.mem_cons_self, hfirst⟩
    · obtain ⟨z, hz, hread⟩ := ih hys hx
      exact ⟨z, List.mem_cons_of_mem _ hz, hread⟩

end lists

end Fields
end JavaSource
