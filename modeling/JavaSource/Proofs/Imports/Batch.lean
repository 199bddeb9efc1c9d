import JavaSource.Proofs.Imports.Offer
import Mathlib.Data.List.Basic
import Mathlib.Data.List.Induction

/-!
# `Proofs.Imports.Batch` — a merge as one batch

An import list takes its candidates one by one, and what becomes of each depends on the list so far. Here
the result is said of all candidates at once: `ImportList.batch` keeps the foreign candidates, imports the
first of each simple name, and records every other class against the first of its name.

* `firsts` — the first element for each value of a key. Imports go by simple name, conflicts by the class.
* `batch_concat` — one more candidate is one more offer.
* `merge_eq_batch` — so a merge into the empty list is the batch of its candidates.
-/

namespace JavaSource

/-! ## First elements -/

section firsts

variable {α β : Type} [BEq β] {key : α → β} {k : β}

/-- The elements that are the first with their value of a key, in order. -/
def firsts (key : α → β) (xs : List α) : List α := xs.eraseDupsBy fun a b => key a == key b

theorem firsts_cons (a : α) (as : List α) :
    firsts key (a :: as) = a :: firsts key (as.filter fun b => !(key b == key a)) := by
  unfold firsts
  rw [List.eraseDupsBy_cons]
  simp only [Bool.decide_eq_false]

variable [LawfulBEq β]

/-- **One more element** is a first one unless its key is there. -/
theorem firsts_concat (x : α) : ∀ xs : List α,
    firsts key (xs ++ [x]) = firsts key xs ++ if xs.any fun a => key a == key x then [] else [x]
  | [] => rfl
  | a :: as => by
    have ih := firsts_concat x (as.filter fun b => !(key b == key a))
    rw [List.cons_append, firsts_cons, firsts_cons, List.filter_append, List.any_cons]
    cases hax : key a == key x with
    | true =>
      -- the key of `x` goes out with that of `a`
      simp [eq_of_beq hax]
    | false =>
      have hrest : ((as.filter fun b => !(key b == key a)).any fun b => key b == key x) =
          as.any fun b => key b == key x := by
        rw [List.any_filter]
        congr 1
        funext b
        cases hbx : key b == key x with
        | true => rw [eq_of_beq hbx, Bool.beq_comm, hax]; rfl
        | false => exact Bool.and_false _
      have hxa : (key x == key a) = false := by rw [Bool.beq_comm, hax]
      rw [hrest] at ih
      rw [List.filter_cons, hxa]
      simp only [Bool.not_false, if_true, List.filter_nil, Bool.false_or]
      rw [ih, List.cons_append]
termination_by xs => xs.length
decreasing_by exact Nat.lt_succ_of_le (List.length_filter_le _ _)

/-- The first element with a key is a first element. -/
theorem find?_firsts (xs : List α) :
    ((firsts key xs).find? fun a => key a == k) = xs.find? fun a => key a == k := by
  induction xs using List.reverseRecOn with
  | nil => rfl
  | append_singleton xs x ih =>
    rw [firsts_concat, List.find?_append, List.find?_append, ih]
    cases hany : xs.any fun a => key a == key x with
    | false => rfl
    | true =>
      cases hfind : xs.find? fun a => key a == k with
      | some a => rfl
      | none =>
        -- `x` has a key of the list, in which `k` does not occur
        obtain ⟨a, ha, hax⟩ := List.any_eq_true.mp hany
        have hxk : ¬ (key x == k) = true := by
          rw [← eq_of_beq hax]
          exact List.find?_eq_none.mp hfind a ha
        simp [hxk]

/-- A key occurs among the first elements exactly if it occurs. -/
theorem any_firsts (xs : List α) :
    ((firsts key xs).any fun a => key a == k) = xs.any fun a => key a == k := by
  rw [← List.isSome_find?, ← List.isSome_find?, find?_firsts]

/-- A first element is an element. -/
theorem mem_of_mem_firsts {x : α} {xs : List α} (h : x ∈ firsts key xs) : x ∈ xs := by
  induction xs using List.reverseRecOn with
  | nil => exact h
  | append_singleton xs y ih =>
    rw [firsts_concat] at h
    rcases List.mem_append.mp h with h | h
    · exact List.mem_append_left _ (ih h)
    · split at h
      · exact absurd h List.not_mem_nil
      · exact List.mem_append_right _ h

end firsts

/-! ## The batch -/

instance ClassRef.decidableForeignTo (c : ClassRef) (home : Package) : Decidable (c.ForeignTo home) :=
  decidable_of_iff _ ClassRef.foreignTo_iff.symm

namespace ImportList

variable {owner : Option Package} {c : ClassRef} {cs es : List ClassRef} {l m : ImportList}
  {dec : Decision} {ev : Option ImportEvent}

/-- The candidates that an import line could be for. -/
def foreign (home : Package) (cs : List ClassRef) : List ClassRef :=
  cs.filter fun c => decide (c.ForeignTo home)

/-- The first of some classes that has the simple name of `c`. -/
def firstNamed? (es : List ClassRef) (c : ClassRef) : Option ClassRef := es.find? fun e => e.name == c.name

/-- The conflict of a class with the first of its name, if that is another class. -/
def clash? (es : List ClassRef) (c : ClassRef) : Option Conflict :=
  match firstNamed? es c with
  | some first => if first.Same c then none else some ⟨first, c⟩
  | none => none

/-- **The imports that candidates call for**, all at once: the first foreign class of each simple name; and
    a conflict for each class that differs from the first of its name, where it appears first. -/
def batch (home : Package) (cs : List ClassRef) : ImportList where
  classes := firsts ClassRef.name (foreign home cs)
  conflicts := firsts (fun k => k.shadowed.bare) ((foreign home cs).filterMap (clash? (foreign home cs)))

/-! ## One more candidate -/

theorem foreign_concat_of_foreign {home : Package} (h : c.ForeignTo home) :
    foreign home (cs ++ [c]) = foreign home cs ++ [c] := by
  simp only [foreign, List.filter_append, List.filter_cons, List.filter_nil, h, decide_true, if_true]

theorem foreign_concat_of_not_foreign {home : Package} (h : ¬ c.ForeignTo home) :
    foreign home (cs ++ [c]) = foreign home cs := by
  simp [foreign, h]

/-- Imports of a batch are looked up among its foreign candidates. -/
theorem bySimpleName?_batch (home : Package) (cs : List ClassRef) (c : ClassRef) :
    (batch home cs).bySimpleName? c.name = firstNamed? (foreign home cs) c := find?_firsts _

/-- Recorded conflicts of a batch are looked up among all its conflicts. -/
theorem isShadowed_batch (home : Package) (cs : List ClassRef) (c : ClassRef) :
    (batch home cs).isShadowed c =
      ((foreign home cs).filterMap (clash? (foreign home cs))).any fun k => k.shadowed.bare == c.bare := by
  unfold isShadowed
  simp only [ClassRef.same_iff_bare_eq]
  exact any_firsts _

/-- The first of a name stays the first of it. -/
theorem firstNamed?_concat {e first : ClassRef} (h : firstNamed? es e = some first) :
    firstNamed? (es ++ [c]) e = some first := by
  unfold firstNamed? at h ⊢
  rw [List.find?_append, h]
  rfl

/-- Every one of some classes has a first of its name among them. -/
theorem exists_firstNamed? {e : ClassRef} (he : e ∈ es) : ∃ first, firstNamed? es e = some first := by
  rw [← Option.isSome_iff_exists]
  unfold firstNamed?
  rw [List.find?_isSome]
  exact ⟨e, he, beq_self_eq_true _⟩

/-- The conflicts of earlier classes do not depend on later ones. -/
theorem filterMap_clash?_concat (es : List ClassRef) (c : ClassRef) :
    (es ++ [c]).filterMap (clash? (es ++ [c])) =
      es.filterMap (clash? es) ++ (clash? (es ++ [c]) c).toList := by
  have hold : es.filterMap (clash? (es ++ [c])) = es.filterMap (clash? es) := by
    refine List.filterMap_congr fun e he => ?_
    obtain ⟨first, hfirst⟩ := exists_firstNamed? he
    unfold clash?
    rw [hfirst, firstNamed?_concat hfirst]
  rw [List.filterMap_append, hold]
  cases hc : clash? (es ++ [c]) c with
  | none => simp [hc]
  | some k => simp [hc]

/-- A class whose name is new clashes with none. -/
theorem clash?_concat_of_none (h : firstNamed? es c = none) : clash? (es ++ [c]) c = none := by
  have hself : firstNamed? (es ++ [c]) c = some c := by
    unfold firstNamed? at h ⊢
    rw [List.find?_append, h]
    simp
  unfold clash?
  rw [hself]
  exact if_pos (.refl c)

/-- A class whose name is held clashes with the holder, unless it is the holder. -/
theorem clash?_concat_of_some {first : ClassRef} (h : firstNamed? es c = some first) :
    clash? (es ++ [c]) c = if first.Same c then none else some ⟨first, c⟩ := by
  unfold clash?
  rw [firstNamed?_concat h]

/-- A class whose name is held adds nothing to the imports. -/
theorem firsts_name_concat_of_some {first : ClassRef} (h : firstNamed? es c = some first) :
    firsts ClassRef.name (es ++ [c]) = firsts ClassRef.name es := by
  have hany : (es.any fun e => e.name == c.name) = true := by
    rw [← List.isSome_find?]
    unfold firstNamed? at h
    rw [h]
    rfl
  rw [firsts_concat, hany]
  exact List.append_nil _

/-- A class whose name is new is imported. -/
theorem firsts_name_concat_of_none (h : firstNamed? es c = none) :
    firsts ClassRef.name (es ++ [c]) = firsts ClassRef.name es ++ [c] := by
  have hany : (es.any fun e => e.name == c.name) = false := by
    rw [← List.isSome_find?]
    unfold firstNamed? at h
    rw [h]
    rfl
  rw [firsts_concat, hany]
  rfl

/-- What an offer to a batch leads to is the batch with the candidate. -/
theorem Offered.eq_batch (h : Offered (batch (owner.getD .unnamed) cs) owner c dec ev m) :
    m = batch (owner.getD .unnamed) (cs ++ [c]) := by
  unfold batch
  cases h with
  | noPackage hp =>
    rw [foreign_concat_of_not_foreign (ClassRef.not_foreignTo_iff.mpr (Or.inl hp))]
    rfl
  | samePackage hp =>
    rw [foreign_concat_of_not_foreign (ClassRef.not_foreignTo_iff.mpr (Or.inr hp))]
    rfl
  | added hf hfree =>
    rw [bySimpleName?_batch] at hfree
    rw [foreign_concat_of_foreign hf, firsts_name_concat_of_none hfree, filterMap_clash?_concat,
      clash?_concat_of_none hfree, Option.toList_none, List.append_nil]
    rfl
  | alreadyImported hf hheld hs =>
    rw [bySimpleName?_batch] at hheld
    rw [foreign_concat_of_foreign hf, firsts_name_concat_of_some hheld, filterMap_clash?_concat,
      clash?_concat_of_some hheld, if_pos hs, Option.toList_none, List.append_nil]
    rfl
  | knownConflict hf hheld hs hknown =>
    rw [bySimpleName?_batch] at hheld
    rw [isShadowed_batch] at hknown
    rw [foreign_concat_of_foreign hf, firsts_name_concat_of_some hheld, filterMap_clash?_concat,
      clash?_concat_of_some hheld, if_neg hs, Option.toList_some, firsts_concat, hknown, if_pos rfl,
      List.append_nil]
    rfl
  | newConflict hf hheld hs hnew =>
    rw [isShadowed_batch] at hnew
    rw [bySimpleName?_batch] at hheld
    rw [foreign_concat_of_foreign hf, firsts_name_concat_of_some hheld, filterMap_clash?_concat,
      clash?_concat_of_some hheld, if_neg hs, Option.toList_some, firsts_concat, hnew]
    rfl

/-- **One more candidate is one more offer.** -/
theorem batch_concat (owner : Option Package) (cs : List ClassRef) (c : ClassRef) :
    batch (owner.getD .unnamed) (cs ++ [c]) = (batch (owner.getD .unnamed) cs).offer owner c :=
  (offered _ owner c).eq_batch.symm

/-- **A merge into the empty list is the batch of its candidates.** -/
theorem merge_eq_batch (owner : Option Package) (cs : List ClassRef) :
    ({} : ImportList).merge owner cs = batch (owner.getD .unnamed) cs := by
  induction cs using List.reverseRecOn with
  | nil => rfl
  | append_singleton cs c ih =>
    rw [merge_append, ih, batch_concat]
    rfl

/-- Of three classes `Date` the first foreign one is imported, and the other is recorded once. -/
example :
    let date (package : String) : ClassRef := .ofPackage ⟨package⟩ "Date"
    batch ⟨"com.acme"⟩ [date "com.acme", date "java.util", date "java.sql", date "java.sql"] =
      { classes := [date "java.util"], conflicts := [⟨date "java.util", date "java.sql"⟩] } := by
  decide

/-! ## Counting -/

/-- An offer adds a class exactly if it says so. -/
theorem Offered.length_classes (h : Offered l owner c dec ev m) :
    m.classes.length = l.classes.length + [dec].count .added := by
  cases h with
  | noPackage _ => rfl
  | samePackage _ => rfl
  | added _ _ => exact List.length_append
  | alreadyImported _ _ _ => rfl
  | knownConflict _ _ _ _ => rfl
  | newConflict _ _ _ _ => rfl

/-- **A merge counts the classes it adds.** -/
theorem length_classes_merge (l : ImportList) (owner : Option Package) (cs : List ClassRef) :
    (l.merge owner cs).classes.length = l.classes.length + l.addedCount owner cs := by
  induction cs generalizing l with
  | nil => rfl
  | cons c cs ih =>
    have hcount : l.addedCount owner (c :: cs) =
        [l.decision owner c].count .added + (l.offer owner c).addedCount owner cs := by
      unfold addedCount
      rw [decisions, ← List.singleton_append, List.count_append]
    rw [merge, ih, (l.offered owner c).length_classes, hcount, Nat.add_assoc]

end ImportList
end JavaSource
