import JavaSource.Text.Blank
import JavaSource.Text.Pieces

/-!
# `Proofs.Text.Reading` — where a part of a text ends

When a text is put together from parts, a reader has to see where each part ends. This module has the three
ways in which a printer lets him see it.

* A word ends before the first character that cannot stand in it (`word_append_inj`).
* Pairs of square brackets end before anything but another one (`brackets_append_inj`).
* A joined list ends before anything but its separator (`joinWith_append_inj`), provided that its elements can
  be told from the text after them (`Tells`).
-/

namespace JavaSource
namespace Text

variable {rest rest' : List Char}

/-! ## Words -/

/-- A character that may stand in a name: it is not blank, and is none of those that types are written with. -/
def isWordChar (c : Char) : Bool := !isBlank c && !"<>[],&?".toList.contains c

/-- A text of such characters, at least one. -/
def IsWord (s : String) : Prop := s ≠ "" ∧ ∀ c ∈ s.toList, isWordChar c = true

instance (s : String) : Decidable (IsWord s) :=
  have : Decidable (∀ c ∈ s.toList, isWordChar c = true) := List.decidableBAll _ s.toList
  inferInstanceAs (Decidable (_ ∧ _))

/-- A text does not go on with a character that passes the test. -/
def Stops (p : Char → Bool) (rest : List Char) : Prop := ∀ c ∈ rest.head?, p c = false

theorem stops_nil (p : Char → Bool) : Stops p [] := fun _ hc => nomatch hc

theorem stops_cons_iff {p : Char → Bool} {c : Char} : Stops p (c :: rest) ↔ p c = false := by
  unfold Stops
  rw [List.head?_cons]
  constructor
  · intro h
    exact h c rfl
  · intro h d hd
    cases hd
    exact h

theorem Stops.mono {p q : Char → Bool} (h : Stops p rest) (hqp : ∀ c, q c = true → p c = true) :
    Stops q rest := by
  intro c hc
  rw [← Bool.not_eq_true]
  intro hq
  exact absurd (hqp c hq) (ne_true_of_eq_false (h c hc))

theorem takeWhile_append_of_stops {p : Char → Bool} {w : List Char} (hw : ∀ c ∈ w, p c = true)
    (hrest : Stops p rest) : (w ++ rest).takeWhile p = w := by
  have hnone : rest.takeWhile p = [] := by
    cases rest with
    | nil => rfl
    | cons c cs => exact List.takeWhile_cons_of_neg (ne_true_of_eq_false (stops_cons_iff.mp hrest))
  rw [List.takeWhile_append_of_pos hw, hnone, List.append_nil]

theorem dropWhile_append_of_stops {p : Char → Bool} {w : List Char} (hw : ∀ c ∈ w, p c = true)
    (hrest : Stops p rest) : (w ++ rest).dropWhile p = rest := by
  rw [List.dropWhile_append_of_pos hw]
  cases rest with
  | nil => rfl
  | cons c cs => exact List.dropWhile_cons_of_neg (ne_true_of_eq_false (stops_cons_iff.mp hrest))

/-- **A word ends where the text stops going on with its characters.** -/
theorem word_append_inj {p : Char → Bool} {w w' : List Char} (hw : ∀ c ∈ w, p c = true)
    (hw' : ∀ c ∈ w', p c = true) (hrest : Stops p rest) (hrest' : Stops p rest')
    (h : w ++ rest = w' ++ rest') : w = w' ∧ rest = rest' := by
  have hword : w = w' := by
    have htaken := congrArg (List.takeWhile p) h
    rwa [takeWhile_append_of_stops hw hrest, takeWhile_append_of_stops hw' hrest'] at htaken
  rw [hword] at h
  exact ⟨hword, List.append_cancel_left h⟩

/-! ## Pairs of brackets -/

/-- So many pairs of square brackets. -/
def brackets : Nat → List Char
  | 0 => []
  | n + 1 => '[' :: ']' :: brackets n

theorem brackets_append_pair (n : Nat) : brackets n ++ ['[', ']'] = brackets (n + 1) := by
  induction n with
  | zero => rfl
  | succ n ih =>
    show '[' :: ']' :: (brackets n ++ ['[', ']']) = '[' :: ']' :: brackets (n + 1)
    rw [ih]

/-- **Pairs of brackets end where no further one opens.** -/
theorem brackets_append_inj {m n : Nat} (hrest : Stops (· == '[') rest) (hrest' : Stops (· == '[') rest')
    (h : brackets m ++ rest = brackets n ++ rest') : m = n ∧ rest = rest' := by
  induction m generalizing n with
  | zero =>
    cases n with
    | zero => exact ⟨rfl, h⟩
    | succ n =>
      have hopens : rest = '[' :: ']' :: (brackets n ++ rest') := h
      rw [hopens, stops_cons_iff] at hrest
      exact absurd hrest (by decide)
  | succ m ih =>
    cases n with
    | zero =>
      have hopens : rest' = '[' :: ']' :: (brackets m ++ rest) := h.symm
      rw [hopens, stops_cons_iff] at hrest'
      exact absurd hrest' (by decide)
    | succ n =>
      obtain ⟨hmn, hrests⟩ := ih (List.cons.inj (List.cons.inj h).2).2
      exact ⟨congrArg (· + 1) hmn, hrests⟩

/-! ## Joined lists -/

section joined

variable {α β : Type} {f : α → String} {g : α → β} {ok : List Char → Prop} {sep : String} {as bs : List α}

/-- **The texts of two things tell them apart** in front of any texts that are `ok`: where the longer texts are
    equal, `g` does not distinguish the two, and both end at the same place. -/
def Tells (ok : List Char → Prop) (f : α → String) (g : α → β) (a b : α) : Prop :=
  ∀ ⦃rest rest' : List Char⦄, ok rest → ok rest' → (f a).toList ++ rest = (f b).toList ++ rest' →
    g a = g b ∧ rest = rest'

theorem Tells.symm {a b : α} (h : Tells ok f g a b) : Tells ok f g b a := by
  intro rest rest' hrest hrest' heq
  obtain ⟨hg, hrests⟩ := h hrest' hrest heq.symm
  exact ⟨hg.symm, hrests.symm⟩

theorem Tells.mono {ok' : List Char → Prop} {a b : α} (h : Tells ok f g a b)
    (hok : ∀ cs, ok' cs → ok cs) : Tells ok' f g a b :=
  fun _ _ hrest hrest' => h (hok _ hrest) (hok _ hrest')

/-- A joined list is its first element, and the others with the separator before each. -/
theorem toList_joinWith_cons (sep s : String) (parts : List String) :
    (joinWith sep (s :: parts)).toList =
      s.toList ++ parts.flatMap fun part => sep.toList ++ part.toList := by
  induction parts generalizing s with
  | nil => exact (List.append_nil _).symm
  | cons part parts ih =>
    show (s ++ sep ++ joinWith sep (part :: parts)).toList = _
    rw [String.toList_append, String.toList_append, ih, List.flatMap_cons, List.append_assoc, List.append_assoc]

/-- Elements with the separator before each end where no further separator comes. -/
theorem separated_append_inj (hsep : ∀ cs, ok (sep.toList ++ cs))
    (htells : ∀ a ∈ as, ∀ b ∈ bs, Tells ok f g a b) (hrest : ok rest) (hrest' : ok rest')
    (hend : ¬ sep.toList <+: rest) (hend' : ¬ sep.toList <+: rest')
    (h : (as.map f).flatMap (fun part => sep.toList ++ part.toList) ++ rest =
      (bs.map f).flatMap (fun part => sep.toList ++ part.toList) ++ rest') :
    as.map g = bs.map g ∧ rest = rest' := by
  -- what stands behind an element begins with a separator, or is the text behind the list
  have hok : ∀ (cs : List α) {tail : List Char}, ok tail →
      ok ((cs.map f).flatMap (fun part => sep.toList ++ part.toList) ++ tail) := by
    intro cs tail htail
    cases cs with
    | nil => exact htail
    | cons c cs =>
      rw [List.map_cons, List.flatMap_cons, List.append_assoc, List.append_assoc]
      exact hsep _
  induction as generalizing bs with
  | nil =>
    cases bs with
    | nil => exact ⟨rfl, h⟩
    | cons b bs =>
      rw [List.map_cons, List.flatMap_cons, List.append_assoc, List.append_assoc] at h
      exact absurd ⟨_, h.symm⟩ hend
  | cons a as ih =>
    cases bs with
    | nil =>
      rw [List.map_cons, List.flatMap_cons, List.append_assoc, List.append_assoc] at h
      exact absurd ⟨_, h⟩ hend'
    | cons b bs =>
      rw [List.map_cons, List.map_cons, List.flatMap_cons, List.flatMap_cons, List.append_assoc,
        List.append_assoc, List.append_assoc, List.append_assoc] at h
      obtain ⟨hab, hbehind⟩ := htells a List.mem_cons_self b List.mem_cons_self (hok as hrest)
        (hok bs hrest') (List.append_cancel_left h)
      obtain ⟨hothers, hrests⟩ :=
        ih (fun a ha b hb => htells a (List.mem_cons_of_mem _ ha) b (List.mem_cons_of_mem _ hb)) hbehind
      exact ⟨List.cons_eq_cons.mpr ⟨hab, hothers⟩, hrests⟩

/-- **A joined list ends where no further separator comes**, if it is not empty. -/
theorem joinWith_append_inj (hsep : ∀ cs, ok (sep.toList ++ cs)) {a b : α}
    (htells : ∀ x ∈ a :: as, ∀ y ∈ b :: bs, Tells ok f g x y) (hrest : ok rest) (hrest' : ok rest')
    (hend : ¬ sep.toList <+: rest) (hend' : ¬ sep.toList <+: rest')
    (h : (joinWith sep ((a :: as).map f)).toList ++ rest = (joinWith sep ((b :: bs).map f)).toList ++ rest') :
    (a :: as).map g = (b :: bs).map g ∧ rest = rest' := by
  -- with a separator in front of it the first element is like the others
  refine separated_append_inj hsep htells hrest hrest' hend hend' ?_
  simp only [List.map_cons, List.flatMap_cons, toList_joinWith_cons, List.append_assoc] at h ⊢
  rw [h]

end joined

end Text
end JavaSource
