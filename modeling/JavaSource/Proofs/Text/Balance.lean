import JavaSource.Text.Blank
import JavaSource.Text.Pieces

/-!
# `Proofs.Text.Balance` — balanced brackets

Four pairs of brackets are told apart: round, square, curly and angle ones. A text is *balanced* if they are
nested properly in it, all four pairs taken together (`Text.Balanced`). A reader who keeps a stack of the
brackets that are due decides it (`Text.settles`, `Text.balanced_iff`): no bracket is closed that was not the
last one opened, and none is left open.

* `Balanced.append`, `Balanced.wrap`, `balanced_flatMap` — how balanced texts are made of balanced parts.
* `balanced_congr` — only the brackets of a text count.
* `IsBalanced` — the same for strings, with the joins that printers use.
-/

namespace JavaSource
namespace Text

/-! ## Brackets -/

/-- The bracket that closes an opening one. -/
def closing? : Char → Option Char
  | '(' => some ')'
  | '[' => some ']'
  | '\x7b' => some '\x7d'
  | '<' => some '>'
  | _ => none

def isClosing : Char → Bool
  | ')' | ']' | '\x7d' | '>' => true
  | _ => false

/-- Is a character one of the eight brackets? -/
def isBracket (c : Char) : Bool := (closing? c).isSome || isClosing c

variable {c left right : Char} {cs ds inner rest : List Char}

theorem isBracket_eq_false_iff : isBracket c = false ↔ closing? c = none ∧ isClosing c = false := by
  unfold isBracket
  rw [Bool.or_eq_false_iff, Option.isSome_eq_false_iff, Option.isNone_iff_eq_none]

/-- What closes a bracket closes and does not open. -/
theorem isClosing_of_closing? (h : closing? left = some right) :
    closing? right = none ∧ isClosing right = true := by
  unfold closing? at h
  split at h
  all_goals first | cases h; decide | cases h

/-! ## Balanced texts -/

/-- **The brackets of a text are nested properly**: it is empty, begins with another character, or begins with
    a bracket that is closed behind a balanced text. -/
inductive Balanced : List Char → Prop where
  | nil : Balanced []
  | skip {c : Char} {cs : List Char} (hc : isBracket c = false) (h : Balanced cs) : Balanced (c :: cs)
  | nest {left right : Char} {inner rest : List Char} (hpair : closing? left = some right)
      (hinner : Balanced inner) (hrest : Balanced rest) : Balanced (left :: inner ++ right :: rest)

theorem Balanced.append (h : Balanced cs) (g : Balanced ds) : Balanced (cs ++ ds) := by
  induction h with
  | nil => exact g
  | skip hc _ ih => exact .skip hc ih
  | nest hpair hinner _ _ ih =>
    rw [List.append_assoc]
    exact .nest hpair hinner ih

theorem Balanced.wrap (hpair : closing? left = some right) (h : Balanced inner) :
    Balanced (left :: inner ++ [right]) := .nest hpair h .nil

/-- A text without brackets is balanced. -/
theorem balanced_of_no_bracket (h : ∀ c ∈ cs, isBracket c = false) : Balanced cs := by
  induction cs with
  | nil => exact .nil
  | cons c cs ih =>
    rw [List.forall_mem_cons] at h
    exact .skip h.1 (ih h.2)

theorem balanced_flatMap {α : Type} {f : α → List Char} {as : List α} (h : ∀ a ∈ as, Balanced (f a)) :
    Balanced (as.flatMap f) := by
  induction as with
  | nil => exact .nil
  | cons a as ih =>
    rw [List.forall_mem_cons] at h
    rw [List.flatMap_cons]
    exact h.1.append (ih h.2)

/-! ## Deciding balance -/

/-- Reads a text with a stack of the closing brackets that are due, the nearest one first. Are they closed in
    this order, and all that the text opens itself? -/
def settles : List Char → List Char → Bool
  | due, [] => due.isEmpty
  | due, c :: cs =>
    match closing? c with
    | some right => settles (right :: due) cs
    | none =>
      if isClosing c then due.head? == some c && settles due.tail cs
      else settles due cs

section settles

variable {due : List Char}

theorem settles_of_opening (h : closing? left = some right) (due cs : List Char) :
    settles due (left :: cs) = settles (right :: due) cs := by
  rw [settles, h]

theorem settles_of_closing (h : closing? left = some right) (due cs : List Char) :
    settles (right :: due) (right :: cs) = settles due cs := by
  obtain ⟨hnone, hclosing⟩ := isClosing_of_closing? h
  rw [settles, hnone]
  simp [hclosing]

theorem settles_of_not_bracket (h : isBracket c = false) (due cs : List Char) :
    settles due (c :: cs) = settles due cs := by
  obtain ⟨hnone, hclosing⟩ := isBracket_eq_false_iff.mp h
  rw [settles, hnone]
  simp [hclosing]

/-- A balanced text leaves the stack as it was. -/
theorem Balanced.settles_append (h : Balanced cs) (due ds : List Char) :
    settles due (cs ++ ds) = settles due ds := by
  induction h generalizing due ds with
  | nil => rfl
  | skip hc _ ih => rw [List.cons_append, settles_of_not_bracket hc, ih]
  | nest hpair _ _ ihi ihr =>
    rw [List.append_assoc, List.cons_append, List.cons_append, settles_of_opening hpair, ihi,
      settles_of_closing hpair, ihr]

/-- What a text is made of that closes the brackets due: balanced texts with these brackets between them. -/
inductive Settled : List Char → List Char → Prop where
  | balanced {cs : List Char} (h : Balanced cs) : Settled [] cs
  | close {right : Char} {due inner rest : List Char} (hinner : Balanced inner) (hrest : Settled due rest) :
      Settled (right :: due) (inner ++ right :: rest)

theorem Settled.prepend (h : Settled due cs) (hd : Balanced ds) : Settled due (ds ++ cs) := by
  cases h with
  | balanced h => exact .balanced (hd.append h)
  | close hinner hrest =>
    rw [← List.append_assoc]
    exact .close (hd.append hinner) hrest

/-- The reader is right to be content. -/
theorem settled_of_settles (h : settles due cs = true) : Settled due cs := by
  induction cs generalizing due with
  | nil =>
    rw [settles, List.isEmpty_iff] at h
    rw [h]
    exact .balanced .nil
  | cons c cs ih =>
    cases hopen : closing? c with
    | some right =>
      rw [settles_of_opening hopen] at h
      -- what the bracket encloses ends at the nearest bracket due
      cases ih h with
      | @close _ _ inner rest hinner hrest =>
        have hnest : Balanced (c :: inner ++ [right]) := .wrap hopen hinner
        have hall := hrest.prepend hnest
        rwa [List.append_assoc] at hall
    | none =>
      cases hclosing : isClosing c with
      | true =>
        cases due with
        | nil => simp [settles, hopen, hclosing] at h
        | cons next due =>
          simp only [settles, hopen, hclosing, if_true, List.head?_cons, List.tail_cons, Bool.and_eq_true,
            beq_iff_eq, Option.some.injEq] at h
          obtain ⟨rfl, hrest⟩ := h
          exact .close .nil (ih hrest)
      | false =>
        have hbracket : isBracket c = false := isBracket_eq_false_iff.mpr ⟨hopen, hclosing⟩
        rw [settles_of_not_bracket hbracket] at h
        exact (ih h).prepend (.skip hbracket .nil)

end settles

/-- **Reading with a stack decides balance.** -/
theorem balanced_iff : Balanced cs ↔ settles [] cs = true := by
  constructor
  · intro h
    have hread := h.settles_append [] []
    rw [List.append_nil] at hread
    rw [hread]
    rfl
  · intro h
    cases settled_of_settles h with
    | balanced h => exact h

instance : Decidable (Balanced cs) := decidable_of_iff _ balanced_iff.symm

/-- The reader passes over everything but brackets. -/
theorem settles_filter (due cs : List Char) : settles due (cs.filter isBracket) = settles due cs := by
  induction cs generalizing due with
  | nil => rfl
  | cons c cs ih =>
    cases hc : isBracket c with
    | true =>
      rw [List.filter_cons_of_pos hc, settles, settles]
      simp only [ih]
    | false => rw [List.filter_cons_of_neg (ne_true_of_eq_false hc), settles_of_not_bracket hc, ih]

/-- **Only the brackets of a text count.** -/
theorem balanced_congr (h : cs.filter isBracket = ds.filter isBracket) : Balanced cs ↔ Balanced ds := by
  rw [balanced_iff, balanced_iff, ← settles_filter [] cs, h, settles_filter]

/-- A blank is no bracket. -/
theorem isBracket_of_isBlank {c : Char} (h : isBlank c = true) : isBracket c = false := by
  rw [← Bool.not_eq_true]
  intro hb
  unfold isBracket at hb
  rcases Bool.or_eq_true_iff.mp hb with hopening | hclosing
  · -- one case for each opening bracket
    unfold closing? at hopening
    split at hopening
    all_goals first | exact absurd h (by decide) | cases hopening
  · unfold isClosing at hclosing
    split at hclosing
    all_goals first | exact absurd h (by decide) | cases hclosing

theorem filter_isBracket_of_isBlank {cs : List Char} (h : ∀ c ∈ cs, isBlank c = true) :
    cs.filter isBracket = [] :=
  List.filter_eq_nil_iff.mpr fun c hc => ne_true_of_eq_false (isBracket_of_isBlank (h c hc))

/-! ## Balanced strings -/

/-- No character of a string is a bracket. -/
def IsBracketFree (s : String) : Prop := ∀ c ∈ s.toList, isBracket c = false

instance (s : String) : Decidable (IsBracketFree s) := List.decidableBAll _ s.toList

/-- The brackets of a string are nested properly. -/
def IsBalanced (s : String) : Prop := Balanced s.toList

instance (s : String) : Decidable (IsBalanced s) := inferInstanceAs (Decidable (Balanced s.toList))

variable {s t : String}

theorem IsBracketFree.isBalanced (h : IsBracketFree s) : IsBalanced s := balanced_of_no_bracket h

theorem isBalanced_empty : IsBalanced "" := .nil

theorem IsBalanced.append (hs : IsBalanced s) (ht : IsBalanced t) : IsBalanced (s ++ t) := by
  unfold IsBalanced
  rw [String.toList_append]
  exact Balanced.append hs ht

/-- A balanced string may be put in brackets. -/
theorem IsBalanced.wrap {opening ending : String} (hs : IsBalanced s) (hopening : opening.toList = [left])
    (hending : ending.toList = [right]) (hpair : closing? left = some right) :
    IsBalanced (opening ++ s ++ ending) := by
  unfold IsBalanced
  rw [String.toList_append, String.toList_append, hopening, hending]
  exact Balanced.wrap hpair hs

/-- A balanced string in brackets, behind another one. -/
theorem IsBalanced.append_wrap {opening ending : String} (hs : IsBalanced s) (ht : IsBalanced t)
    (hopening : opening.toList = [left]) (hending : ending.toList = [right])
    (hpair : closing? left = some right) : IsBalanced (s ++ opening ++ t ++ ending) := by
  have hwrapped := hs.append (ht.wrap hopening hending hpair)
  rwa [← String.append_assoc, ← String.append_assoc] at hwrapped

/-- Balanced strings stay so when they are joined by balanced ones. -/
theorem isBalanced_joinWith {sep : String} (hsep : IsBalanced sep) {parts : List String}
    (h : ∀ part ∈ parts, IsBalanced part) : IsBalanced (joinWith sep parts) := by
  induction parts with
  | nil => exact isBalanced_empty
  | cons part rest ih =>
    rw [List.forall_mem_cons] at h
    obtain ⟨hpart, hrest⟩ := h
    cases rest with
    | nil => exact hpart
    | cons next rest => exact (hpart.append hsep).append (ih hrest)

theorem isBalanced_join {parts : List String} (h : ∀ part ∈ parts, IsBalanced part) :
    IsBalanced (String.join parts) := by
  unfold IsBalanced
  rw [String.toList_join]
  exact balanced_flatMap h

end Text
end JavaSource
