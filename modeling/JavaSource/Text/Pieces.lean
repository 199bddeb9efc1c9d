/-!
# `Text.Pieces` — cutting a text at a separator and joining the pieces

`pieces sep` cuts at every occurrence of one character and keeps empty pieces, so a text with `n`
separators has `n + 1` pieces. `join` is its inverse on texts without the separator. `joinWith` joins
strings with a separating string.
-/

namespace JavaSource
namespace Text

/-- The pieces of a text between the occurrences of `sep`, empty ones included. -/
def pieces (sep : Char) : List Char → List (List Char)
  | [] => [[]]
  | c :: cs =>
    if c = sep then [] :: pieces sep cs
    else
      match pieces sep cs with
      | [] => [[c]]
      | piece :: rest => (c :: piece) :: rest

/-- Joins texts, with `sep` between any two neighbours. -/
def join (sep : Char) : List (List Char) → List Char
  | [] => []
  | [piece] => piece
  | piece :: rest => piece ++ sep :: join sep rest

/-- Joins strings, with `sep` between any two neighbours. -/
def joinWith (sep : String) : List String → String
  | [] => ""
  | [s] => s
  | s :: rest => s ++ sep ++ joinWith sep rest

/-- Cuts at the last occurrence of `sep`: the text before it and the text after it, or nothing when
    `sep` does not occur. -/
def splitLast (sep : Char) : List Char → Option (List Char × List Char)
  | [] => none
  | c :: cs =>
    match splitLast sep cs with
    | some (before, after) => some (c :: before, after)
    | none => if c = sep then some ([], cs) else none

/-- The text after the last occurrence of `sep`; all of it when `sep` does not occur. -/
def afterLast (sep : Char) (cs : List Char) : List Char :=
  match splitLast sep cs with
  | some (_, after) => after
  | none => cs

theorem pieces_ne_nil (sep : Char) (cs : List Char) : pieces sep cs ≠ [] := by
  cases cs with
  | nil => simp [pieces]
  | cons c cs =>
    rw [pieces]
    split
    · simp
    · split <;> simp

/-- No piece holds the separator. -/
theorem sep_not_mem_of_mem_pieces {sep : Char} {cs piece : List Char} (h : piece ∈ pieces sep cs) :
    sep ∉ piece := by
  induction cs generalizing piece with
  | nil => simp_all [pieces]
  | cons c cs ih =>
    rw [pieces] at h
    split at h
    · rcases List.mem_cons.1 h with rfl | h
      · simp
      · exact ih h
    · next hc =>
      split at h
      · obtain rfl := List.mem_singleton.1 h
        simpa using fun e => hc e.symm
      · next first rest hp =>
        rcases List.mem_cons.1 h with rfl | h
        · simp only [List.mem_cons, not_or]
          exact ⟨fun e => hc e.symm, ih (hp ▸ List.mem_cons_self ..)⟩
        · exact ih (hp ▸ List.mem_cons_of_mem _ h)

/-- A text without the separator is one piece. -/
theorem pieces_of_not_mem {sep : Char} {cs : List Char} (h : sep ∉ cs) : pieces sep cs = [cs] := by
  induction cs with
  | nil => rfl
  | cons c cs ih =>
    rw [List.mem_cons, not_or] at h
    rw [pieces, if_neg (Ne.symm h.1), ih h.2]

/-- A separator parts the pieces before it from those after it. -/
theorem pieces_append_sep (sep : Char) (cs ds : List Char) :
    pieces sep (cs ++ sep :: ds) = pieces sep cs ++ pieces sep ds := by
  induction cs with
  | nil => simp [pieces]
  | cons c cs ih =>
    rw [List.cons_append, pieces, pieces, ih]
    by_cases hc : c = sep
    · rw [if_pos hc, if_pos hc, List.cons_append]
    · rw [if_neg hc, if_neg hc]
      cases hp : pieces sep cs with
      | nil => exact absurd hp (pieces_ne_nil sep cs)
      | cons piece rest => rfl

/-- A text without the separator is added to the last piece of the text before it. -/
theorem exists_pieces_append (sep : Char) (cs : List Char) {tail : List Char} (h : sep ∉ tail) :
    ∃ init last, pieces sep cs = init ++ [last] ∧ pieces sep (cs ++ tail) = init ++ [last ++ tail] := by
  induction cs with
  | nil => exact ⟨[], [], rfl, pieces_of_not_mem h⟩
  | cons c cs ih =>
    obtain ⟨init, last, hcs, happ⟩ := ih
    rw [List.cons_append, pieces, pieces, hcs, happ]
    by_cases hc : c = sep
    · rw [if_pos hc, if_pos hc]
      exact ⟨[] :: init, last, rfl, rfl⟩
    · rw [if_neg hc, if_neg hc]
      cases init with
      | nil => exact ⟨[], c :: last, rfl, rfl⟩
      | cons piece rest => exact ⟨(c :: piece) :: rest, last, rfl, rfl⟩

/-- Cutting undoes joining, if no piece holds the separator. -/
theorem pieces_join {sep : Char} {ps : List (List Char)} (hne : ps ≠ []) (h : ∀ piece ∈ ps, sep ∉ piece) :
    pieces sep (join sep ps) = ps := by
  induction ps with
  | nil => exact absurd rfl hne
  | cons piece rest ih =>
    have hpiece : sep ∉ piece := h piece List.mem_cons_self
    cases rest with
    | nil => exact pieces_of_not_mem hpiece
    | cons next rest =>
      have hrest := ih (List.cons_ne_nil next rest) fun p hp => h p (List.mem_cons_of_mem piece hp)
      show pieces sep (piece ++ sep :: join sep (next :: rest)) = piece :: next :: rest
      rw [pieces_append_sep, pieces_of_not_mem hpiece, hrest]
      rfl

/-- A text that is joined on at the end stands behind a separator. -/
theorem join_append_singleton {sep : Char} {ps : List (List Char)} (hne : ps ≠ []) (last : List Char) :
    join sep (ps ++ [last]) = join sep ps ++ sep :: last := by
  induction ps with
  | nil => exact absurd rfl hne
  | cons piece rest ih =>
    cases rest with
    | nil => rfl
    | cons next rest =>
      show piece ++ sep :: join sep (next :: rest ++ [last]) = piece ++ sep :: join sep (next :: rest) ++ sep :: last
      rw [ih (List.cons_ne_nil next rest), List.append_assoc, List.cons_append]

/-- Joining brings in no character but the separator. -/
theorem not_mem_join {sep c : Char} {ps : List (List Char)} (hc : c ≠ sep) (h : ∀ piece ∈ ps, c ∉ piece) :
    c ∉ join sep ps := by
  induction ps with
  | nil => exact List.not_mem_nil
  | cons piece rest ih =>
    obtain ⟨hpiece, hrest⟩ := List.forall_mem_cons.mp h
    cases rest with
    | nil => exact hpiece
    | cons next rest =>
      show c ∉ piece ++ sep :: join sep (next :: rest)
      rw [List.mem_append, List.mem_cons, not_or, not_or]
      exact ⟨hpiece, hc, ih hrest⟩

/-- The characters of two strings with a separator of one character between them. -/
theorem toList_append_sep {sep : String} {c : Char} (h : sep.toList = [c]) (s t : String) :
    (s ++ sep ++ t).toList = s.toList ++ c :: t.toList := by
  rw [String.toList_append, String.toList_append, h, List.append_assoc, List.singleton_append]

/-- Joining strings with a separator of one character joins their characters. -/
theorem toList_joinWith {sep : String} {c : Char} (h : sep.toList = [c]) (parts : List String) :
    (joinWith sep parts).toList = join c (parts.map String.toList) := by
  induction parts with
  | nil => rfl
  | cons part rest ih =>
    cases rest with
    | nil => rfl
    | cons next rest =>
      show (part ++ sep ++ joinWith sep (next :: rest)).toList = _
      rw [toList_append_sep h, ih]
      rfl

theorem splitLast_eq_none {sep : Char} {cs : List Char} (h : sep ∉ cs) : splitLast sep cs = none := by
  induction cs with
  | nil => rfl
  | cons c cs ih =>
    rw [List.mem_cons, not_or] at h
    rw [splitLast, ih h.2]
    simp [Ne.symm h.1]

/-- A text without the separator is what stands after the last one. -/
theorem splitLast_append {sep : Char} (before : List Char) {after : List Char} (h : sep ∉ after) :
    splitLast sep (before ++ sep :: after) = some (before, after) := by
  induction before with
  | nil =>
    rw [List.nil_append, splitLast, splitLast_eq_none h]
    simp
  | cons c cs ih =>
    rw [List.cons_append, splitLast, ih]

end Text
end JavaSource
