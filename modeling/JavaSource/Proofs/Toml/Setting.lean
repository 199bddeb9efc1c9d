import JavaSource.Proofs.Toml.Number
import JavaSource.Proofs.Toml.StringLiteral

/-!
# `Proofs.Toml.Setting` — settings read back as they were written

What stands behind the equals sign of a setting is read by `value`, up to the end of the line. Strings also
stand in lists, with commas between them, so they read back wherever no quote follows
(`valueWithin_printString`).
-/

namespace JavaSource
namespace Toml
open Text

variable {c : Char} {cs rest : List Char} {depth fuel : Nat} {ss : List String}

/-! ## Scalars -/

/-- A value that opens no array and no inline table is a scalar. -/
theorem valueWithin_of_scalar (harray : c ≠ '[') (htable : c ≠ '\x7b') (depth : Nat) (cs : List Char) :
    valueWithin depth (c :: cs) = scalar (c :: cs) := by
  cases depth with
  | zero => rfl
  | succ depth =>
    simp only [valueWithin]
    split
    · next heq => exact absurd (List.cons.inj heq).1 harray
    · next heq => exact absurd (List.cons.inj heq).1 htable
    · rfl

/-- A string begins with a quote of one of the two kinds. -/
theorem exists_printString_eq (s : String) :
    ∃ q more, (printString s).toList = q :: more ∧ (q = '"' ∨ q = '\'') := by
  unfold printString
  rw [String.toList_ofList]
  cases stringKind s.toList with
  | basic => exact ⟨_, _, rfl, Or.inl rfl⟩
  | literal => exact ⟨_, _, rfl, Or.inr rfl⟩
  | multilineBasic => exact ⟨_, _, rfl, Or.inl rfl⟩
  | multilineLiteral => exact ⟨_, _, rfl, Or.inr rfl⟩

/-- **A string is a value that reads back**, in an array too. -/
theorem valueWithin_printString (s : String) (hdouble : rest.head? ≠ some '"') (hsingle : rest.head? ≠ some '\'')
    (depth : Nat) : valueWithin depth ((printString s).toList ++ rest) = some (.string s, rest) := by
  obtain ⟨q, more, heq, hq⟩ := exists_printString_eq s
  have hread := stringLiteral_printString s hdouble hsingle
  rw [heq, List.cons_append] at hread ⊢
  have hscalar : scalar (q :: (more ++ rest))
      = (stringLiteral (q :: (more ++ rest))).map fun read => (.string read.1, read.2) := by
    rcases hq with rfl | rfl <;> rfl
  rw [valueWithin_of_scalar, hscalar, hread]
  · rfl
  · rcases hq with rfl | rfl <;> decide
  · rcases hq with rfl | rfl <;> decide

/-- What begins with a minus sign or a digit is a number. -/
theorem scalar_of_number (h : c = '-' ∨ c.isDigit = true) (cs : List Char) :
    scalar (c :: cs) = number (c :: cs) := by
  rcases h with rfl | hdigit
  · rfl
  · have hne : ∀ d : Char, d.isDigit = false → (c == d) = false := by
      intro d hd
      rw [beq_eq_false_iff_ne]
      rintro rfl
      rw [hdigit] at hd
      cases hd
    unfold scalar
    simp only [hne '"' rfl, hne '\'' rfl, hne 't' rfl, hne 'f' rfl, hne 'i' rfl, hne 'n' rfl, hdigit,
      Bool.or_false, Bool.or_true, Bool.false_eq_true, if_false, if_true]

theorem value_integerLine {n : Int} (h : isInteger n = true) (rest : List Char) :
    value (integerLine n rest) = some (.integer n, '\n' :: rest) := by
  have hread := number_integerLine h rest
  obtain ⟨c, cs, heq, hc⟩ := exists_toString_eq n
  rw [integerLine, heq, List.cons_append] at hread ⊢
  rw [value, valueWithin_of_scalar, scalar_of_number hc, hread]
  · rintro rfl
    revert hc
    decide
  · rintro rfl
    revert hc
    decide

/-! ## Lists of strings -/

/-- Blanks do not count before a string, and nothing else does. -/
theorem skipFiller_printString (s : String) (rest : List Char) :
    skipFiller false ((printString s).toList ++ rest) = (printString s).toList ++ rest := by
  obtain ⟨q, more, heq, hq⟩ := exists_printString_eq s
  rw [heq]
  rcases hq with rfl | rfl <;> rfl

/-- What an array goes on with behind an item: its end, or a comma and more items. -/
def itemsAfter (item : Reader Value) (fuel : Nat) (v : Value) (rest : List Char) :
    Option (List Value × List Char) :=
  match skipFiller false rest with
  | ']' :: rest => some ([v], rest)
  | ',' :: rest =>
    match arrayItems item fuel rest with
    | some (vs, rest) => some (v :: vs, rest)
    | none => none
  | _ => none

theorem itemsAfter_comma {item : Reader Value} {vs : List Value} {more : List Char} (v : Value)
    (h : arrayItems item fuel rest = some (vs, more)) :
    itemsAfter item fuel v (',' :: rest) = some (v :: vs, more) := by
  show (match arrayItems item fuel rest with
    | some (vs, rest) => some (v :: vs, rest)
    | none => none) = _
  rw [h]

/-- A string of a list is read, and then what follows it. -/
theorem arrayItems_cons (s : String) (hdouble : rest.head? ≠ some '"') (hsingle : rest.head? ≠ some '\'') :
    arrayItems (valueWithin depth) (fuel + 1) ((printString s).toList ++ rest)
      = itemsAfter (valueWithin depth) fuel (.string s) rest := by
  have hitem := valueWithin_printString s hdouble hsingle depth
  have hfiller := skipFiller_printString s rest
  obtain ⟨q, more, heq, hq⟩ := exists_printString_eq s
  rw [heq, List.cons_append] at hitem hfiller ⊢
  rw [arrayItems, hfiller]
  split
  · next hclose =>
    rw [(List.cons.inj hclose).1] at hq
    exact absurd hq (by decide)
  · rw [hitem]
    rfl

/-- **A list of strings reads back as it was written.** -/
theorem arrayItems_printString (hfuel : ss.length < fuel) (rest : List Char) :
    arrayItems (valueWithin depth) fuel ((joinWith ", " (ss.map printString)).toList ++ ']' :: rest)
      = some (ss.map .string, rest) := by
  induction ss generalizing fuel with
  | nil =>
    obtain ⟨fuel, rfl⟩ := Nat.exists_eq_add_one.mpr hfuel
    rfl
  | cons s ss ih =>
    obtain ⟨fuel, rfl⟩ := Nat.exists_eq_add_one.mpr (Nat.zero_lt_of_lt hfuel)
    cases ss with
    | nil => exact arrayItems_cons s (by simp) (by simp)
    | cons t ss =>
      have hlt : (t :: ss).length < fuel := Nat.lt_of_succ_lt_succ hfuel
      obtain ⟨fuel, rfl⟩ := Nat.exists_eq_add_one.mpr (Nat.zero_lt_of_lt hlt)
      let others := (joinWith ", " ((t :: ss).map printString)).toList ++ ']' :: rest
      have htext : (joinWith ", " ((s :: t :: ss).map printString)).toList ++ ']' :: rest
          = (printString s).toList ++ ',' :: ' ' :: others := by
        show (printString s ++ ", " ++ joinWith ", " ((t :: ss).map printString)).toList ++ ']' :: rest = _
        rw [String.toList_append, String.toList_append, List.append_assoc, List.append_assoc]
        rfl
      -- the blank behind the comma is passed over
      have hothers : arrayItems (valueWithin depth) (fuel + 1) (' ' :: others)
          = some ((t :: ss).map .string, rest) := ih hlt
      rw [htext, arrayItems_cons s (by simp) (by simp)]
      exact itemsAfter_comma _ hothers

/-- A list of strings has no more items than characters, as no string is written as nothing. -/
theorem length_le_joinWith (ss : List String) :
    ss.length ≤ (joinWith ", " (ss.map printString)).toList.length := by
  induction ss with
  | nil => exact Nat.zero_le _
  | cons s ss ih =>
    have hlength : 1 ≤ (printString s).toList.length := by
      obtain ⟨q, more, heq, -⟩ := exists_printString_eq s
      rw [heq, List.length_cons]
      omega
    cases ss with
    | nil => exact hlength
    | cons t ss =>
      show (t :: ss).length + 1
        ≤ (printString s ++ ", " ++ joinWith ", " ((t :: ss).map printString)).toList.length
      rw [String.toList_append, String.toList_append, List.length_append, List.length_append]
      omega

theorem value_strings (ss : List String) (rest : List Char) :
    value ((Setting.strings ss).print.toList ++ rest) = some ((Setting.strings ss).toValue, rest) := by
  have htext : (Setting.strings ss).print.toList ++ rest
      = '[' :: ((joinWith ", " (ss.map printString)).toList ++ ']' :: rest) := by
    show ("[" ++ joinWith ", " (ss.map printString) ++ "]").toList ++ rest = _
    rw [String.toList_append, String.toList_append, List.append_assoc, List.append_assoc]
    rfl
  rw [htext]
  show (arrayItems (valueWithin (depthLimit - 2)) _ _).map (fun read => (Value.array read.1, read.2)) = _
  rw [arrayItems_printString]
  · rfl
  · have hlength := length_le_joinWith ss
    rw [List.length_append, List.length_cons]
    omega

/-! ## Settings -/

/-- No setting is written as nothing, or with a blank in front. -/
theorem exists_print_eq (x : Setting) : ∃ c cs, x.print.toList = c :: cs ∧ isSpace c = false := by
  cases x with
  | string s =>
    obtain ⟨q, more, heq, hq⟩ := exists_printString_eq s
    exact ⟨q, more, heq, by rcases hq with rfl | rfl <;> rfl⟩
  | strings ss =>
    rw [Setting.print, String.toList_append, String.toList_append]
    exact ⟨_, _, rfl, rfl⟩
  | integer n =>
    obtain ⟨c, cs, heq, hc⟩ := exists_toString_eq n
    refine ⟨c, cs, heq, ?_⟩
    rw [isSpace, Bool.or_eq_false_iff, beq_eq_false_iff_ne, beq_eq_false_iff_ne]
    constructor
    · rintro rfl
      revert hc
      decide
    · rintro rfl
      revert hc
      decide
  | boolean b => cases b <;> exact ⟨_, _, rfl, rfl⟩

/-- **A setting reads back as it was written**, up to the end of its line. -/
theorem value_print {x : Setting} (h : x.isWritable = true) (rest : List Char) :
    value (x.print.toList ++ '\n' :: rest) = some (x.toValue, '\n' :: rest) := by
  cases x with
  | string s => exact valueWithin_printString s (by simp) (by simp) _
  | strings ss => exact value_strings ss _
  | integer n => exact value_integerLine h rest
  | boolean b => cases b <;> rfl

end Toml
end JavaSource
