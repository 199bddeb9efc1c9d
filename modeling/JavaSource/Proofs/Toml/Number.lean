import JavaSource.Toml.Inline
import Mathlib.Data.List.Basic
import Mathlib.Data.Nat.Digits.Defs

/-!
# `Proofs.Toml.Number` — integers read back as they were written

A number is first tried as a date or a time, then as a float, and only then as an integer. At the end of a
line an integer is none of the others (`dateTime_integerLine`, `float_integerLine`), and its digits give it
back (`number_integerLine`).
-/

namespace JavaSource
namespace Toml

variable {c sep : Char} {cs ds more rest : List Char} {count m k : Nat} {n : Int}

/-! ## Decimal digits -/

theorem isDigit_of_mem_toDigits (h : c ∈ Nat.toDigits 10 k) : c.isDigit = true :=
  Nat.isDigit_of_mem_toDigits (by decide) (by decide) h

/-- Digits make the number whose digits they are. -/
theorem digitsValue_toDigits (n : Nat) : digitsValue 10 (Nat.toDigits 10 n) = n := by
  calc digitsValue 10 (Nat.toDigits 10 n)
      = Nat.ofDigitChars 10 (Nat.toDigits 10 n) 0 := by
        apply List.foldl_ext
        intro k c hc
        rw [digitValue, if_pos (isDigit_of_mem_toDigits hc)]
    _ = n := Nat.ofDigitChars_toDigits (by decide) (by decide)

/-- A number has a first digit. -/
theorem exists_toDigits_eq (k : Nat) :
    ∃ d ds, Nat.toDigits 10 k = d :: ds ∧ d.isDigit = true ∧ ∀ c ∈ ds, c.isDigit = true := by
  obtain ⟨d, ds, heq⟩ := List.exists_cons_of_ne_nil (Nat.toDigits_ne_nil (n := k) (b := 10))
  have hdigits : ∀ c ∈ d :: ds, c.isDigit = true := fun c hc => isDigit_of_mem_toDigits (heq ▸ hc)
  exact ⟨d, ds, heq, List.forall_mem_cons.mp hdigits⟩

/-- A number does not begin with a zero, but for zero itself. -/
theorem head?_toDigits (h : 0 < k) : (Nat.toDigits 10 k).head? ≠ some '0' := by
  induction k using Nat.strongRecOn with
  | ind k ih =>
    by_cases hlt : k < 10
    · rw [Nat.toDigits_of_lt_base hlt]
      intro hzero
      have hk := Nat.digitChar_eq_zero.mp (Option.some.inj hzero)
      omega
    · rw [Nat.toDigits_of_base_le (by decide) (Nat.not_lt.mp hlt),
        List.head?_append_of_ne_nil _ Nat.toDigits_ne_nil]
      exact ih (k / 10) (by omega) (by omega)

theorem moreDigits_append (h : ∀ c ∈ ds, c.isDigit = true) :
    moreDigits Char.isDigit (ds ++ '\n' :: rest) = (ds, '\n' :: rest) := by
  induction ds with
  | nil => rfl
  | cons d ds ih =>
    rw [List.forall_mem_cons] at h
    obtain ⟨hd, h⟩ := h
    rw [List.cons_append, moreDigits, if_pos hd, ih h]
    -- an underscore is no digit
    rintro c cs rfl
    exact absurd hd (by decide)

/-- The digits of a number are read up to the end of the line. -/
theorem decimalDigits_toDigits (k : Nat) (rest : List Char) :
    decimalDigits (Nat.toDigits 10 k ++ '\n' :: rest) = some (Nat.toDigits 10 k, '\n' :: rest) := by
  by_cases hzero : k = 0
  · subst hzero
    rfl
  · have hhead := head?_toDigits (Nat.pos_of_ne_zero hzero)
    obtain ⟨d, ds, heq, hd, hdigits⟩ := exists_toDigits_eq k
    rw [heq] at hhead ⊢
    rw [List.cons_append, decimalDigits, digitRun, if_pos hd, moreDigits_append hdigits]
    intro cs hcs
    exact hhead (congrArg some (List.cons.inj hcs).1)

/-! ## What an integer is not -/

/-- Digits before the end of a line do not begin like anything else. -/
theorem after?_digits (h : ∀ c ∈ ds, c.isDigit = true) (hsep : sep.isDigit = false) (hline : sep ≠ '\n')
    (start rest : List Char) : after? (sep :: start) (ds ++ '\n' :: rest) = none := by
  cases ds with
  | nil => rw [List.nil_append, after?, if_neg (by simpa using hline)]
  | cons d ds =>
    have hd : sep ≠ d := by
      rintro rfl
      rw [(List.forall_mem_cons.mp h).1] at hsep
      cases hsep
    rw [List.cons_append, after?, if_neg (by simpa using hd)]

/-- A number of some digits leaves the other digits. -/
theorem exists_of_fixedNumber (h : ∀ c ∈ ds, c.isDigit = true)
    (hread : fixedNumber count m (ds ++ '\n' :: rest) = some (k, more)) :
    ∃ left, (∀ c ∈ left, c.isDigit = true) ∧ more = left ++ '\n' :: rest := by
  induction count generalizing m ds with
  | zero =>
    rw [fixedNumber] at hread
    cases hread
    exact ⟨ds, h, rfl⟩
  | succ count ih =>
    cases ds with
    | nil => cases hread
    | cons d ds =>
      rw [List.forall_mem_cons] at h
      rw [List.cons_append, fixedNumber, if_pos h.1] at hread
      exact ih h.2 hread

theorem exists_of_twoDigits {least greatest hour : Nat} (h : ∀ c ∈ ds, c.isDigit = true)
    (hread : twoDigits least greatest (ds ++ '\n' :: rest) = some (hour, more)) :
    ∃ left, (∀ c ∈ left, c.isDigit = true) ∧ more = left ++ '\n' :: rest := by
  unfold twoDigits at hread
  split at hread
  · next n more' hfixed =>
    split_ifs at hread
    cases hread
    exact exists_of_fixedNumber h hfixed
  · cases hread

/-- **Digits alone are no date or time**, which have separators in them. -/
theorem dateTime_digits (h : ∀ c ∈ ds, c.isDigit = true) : dateTime (ds ++ '\n' :: rest) = none := by
  have hdate : date? (ds ++ '\n' :: rest) = none := by
    unfold date?
    cases hyear : fixedNumber 4 0 (ds ++ '\n' :: rest) with
    | none => rfl
    | some read =>
      obtain ⟨left, hleft, hmore⟩ := exists_of_fixedNumber h hyear
      have hsep : after? ['-'] read.2 = none := hmore ▸ after?_digits hleft rfl (by decide) [] rest
      simp only [Option.bind_eq_bind, Option.bind_some, hsep, Option.bind_none]
  have htime : time? (ds ++ '\n' :: rest) = none := by
    unfold time?
    cases hhour : twoDigits 0 23 (ds ++ '\n' :: rest) with
    | none => rfl
    | some read =>
      obtain ⟨left, hleft, hmore⟩ := exists_of_twoDigits h hhour
      have hsep : after? [':'] read.2 = none := hmore ▸ after?_digits hleft rfl (by decide) [] rest
      simp only [Option.bind_eq_bind, Option.bind_some, hsep, Option.bind_none]
  unfold dateTime
  rw [hdate, htime]
  rfl

/-! ## Integers -/

/-- An integer is written as its sign and its digits. -/
theorem toList_toString_int (n : Int) :
    (toString n).toList = (if n < 0 then ['-'] else []) ++ Nat.toDigits 10 n.natAbs := by
  cases n with
  | ofNat k => exact Nat.toList_repr
  | negSucc k =>
    show ("-" ++ (k + 1).repr).toList = _
    rw [String.toList_append, Nat.toList_repr, if_pos (Int.negSucc_lt_zero k)]
    rfl

/-- An integer begins with a minus sign or a digit. -/
theorem exists_toString_eq (n : Int) : ∃ c cs, (toString n).toList = c :: cs ∧ (c = '-' ∨ c.isDigit = true) := by
  rw [toList_toString_int]
  split_ifs with hneg
  · exact ⟨_, _, rfl, Or.inl rfl⟩
  · obtain ⟨d, ds, heq, hd, -⟩ := exists_toDigits_eq n.natAbs
    exact ⟨d, ds, heq, Or.inr hd⟩

/-- An integer as it is written, at the end of a line. -/
def integerLine (n : Int) (rest : List Char) : List Char := (toString n).toList ++ '\n' :: rest

theorem integerLine_eq (n : Int) (rest : List Char) :
    integerLine n rest = (if n < 0 then ['-'] else []) ++ (Nat.toDigits 10 n.natAbs ++ '\n' :: rest) := by
  rw [integerLine, toList_toString_int, List.append_assoc]

theorem sign_integerLine (n : Int) (rest : List Char) :
    sign (integerLine n rest) = (decide (n < 0), Nat.toDigits 10 n.natAbs ++ '\n' :: rest) := by
  rw [integerLine_eq]
  by_cases hneg : n < 0
  · rw [if_pos hneg, decide_eq_true hneg]
    rfl
  · obtain ⟨d, ds, heq, hd, -⟩ := exists_toDigits_eq n.natAbs
    rw [if_neg hneg, decide_eq_false hneg, List.nil_append, heq, List.cons_append, sign]
    · intro cs hcs
      rw [(List.cons.inj hcs).1] at hd
      cases hd
    · intro cs hcs
      rw [(List.cons.inj hcs).1] at hd
      cases hd

theorem dateTime_integerLine (n : Int) (rest : List Char) : dateTime (integerLine n rest) = none := by
  rw [integerLine_eq]
  by_cases hneg : n < 0
  · rw [if_pos hneg]
    rfl
  · rw [if_neg hneg, List.nil_append]
    exact dateTime_digits fun _ hc => isDigit_of_mem_toDigits hc

/-- **An integer is no float**: it has no fraction and no exponent. -/
theorem float_integerLine (n : Int) (rest : List Char) : float (integerLine n rest) = none := by
  have hdecimal : decimalFloat (integerLine n rest) = none := by
    unfold decimalFloat
    rw [sign_integerLine]
    simp only [decimalDigits_toDigits]
    rfl
  have hword : wordFloat (integerLine n rest) = none := by
    have hword : ∀ c start, c.isDigit = false → c ≠ '\n' →
        after? (c :: start) (Nat.toDigits 10 n.natAbs ++ '\n' :: rest) = none :=
      fun c start hc hline => after?_digits (fun _ hd => isDigit_of_mem_toDigits hd) hc hline start rest
    unfold wordFloat
    rw [sign_integerLine]
    simp only [hword 'i' _ rfl (by decide), hword 'n' _ rfl (by decide)]
    rfl
  unfold float
  rw [hdecimal, hword]
  rfl

/-- A zero in front is all of the number, so no mark of a base follows it. -/
theorem integerLine_ne_marked {mark : Char} (h : mark ≠ '\n') (n : Int) (rest cs : List Char) :
    integerLine n rest ≠ '0' :: mark :: cs := by
  rw [integerLine_eq]
  split_ifs with hneg
  · intro heq
    exact absurd (List.cons.inj heq).1 (by decide)
  · rw [List.nil_append]
    by_cases hzero : n.natAbs = 0
    · rw [hzero]
      intro heq
      exact h (List.cons.inj (List.cons.inj heq).2).1.symm
    · intro heq
      apply head?_toDigits (Nat.pos_of_ne_zero hzero)
      rw [← List.head?_append_of_ne_nil _ Nat.toDigits_ne_nil, heq]
      rfl

theorem integer_integerLine (n : Int) (rest : List Char) :
    integer (integerLine n rest) = decimalInteger (integerLine n rest) := by
  rw [integer]
  · exact fun cs => integerLine_ne_marked (by decide) n rest cs
  · exact fun cs => integerLine_ne_marked (by decide) n rest cs
  · exact fun cs => integerLine_ne_marked (by decide) n rest cs

/-- **An integer reads back as it was written.** -/
theorem number_integerLine (h : isInteger n = true) (rest : List Char) :
    number (integerLine n rest) = some (.integer n, '\n' :: rest) := by
  have hdecimal : decimalInteger (integerLine n rest) = some (.integer n, '\n' :: rest) := by
    unfold decimalInteger
    rw [sign_integerLine]
    simp only [decimalDigits_toDigits, digitsValue_toDigits]
    have hvalue : (if decide (n < 0) = true then -(n.natAbs : Int) else n.natAbs) = n := by
      by_cases hneg : n < 0
      · rw [if_pos (by simpa using hneg)]
        omega
      · rw [if_neg (by simpa using hneg)]
        omega
    rw [hvalue, inRange, if_pos h]
  unfold number
  rw [dateTime_integerLine, float_integerLine, integer_integerLine, hdecimal]
  rfl

end Toml
end JavaSource
