/-!
# `Text.Blank` — blanks and trimming

A *blank* is a character with the Unicode property White_Space. `trim` removes the blanks around a text
and keeps those inside. Trimming is defined on lists of characters, where it can be reasoned about by
recursion; `trimmed` is the same function on strings.
-/

namespace JavaSource
namespace Text

/-- The characters with the Unicode property White_Space. -/
def isBlank (c : Char) : Bool :=
  let n := c.toNat
  (0x09 ≤ n && n ≤ 0x0D) || n == 0x20 || n == 0x85 || n == 0xA0 || n == 0x1680
    || (0x2000 ≤ n && n ≤ 0x200A) || n == 0x2028 || n == 0x2029 || n == 0x202F || n == 0x205F
    || n == 0x3000

/-- Removes the longest run at the end whose characters all satisfy `p`. -/
def dropTrailing (p : Char → Bool) : List Char → List Char
  | [] => []
  | c :: cs =>
    match dropTrailing p cs with
    | [] => if p c then [] else [c]
    | rest => c :: rest

/-- Removes the blanks at both ends. -/
def trim (cs : List Char) : List Char :=
  dropTrailing isBlank (cs.dropWhile isBlank)

/-- `trim` on strings. -/
def trimmed (s : String) : String :=
  String.ofList (trim s.toList)

@[simp] theorem toList_trimmed (s : String) : (trimmed s).toList = trim s.toList := by
  simp [trimmed]

/-- Nothing is kept exactly of a text whose characters all go. -/
theorem dropTrailing_eq_nil {p : Char → Bool} {cs : List Char} :
    dropTrailing p cs = [] ↔ ∀ c ∈ cs, p c = true := by
  induction cs with
  | nil => simp [dropTrailing]
  | cons c cs ih =>
    rw [dropTrailing]
    cases h : dropTrailing p cs with
    | nil =>
      by_cases hc : p c
      · simpa [hc] using ih.1 h
      · simp [hc]
    | cons d ds =>
      have : ¬ ∀ x ∈ cs, p x = true := fun hall => by simp [ih.2 hall] at h
      simp [this]

/-- What trailing removal keeps is the front of the text. -/
theorem exists_dropTrailing_append (p : Char → Bool) (cs : List Char) :
    ∃ tail, dropTrailing p cs ++ tail = cs ∧ ∀ c ∈ tail, p c = true := by
  induction cs with
  | nil => exact ⟨[], by simp [dropTrailing]⟩
  | cons c cs ih =>
    obtain ⟨tail, happ, hall⟩ := ih
    rw [dropTrailing]
    cases h : dropTrailing p cs with
    | nil =>
      rw [h, List.nil_append] at happ
      by_cases hc : p c
      · exact ⟨c :: cs, by simp [hc], by simpa [hc, happ] using hall⟩
      · exact ⟨cs, by simp [hc], by simpa [happ] using hall⟩
    | cons d ds =>
      refine ⟨tail, ?_, hall⟩
      rw [h] at happ
      simpa using happ

/-- Removal at the end does not see what it removes. -/
theorem dropTrailing_append {p : Char → Bool} (cs : List Char) {tail : List Char}
    (h : ∀ c ∈ tail, p c = true) : dropTrailing p (cs ++ tail) = dropTrailing p cs := by
  induction cs with
  | nil => exact dropTrailing_eq_nil.mpr h
  | cons c cs ih => rw [List.cons_append, dropTrailing, ih, dropTrailing]

/-- What stands before a kept character is kept. -/
theorem dropTrailing_append_cons {p : Char → Bool} {c : Char} (hc : p c = false) (front rest : List Char) :
    dropTrailing p (front ++ c :: rest) = front ++ c :: dropTrailing p rest := by
  induction front with
  | nil =>
    rw [List.nil_append, List.nil_append, dropTrailing]
    cases dropTrailing p rest with
    | nil => simp [hc]
    | cons d ds => rfl
  | cons x front ih =>
    rw [List.cons_append, List.cons_append, dropTrailing, ih]
    cases front <;> rfl

theorem dropTrailing_dropTrailing (p : Char → Bool) (cs : List Char) :
    dropTrailing p (dropTrailing p cs) = dropTrailing p cs := by
  obtain ⟨tail, happ, hall⟩ := exists_dropTrailing_append p cs
  have hkept := dropTrailing_append (dropTrailing p cs) hall
  rw [happ] at hkept
  exact hkept.symm

/-- A text that begins with a kept character keeps its beginning. -/
theorem dropWhile_dropTrailing_cons {p : Char → Bool} {c : Char} (hc : p c = false) (cs : List Char) :
    (dropTrailing p (c :: cs)).dropWhile p = dropTrailing p (c :: cs) := by
  rw [dropTrailing]
  cases dropTrailing p cs with
  | nil => simp [hc]
  | cons d ds => simp [hc]

/-! ## Trimming -/

theorem trim_trim (cs : List Char) : trim (trim cs) = trim cs := by
  unfold trim
  cases h : cs.dropWhile isBlank with
  | nil => rfl
  | cons c rest =>
    have hc : isBlank c = false := by
      have hhead := List.head?_dropWhile_not isBlank cs
      rw [h] at hhead
      simpa using hhead
    rw [dropWhile_dropTrailing_cons hc, dropTrailing_dropTrailing]

/-- A blank in front of a text is trimmed away. -/
theorem trim_cons_of_isBlank {c : Char} (hc : isBlank c = true) (cs : List Char) :
    trim (c :: cs) = trim cs := by
  unfold trim
  rw [List.dropWhile_cons_of_pos hc]

/-- A text of blanks alone trims to nothing. -/
theorem trim_eq_nil {cs : List Char} (h : ∀ c ∈ cs, isBlank c = true) : trim cs = [] := by
  induction cs with
  | nil => rfl
  | cons c cs ih =>
    rw [List.forall_mem_cons] at h
    rw [trim_cons_of_isBlank h.1, ih h.2]

/-- Only a text of blanks alone trims to nothing. -/
theorem isBlank_of_trim_eq_nil {cs : List Char} (h : trim cs = []) : ∀ c ∈ cs, isBlank c = true := by
  intro c hc
  rw [← List.takeWhile_append_dropWhile (p := isBlank) (l := cs)] at hc
  rcases List.mem_append.mp hc with hfront | hrest
  · exact List.all_eq_true.mp List.all_takeWhile c hfront
  · exact dropTrailing_eq_nil.mp h c hrest

/-- Blanks behind a text are trimmed away. -/
theorem trim_append_of_isBlank (cs : List Char) {tail : List Char}
    (h : ∀ c ∈ tail, isBlank c = true) : trim (cs ++ tail) = trim cs := by
  induction cs with
  | nil => exact trim_eq_nil h
  | cons c cs ih =>
    rw [List.cons_append]
    by_cases hc : isBlank c = true
    · rw [trim_cons_of_isBlank hc, trim_cons_of_isBlank hc, ih]
    · unfold trim
      rw [List.dropWhile_cons_of_neg hc, List.dropWhile_cons_of_neg hc, ← List.cons_append,
        dropTrailing_append _ h]

/-- Blanks around a text are trimmed away. -/
theorem trim_surround {front back : List Char} (hfront : ∀ c ∈ front, isBlank c = true)
    (hback : ∀ c ∈ back, isBlank c = true) (cs : List Char) : trim (front ++ cs ++ back) = trim cs := by
  rw [trim_append_of_isBlank _ hback]
  induction front with
  | nil => rfl
  | cons c front ih =>
    rw [List.forall_mem_cons] at hfront
    rw [List.cons_append, trim_cons_of_isBlank hfront.1, ih hfront.2]

/-- Before a character that is not a blank, only the beginning of a text is trimmed. -/
theorem trim_append_cons {c : Char} (hc : isBlank c = false) (front rest : List Char) :
    trim (front ++ c :: rest) = front.dropWhile isBlank ++ c :: dropTrailing isBlank rest := by
  have hneg : ¬ isBlank c = true := by rw [hc]; exact Bool.false_ne_true
  induction front with
  | nil =>
    unfold trim
    rw [List.nil_append, List.dropWhile_cons_of_neg hneg]
    exact dropTrailing_append_cons hc [] rest
  | cons x front ih =>
    rw [List.cons_append]
    by_cases hx : isBlank x = true
    · rw [trim_cons_of_isBlank hx, List.dropWhile_cons_of_pos hx, ih]
    · unfold trim
      rw [List.dropWhile_cons_of_neg hx, List.dropWhile_cons_of_neg hx, ← List.cons_append,
        dropTrailing_append_cons hc]

/-- A text that trimming leaves alone has no blanks at its end. -/
theorem dropTrailing_of_trim_eq {cs : List Char} (h : trim cs = cs) : dropTrailing isBlank cs = cs := by
  rw [← h]
  exact dropTrailing_dropTrailing isBlank _

/-- Trimming adds no character. -/
theorem mem_of_mem_trim {c : Char} {cs : List Char} (h : c ∈ trim cs) : c ∈ cs := by
  obtain ⟨tail, happ, -⟩ := exists_dropTrailing_append isBlank (cs.dropWhile isBlank)
  have hc : c ∈ cs.dropWhile isBlank := by
    rw [← happ]
    exact List.mem_append_left tail h
  exact (List.dropWhile_sublist isBlank).mem hc

end Text
end JavaSource
