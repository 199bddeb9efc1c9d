import JavaSource.Text.Blank
import Mathlib

/-!
# `Proofs.Text.Variants` — texts that differ in blanks around them or in case

Settings are read without regard to the blanks around a text, and some of them without regard to the case of
its letters. Both are said here character by character, without trimming and without lower case, and then
shown to be what these two functions make alike (`eqUpToBlanks_iff`, `eqUpToCase_iff`).

* `IsTrimmed` — no blank at either end.
* `EqUpToBlanks` — one text, with blanks around it or not.
* `EqUpToCase` — the same characters, where letters may differ in case.
-/

namespace JavaSource
namespace Text

variable {s t inside : String} {c d : Char} {cs : List Char}

/-! ## Trimmed texts -/

/-- A text has no blank at either end. -/
structure IsTrimmed (s : String) : Prop where
  first : ∀ h : s.toList ≠ [], isBlank (s.toList.head h) = false
  last : ∀ h : s.toList ≠ [], isBlank (s.toList.getLast h) = false

/-- Removal at the end is that of the library, which goes by way of the reversed text. -/
theorem dropTrailing_eq_rdropWhile (p : Char → Bool) (cs : List Char) : dropTrailing p cs = cs.rdropWhile p := by
  induction cs using List.reverseRecOn with
  | nil => rfl
  | append_singleton cs c ih =>
    by_cases hc : p c = true
    · rw [dropTrailing_append cs (List.forall_mem_singleton.mpr hc), ih, List.rdropWhile_concat_pos p cs c hc]
    · rw [dropTrailing_append_cons (Bool.eq_false_of_not_eq_true hc), List.rdropWhile_concat_neg p cs c hc]
      rfl

/-- Trimming leaves a text alone if there is nothing to remove at either end. -/
theorem trim_eq_self_iff : trim cs = cs ↔ cs.dropWhile isBlank = cs ∧ cs.rdropWhile isBlank = cs := by
  rw [← dropTrailing_eq_rdropWhile]
  constructor
  · intro h
    obtain ⟨tail, happ, -⟩ := exists_dropTrailing_append isBlank (cs.dropWhile isBlank)
    -- the text is a prefix of its own end, so nothing is removed at its beginning
    have hprefix : cs <+: cs.dropWhile isBlank := by
      rw [← happ]
      exact ⟨tail, congrArg (· ++ tail) h.symm⟩
    exact ⟨(List.dropWhile_suffix isBlank).eq_of_length_le hprefix.length_le, dropTrailing_of_trim_eq h⟩
  · rintro ⟨hfront, hback⟩
    unfold trim
    rw [hfront, hback]

/-- **Trimmed texts are those that trimming leaves alone.** -/
theorem isTrimmed_iff : IsTrimmed s ↔ trimmed s = s := by
  rw [← String.toList_inj, toList_trimmed, trim_eq_self_iff, List.dropWhile_eq_self_iff,
    List.rdropWhile_eq_self_iff]
  simp only [List.getElem_zero, Bool.not_eq_true]
  constructor
  · intro h
    exact ⟨fun hlength => h.first (List.ne_nil_of_length_pos hlength), h.last⟩
  · rintro ⟨hfirst, hlast⟩
    exact ⟨fun hne => hfirst (List.length_pos_of_ne_nil hne), hlast⟩

theorem isTrimmed_trimmed (s : String) : IsTrimmed (trimmed s) := by
  rw [isTrimmed_iff, ← String.toList_inj, toList_trimmed, toList_trimmed, trim_trim]

/-- Trimmed texts can be put together with anything between them. -/
theorem IsTrimmed.append (hs : IsTrimmed s) (ht : IsTrimmed t) (hne : s ≠ "") (hne' : t ≠ "")
    (between : String) : IsTrimmed (s ++ between ++ t) := by
  rw [ne_eq, ← String.toList_eq_nil_iff] at hne hne'
  constructor
  · intro h
    have hfirst : (s ++ between ++ t).toList.head h = s.toList.head hne := by
      simp only [String.toList_append, List.append_assoc, List.head_append_of_ne_nil hne]
    rw [hfirst]
    exact hs.first hne
  · intro h
    have hlast : (s ++ between ++ t).toList.getLast h = t.toList.getLast hne' := by
      simp only [String.toList_append, List.getLast_append_of_ne_nil _ hne']
    rw [hlast]
    exact ht.last hne'

/-- Trimming keeps characters that are not blanks. -/
theorem mem_trim_of_not_isBlank (hc : isBlank c = false) (h : c ∈ cs) : c ∈ trim cs := by
  obtain ⟨front, rest, rfl⟩ := List.append_of_mem h
  rw [trim_append_cons hc]
  exact List.mem_append_right _ List.mem_cons_self

/-! ## Blanks around a text -/

/-- A text stands in another one with blanks around it, or none. -/
def StandsIn (inside s : String) : Prop :=
  ∃ front back : String, s = front ++ inside ++ back
    ∧ (∀ x ∈ front.toList, isBlank x = true) ∧ ∀ x ∈ back.toList, isBlank x = true

/-- **Texts differ at most in the blanks around them**: it is one text that stands in both. -/
def EqUpToBlanks (s t : String) : Prop := ∃ inside, StandsIn inside s ∧ StandsIn inside t

theorem StandsIn.trimmed_eq (h : StandsIn inside s) : trimmed s = trimmed inside := by
  obtain ⟨front, back, rfl, hfront, hback⟩ := h
  unfold trimmed
  rw [String.toList_append, String.toList_append, trim_surround hfront hback]

theorem standsIn_trimmed (s : String) : StandsIn (trimmed s) s := by
  obtain ⟨tail, happ, htail⟩ := exists_dropTrailing_append isBlank (s.toList.dropWhile isBlank)
  have hs : s.toList.takeWhile isBlank ++ trim s.toList ++ tail = s.toList := by
    unfold trim
    rw [List.append_assoc, happ, List.takeWhile_append_dropWhile]
  refine ⟨String.ofList (s.toList.takeWhile isBlank), String.ofList tail, ?_, ?_, ?_⟩
  · rw [← String.toList_inj, String.toList_append, String.toList_append, String.toList_ofList,
      String.toList_ofList, toList_trimmed, hs]
  · rw [String.toList_ofList]
    exact List.all_eq_true.mp List.all_takeWhile
  · rw [String.toList_ofList]
    exact htail

/-- **Trimming makes exactly those texts alike** that differ at most in the blanks around them. -/
theorem eqUpToBlanks_iff : EqUpToBlanks s t ↔ trimmed s = trimmed t := by
  constructor
  · rintro ⟨inside, hs, ht⟩
    rw [hs.trimmed_eq, ht.trimmed_eq]
  · intro h
    exact ⟨trimmed s, standsIn_trimmed s, h ▸ standsIn_trimmed t⟩

/-! ## Case of letters -/

/-- Two characters are the same, or one letter in lower and in upper case. Only the letters from `a` to `z` have
    two cases here. -/
def SameLetter (c d : Char) : Prop := d = c ∨ d = c.toLower ∨ d = c.toUpper

/-- **Texts differ at most in the case of their letters.** -/
def EqUpToCase (s t : String) : Prop := List.Forall₂ SameLetter s.toList t.toList

theorem sameLetter_iff : SameLetter c d ↔ c.toLower = d.toLower := by
  constructor
  · rintro (rfl | rfl | rfl)
    · rfl
    · rw [Char.toLower_toLower_eq_toLower]
    · rw [Char.toLower_toUpper_eq_toLower]
  · intro h
    by_cases hd : d.isUpper = true
    · refine Or.inr (Or.inr ?_)
      calc
        d = d.toUpper := (Char.toUpper_eq_of_not_isLower (Char.not_isLower_of_isUpper hd)).symm
        _ = c.toUpper := by
          rw [← Char.toUpper_toLower_eq_toUpper d, ← h, Char.toUpper_toLower_eq_toUpper]
    · refine Or.inr (Or.inl ?_)
      rw [h, Char.toLower_eq_of_not_isUpper hd]

/-- **Lower case makes exactly those texts alike** that differ at most in the case of their letters. -/
theorem eqUpToCase_iff : EqUpToCase s t ↔ s.toList.map Char.toLower = t.toList.map Char.toLower := by
  rw [← List.forall₂_eq_eq_eq, List.forall₂_map_left_iff, List.forall₂_map_right_iff]
  exact ⟨List.Forall₂.imp fun _ _ => sameLetter_iff.mp, List.Forall₂.imp fun _ _ => sameLetter_iff.mpr⟩

theorem EqUpToCase.refl (s : String) : EqUpToCase s s := eqUpToCase_iff.mpr rfl

/-- There are no blanks from the first visible character of ASCII up to the next blank after it. -/
theorem isBlank_eq_false_of_toNat (h : 0x21 ≤ c.toNat) (h' : c.toNat ≤ 0x84) : isBlank c = false := by
  simp only [isBlank, Bool.or_eq_false_iff, Bool.and_eq_false_iff, decide_eq_false_iff_not, beq_eq_false_iff_ne]
  omega

/-- Lower case neither makes blanks nor takes them away. -/
theorem isBlank_toLower (c : Char) : isBlank c.toLower = isBlank c := by
  by_cases hc : c.isUpper = true
  · have hrange : 65 ≤ c.toNat ∧ c.toNat ≤ 90 := by
      simpa [Char.isUpper, UInt32.le_iff_toNat_le] using hc
    have hlower : c.toLower.toNat = c.toNat + 32 := by
      rw [Char.toLower_eq_of_isUpper hc, Char.toNat_ofNat, if_pos (Or.inl (by omega))]
    -- neither the letters from 65 to 90 nor those from 97 to 122 are blanks
    rw [isBlank_eq_false_of_toNat (by omega) (by omega), isBlank_eq_false_of_toNat (by omega) (by omega)]
  · rw [Char.toLower_eq_of_not_isUpper hc]

/-- Trimming commutes with a change of characters that keeps blanks and makes no new ones. -/
theorem trim_map {f : Char → Char} (hf : ∀ c, isBlank (f c) = isBlank c) (cs : List Char) :
    trim (cs.map f) = (trim cs).map f := by
  have hcomp : isBlank ∘ f = isBlank := funext hf
  unfold trim
  rw [dropTrailing_eq_rdropWhile, dropTrailing_eq_rdropWhile, List.dropWhile_map, hcomp, List.rdropWhile,
    ← List.map_reverse, List.dropWhile_map, hcomp, ← List.map_reverse, List.rdropWhile]

/-- Trimming does not see the case of letters. -/
theorem EqUpToCase.trimmed (h : EqUpToCase s t) : EqUpToCase (Text.trimmed s) (Text.trimmed t) := by
  rw [eqUpToCase_iff] at h ⊢
  rw [toList_trimmed, toList_trimmed, ← trim_map isBlank_toLower, ← trim_map isBlank_toLower, h]

end Text
end JavaSource
