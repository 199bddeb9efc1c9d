import JavaSource.Proofs.Text.Reading
import JavaSource.Toml.Printer
import JavaSource.Toml.StringLiteral
import Mathlib.Data.List.Basic
import Mathlib.Data.List.TakeWhile

/-!
# `Proofs.Toml.StringLiteral` — strings read back as they were written

`printString` picks one of four kinds of string for a text, and `stringLiteral` reads all of them. The two
kinds in double quotes are written by one function, `escaped`, and what their readers have in common is
`ReadsEscapes`; so escapes are treated once (`ReadsEscapes.read_escape`). The two kinds over several lines
close at a run of quotes, some of which may belong to the text; there the text itself has no longer run than
two (`closing_or_short`).
-/

namespace JavaSource
namespace Toml
open Text

variable {c q : Char} {cs more rest text : List Char} {allowed seen n k : Nat} {breaks : Bool}
  {read : List Char → Option (List Char × List Char)}

/-! ## Escapes -/

/-- A reader of what stands between double quotes reads an escape, or a character that stands for itself, and
    goes on behind it. Line feeds stand for themselves if `breaks` says so. -/
structure ReadsEscapes (breaks : Bool) (read : List Char → Option (List Char × List Char)) : Prop where
  short : ∀ {letter c}, shortEscape? letter = some c → ∀ more,
    read ('\\' :: letter :: more) = prepend (some c) (read more)
  code : ∀ a b c d more,
    read ('\\' :: 'u' :: a :: b :: c :: d :: more) = prepend (codePoint? [a, b, c, d]) (read more)
  lineFeed : breaks = true → ∀ more, read ('\n' :: more) = prepend (some '\n') (read more)
  plain : ∀ {c}, isText c = true → c ≠ '"' → c ≠ '\\' → ∀ more, read (c :: more) = prepend (some c) (read more)

/-- Four digits are enough for a control character. -/
theorem codePoint?_fourHexDigits : ∀ n < 128,
    (fourHexDigits n).length = 4 ∧ codePoint? (fourHexDigits n) = some (Char.ofNat n) := by decide

theorem lt_of_needsEscape (h : needsEscape c = true) : c.toNat < 128 := by
  unfold needsEscape at h
  rw [Bool.or_eq_true, Bool.and_eq_true, Bool.and_eq_true, decide_eq_true_iff, beq_iff_eq] at h
  omega

/-- What needs no escape may stand in a string, but a line feed. -/
theorem isText_of_not_needsEscape (h : ¬ needsEscape c = true) (hbreak : c ≠ '\n') : isText c = true := by
  unfold needsEscape at h
  unfold isText
  simp only [Bool.or_eq_true, Bool.and_eq_true, decide_eq_true_iff, beq_iff_eq, bne_iff_ne, ne_eq] at h ⊢
  by_cases htab : c = '\t'
  · exact Or.inl htab
  · exact Or.inr ⟨by grind, fun hdel => h (Or.inr hdel)⟩

/-- The escape of one character, or the character if it stands for itself. -/
def escape (breaks : Bool) (c : Char) : List Char := escaped 0 breaks 0 [c]

/-- All characters are escaped one by one, but quotes that may stand for themselves. -/
theorem escaped_cons (h : ¬ (c = '"' ∧ seen < allowed)) (cs : List Char) :
    escaped allowed breaks seen (c :: cs) = escape breaks c ++ escaped allowed breaks 0 cs := by
  unfold escape
  simp only [escaped, beq_iff_eq, Nat.not_lt_zero, if_false]
  split_ifs with hc hseen
  · exact absurd ⟨hc, hseen⟩ h
  all_goals simp

theorem escaped_quote (h : seen < allowed) (cs : List Char) :
    escaped allowed breaks seen ('"' :: cs) = '"' :: escaped allowed breaks (seen + 1) cs := by
  simp only [escaped, beq_self_eq_true, if_pos, h]

/-- **The escape of a character reads back as the character.** -/
theorem ReadsEscapes.read_escape (h : ReadsEscapes breaks read) (c : Char) (more : List Char) :
    read (escape breaks c ++ more) = prepend (some c) (read more) := by
  unfold escape
  simp only [escaped, beq_iff_eq, Nat.not_lt_zero, if_false]
  split_ifs with hquote hbackspace htab hfeed hform hreturn hbackslash hneeds
  · subst hquote
    exact h.short rfl more
  · subst hbackspace
    exact h.short rfl more
  · subst htab
    exact h.short rfl more
  · rw [Bool.and_eq_true, beq_iff_eq] at hfeed
    obtain ⟨rfl, -⟩ := hfeed
    exact h.short rfl more
  · subst hform
    exact h.short rfl more
  · subst hreturn
    exact h.short rfl more
  · subst hbackslash
    exact h.short rfl more
  · obtain ⟨hlength, hcode⟩ := codePoint?_fourHexDigits c.toNat (lt_of_needsEscape hneeds)
    obtain ⟨d₁, d₂, d₃, d₄, hdigits⟩ := List.length_eq_four.mp hlength
    rw [hdigits] at hcode ⊢
    rw [Char.ofNat_toNat] at hcode
    exact hcode ▸ h.code d₁ d₂ d₃ d₄ more
  · by_cases hbreak : c = '\n'
    · subst hbreak
      have hbreaks : breaks = true := by simpa using hfeed
      exact h.lineFeed hbreaks more
    · exact h.plain (isText_of_not_needsEscape hneeds hbreak) hquote hbackslash more

/-! ## Strings on one line -/

/-- The letters for code points are not among those for short escapes. -/
theorem ne_of_shortEscape? {letter : Char} (h : shortEscape? letter = some c) : letter ≠ 'u' ∧ letter ≠ 'U' := by
  constructor
  · rintro rfl
    cases h
  · rintro rfl
    cases h

theorem readsEscapes_basicBody : ReadsEscapes false basicBody where
  short := by
    intro letter c h more
    obtain ⟨hu, hU⟩ := ne_of_shortEscape? h
    rw [basicBody, h]
    · rintro _ _ _ _ _ rfl
      exact absurd rfl hu
    · rintro _ _ _ _ _ _ _ _ _ rfl
      exact absurd rfl hU
  code := fun _ _ _ _ _ => rfl
  lineFeed := fun h => nomatch h
  plain := by
    intro c htext hquote hbackslash more
    rw [basicBody, if_pos (by simpa using ⟨htext, hbackslash⟩)]
    · exact hquote
    -- what is left are the patterns that begin with a backslash
    all_goals intros; contradiction

/-- **What is written between double quotes on one line reads back.** -/
theorem basicBody_escaped (cs rest : List Char) (seen : Nat) :
    basicBody (escaped 0 false seen cs ++ '"' :: rest) = some (cs, rest) := by
  induction cs generalizing seen with
  | nil => rfl
  | cons c cs ih =>
    rw [escaped_cons fun h => Nat.not_lt_zero seen h.2, List.append_assoc, readsEscapes_basicBody.read_escape, ih]
    rfl

/-- **What is written between single quotes on one line reads back.** -/
theorem literalBody_append (h : ∀ c ∈ cs, isText c = true ∧ c ≠ '\'') :
    literalBody (cs ++ '\'' :: rest) = some (cs, rest) := by
  induction cs with
  | nil => rfl
  | cons c cs ih =>
    rw [List.forall_mem_cons] at h
    obtain ⟨⟨htext, hquote⟩, h⟩ := h
    rw [List.cons_append, literalBody, if_neg (by simpa using hquote), if_pos htext, ih h]
    rfl

/-! ## Runs of quotes -/

theorem le_longestRun (q : Char) (n : Nat) (cs : List Char) : n ≤ longestRun q n cs := by
  induction cs generalizing n with
  | nil => exact Nat.le_refl n
  | cons c cs ih =>
    unfold longestRun
    split
    · exact Nat.le_of_succ_le (ih (n + 1))
    · exact Nat.le_max_left _ _

theorem longestRun_cons_self (q : Char) (n : Nat) (cs : List Char) :
    longestRun q n (q :: cs) = longestRun q (n + 1) cs := by
  rw [longestRun, if_pos BEq.rfl]

theorem longestRun_cons_of_ne (h : c ≠ q) (n : Nat) (cs : List Char) :
    longestRun q n (c :: cs) = max n (longestRun q 0 cs) := by
  rw [longestRun, if_neg (by simpa using h)]

/-- Without runs, there is no such character. -/
theorem not_mem_of_longestRun (h : longestRun q n cs = 0) : q ∉ cs := by
  induction cs generalizing n with
  | nil => exact List.not_mem_nil
  | cons c cs ih =>
    by_cases hc : c = q
    · subst hc
      rw [longestRun_cons_self] at h
      have hrun := le_longestRun c (n + 1) cs
      omega
    · rw [longestRun_cons_of_ne hc, Nat.max_eq_zero_iff] at h
      exact List.not_mem_cons_of_ne_of_not_mem (Ne.symm hc) (ih h.2)

/-- The run at the beginning of a text goes on with the one before it. -/
theorem takeWhile_le_longestRun (q : Char) (n : Nat) (cs : List Char) :
    n + (cs.takeWhile (· == q)).length ≤ longestRun q n cs := by
  induction cs generalizing n with
  | nil => exact Nat.le_refl n
  | cons c cs ih =>
    by_cases hc : c = q
    · subst hc
      simp only [longestRun_cons_self, List.takeWhile_cons, BEq.rfl, if_true, List.length_cons]
      have hrun := ih (n + 1)
      omega
    · rw [List.takeWhile_cons_of_neg (by simpa using hc)]
      exact le_longestRun q n _

/-- The runs of a text without its first character are not longer. -/
theorem exists_longestRun_le (h : longestRun q n (c :: cs) ≤ k) : ∃ m, longestRun q m cs ≤ k := by
  by_cases hc : c = q
  · subst hc
    rw [longestRun_cons_self] at h
    exact ⟨n + 1, h⟩
  · rw [longestRun_cons_of_ne hc] at h
    exact ⟨0, Nat.le_trans (Nat.le_max_right _ _) h⟩

/-- A run of quotes with the closing ones at its end closes a text, and the others belong to the text. -/
theorem closing_append (hall : ∀ c ∈ cs, c = q) (hlength : cs.length ≤ 2) :
    closing (cs ++ [q, q, q]) rest = some (cs, rest) := by
  -- all quotes are alike, so the last three may be taken off in front
  have hrun : cs ++ [q, q, q] = [q, q, q] ++ cs := by
    rw [List.eq_replicate_of_mem hall]
    show List.replicate cs.length q ++ List.replicate 3 q = List.replicate 3 q ++ List.replicate cs.length q
    rw [List.replicate_append_replicate, List.replicate_append_replicate, Nat.add_comm]
  unfold closing
  rw [hrun, if_pos]
  · rfl
  · rw [List.length_append, List.length_cons, List.length_cons, List.length_singleton]
    omega

/-- **Closing quotes are told from quotes of the text**, if the text begins with two quotes at most. The run
    of quotes at its beginning has the closing ones in it and gives the rest of the text, or is shorter than
    three. -/
theorem closing_or_short (h : (cs.takeWhile (· == q)).length ≤ 2) (hrest : rest.head? ≠ some q)
    (htext : text = cs ++ q :: q :: q :: rest) :
    3 ≤ (text.takeWhile (· == q)).length ∧
        closing (text.takeWhile (· == q)) (text.dropWhile (· == q)) = some (cs, rest) ∧ (∀ c ∈ cs, c = q)
      ∨ (text.takeWhile (· == q)).length < 3 := by
  by_cases hall : ∀ c ∈ cs, c = q
  · left
    have hquotes : ∀ c ∈ cs ++ [q, q, q], (c == q) = true := by
      intro c hc
      rw [beq_iff_eq]
      rcases List.mem_append.mp hc with hc | hc
      · exact hall c hc
      · simpa using hc
    have hstops : Stops (· == q) rest := fun c hc => beq_false_of_ne fun heq => hrest (heq ▸ hc)
    have hsplit : text = (cs ++ [q, q, q]) ++ rest := by
      rw [htext, List.append_assoc]
      rfl
    have htake : text.takeWhile (· == q) = cs ++ [q, q, q] := by
      rw [hsplit, takeWhile_append_of_stops hquotes hstops]
    have hdrop : text.dropWhile (· == q) = rest := by
      rw [hsplit, dropWhile_append_of_stops hquotes hstops]
    have hlength : cs.length ≤ 2 := by
      rwa [List.takeWhile_eq_self_iff.mpr fun c hc => beq_iff_eq.mpr (hall c hc)] at h
    rw [htake, hdrop]
    refine ⟨?_, closing_append hall hlength, hall⟩
    rw [List.length_append, List.length_cons, List.length_cons, List.length_singleton]
    omega
  · right
    have hinside : (cs.takeWhile (· == q)).length ≠ cs.length := by
      intro heq
      have hself := (List.takeWhile_prefix (· == q)).eq_of_length heq
      exact hall fun c hc => beq_iff_eq.mp (List.takeWhile_eq_self_iff.mp hself c hc)
    rw [htext, List.takeWhile_append, if_neg hinside]
    omega

/-- Closing quotes alone close the empty text. -/
theorem closing_nil (hrest : rest.head? ≠ some q) :
    3 ≤ ((q :: q :: q :: rest).takeWhile (· == q)).length ∧
      closing ((q :: q :: q :: rest).takeWhile (· == q)) ((q :: q :: q :: rest).dropWhile (· == q))
        = some ([], rest) := by
  have hshort : (([] : List Char).takeWhile (· == q)).length ≤ 2 := Nat.zero_le 2
  have hclosing := closing_or_short hshort hrest (List.nil_append _).symm
  obtain ⟨hlength, hclosed, -⟩ := hclosing.resolve_right (by simp)
  exact ⟨hlength, hclosed⟩

/-! ## Strings over several lines -/

/-- A carriage return has to be escaped. -/
theorem ne_return (h : c = '\n' ∨ isText c = true) : c ≠ '\r' := by
  rintro rfl
  revert h
  decide

theorem multilineLiteralBody_cons (h : c ≠ '\r') (cs : List Char) :
    multilineLiteralBody (c :: cs) =
      if c == '\'' && 3 ≤ ((c :: cs).takeWhile (· == '\'')).length then
        closing ((c :: cs).takeWhile (· == '\'')) ((c :: cs).dropWhile (· == '\''))
      else if c == '\n' || isText c then prepend (some c) (multilineLiteralBody cs)
      else none := by
  rw [multilineLiteralBody]
  intro _ hc _
  exact h hc

/-- **What is written between triple single quotes reads back.** -/
theorem multilineLiteralBody_append (hrun : longestRun '\'' n cs ≤ 2)
    (htext : ∀ c ∈ cs, c = '\n' ∨ isText c = true) (hrest : rest.head? ≠ some '\'') :
    multilineLiteralBody (cs ++ '\'' :: '\'' :: '\'' :: rest) = some (cs, rest) := by
  induction cs generalizing n with
  | nil =>
    obtain ⟨hlength, hclosed⟩ := closing_nil hrest
    rw [List.nil_append, multilineLiteralBody_cons (by decide), if_pos, hclosed]
    rw [Bool.and_eq_true, decide_eq_true_iff]
    exact ⟨rfl, hlength⟩
  | cons c cs ih =>
    have hclosing := closing_or_short
      (Nat.le_of_add_left_le (Nat.le_trans (takeWhile_le_longestRun _ n _) hrun)) hrest rfl
    rw [List.forall_mem_cons] at htext
    obtain ⟨hc, htext⟩ := htext
    rw [List.cons_append] at hclosing ⊢
    rw [multilineLiteralBody_cons (ne_return hc)]
    split_ifs with hquote hplain
    · rw [Bool.and_eq_true, decide_eq_true_iff] at hquote
      obtain ⟨-, hclosed, -⟩ := hclosing.resolve_right (Nat.not_lt.mpr hquote.2)
      exact hclosed
    · obtain ⟨m, hrun⟩ := exists_longestRun_le hrun
      rw [ih hrun htext]
      rfl
    · exact absurd (by rwa [Bool.or_eq_true, beq_iff_eq]) hplain

/-- A backslash before the letter of a short escape does not stand at the end of a line. -/
theorem endsLine_of_shortEscape? {letter : Char} (h : shortEscape? letter = some c) (more : List Char) :
    endsLine (letter :: more) = false := by
  have hletter : isSpace letter = false ∧ letter ≠ '\n' ∧ letter ≠ '\r' := by
    refine ⟨?_, ?_, ?_⟩
    · rw [isSpace, Bool.or_eq_false_iff, beq_eq_false_iff_ne, beq_eq_false_iff_ne]
      constructor
      · rintro rfl
        cases h
      · rintro rfl
        cases h
    · rintro rfl
      cases h
    · rintro rfl
      cases h
  obtain ⟨hspace, hfeed, hreturn⟩ := hletter
  unfold endsLine skipSpace
  rw [List.dropWhile_cons_of_neg (by simp [hspace]), newline?]
  · rfl
  · exact fun _ h => hfeed (List.cons.inj h).1
  · exact fun _ h => hreturn (List.cons.inj h).1

theorem readsEscapes_multilineBasicBody : ReadsEscapes true (multilineBasicBody false) where
  short := by
    intro letter c h more
    obtain ⟨hu, hU⟩ := ne_of_shortEscape? h
    rw [multilineBasicBody, endsLine_of_shortEscape? h, h]
    · rfl
    · rintro _ _ _ _ _ rfl
      exact absurd rfl hu
    · rintro _ _ _ _ _ _ _ _ _ rfl
      exact absurd rfl hU
  code := by
    intro a b c d more
    rw [multilineBasicBody]
  lineFeed := by
    intro _ more
    rw [multilineBasicBody]
    rfl
  plain := by
    intro c htext hquote hbackslash more
    have hreturn := ne_return (Or.inr htext)
    have hfeed : c ≠ '\n' := by
      rintro rfl
      revert htext
      decide
    rw [multilineBasicBody]
    · simp [htext, hquote, hbackslash]
    all_goals intros; contradiction

theorem multilineBasicBody_quote (cs : List Char) :
    multilineBasicBody false ('"' :: cs) =
      if 3 ≤ (('"' :: cs).takeWhile (· == '"')).length then
        closing (('"' :: cs).takeWhile (· == '"')) (('"' :: cs).dropWhile (· == '"'))
      else prepend (some '"') (multilineBasicBody false cs) := by
  rw [multilineBasicBody]
  · rfl
  all_goals intros; contradiction

/-- The escape of a character does not begin with a quote or a line break, but a line feed may stand for
    itself. -/
theorem exists_escape_eq (breaks : Bool) (c : Char) :
    ∃ d more, escape breaks c = d :: more ∧ d ≠ '"' ∧ d ≠ '\r' ∧ (c ≠ '\n' → d ≠ '\n') := by
  unfold escape
  simp only [escaped, beq_iff_eq, Nat.not_lt_zero, if_false]
  split_ifs with hquote _ _ _ _ hreturn
  all_goals first
    | exact ⟨_, _, rfl, by decide, by decide, fun _ => by decide⟩
    | exact ⟨_, _, rfl, hquote, hreturn, id⟩

/-- Of quotes that stand for themselves, there are never more than two in a row. -/
theorem takeWhile_escaped (h : seen ≤ 2) (cs : List Char) :
    seen + ((escaped 2 true seen cs).takeWhile (· == '"')).length ≤ 2 := by
  induction cs generalizing seen with
  | nil => exact h
  | cons c cs ih =>
    by_cases hraw : c = '"' ∧ seen < 2
    · obtain ⟨rfl, hseen⟩ := hraw
      rw [escaped_quote hseen, List.takeWhile_cons_of_pos rfl, List.length_cons]
      have hrun : seen + 1 + _ ≤ 2 := ih hseen
      omega
    · -- what is escaped ends a run, a third quote too
      obtain ⟨d, more, hescape, hd, -⟩ := exists_escape_eq true c
      rw [escaped_cons hraw, hescape, List.cons_append, List.takeWhile_cons_of_neg (by simpa using hd)]
      exact h

/-- Where nothing but quotes is written, these are the text. -/
theorem escaped_of_quotes (h : ∀ c ∈ escaped allowed breaks seen cs, c = '"') :
    escaped allowed breaks seen cs = cs := by
  induction cs generalizing seen with
  | nil => rfl
  | cons c cs ih =>
    by_cases hraw : c = '"' ∧ seen < allowed
    · obtain ⟨rfl, hseen⟩ := hraw
      rw [escaped_quote hseen] at h ⊢
      rw [ih (List.forall_mem_cons.mp h).2]
    · obtain ⟨d, more, hescape, hd, -⟩ := exists_escape_eq breaks c
      rw [escaped_cons hraw, hescape] at h
      exact absurd (h d List.mem_cons_self) hd

/-- **What is written between triple double quotes reads back.** -/
theorem multilineBasicBody_escaped (hseen : seen ≤ 2) (hrest : rest.head? ≠ some '"') (cs : List Char) :
    multilineBasicBody false (escaped 2 true seen cs ++ '"' :: '"' :: '"' :: rest) = some (cs, rest) := by
  induction cs generalizing seen with
  | nil =>
    obtain ⟨hlength, hclosed⟩ := closing_nil hrest
    rw [escaped, List.nil_append, multilineBasicBody_quote, if_pos hlength, hclosed]
  | cons c cs ih =>
    by_cases hraw : c = '"' ∧ seen < 2
    · -- the quote is of the closing run, or of a shorter one
      have hclosing := closing_or_short (Nat.le_of_add_left_le (takeWhile_escaped hseen (c :: cs))) hrest rfl
      obtain ⟨rfl, hlt⟩ := hraw
      rw [escaped_quote hlt, List.cons_append] at hclosing ⊢
      rw [multilineBasicBody_quote]
      split_ifs with hlength
      · obtain ⟨-, hclosed, hall⟩ := hclosing.resolve_right (Nat.not_lt.mpr hlength)
        rw [hclosed, escaped_of_quotes (List.forall_mem_cons.mp hall).2]
      · rw [ih hlt]
        rfl
    · rw [escaped_cons hraw, List.append_assoc, readsEscapes_multilineBasicBody.read_escape,
        ih (Nat.zero_le 2)]
      rfl

/-! ## Strings of any kind -/

/-- A text that is written as a literal has something in it, and nothing in it has a meaning there. -/
theorem of_stringKind_literal (h : stringKind cs = .literal) :
    cs ≠ [] ∧ ∀ c ∈ cs, isText c = true ∧ c ≠ '\'' := by
  constructor
  · rintro rfl
    cases h
  · simp only [stringKind] at h
    split_ifs at h with hbasic hliteral
    simp only [Bool.and_eq_true, Bool.not_eq_true', List.any_eq_false, beq_iff_eq, List.contains_eq_mem,
      decide_eq_false_iff_not] at hliteral
    obtain ⟨⟨hcontrols, hsingles⟩, hbreaks⟩ := hliteral
    intro c hc
    have hfeed : c ≠ '\n' := fun heq => hbreaks (heq ▸ hc)
    exact ⟨isText_of_not_needsEscape (hcontrols c hc) hfeed,
      fun heq => not_mem_of_longestRun hsingles (heq ▸ hc)⟩

/-- A text that is written as a literal over several lines has no longer run of quotes than two. -/
theorem of_stringKind_multilineLiteral (h : stringKind cs = .multilineLiteral) :
    longestRun '\'' 0 cs ≤ 2 ∧ ∀ c ∈ cs, c = '\n' ∨ isText c = true := by
  simp only [stringKind] at h
  split_ifs at h with hbasic hliteral hdouble hsingle
  simp only [Bool.and_eq_true, Bool.not_eq_true', List.any_eq_false, decide_eq_true_iff] at hsingle
  obtain ⟨hcontrols, hsingles⟩ := hsingle
  refine ⟨hsingles, ?_⟩
  intro c hc
  rw [or_iff_not_imp_left]
  exact isText_of_not_needsEscape (hcontrols c hc)

/-- The text between triple delimiters, with the line break in front of it that does not count. -/
theorem skipNewline_multiline (body : List Char) (h : '\n' ∉ cs → skipNewline body = body) :
    skipNewline ((if cs.contains '\n' then ['\n'] else []) ++ body) = body := by
  by_cases hbreaks : '\n' ∈ cs
  · rw [if_pos (by simpa using hbreaks)]
    rfl
  · rw [if_neg (by simpa using hbreaks)]
    exact h hbreaks

theorem skipNewline_cons (hfeed : c ≠ '\n') (hreturn : c ≠ '\r') (cs : List Char) :
    skipNewline (c :: cs) = c :: cs := by
  unfold skipNewline
  rw [newline?]
  · rfl
  · exact fun _ h => hfeed (List.cons.inj h).1
  · exact fun _ h => hreturn (List.cons.inj h).1

/-- The text between triple double quotes does not begin with a line break if it has none. -/
theorem skipNewline_escaped (h : '\n' ∉ cs) (more : List Char) :
    skipNewline (escaped 2 true 0 cs ++ '"' :: more) = escaped 2 true 0 cs ++ '"' :: more := by
  cases cs with
  | nil => exact skipNewline_cons (by decide) (by decide) more
  | cons c cs =>
    rw [List.mem_cons, not_or] at h
    by_cases hraw : c = '"' ∧ 0 < 2
    · obtain ⟨rfl, hlt⟩ := hraw
      rw [escaped_quote hlt]
      exact skipNewline_cons (by decide) (by decide) _
    · obtain ⟨d, after, hescape, -, hreturn, hfeed⟩ := exists_escape_eq true c
      rw [escaped_cons hraw, hescape]
      exact skipNewline_cons (hfeed (Ne.symm h.1)) hreturn _

/-- The text between triple single quotes does not begin with a line break if it has none. -/
theorem skipNewline_literal (h : '\n' ∉ cs) (htext : ∀ c ∈ cs, c = '\n' ∨ isText c = true) (more : List Char) :
    skipNewline (cs ++ '\'' :: more) = cs ++ '\'' :: more := by
  cases cs with
  | nil => exact skipNewline_cons (by decide) (by decide) more
  | cons c cs =>
    rw [List.mem_cons, not_or] at h
    exact skipNewline_cons (Ne.symm h.1) (ne_return (htext c List.mem_cons_self)) _

/-- A quote without two more behind it opens a string on one line. -/
theorem stringLiteral_of_line (h : ∀ more, text ≠ q :: q :: more) :
    stringLiteral (q :: text) = lineString (q :: text) := by
  rw [stringLiteral]
  · rintro more heq
    cases heq
    exact h more rfl
  · rintro more heq
    cases heq
    exact h more rfl

theorem stringLiteral_basic (cs : List Char) (hrest : rest.head? ≠ some '"') :
    stringLiteral ('"' :: (escaped 0 false 0 cs ++ '"' :: rest)) = some (String.ofList cs, rest) := by
  rw [stringLiteral_of_line, lineString, basicBody_escaped]
  · rfl
  · intro more heq
    cases cs with
    | nil =>
      rw [(List.cons.inj heq).2] at hrest
      exact hrest rfl
    | cons c cs =>
      obtain ⟨d, after, hescape, hd, -⟩ := exists_escape_eq false c
      rw [escaped_cons fun h => Nat.not_lt_zero 0 h.2, hescape] at heq
      exact hd (List.cons.inj heq).1

theorem stringLiteral_literal (hne : cs ≠ []) (h : ∀ c ∈ cs, isText c = true ∧ c ≠ '\'') :
    stringLiteral ('\'' :: (cs ++ '\'' :: rest)) = some (String.ofList cs, rest) := by
  rw [stringLiteral_of_line, lineString, literalBody_append h]
  · rfl
  · intro more heq
    obtain ⟨c, cs, rfl⟩ := List.exists_cons_of_ne_nil hne
    exact (h c List.mem_cons_self).2 (List.cons.inj heq).1

/-- **A string reads back as it was written**, whatever is in it, if no quote follows it. -/
theorem stringLiteral_printString (s : String) (hdouble : rest.head? ≠ some '"')
    (hsingle : rest.head? ≠ some '\'') :
    stringLiteral ((printString s).toList ++ rest) = some (s, rest) := by
  unfold printString
  rw [String.toList_ofList]
  cases hkind : stringKind s.toList with
  | basic =>
    simp only [List.cons_append, List.append_assoc, List.nil_append]
    rw [stringLiteral_basic s.toList hdouble, String.ofList_toList]
  | literal =>
    obtain ⟨hne, htext⟩ := of_stringKind_literal hkind
    simp only [List.cons_append, List.append_assoc, List.nil_append]
    rw [stringLiteral_literal hne htext, String.ofList_toList]
  | multilineBasic =>
    simp only [multiline, List.cons_append, List.nil_append, List.append_assoc, stringLiteral]
    rw [skipNewline_multiline _ fun h => skipNewline_escaped h _,
      multilineBasicBody_escaped (Nat.zero_le 2) hdouble]
    exact congrArg (fun s => some (s, rest)) String.ofList_toList
  | multilineLiteral =>
    obtain ⟨hrun, htext⟩ := of_stringKind_multilineLiteral hkind
    simp only [multiline, List.cons_append, List.nil_append, List.append_assoc, stringLiteral]
    rw [skipNewline_multiline, multilineLiteralBody_append hrun htext hsingle]
    · exact congrArg (fun s => some (s, rest)) String.ofList_toList
    · exact fun hbreaks => skipNewline_literal hbreaks htext _

end Toml
end JavaSource
