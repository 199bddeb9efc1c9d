import JavaSource.Proofs.Toml.Setting
import JavaSource.Toml.Document
import Mathlib.Data.List.Nodup

/-!
# `Proofs.Toml.Line` — written lines read back as statements

The lines of a document are read one after another (`IsLines.append`), so a written document is read as its
lines are: the header of a section as one (`statement_header`), and a setting as an assignment
(`statement_setting`), as the names are keys without quotes. Together, these are the statements of the
document (`isLines_document`).
-/

namespace JavaSource
namespace Toml
open Text

variable {c : Char} {name : String} {cs line rest text : List Char} {ss ts : List Statement} {s : Statement}

/-! ## Keys -/

/-- A name that is a key without quotes. -/
def IsBareKey (name : String) : Prop := name.toList ≠ [] ∧ ∀ c ∈ name.toList, isBareKeyChar c = true

instance : Decidable (IsBareKey name) :=
  decidable_of_iff (name.toList ≠ [] ∧ name.toList.all isBareKeyChar = true)
    (and_congr_right' List.all_eq_true)

theorem ne_of_isBareKeyChar {d : Char} (hc : isBareKeyChar c = true) (hd : isBareKeyChar d = false) : c ≠ d := by
  rintro rfl
  rw [hc] at hd
  cases hd

/-- A key has a first character. -/
theorem IsBareKey.exists_cons (h : IsBareKey name) : ∃ c cs, name.toList = c :: cs ∧ isBareKeyChar c = true := by
  obtain ⟨c, cs, heq⟩ := List.exists_cons_of_ne_nil h.1
  exact ⟨c, cs, heq, h.2 c (heq ▸ List.mem_cons_self)⟩

theorem simpleKey_append (h : IsBareKey name) (hrest : Stops isBareKeyChar rest) :
    simpleKey (name.toList ++ rest) = some (name, rest) := by
  have htake := takeWhile_append_of_stops h.2 hrest
  have hdrop := dropWhile_append_of_stops h.2 hrest
  obtain ⟨c, cs, heq, hc⟩ := h.exists_cons
  have hquote : ¬ (c == '"' || c == '\'') = true := by
    rw [Bool.or_eq_true, beq_iff_eq, beq_iff_eq]
    exact not_or.mpr ⟨ne_of_isBareKeyChar hc (by decide), ne_of_isBareKeyChar hc (by decide)⟩
  have hname : String.ofList (c :: cs) = name := by rw [← heq, String.ofList_toList]
  rw [heq, List.cons_append] at htake hdrop ⊢
  rw [simpleKey, if_neg hquote, if_pos hc, htake, hdrop, hname]

/-- A name is not taken for blanks. -/
theorem skipSpace_append (h : IsBareKey name) (rest : List Char) :
    skipSpace (name.toList ++ rest) = name.toList ++ rest := by
  obtain ⟨c, cs, heq, hc⟩ := h.exists_cons
  rw [heq]
  apply List.dropWhile_cons_of_neg
  rw [isSpace, Bool.or_eq_true, beq_iff_eq, beq_iff_eq]
  exact not_or.mpr ⟨ne_of_isBareKeyChar hc (by decide), ne_of_isBareKeyChar hc (by decide)⟩

/-- **A key without dots is read as it is**, with the blanks behind it. -/
theorem dottedKey_append (h : IsBareKey name) (hrest : Stops isBareKeyChar rest)
    (hdot : ∀ c ∈ (skipSpace rest).head?, c ≠ '.') :
    dottedKey (name.toList ++ rest) = some ([name], skipSpace rest) := by
  show keyParts 79 (name.toList ++ rest) = _
  rw [keyParts, skipSpace_append h, simpleKey_append h hrest]
  dsimp only
  split
  · next heq =>
    rw [heq] at hdot
    exact absurd rfl (hdot '.' rfl)
  · rfl

/-! ## Lines -/

/-- A text is a list of whole lines, with these statements on them, whatever lines follow. -/
def IsLines (text : List Char) (ss : List Statement) : Prop :=
  ∃ count ≤ text.length, ∀ fuel rest,
    statementsWithin (fuel + count) (text ++ rest) = (statementsWithin fuel rest).map (ss ++ ·)

theorem isLines_nil : IsLines [] [] := by
  refine ⟨0, Nat.le_refl 0, fun fuel rest => ?_⟩
  show statementsWithin fuel rest = (statementsWithin fuel rest).map id
  rw [Option.map_id_fun, id]

/-- **Lines are read one after another.** -/
theorem IsLines.append {more : List Char} (h : IsLines text ss) (h' : IsLines more ts) :
    IsLines (text ++ more) (ss ++ ts) := by
  obtain ⟨m, hm, hread⟩ := h
  obtain ⟨n, hn, hmore⟩ := h'
  refine ⟨n + m, by rw [List.length_append]; omega, ?_⟩
  intro fuel rest
  rw [← Nat.add_assoc, List.append_assoc, hread, hmore, Option.map_map]
  congr 1
  funext us
  exact (List.append_assoc ss ts us).symm

/-- Blank lines hold no statements. -/
theorem isLines_blank : IsLines ['\n'] [] :=
  ⟨1, Nat.le_refl 1, fun fuel rest => by
    show statementsWithin fuel rest = (statementsWithin fuel rest).map id
    rw [Option.map_id_fun, id]⟩

/-- Characters at the beginning of a line with which no statement begins. -/
def lineStarts : List Char := [' ', '\t', '\n', '\r', '#']

theorem not_mem_lineStarts_of_isBareKeyChar (h : isBareKeyChar c = true) : c ∉ lineStarts := by
  have hnone : lineStarts.all (fun d => !isBareKeyChar d) = true := by decide
  intro hc
  have hbare := List.all_eq_true.mp hnone c hc
  rw [h] at hbare
  cases hbare

/-- **A statement and a line break are a line**, if the statement does not begin like something else. -/
theorem isLines_singleton (hline : line = c :: cs) (hfirst : c ∉ lineStarts)
    (hread : ∀ rest, statement (line ++ '\n' :: rest) = some (s, '\n' :: rest)) :
    IsLines (line ++ ['\n']) [s] := by
  refine ⟨1, by simp, fun fuel rest => ?_⟩
  simp only [lineStarts, List.mem_cons, List.not_mem_nil, or_false, not_or] at hfirst
  obtain ⟨hblank, htab, hfeed, hreturn, hcomment⟩ := hfirst
  have hspace : skipSpace (c :: (cs ++ '\n' :: rest)) = c :: (cs ++ '\n' :: rest) := by
    apply List.dropWhile_cons_of_neg
    rw [isSpace, Bool.or_eq_true, beq_iff_eq, beq_iff_eq]
    exact not_or.mpr ⟨hblank, htab⟩
  have hskipped : ¬ (c == '\n' || c == '\r' || c == '#') = true := by
    rw [Bool.or_eq_true, Bool.or_eq_true, beq_iff_eq, beq_iff_eq, beq_iff_eq]
    exact not_or.mpr ⟨not_or.mpr ⟨hfeed, hreturn⟩, hcomment⟩
  have hstatement := hread rest
  rw [hline, List.cons_append] at hstatement
  rw [List.append_assoc, hline, List.cons_append, List.singleton_append, statementsWithin, hspace]
  simp only [hskipped, hstatement]
  rfl

/-- Reading the statements of whole lines. -/
theorem IsLines.statements (h : IsLines text ss) (hmark : text.head? ≠ some '\ufeff') :
    statements text = some ss := by
  obtain ⟨count, hcount, hread⟩ := h
  have hskip : skipByteOrderMark text = text := by
    cases text with
    | nil => rfl
    | cons c cs => rw [skipByteOrderMark, if_neg (by simpa using hmark)]
  -- there is fuel for one more than all the lines, which is for the end of the text
  have hfuel : text.length + 2 = (text.length - count + 1) + 1 + count := by omega
  have hlines := hread (text.length - count + 1 + 1) []
  rw [List.append_nil] at hlines
  rw [Toml.statements, hskip, hfuel, hlines]
  show some (ss ++ []) = some ss
  rw [List.append_nil]

/-! ## Written lines -/

/-- The statement that a written setting is. -/
def settingStatement (entry : String × Setting) : Statement := .assign ([], entry.1, entry.2.toValue)

/-- The statements of a section as it is written. -/
def sectionStatements (s : Section) : List Statement := .openTable [] s.1 :: s.2.map settingStatement

theorem skipSpace_print (x : Setting) (rest : List Char) :
    skipSpace (x.print.toList ++ rest) = x.print.toList ++ rest := by
  obtain ⟨c, cs, heq, hc⟩ := exists_print_eq x
  rw [heq]
  exact List.dropWhile_cons_of_neg (by simp [hc])

theorem statement_cons (h : c ≠ '[') (cs : List Char) :
    statement (c :: cs) = (assignment value (c :: cs)).map fun (a, rest) => (.assign a, rest) := by
  rw [statement]
  intro _ heq
  exact h (List.cons.inj heq).1

/-- **The line of a setting is read as an assignment.** -/
theorem statement_setting {x : Setting} (hname : IsBareKey name) (hvalue : x.isWritable = true) (rest : List Char) :
    statement (name.toList ++ ' ' :: '=' :: ' ' :: (x.print.toList ++ '\n' :: rest))
      = some (settingStatement (name, x), '\n' :: rest) := by
  have hkey : dottedKey (name.toList ++ ' ' :: '=' :: ' ' :: (x.print.toList ++ '\n' :: rest))
      = some ([name], '=' :: ' ' :: (x.print.toList ++ '\n' :: rest)) :=
    dottedKey_append hname (by rintro c ⟨⟩; rfl) (by rintro c ⟨⟩; decide)
  have hread : value (skipSpace (' ' :: (x.print.toList ++ '\n' :: rest))) = some (x.toValue, '\n' :: rest) := by
    show value (skipSpace (x.print.toList ++ '\n' :: rest)) = _
    rw [skipSpace_print, value_print hvalue]
  have hassign : assignment value (name.toList ++ ' ' :: '=' :: ' ' :: (x.print.toList ++ '\n' :: rest))
      = some (([], name, x.toValue), '\n' :: rest) := by
    unfold assignment
    rw [hkey]
    simp only [splitKey, hread]
  obtain ⟨c, cs, heq, hc⟩ := hname.exists_cons
  rw [heq, List.cons_append] at hassign ⊢
  rw [statement_cons (ne_of_isBareKeyChar hc (by decide)), hassign]
  rfl

/-- **The header of a section is read as one.** -/
theorem statement_header (hname : IsBareKey name) (rest : List Char) :
    statement ('[' :: (name.toList ++ ']' :: '\n' :: rest)) = some (.openTable [] name, '\n' :: rest) := by
  have hkey : dottedKey (name.toList ++ ']' :: '\n' :: rest) = some ([name], ']' :: '\n' :: rest) :=
    dottedKey_append hname (by rintro c ⟨⟩; rfl) (by rintro c ⟨⟩; decide)
  obtain ⟨c, cs, heq, hc⟩ := hname.exists_cons
  rw [heq, List.cons_append] at hkey ⊢
  rw [statement, header, hkey]
  · rfl
  · intro _ hopen
    exact ne_of_isBareKeyChar hc (by decide) (List.cons.inj hopen).1

theorem isLines_setting {entry : String × Setting} (hname : IsBareKey entry.1) (hvalue : entry.2.isWritable = true) :
    IsLines (entry.1 ++ " = " ++ entry.2.print ++ "\n").toList [settingStatement entry] := by
  obtain ⟨name, x⟩ := entry
  obtain ⟨c, cs, heq, hc⟩ := hname.exists_cons
  rw [String.toList_append]
  apply isLines_singleton
  · rw [String.toList_append, String.toList_append, heq]
    rfl
  · exact not_mem_lineStarts_of_isBareKeyChar hc
  · intro rest
    rw [← statement_setting hname hvalue rest, String.toList_append, String.toList_append, List.append_assoc,
      List.append_assoc]
    rfl

/-- Settings are read one after another. -/
theorem isLines_settings {settings : List (String × Setting)}
    (h : ∀ entry ∈ settings, IsBareKey entry.1 ∧ entry.2.isWritable = true) :
    IsLines (settings.flatMap fun entry => (entry.1 ++ " = " ++ entry.2.print ++ "\n").toList)
      (settings.map settingStatement) := by
  induction settings with
  | nil => exact isLines_nil
  | cons entry settings ih =>
    obtain ⟨⟨hname, hvalue⟩, h⟩ := List.forall_mem_cons.mp h
    exact (isLines_setting hname hvalue).append (ih h)

theorem isLines_header (hname : IsBareKey name) :
    IsLines ("[" ++ name ++ "]\n").toList [.openTable [] name] := by
  have htext : ("[" ++ name ++ "]\n").toList = '[' :: (name.toList ++ [']']) ++ ['\n'] := by
    rw [String.toList_append, String.toList_append]
    simp
  rw [htext]
  apply isLines_singleton rfl (by decide)
  intro rest
  rw [← statement_header hname rest, List.cons_append, List.append_assoc]
  rfl

/-- A document can hold a section. -/
structure IsWritableSection (s : Section) : Prop where
  name : IsBareKey s.1
  settings : ∀ entry ∈ s.2, IsBareKey entry.1 ∧ entry.2.isWritable = true
  nodup : (s.2.map Prod.fst).Nodup

instance {s : Section} : Decidable (IsWritableSection s) :=
  decidable_of_iff (IsBareKey s.1 ∧ (∀ entry ∈ s.2, IsBareKey entry.1 ∧ entry.2.isWritable = true)
      ∧ (s.2.map Prod.fst).Nodup)
    ⟨fun ⟨hname, hsettings, hnodup⟩ => ⟨hname, hsettings, hnodup⟩, fun h => ⟨h.name, h.settings, h.nodup⟩⟩

theorem isLines_section {s : Section} (h : IsWritableSection s) :
    IsLines (printSection s).toList (sectionStatements s) := by
  unfold printSection
  rw [String.toList_append, String.toList_join, List.flatMap_map]
  exact (isLines_header h.name).append (isLines_settings h.settings)

/-- **A document is read section by section.** -/
theorem isLines_document {sections : List Section} (h : ∀ s ∈ sections, IsWritableSection s) :
    IsLines (printDocument sections).toList (sections.flatMap sectionStatements) := by
  induction sections with
  | nil => exact isLines_nil
  | cons s sections ih =>
    obtain ⟨hs, h⟩ := List.forall_mem_cons.mp h
    cases sections with
    | nil =>
      rw [List.flatMap_singleton]
      exact isLines_section hs
    | cons t sections =>
      show IsLines (printSection s ++ "\n" ++ printDocument (t :: sections)).toList _
      rw [String.toList_append, String.toList_append, List.flatMap_cons, ← List.append_nil (sectionStatements s)]
      exact ((isLines_section hs).append isLines_blank).append (ih h)

end Toml
end JavaSource
