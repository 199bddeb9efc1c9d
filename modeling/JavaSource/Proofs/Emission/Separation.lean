import JavaSource.Proofs.ClassDecl.Completeness
import JavaSource.Proofs.Emission.Layout
import JavaSource.Proofs.Emission.Origin
import JavaSource.Text.Pieces

/-!
# `Proofs.Emission.Separation` — which settings bear on which lines

`Text.inkedLines` is what a reader sees of a text who overlooks indentation and blank lines. The settings for
the layout cannot be seen in this way: printed lines have the same ink under any indentation
(`Line.inkedLines_printAll`), and so have blocks that are stacked with or without blank lines between them
(`Line.ink_stack`). Of the settings for imports, the implicit packages bear on the import block alone, where
each of them takes out its own lines (`Emitter.visibleImports_of_subset`), and the rest of the unit only asks
whether clashing names are qualified.
-/

namespace JavaSource

/-! ## Lines without their indentation -/

namespace Text

/-- The lines of a text without the blanks that they begin with; those of blanks alone are left out. -/
def inkedLines (cs : List Char) : List (List Char) :=
  ((pieces '\n' cs).map (List.dropWhile isBlank)).filter fun line => !line.isEmpty

/-- A line break parts the lines before it from those after it. -/
theorem inkedLines_append_newline (cs ds : List Char) :
    inkedLines (cs ++ '\n' :: ds) = inkedLines cs ++ inkedLines ds := by
  unfold inkedLines
  rw [pieces_append_sep, List.map_append, List.filter_append]

/-- A blank in front of a text is not seen: it belongs to the indentation of the first line, or ends a line
    that is blank. -/
theorem inkedLines_cons_of_isBlank {c : Char} (hc : isBlank c = true) (cs : List Char) :
    inkedLines (c :: cs) = inkedLines cs := by
  by_cases hbreak : c = '\n'
  · rw [hbreak]
    exact inkedLines_append_newline [] cs
  · unfold inkedLines
    rw [pieces, if_neg hbreak]
    cases hp : pieces '\n' cs with
    | nil => exact absurd hp (pieces_ne_nil '\n' cs)
    | cons piece rest =>
      show List.filter _ ((c :: piece).dropWhile isBlank :: rest.map (List.dropWhile isBlank)) = _
      rw [List.dropWhile_cons_of_pos hc]
      rfl

theorem inkedLines_blanks_append {bs : List Char} (h : ∀ b ∈ bs, isBlank b = true) (cs : List Char) :
    inkedLines (bs ++ cs) = inkedLines cs := by
  induction bs with
  | nil => rfl
  | cons b bs ih =>
    rw [List.forall_mem_cons] at h
    rw [List.cons_append, inkedLines_cons_of_isBlank h.1, ih h.2]

/-- A text that begins with ink and has no line break is one line. -/
theorem inkedLines_of_not_mem {c : Char} {cs : List Char} (hc : isBlank c = false) (h : '\n' ∉ c :: cs) :
    inkedLines (c :: cs) = [c :: cs] := by
  unfold inkedLines
  rw [pieces_of_not_mem h, List.map_singleton, List.dropWhile_cons_of_neg (ne_true_of_eq_false hc)]
  rfl

end Text

open Text

/-! ## Printed lines -/

namespace Line

/-- What is seen of a line, apart from its indentation. It is more than one line if the text has line breaks
    of its own. -/
def ink : Line → List (List Char)
  | .blank => []
  | .code _ text => inkedLines text.toList

theorem isBlank_of_mem_indentation {unit : String} (hunit : ∀ c ∈ unit.toList, isBlank c = true)
    (depth : Nat) : ∀ c ∈ (indentation unit depth).toList, isBlank c = true := by
  induction depth with
  | zero => exact fun c hc => nomatch hc
  | succ depth ih =>
    rw [indentation, String.toList_append]
    exact List.forall_mem_append.mpr ⟨hunit, ih⟩

/-- A printed line is seen, and then what follows it. -/
theorem inkedLines_print_append {unit : String} (hunit : ∀ c ∈ unit.toList, isBlank c = true) (line : Line)
    (rest : List Char) : inkedLines ((line.print unit).toList ++ rest) = line.ink ++ inkedLines rest := by
  cases line with
  | blank =>
    have hprint : (print unit .blank).toList ++ rest = '\n' :: rest := by simp [print]
    rw [hprint]
    exact inkedLines_append_newline [] rest
  | code depth text =>
    have hprint : (print unit (.code depth text)).toList ++ rest =
        (indentation unit depth).toList ++ (text.toList ++ '\n' :: rest) := by
      simp [print, String.toList_append]
    rw [hprint, inkedLines_blanks_append (isBlank_of_mem_indentation hunit depth), inkedLines_append_newline]
    rfl

/-- **What is seen of printed lines does not depend on the indentation**, as long as it is blank. -/
theorem inkedLines_printAll {unit : String} (hunit : ∀ c ∈ unit.toList, isBlank c = true)
    (lines : List Line) : inkedLines (printAll unit lines).toList = lines.flatMap ink := by
  induction lines with
  | nil => rfl
  | cons line lines ih =>
    rw [printAll, String.toList_append, inkedLines_print_append hunit, ih, List.flatMap_cons]

/-- **What is seen of a stack does not depend on the gaps.** -/
theorem ink_stack (separate : Bool) (blocks : List (List Line)) :
    (stack separate blocks).flatMap ink = blocks.flatten.flatMap ink := flatMap_stack rfl separate blocks

end Line

/-- One level of indentation is blank. -/
theorem FormatConfig.isBlank_of_mem_indentUnit (c : FormatConfig) :
    ∀ b ∈ c.indentUnit.toList, isBlank b = true := by
  intro b hb
  unfold indentUnit at hb
  cases hstyle : c.indentStyle with
  | spaces =>
    rw [hstyle, String.toList_ofList] at hb
    rw [List.eq_of_mem_replicate hb]
    rfl
  | tabs =>
    have htab : b = '\t' := by simpa [hstyle] using hb
    rw [htab]
    rfl

/-! ## The text of a unit in three pieces -/

namespace Emitter

variable {e f : Emitter} {d : ClassDecl} {c : ClassRef}

/-- The text of a unit above its imports. -/
def packageText (e : Emitter) (d : ClassDecl) : String := Line.printAll e.format.indentUnit (packageLines d)

/-- The import block of a unit. -/
def importText (e : Emitter) (d : ClassDecl) : String := Line.printAll e.format.indentUnit (e.importLines d)

/-- The text of a unit below its imports. -/
def declarationText (e : Emitter) (d : ClassDecl) : String :=
  Line.printAll e.format.indentUnit (e.declarationLines d)

theorem emit_eq (e : Emitter) (d : ClassDecl) :
    e.emit d = e.packageText d ++ e.importText d ++ e.declarationText d := by
  unfold emit unitLines packageText importText declarationText
  rw [Line.printAll_append, Line.printAll_append]

theorem inkedLines_packageText (e : Emitter) (d : ClassDecl) :
    inkedLines (e.packageText d).toList = (packageLines d).flatMap Line.ink :=
  Line.inkedLines_printAll e.format.isBlank_of_mem_indentUnit _

theorem inkedLines_declarationText (e : Emitter) (d : ClassDecl) :
    inkedLines (e.declarationText d).toList = (e.declarationLines d).flatMap Line.ink :=
  Line.inkedLines_printAll e.format.isBlank_of_mem_indentUnit _

/-- **The import block is the written imports**, in their order. -/
theorem inkedLines_importText (e : Emitter) (d : ClassDecl) :
    inkedLines (e.importText d).toList = (e.visibleImports d).flatMap fun c => (importLine c).ink := by
  have hprint : inkedLines (e.importText d).toList = (e.importLines d).flatMap Line.ink :=
    Line.inkedLines_printAll e.format.isBlank_of_mem_indentUnit _
  rw [hprint]
  unfold importLines
  cases e.visibleImports d with
  | nil => rfl
  | cons c cs =>
    rw [List.flatMap_append, List.flatMap_map]
    exact List.append_nil _

/-- The pieces of the text end with their lines, so the lines that are seen are those of the pieces. -/
theorem inkedLines_emit (e : Emitter) (d : ClassDecl) :
    inkedLines (e.emit d).toList =
      inkedLines (e.packageText d).toList ++ inkedLines (e.importText d).toList
        ++ inkedLines (e.declarationText d).toList := by
  have hemit : inkedLines (e.emit d).toList = (e.unitLines d).flatMap Line.ink :=
    Line.inkedLines_printAll e.format.isBlank_of_mem_indentUnit _
  have himport : inkedLines (e.importText d).toList = (e.importLines d).flatMap Line.ink :=
    Line.inkedLines_printAll e.format.isBlank_of_mem_indentUnit _
  rw [hemit, himport, inkedLines_packageText, inkedLines_declarationText]
  unfold unitLines
  rw [List.flatMap_append, List.flatMap_append]

/-! ## Below the imports -/

/-- **Below the imports, only the way of writing clashing names can be seen.** -/
theorem ink_declarationLines (hq : e.imports.qualifyConflicts = f.imports.qualifyConflicts) (d : ClassDecl) :
    (e.declarationLines d).flatMap Line.ink = (f.declarationLines d).flatMap Line.ink := by
  unfold declarationLines
  rw [hq]
  simp only [List.flatMap_append, List.flatMap_cons, Line.ink_stack]

/-! ## The import block -/

/-- The line for a class whose name has no line break. -/
theorem ink_importLine (h : '\n' ∉ c.fullName.toList) :
    (importLine c).ink = [("import " ++ c.fullName ++ ";").toList] := by
  have hlist : ("import " ++ c.fullName ++ ";").toList =
      'i' :: (['m', 'p', 'o', 'r', 't', ' '] ++ c.fullName.toList ++ [';']) := by
    simp [String.toList_append]
  show inkedLines ("import " ++ c.fullName ++ ";").toList = _
  rw [hlist]
  refine inkedLines_of_not_mem (by decide) ?_
  simp [h]

theorem visibleImports_sublist (e : Emitter) (d : ClassDecl) :
    (e.visibleImports d).Sublist d.imports.classes :=
  List.filter_sublist.trans List.filter_sublist

theorem visibleImports_congr (h : e.imports.implicitPackages = f.imports.implicitPackages) (d : ClassDecl) :
    e.visibleImports d = f.visibleImports d := by
  unfold visibleImports isImplicit ImportsConfig.isImplicit
  rw [h]

theorem isImplicit_iff :
    e.isImplicit c = true ↔ ∃ p, c.packageName? = some p ∧ p ∈ e.imports.implicitPackages := by
  unfold isImplicit ImportsConfig.isImplicit
  cases c.packageName? with
  | none => simp
  | some p => simp

/-- **More implicit packages take out their own lines**, and leave the other ones in their order. -/
theorem visibleImports_of_subset (h : e.imports.implicitPackages ⊆ f.imports.implicitPackages)
    (d : ClassDecl) : f.visibleImports d = (e.visibleImports d).filter fun c => !f.isImplicit c := by
  have hmono : ∀ c, e.isImplicit c = true → f.isImplicit c = true := by
    intro c hc
    obtain ⟨p, hp, hmem⟩ := isImplicit_iff.mp hc
    exact isImplicit_iff.mpr ⟨p, hp, h hmem⟩
  -- three filters of the same imports, of which the two for implicit packages come down to the stricter one
  unfold visibleImports
  rw [List.filter_filter, List.filter_filter, List.filter_filter]
  refine List.filter_congr fun c _ => ?_
  cases hf : f.isImplicit c with
  | true => simp
  | false =>
    have he : e.isImplicit c = false := by
      rw [← Bool.not_eq_true]
      intro he
      rw [hmono c he] at hf
      cases hf
    simp [he]

/-- **The settings can be told apart in the output.** A unit is the text above its imports, the import block
    and the text below. Two emitters that treat clashing names alike write the same above and below the
    imports, but for indentation and blank lines. The import block is the written imports, in the order in
    which they were derived, one line for each class whose name has no line break; the implicit packages alone
    bear on it, and more of them take out their own lines. -/
theorem emit_separable (hq : e.imports.qualifyConflicts = f.imports.qualifyConflicts) (d : ClassDecl) :
    (∀ g : Emitter, g.emit d = g.packageText d ++ g.importText d ++ g.declarationText d
      ∧ inkedLines (g.emit d).toList =
        inkedLines (g.packageText d).toList ++ inkedLines (g.importText d).toList
          ++ inkedLines (g.declarationText d).toList
      ∧ inkedLines (g.importText d).toList = ((g.visibleImports d).flatMap fun c => (importLine c).ink)
      ∧ (g.visibleImports d).Sublist d.imports.classes)
    ∧ (∀ c : ClassRef, '\n' ∉ c.fullName.toList →
      (importLine c).ink = [("import " ++ c.fullName ++ ";").toList])
    ∧ inkedLines (e.packageText d).toList = inkedLines (f.packageText d).toList
    ∧ inkedLines (e.declarationText d).toList = inkedLines (f.declarationText d).toList
    ∧ (e.imports.implicitPackages = f.imports.implicitPackages →
      e.visibleImports d = f.visibleImports d
      ∧ inkedLines (e.emit d).toList = inkedLines (f.emit d).toList)
    ∧ (e.imports.implicitPackages ⊆ f.imports.implicitPackages →
      f.visibleImports d = (e.visibleImports d).filter (fun c => !f.isImplicit c)
      ∧ inkedLines (f.importText d).toList =
        ((e.visibleImports d).filter fun c => !f.isImplicit c).flatMap fun c => (importLine c).ink) := by
  have habove : inkedLines (e.packageText d).toList = inkedLines (f.packageText d).toList := by
    rw [inkedLines_packageText, inkedLines_packageText]
  have hbelow : inkedLines (e.declarationText d).toList = inkedLines (f.declarationText d).toList := by
    rw [inkedLines_declarationText, inkedLines_declarationText, ink_declarationLines hq d]
  refine ⟨?_, fun c => ink_importLine, habove, hbelow, ?_, ?_⟩
  · intro g
    exact ⟨emit_eq g d, inkedLines_emit g d, inkedLines_importText g d, visibleImports_sublist g d⟩
  · intro himplicit
    have hvisible := visibleImports_congr himplicit d
    refine ⟨hvisible, ?_⟩
    rw [inkedLines_emit, inkedLines_emit, habove, hbelow, inkedLines_importText, inkedLines_importText,
      hvisible]
  · intro hsub
    have hvisible := visibleImports_of_subset hsub d
    refine ⟨hvisible, ?_⟩
    rw [inkedLines_importText, hvisible]

/-- An emitter with a compact layout and one implicit package more than usual. -/
def compact : Emitter where
  imports := { implicitPackages := ["java.lang", "java.util"] }
  format := { indentStyle := .tabs, blankLineBetweenMembers := false }

/-- The compact unit of `ledger` has one import line less, that of `java.util.Date`, and is otherwise the
    usual one. -/
theorem ledger_emit_separable :
    ({} : Emitter).imports.qualifyConflicts = compact.imports.qualifyConflicts
    ∧ ({} : Emitter).imports.implicitPackages ⊆ compact.imports.implicitPackages
    ∧ inkedLines (Emitter.declarationText {} .ledger).toList = inkedLines (compact.declarationText .ledger).toList
    ∧ Emitter.visibleImports {} .ledger = [.ofPackage ⟨"java.util"⟩ "Date", .ofPackage ⟨"org.books"⟩ "Book"]
    ∧ compact.visibleImports .ledger = [.ofPackage ⟨"org.books"⟩ "Book"] := by
  have hq : ({} : Emitter).imports.qualifyConflicts = compact.imports.qualifyConflicts := rfl
  have hsub : ({} : Emitter).imports.implicitPackages ⊆ compact.imports.implicitPackages := by decide
  have hfirst : Emitter.visibleImports {} .ledger =
      [.ofPackage ⟨"java.util"⟩ "Date", .ofPackage ⟨"org.books"⟩ "Book"] := by decide
  obtain ⟨-, -, -, hbelow, -, hblock⟩ := emit_separable hq ClassDecl.ledger
  refine ⟨hq, hsub, hbelow, hfirst, ?_⟩
  rw [(hblock hsub).1, hfirst]
  decide

end Emitter
end JavaSource
