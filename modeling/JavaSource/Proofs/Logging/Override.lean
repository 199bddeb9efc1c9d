import JavaSource.Logging.Settings
import JavaSource.Proofs.Logging.Filter

/-!
# `Proofs.Logging.Override` — an override refines the settings and cannot break them

The text of an override is put behind that of the settings, and the two are read as one filter. A library reads
a text exactly if it can read each piece, so an override decides as if its directives had been put in after
those of the settings; and if one of its pieces cannot be read it is left out altogether. With a simple level
the text of the settings can always be read (`LoggingConfig.spells_directives`), and what is there for the case
that nothing can be read is never used. All this follows from what is documented of the library
(`FilterLibrary.Documented`).
-/

namespace JavaSource
open Text

/-! ## Texts of filters -/

namespace FilterLibrary

variable {L : FilterLibrary} {text s t : String} {ds es : List Directive} {f : L.Filter} {e : L.Event} {d : Directive}

theorem accepts_append_iff : L.Accepts (s ++ "," ++ t) ↔ L.Accepts s ∧ L.Accepts t := by
  unfold Accepts
  rw [filterPieces_append, List.forall_mem_append]

theorem directivesIn_append (L : FilterLibrary) (s t : String) :
    L.directivesIn (s ++ "," ++ t) = L.directivesIn s ++ L.directivesIn t := by
  unfold directivesIn
  rw [filterPieces_append, List.filterMap_append]

theorem leavesAlone_append_iff : L.LeavesAlone (s ++ "," ++ t) e ↔ L.LeavesAlone s e ∧ L.LeavesAlone t e := by
  unfold LeavesAlone
  rw [filterPieces_append, List.forall_mem_append]

/-- **A text is no more than some directives**: all of it can be read, and no piece is about spans and fields. -/
structure Spells (L : FilterLibrary) (text : String) (ds : List Directive) : Prop where
  accepts : L.Accepts text
  directives : L.directivesIn text = ds
  leavesAlone : ∀ e, L.LeavesAlone text e

theorem Spells.append (hs : L.Spells s ds) (ht : L.Spells t es) : L.Spells (s ++ "," ++ t) (ds ++ es) where
  accepts := accepts_append_iff.mpr ⟨hs.accepts, ht.accepts⟩
  directives := by rw [directivesIn_append, hs.directives, ht.directives]
  leavesAlone e := leavesAlone_append_iff.mpr ⟨hs.leavesAlone e, ht.leavesAlone e⟩

/-- A text without a comma is the directive that it is read as. -/
theorem spells_singleton (hcomma : ',' ∉ text.toList) (hne : text ≠ "")
    (h : (L.read? text).isSome = true ∧ L.directive? text = some d) : L.Spells text [d] := by
  have hpieces := filterPieces_of_not_mem hcomma hne
  refine ⟨?_, ?_, ?_⟩
  · unfold Accepts
    rw [hpieces, List.forall_mem_singleton]
    exact h.1
  · unfold directivesIn
    rw [hpieces, List.filterMap_cons_some h.2, List.filterMap_nil]
  · intro e
    unfold LeavesAlone
    rw [hpieces, List.forall_mem_singleton, h.2]
    exact fun hnone => absurd hnone (Option.some_ne_none d)

theorem Documented.exists_read? (hL : L.Documented) (h : L.Accepts text) : ∃ f, L.read? text = some f :=
  Option.isSome_iff_exists.mp ((hL.accepts_pieces text).mpr h)

/-- One piece that cannot be read spoils the text. -/
theorem Documented.read?_eq_none (hL : L.Documented) (h : ¬ L.Accepts text) : L.read? text = none := by
  rw [← Option.not_isSome_iff_eq_none, hL.accepts_pieces]
  exact h

/-- **The directive that decides about an event says whether a filter lets it through.** -/
theorem Documented.lets_of_decides (hL : L.Documented) (hread : L.read? text = some f)
    (halone : L.LeavesAlone text e) (hd : Directive.Decides (L.directivesIn text) (L.target e) d) :
    L.lets f e = decide ((L.level e).rank ≤ d.level.rank) := by
  have hhas := hL.later_replaces text f hread
  refine hL.longest_decides text f e hread halone d ((hhas d).mpr hd.last) hd.covers ?_
  intro other hother hcovers
  exact hd.longest other ((hhas other).mp hother).mem hcovers

end FilterLibrary

/-! ## Directives for a simple level -/

namespace Directive

theorem comma_not_mem_word (l : Level) : ',' ∉ l.word.toList := by cases l <;> decide

theorem comma_not_mem_generator (l : Level) : ',' ∉ (generatorTarget ++ "=" ++ l.word).toList := by
  cases l <;> decide

/-- **A directive decides about the events of a target**, given directives in the settings and in an override.
    It is the last one of the override for its own target, or else the last one of the settings; it fits; and
    no other target that fits is longer. -/
structure DecidesOver (settings override : List Directive) (target : String) (d : Directive) : Prop where
  wins : IsLast override d ∨ IsLast settings d ∧ ∀ e ∈ override, e.target ≠ d.target
  covers : d.covers target = true
  longest : ∀ e ∈ settings ++ override, e.covers target = true → e.reach ≤ d.reach

/-- An override decides as if it were put in after the settings. -/
theorem decidesOver_iff {settings override : List Directive} {target : String} {d : Directive} :
    DecidesOver settings override target d ↔ Decides (settings ++ override) target d :=
  ⟨fun h => ⟨isLast_append_iff.mpr h.wins, h.covers, h.longest⟩,
    fun h => ⟨isLast_append_iff.mp h.last, h.covers, h.longest⟩⟩

end Directive

namespace LoggingConfig

variable {L : FilterLibrary} {c : LoggingConfig} {level : Level} {text : String} {override : Option String}

/-- The directives of settings with a simple level: one for all targets, and one for the generator's own. -/
def simpleDirectives (c : LoggingConfig) (level : Level) : List Directive :=
  [{ level := (simpleLevel? c.dependencyLevel).getD .warn }, { target := some generatorTarget, level }]

/-- **The text of settings with a simple level is two directives.** -/
theorem spells_directives (hL : L.Documented) (h : simpleLevel? c.level = some level) :
    L.Spells c.directives (c.simpleDirectives level) := by
  let others := (simpleLevel? c.dependencyLevel).getD .warn
  have hothers : L.Spells others.word [{ level := others }] :=
    FilterLibrary.spells_singleton (Directive.comma_not_mem_word _) (by cases others <;> decide) (hL.level_word _)
  have hown : L.Spells (generatorTarget ++ "=" ++ level.word) [{ target := some generatorTarget, level }] :=
    FilterLibrary.spells_singleton (Directive.comma_not_mem_generator _) (by cases level <;> decide)
      (hL.target_word _ _ (by decide))
  rw [directives_of_some h]
  exact hothers.append hown

theorem filterBy_of_readable? {f : L.Filter} (h : c.readable? L override = some f) : c.filterBy L override = f := by
  unfold filterBy
  rw [h, Option.getD_some]

theorem overridden?_some (configured text : String) :
    overridden? configured (some text) =
      if (trim text.toList).isEmpty then none else some (configured ++ "," ++ trimmed text) := rfl

/-- Without an override, the settings are read alone. -/
theorem readable?_of_overridden?_eq_none (h : overridden? c.directives override = none) :
    c.readable? L override = L.read? c.directives := by
  unfold readable?
  rw [h, Option.bind_none, Option.none_or]

theorem overridden?_of_blank (configured : String) (h : trim text.toList = []) :
    overridden? configured (some text) = none := by
  rw [overridden?_some, h]
  rfl

theorem overridden?_of_not_blank (configured : String) (h : trim text.toList ≠ []) :
    overridden? configured (some text) = some (configured ++ "," ++ trimmed text) := by
  rw [overridden?_some, List.isEmpty_eq_false_iff.mpr h]
  rfl

/-- **An override whose pieces can all be read is put in after the settings.** -/
theorem readable?_of_accepts (hL : L.Documented) (h : simpleLevel? c.level = some level)
    (hblank : trim text.toList ≠ []) (htext : L.Accepts (trimmed text)) :
    ∃ f, L.read? (c.directives ++ "," ++ trimmed text) = some f ∧ c.readable? L (some text) = some f := by
  obtain ⟨f, hf⟩ := hL.exists_read? (FilterLibrary.accepts_append_iff.mpr ⟨(spells_directives hL h).accepts, htext⟩)
  refine ⟨f, hf, ?_⟩
  unfold readable?
  rw [overridden?_of_not_blank _ hblank, Option.bind_some, hf, Option.some_or]

/-- **An override with a piece that cannot be read is left out**, and so is one of blanks alone. -/
theorem readable?_of_blank_or_not_accepts (hL : L.Documented)
    (hoverride : ∀ text ∈ override, trim text.toList = [] ∨ ¬ L.Accepts (trimmed text)) :
    c.readable? L override = L.read? c.directives := by
  cases override with
  | none => exact readable?_of_overridden?_eq_none rfl
  | some text =>
    by_cases hblank : trim text.toList = []
    · exact readable?_of_overridden?_eq_none (overridden?_of_blank _ hblank)
    · -- the two texts are read as one, so the bad piece spoils both, and the settings are read once more
      have hbad : ¬ L.Accepts (c.directives ++ "," ++ trimmed text) := by
        intro hboth
        exact (hoverride text rfl).resolve_left hblank (FilterLibrary.accepts_append_iff.mp hboth).2
      unfold readable?
      rw [overridden?_of_not_blank _ hblank, Option.bind_some, hL.read?_eq_none hbad, Option.none_or]

/-- The filter for an override whose pieces can all be read is read from a text with the directives of the
    settings and, behind them, what is in the override. -/
theorem exists_read?_filterBy (hL : L.Documented) (h : simpleLevel? c.level = some level)
    (htext : L.Accepts (trimmed text)) :
    ∃ whole, L.read? whole = some (c.filterBy L (some text))
      ∧ L.directivesIn whole = c.simpleDirectives level ++ L.directivesIn (trimmed text)
      ∧ ∀ e, L.LeavesAlone (trimmed text) e → L.LeavesAlone whole e := by
  have hspells := spells_directives hL h
  by_cases hblank : trim text.toList = []
  · -- a blank override has no pieces
    have htrimmed : trimmed text = "" := by
      rw [← String.toList_inj, toList_trimmed, hblank]
      rfl
    have hreadable := readable?_of_overridden?_eq_none (L := L) (overridden?_of_blank c.directives hblank)
    obtain ⟨f, hf⟩ := hL.exists_read? hspells.accepts
    rw [hf] at hreadable
    refine ⟨c.directives, ?_, ?_, fun e _ => hspells.leavesAlone e⟩
    · rw [hf, filterBy_of_readable? hreadable]
    · have hnothing : L.directivesIn (trimmed text) = [] := by
        rw [htrimmed]
        rfl
      rw [hspells.directives, hnothing, List.append_nil]
  · obtain ⟨f, hf, hreadable⟩ := readable?_of_accepts hL h hblank htext
    refine ⟨c.directives ++ "," ++ trimmed text, ?_, ?_, ?_⟩
    · rw [hf, filterBy_of_readable? hreadable]
    · rw [FilterLibrary.directivesIn_append, hspells.directives]
    · exact fun e he => FilterLibrary.leavesAlone_append_iff.mpr ⟨hspells.leavesAlone e, he⟩

/-- In every case the filter is one that was read. -/
theorem readable?_eq_some_filterBy (hL : L.Documented) (h : simpleLevel? c.level = some level)
    (override : Option String) : c.readable? L override = some (c.filterBy L override) := by
  have hread : ∃ f, c.readable? L override = some f := by
    by_cases hleft : ∀ text ∈ override, trim text.toList = [] ∨ ¬ L.Accepts (trimmed text)
    · rw [readable?_of_blank_or_not_accepts hL hleft]
      exact hL.exists_read? (spells_directives hL h).accepts
    · push Not at hleft
      obtain ⟨text, rfl, hblank, haccepts⟩ := hleft
      obtain ⟨f, -, hf⟩ := readable?_of_accepts hL h hblank haccepts
      exact ⟨f, hf⟩
  obtain ⟨f, hf⟩ := hread
  rw [hf, filterBy_of_readable? hf]

/-- An override that turns one of the generator's targets up and all others off, with a piece about a span. -/
def spanOverride : String := " [walk]=debug,javagen.imports=trace,off "

end LoggingConfig
end JavaSource
