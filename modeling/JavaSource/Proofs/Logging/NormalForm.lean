import JavaSource.Fields
import JavaSource.Logging.Settings
import JavaSource.Proofs.Text.Variants

/-!
# `Proofs.Logging.NormalForm` — the text of the filter is a normal form of the settings

`LoggingConfig.directives` takes the level of the settings for one of a few words, or else for the text of a
filter. What it gives back always falls in the second class and has no blanks around it
(`simpleLevel?_directives`, `isTrimmed_directives`), so settings with that text for their level keep it. Before
that, blanks around the level do not count, and for one of the words the case of its letters does not either.
-/

namespace JavaSource
open Text

theorem Level.isTrimmed_word (l : Level) : IsTrimmed l.word :=
  isTrimmed_iff.mpr (by cases l <;> rfl)

theorem Level.word_ne_empty (l : Level) : l.word ≠ "" := by cases l <;> decide

namespace LoggingConfig

variable {c : LoggingConfig} {s t text : String} {level : Level}

/-! ## Simple levels -/

/-- **A simple level is a word for a level**, with blanks around it perhaps and in any case of its letters. -/
theorem simpleLevel?_eq_some_iff :
    simpleLevel? text = some level ↔ ∃ word, (word, level) ∈ levelWords ∧ EqUpToCase (trimmed text) word := by
  -- the words are in lower case, and no two entries are for the same word
  have hlower : ∀ entry ∈ levelWords, entry.1.toList.map Char.toLower = entry.1.toList := by decide
  have hfirst : ∀ entry ∈ levelWords, levelWords.lookup entry.1 = some entry.2 := by decide
  unfold simpleLevel?
  constructor
  · intro h
    have hmem := Fields.mem_of_lookup h
    refine ⟨_, hmem, ?_⟩
    rw [eqUpToCase_iff, hlower _ hmem, toList_trimmed, String.toList_ofList]
  · rintro ⟨word, hmem, hcase⟩
    rw [eqUpToCase_iff, hlower _ hmem, toList_trimmed] at hcase
    rw [hcase, String.ofList_toList]
    exact hfirst _ hmem

theorem simpleLevel?_congr (h : EqUpToCase (trimmed s) (trimmed t)) : simpleLevel? s = simpleLevel? t := by
  rw [eqUpToCase_iff] at h
  ext level
  simp only [simpleLevel?_eq_some_iff, eqUpToCase_iff, h]

/-- Blanks around a text do not make it a simple level, nor keep it from being one. -/
theorem simpleLevel?_trimmed (text : String) : simpleLevel? (trimmed text) = simpleLevel? text := by
  apply simpleLevel?_congr
  rw [isTrimmed_iff.mp (isTrimmed_trimmed text)]
  exact .refl _

/-- A text of blanks alone is a simple level, so no other text is trimmed to nothing. -/
theorem trimmed_ne_empty (h : simpleLevel? text = none) : trimmed text ≠ "" := by
  intro hempty
  have hinfo : simpleLevel? text = some .info :=
    simpleLevel?_eq_some_iff.mpr ⟨"", List.mem_cons_self, hempty ▸ .refl _⟩
  rw [h] at hinfo
  cases hinfo

/-- No word for a level has a comma. -/
theorem simpleLevel?_of_comma (h : ',' ∈ text.toList) : simpleLevel? text = none := by
  have hwords : ∀ entry ∈ levelWords, ',' ∉ entry.1.toList.map Char.toLower := by decide
  rw [Option.eq_none_iff_forall_ne_some]
  intro level hlevel
  obtain ⟨word, hmem, hcase⟩ := simpleLevel?_eq_some_iff.mp hlevel
  refine hwords _ hmem ?_
  rw [← eqUpToCase_iff.mp hcase, toList_trimmed]
  exact List.mem_map.mpr ⟨',', mem_trim_of_not_isBlank (by decide) h, rfl⟩

/-! ## The text of the filter -/

/-- **The text of the filter is no simple level.** -/
theorem simpleLevel?_directives (c : LoggingConfig) : simpleLevel? c.directives = none := by
  cases h : simpleLevel? c.level with
  | some level =>
    -- the text is that of two directives, with a comma between them
    apply simpleLevel?_of_comma
    rw [directives_of_some h, toList_append_sep rfl]
    exact List.mem_append_right _ List.mem_cons_self
  | none =>
    rw [directives_of_none h, simpleLevel?_trimmed, h]

/-- **The text of the filter has no blanks around it.** -/
theorem isTrimmed_directives (c : LoggingConfig) : IsTrimmed c.directives := by
  cases h : simpleLevel? c.level with
  | some level =>
    have hown : IsTrimmed (generatorTarget ++ "=" ++ level.word) :=
      IsTrimmed.append (isTrimmed_iff.mpr rfl) level.isTrimmed_word (by decide) level.word_ne_empty "="
    have hne : generatorTarget ++ "=" ++ level.word ≠ "" := fun hempty =>
      level.word_ne_empty (String.append_eq_empty_iff.mp hempty).2
    rw [directives_of_some h]
    exact IsTrimmed.append (Level.isTrimmed_word _) hown (Level.word_ne_empty _) hne ","
  | none =>
    rw [directives_of_none h]
    exact isTrimmed_trimmed c.level

theorem directives_ne_empty (c : LoggingConfig) : c.directives ≠ "" := by
  have h := trimmed_ne_empty c.simpleLevel?_directives
  rwa [isTrimmed_iff.mp c.isTrimmed_directives] at h

/-- **A level is taken as it is** if it has no blanks around it and is not a simple one. -/
theorem directives_eq_level_iff : c.directives = c.level ↔ IsTrimmed c.level ∧ simpleLevel? c.level = none := by
  constructor
  · intro h
    rw [← h]
    exact ⟨c.isTrimmed_directives, c.simpleLevel?_directives⟩
  · rintro ⟨htrimmed, hlevel⟩
    rw [directives_of_none hlevel, isTrimmed_iff.mp htrimmed]

/-- Of a simple level it only counts which one it is, and of any other level only the trimmed text. -/
theorem directives_congr (hlevel : simpleLevel? text = simpleLevel? c.level)
    (htrimmed : simpleLevel? c.level = none → trimmed text = trimmed c.level) :
    { c with level := text }.directives = c.directives := by
  cases h : simpleLevel? c.level with
  | some level =>
    rw [h] at hlevel
    rw [directives_of_some h, directives_of_some (c := { c with level := text }) hlevel]
  | none =>
    rw [h] at hlevel
    rw [directives_of_none h, directives_of_none (c := { c with level := text }) hlevel]
    exact htrimmed h

/-- **The text of the filter is a normal form of the settings.** It is not empty and has no blanks around it.
    Settings with that text for their level have the same text of their filter, whatever else they say, and a
    level is left as it is exactly if it has no blanks around it and is not simple. Blanks around the level do not
    count, and for a simple level the case of its letters does not either. -/
theorem directives_normal_form (c : LoggingConfig) :
    (c.directives ≠ "" ∧ IsTrimmed c.directives)
    ∧ (∀ c' : LoggingConfig, c'.level = c.directives → c'.directives = c.directives)
    ∧ (c.directives = c.level ↔ IsTrimmed c.level ∧ simpleLevel? c.level = none)
    ∧ (∀ level, EqUpToBlanks c.level level → { c with level }.directives = c.directives)
    ∧ (simpleLevel? c.level ≠ none →
        ∀ level, EqUpToCase c.level level → { c with level }.directives = c.directives) := by
  refine ⟨⟨c.directives_ne_empty, c.isTrimmed_directives⟩, ?_, directives_eq_level_iff, ?_, ?_⟩
  · intro c' h
    rw [← h]
    apply directives_eq_level_iff.mpr
    rw [h]
    exact ⟨c.isTrimmed_directives, c.simpleLevel?_directives⟩
  · intro level h
    have htrimmed : trimmed level = trimmed c.level := (eqUpToBlanks_iff.mp h).symm
    apply directives_congr _ fun _ => htrimmed
    rw [← simpleLevel?_trimmed, htrimmed, simpleLevel?_trimmed]
  · intro hsimple level h
    exact directives_congr (simpleLevel?_congr h.trimmed).symm fun hnone => absurd hnone hsimple

/-- Settings that ask for warnings, with blanks around the word. For all else they name a level that does not
    exist. -/
def warnings : LoggingConfig := { level := "\u3000Warning\n", dependencyLevel := "chatty" }

/-- The level of these settings in other ways. -/
theorem warnings_directives_normal_form :
    warnings.directives = "warn,javagen=warn"
    ∧ ({ level := "warn,javagen=warn", dependencyLevel := "trace", json := true } : LoggingConfig).directives
      = warnings.directives
    ∧ (EqUpToBlanks warnings.level "Warning\t"
      ∧ { warnings with level := "Warning\t" }.directives = warnings.directives)
    ∧ simpleLevel? warnings.level ≠ none
    ∧ EqUpToCase warnings.level "\u3000wARNing\n"
    ∧ { warnings with level := "\u3000wARNing\n" }.directives = warnings.directives := by
  have hdirectives : warnings.directives = "warn,javagen=warn" := by decide
  have hsimple : simpleLevel? warnings.level ≠ none := by decide
  have hblanks : EqUpToBlanks warnings.level "Warning\t" := eqUpToBlanks_iff.mpr (by decide)
  have hcase : EqUpToCase warnings.level "\u3000wARNing\n" := eqUpToCase_iff.mpr (by decide)
  obtain ⟨-, hagain, -, hlevel, hletters⟩ := directives_normal_form warnings
  exact ⟨hdirectives, hagain _ hdirectives.symm, ⟨hblanks, hlevel _ hblanks⟩, hsimple, hcase,
    hletters hsimple _ hcase⟩

end LoggingConfig
end JavaSource
