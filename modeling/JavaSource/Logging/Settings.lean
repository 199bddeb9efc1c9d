import JavaSource.Config.Basic
import JavaSource.Logging.Filter
import JavaSource.Text.Blank

/-!
# `Logging.Settings` — the filter that the settings ask for

The level in the settings is either one of a few words, which sets the level of the generator's own
targets next to one for all others, or the text of a filter, which is taken as it is. An override from the
environment is put after the text of the settings, so it wins where both name the same target; an override
that cannot be read is left out. This is said for every library of filters (`LoggingConfig.filterBy`).
-/

namespace JavaSource
open Text

/-- The target that the generator's events begin with. -/
def generatorTarget : String := "javagen"

namespace LoggingConfig

/-- The words for a level in the settings; no word at all means `info`. -/
def levelWords : List (String × Level) :=
  [("", .info), ("info", .info), ("trace", .trace), ("debug", .debug), ("warn", .warn),
    ("warning", .warn), ("error", .error), ("off", .off)]

/-- The level for a word, blanks around it and the case of its letters aside. -/
def simpleLevel? (text : String) : Option Level :=
  levelWords.lookup (String.ofList ((trim text.toList).map Char.toLower))

/-- The text of the filter that the settings ask for. -/
def directives (c : LoggingConfig) : String :=
  match simpleLevel? c.level with
  | some level =>
    ((simpleLevel? c.dependencyLevel).getD .warn).word ++ "," ++ generatorTarget ++ "=" ++ level.word
  | none => trimmed c.level

theorem directives_of_some {c : LoggingConfig} {level : Level} (h : simpleLevel? c.level = some level) :
    c.directives = ((simpleLevel? c.dependencyLevel).getD .warn).word ++ ","
      ++ (generatorTarget ++ "=" ++ level.word) := by
  unfold directives
  rw [h]
  simp only [String.append_assoc]

theorem directives_of_none {c : LoggingConfig} (h : simpleLevel? c.level = none) :
    c.directives = trimmed c.level := by
  unfold directives
  rw [h]

/-- The text of the filter for settings that cannot be read. -/
def fallback : String := Level.warn.word ++ "," ++ generatorTarget ++ "=" ++ Level.info.word

/-- The text with an override put after it, if there is an override that is not blank. -/
def overridden? (configured : String) (override : Option String) : Option String :=
  match override with
  | some text => if (trim text.toList).isEmpty then none else some (configured ++ "," ++ trimmed text)
  | none => none

/-- The filter that a library reads for the settings and an override: for both together, or else for the
    settings alone. -/
def readable? (L : FilterLibrary) (c : LoggingConfig) (override : Option String) : Option L.Filter :=
  ((overridden? c.directives override).bind L.read?).or (L.read? c.directives)

/-- The filter of a library for the settings and an override from the environment. -/
def filterBy (L : FilterLibrary) (c : LoggingConfig) (override : Option String) : L.Filter :=
  (readable? L c override).getD (L.readSome fallback)

/-- The filter for the settings and an override from the environment. -/
def filter (c : LoggingConfig) (override : Option String) : Filter := c.filterBy Filter.library override

end LoggingConfig

/-- The log of a process, which is set up once. -/
structure LogState where
  installed : Option Filter := none
  deriving DecidableEq, Repr, Inhabited

/-- Sets the log up, and says whether this was the first time. Later settings change nothing. -/
def LogState.install (s : LogState) (c : LoggingConfig) (override : Option String) : LogState × Bool :=
  match s.installed with
  | none => ({ installed := some (c.filter override) }, true)
  | some _ => (s, false)

/-- Sets the log up a number of times, and says of each time whether it was the first. -/
def LogState.installTimes (s : LogState) (c : LoggingConfig) (override : Option String) :
    Nat → List Bool
  | 0 => []
  | n + 1 => (s.install c override).2 :: (s.install c override).1.installTimes c override n

end JavaSource
