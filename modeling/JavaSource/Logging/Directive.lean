import JavaSource.Event

/-!
# `Logging.Directive` — levels for the events of a target

A directive is a level for the targets that begin with a text, or for all targets. Of a list of directives the
last one for a target counts (`Directive.IsLast`), and how much of a target a directive asks for is its
`reach`.
-/

namespace JavaSource

/-- A level for the targets that begin with a text, or for all targets. -/
structure Directive where
  target : Option String := none
  level : Level
  deriving DecidableEq, Repr

namespace Directive

/-- A directive as it is written. -/
def toText (d : Directive) : String :=
  match d.target with
  | some target => target ++ "=" ++ d.level.word
  | none => d.level.word

/-- Does a directive match a target? -/
def covers (d : Directive) (target : String) : Bool :=
  match d.target with
  | some start => start.toList.isPrefixOf target.toList
  | none => true

/-- How much of a target a directive asks for: nothing at all if it is for all targets. -/
def reach (d : Directive) : Nat :=
  match d.target with
  | none => 0
  | some t => t.length + 1

/-- A directive is the last one in a list for its target. -/
def IsLast (ds : List Directive) (d : Directive) : Prop :=
  ∃ before after, ds = before ++ d :: after ∧ ∀ e ∈ after, e.target ≠ d.target

variable {d e : Directive}

theorem covers_congr (h : d.target = e.target) (target : String) : d.covers target = e.covers target := by
  unfold covers
  rw [h]

theorem reach_congr (h : d.target = e.target) : d.reach = e.reach := by
  unfold reach
  rw [h]

end Directive
end JavaSource
