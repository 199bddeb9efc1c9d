import JavaSource.Emission.Emitter

/-!
# `Proofs.Emission.Layout` — where a member stands in its unit

The members of a declaration are stacked, so the unit falls into three pieces around each of them: what is
above (`Emitter.linesAbove`), the lines of the member itself, and what is below (`Emitter.linesBelow`). The
pieces above and below do not look at the member (`Emitter.unitLines_at`).
-/

namespace JavaSource

namespace Line

variable {separate : Bool} {block : List Line} {rest : List (List Line)}

/-- What stands between two neighbours of a stack. -/
def gap (separate : Bool) : List Line := if separate then [.blank] else []

theorem stack_cons_of_ne_nil (h : rest ≠ []) :
    stack separate (block :: rest) = block ++ gap separate ++ stack separate rest := by
  cases rest with
  | nil => exact absurd rfl h
  | cons next rest => rfl

/-- Where a blank line shows nothing, a stack shows what its blocks show. -/
theorem flatMap_stack {β : Type} {f : Line → List β} (hblank : f .blank = []) (separate : Bool)
    (blocks : List (List Line)) : (stack separate blocks).flatMap f = blocks.flatten.flatMap f := by
  have hgap : (gap separate).flatMap f = [] := by
    cases separate with
    | false => rfl
    | true => rw [gap, if_pos rfl, List.flatMap_singleton, hblank]
  induction blocks with
  | nil => rfl
  | cons block rest ih =>
    cases rest with
    | nil => rw [List.flatten_singleton]; rfl
    | cons next rest =>
      have hrest : next :: rest ≠ [] := List.cons_ne_nil next rest
      -- all that matters of the blocks below is that there are some
      generalize next :: rest = below at ih hrest
      rw [stack_cons_of_ne_nil hrest, List.flatMap_append, List.flatMap_append, hgap, ih, List.append_nil,
        List.flatten_cons, List.flatMap_append]

/-- Below the first block of a stack every block has a gap before it. -/
theorem stack_cons (separate : Bool) (block : List Line) (rest : List (List Line)) :
    stack separate (block :: rest) = block ++ rest.flatMap fun below => gap separate ++ below := by
  induction rest generalizing block with
  | nil => rw [List.flatMap_nil, List.append_nil]; rfl
  | cons next rest ih =>
    rw [stack_cons_of_ne_nil (List.cons_ne_nil next rest), ih, List.flatMap_cons]
    simp only [List.append_assoc]

/-- **A stack around one of its blocks**: the blocks above it have gaps after them, those below have gaps
    before them. -/
theorem stack_at (separate : Bool) (above : List (List Line)) (block : List Line)
    (below : List (List Line)) :
    stack separate (above ++ block :: below) =
      (above.flatMap fun b => b ++ gap separate) ++ block ++ below.flatMap fun b => gap separate ++ b := by
  induction above with
  | nil => exact stack_cons separate block below
  | cons first above ih =>
    have hrest : above ++ block :: below ≠ [] :=
      List.append_ne_nil_of_right_ne_nil above (List.cons_ne_nil block below)
    rw [List.cons_append, stack_cons_of_ne_nil hrest, ih, List.flatMap_cons]
    simp only [List.append_assoc]

end Line

namespace Emitter

variable {d : ClassDecl} {before after : List Member} {m : Member}

/-- What a unit has above a member: everything up to the opening brace, and the members before it. -/
def linesAbove (e : Emitter) (d : ClassDecl) (before : List Member) : List Line :=
  let r := d.renderer e.imports.qualifyConflicts
  packageLines d ++ e.importLines d ++ annotationLines r 0 d.annotations ++
    .code 0 (headText r d ++ " \x7b") ::
      before.flatMap fun m => memberLines r d m ++ Line.gap e.format.blankLineBetweenMembers

/-- What a unit has below a member: the members after it, and the closing brace. -/
def linesBelow (e : Emitter) (d : ClassDecl) (after : List Member) : List Line :=
  let r := d.renderer e.imports.qualifyConflicts
  (after.flatMap fun m => Line.gap e.format.blankLineBetweenMembers ++ memberLines r d m) ++
    [.code 0 "\x7d"]

/-- **The unit around one of its members.** -/
theorem unitLines_at (e : Emitter) (h : d.members = before ++ m :: after) :
    e.unitLines d =
      e.linesAbove d before ++ memberLines (d.renderer e.imports.qualifyConflicts) d m
        ++ e.linesBelow d after := by
  unfold unitLines declarationLines linesAbove linesBelow
  simp only [h, List.map_append, List.map_cons, Line.stack_at, List.flatMap_map, List.append_assoc,
    List.cons_append]

end Emitter
end JavaSource
