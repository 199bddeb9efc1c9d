import JavaSource.Logging.Library

/-!
# `Logging.Filter` — filters as lists of directives

A filter keeps its directives in order, those with the longest targets first. Filters are written as texts:
directives with commas between them, each `target=level`, `target` or `level`. In brackets before the equals
sign there may be a span and a field in it: `target[span{field=value}]=level`. The events of the generator
happen in no span, so of these only those that name just a field have a say about them.

* `Filter.ofText?` — reads a filter; `Filter.toText` writes its directives.
* `Filter.lets` — does the filter let an event through?
* `Filter.library` — filters as a library of filters.
-/

namespace JavaSource
open Text

/-! ## Reading levels -/

/-- The number of a level: decimal digits with a plus sign before them perhaps. -/
def levelNumber? (text : List Char) : Option Nat :=
  let digits :=
    match text with
    | '+' :: digits => digits
    | digits => digits
  if digits.isEmpty || !digits.all Char.isDigit then none
  else some (digits.foldl (fun n c => 10 * n + (c.toNat - '0'.toNat)) 0)

/-- Reads a level: its word in any case of letters, or its rank. -/
def Level.ofText? (text : List Char) : Option Level :=
  match levelNumber? text with
  | some n => Level.all[n]?
  | none => Level.all.find? fun l => l.word.toList == text.map Char.toLower

/-! ## Reading pieces -/

/-- What stands in brackets: the name of a span, and a field in it with the value that it must have. -/
structure Scope where
  span : Option String := none
  field : Option (String × Option String) := none
  deriving DecidableEq, Repr

/-- A piece of a filter: a directive, for all events or for those of a scope. -/
structure Clause where
  directive : Directive
  scope : Option Scope := none
  deriving DecidableEq, Repr

namespace Clause

/-- May a piece begin with this character? -/
def isStart (c : Char) : Bool := c == '-' || c == ':' || c == '_' || isAlphanumeric c

/-- May this character stand in a target? -/
def isInTarget (c : Char) : Bool := c != '=' && c != '['

/-- Reads a piece without an equals sign: a level, or else a target that lets everything through. -/
def ofWord (text : List Char) : Directive :=
  match Level.ofText? text with
  | some level => { level }
  | none => { target := some (String.ofList text), level := .trace }

/-- Reads the level behind the equals sign. An empty one lets everything through. -/
def levelAfter? : List Char → Option Level
  | [] => some .trace
  | text => Level.ofText? text

/-- The text of a span, if there is any. -/
def spanOf? (text : List Char) : Option String := if text.isEmpty then none else some (String.ofList text)

/-- Reads a field: a name, and a value behind the first equals sign. -/
def fieldOf (text : List Char) : String × Option String :=
  match pieces '=' text with
  | name :: value :: _ => (String.ofList name, some (String.ofList value))
  | _ => (String.ofList text, none)

/-- Reads what stands behind an opening bracket, to the end of the piece. -/
def ofBracket? (target : Option String) (text : List Char) : Option Clause :=
  let span := text.takeWhile fun c => c != ']' && c != '\x7b'
  match text.dropWhile fun c => c != ']' && c != '\x7b' with
  | ']' :: '=' :: level =>
    (levelAfter? level).map fun level => ⟨{ target, level }, some { span := some (String.ofList span) }⟩
  | '\x7b' :: rest =>
    let field := rest.takeWhile (· != '\x7d')
    match rest.dropWhile (· != '\x7d') with
    | '\x7d' :: ']' :: '=' :: level =>
      if field.isEmpty then none
      else
        (levelAfter? level).map fun level =>
          ⟨{ target, level }, some { span := spanOf? span, field := some (fieldOf field) }⟩
    | _ => none
  | _ => none

/-- Reads a piece. -/
def ofText? : List Char → Option Clause
  | [] => none
  | '[' :: rest => ofBracket? none rest
  | c :: cs =>
    if !isStart c then none
    else
      let word := (c :: cs).takeWhile isInTarget
      match (c :: cs).dropWhile isInTarget with
      | [] => some { directive := ofWord word }
      | '=' :: level =>
        (levelAfter? level).map fun level => { directive := { target := some (String.ofList word), level } }
      | _ :: rest => ofBracket? (some (String.ofList word)) rest

/-- The directive, if it is for all events. -/
def plain? (c : Clause) : Option Directive :=
  match c.scope with
  | none => some c.directive
  | some _ => none

/-- Does a piece with a scope have a say about an event outside all spans? It does if it names just a field,
    and the event has this field. -/
def concerns (c : Clause) (e : Event) : Bool :=
  match c.scope with
  | some { span := none, field := some (name, none) } =>
    (name == "message" || (e.fields.lookup name).isSome) && c.directive.covers e.target
  | _ => false

/-- The field that a piece names, empty if it names none. -/
def fieldName (c : Clause) : String := ((c.scope.bind Scope.field).map Prod.fst).getD ""

/-- The piece that counts of one that was found before and a later one: the one with the longer target, of
    targets of one length the one with the greater field, and else the later one. -/
def stronger (found : Option Clause) (c : Clause) : Option Clause :=
  match found with
  | none => some c
  | some d =>
    if c.directive.reach < d.directive.reach ∨ c.directive.reach = d.directive.reach ∧ c.fieldName < d.fieldName
    then some d
    else some c

end Clause

namespace Directive

/-- Does a directive come before another one? Longer targets come first, of targets of one length the
    greater one, and the directive for all targets last. -/
def precedes (d e : Directive) : Bool :=
  match d.target, e.target with
  | some s, some t => t.utf8ByteSize < s.utf8ByteSize || (s.utf8ByteSize == t.utf8ByteSize && t < s)
  | some _, none => true
  | none, _ => false

end Directive

/-! ## Filters -/

/-- A filter: directives with different targets, in order, and the pieces with a scope as they were read. -/
structure Filter where
  directives : List Directive := []
  withScope : List Clause := []
  deriving DecidableEq, Repr, Inhabited

namespace Filter

/-- Puts a directive in its place in an ordered list; it replaces one for the same target. -/
def insert (d : Directive) : List Directive → List Directive
  | [] => [d]
  | e :: rest =>
    if d.target = e.target then d :: rest
    else if d.precedes e then d :: e :: rest
    else e :: insert d rest

/-- The ordered list of a list of directives; a later directive replaces an earlier one for the same
    target. -/
def arrange (ds : List Directive) : List Directive := ds.foldl (fun l d => insert d l) []

/-- The filter of a list of pieces. -/
def ofClauses (cs : List Clause) : Filter :=
  { directives := arrange (cs.filterMap Clause.plain?), withScope := cs.filter fun c => c.scope.isSome }

/-- Reads a piece of a filter. -/
def clause? (piece : String) : Option Clause := Clause.ofText? piece.toList

/-- Reads a filter, or nothing if one of its pieces cannot be read. -/
def ofText? (text : String) : Option Filter := ((filterPieces text).mapM clause?).map ofClauses

/-- The directives of a filter as they are written. -/
def toText (f : Filter) : String := joinWith "," (f.directives.map Directive.toText)

/-- The directive of a filter that fits a target. -/
def directiveFor? (f : Filter) (target : String) : Option Directive :=
  f.directives.find? fun d => d.covers target

/-- The piece with a scope that has most to say about an event. -/
def clauseFor? (f : Filter) (e : Event) : Option Clause :=
  (f.withScope.filter fun c => c.concerns e).foldl Clause.stronger none

/-- The level that the filter has for an event. A piece that names a field goes before a directive for the same
    target. -/
def levelFor? (f : Filter) (e : Event) : Option Level :=
  match f.clauseFor? e, f.directiveFor? e.target with
  | none, d => d.map Directive.level
  | some c, none => some c.directive.level
  | some c, some d => if c.directive.reach < d.reach then some d.level else some c.directive.level

/-- Does the filter let an event through? -/
def lets (f : Filter) (e : Event) : Bool :=
  match f.levelFor? e with
  | some most => e.level.rank ≤ most.rank
  | none => false

/-- Filters as a library. -/
def library : FilterLibrary where
  Filter := Filter
  Event := Event
  level := Event.level
  target := Event.target
  read? := ofText?
  readSome text := ofClauses ((filterPieces text).filterMap clause?)
  directive? piece := (clause? piece).bind Clause.plain?
  Concerns piece e := ∃ c ∈ clause? piece, c.concerns e = true
  Has f d := d ∈ f.directives
  lets := lets

end Filter
end JavaSource
