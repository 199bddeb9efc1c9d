import JavaSource.Logging.Directive
import JavaSource.Text.Alphanumeric
import JavaSource.Text.Pieces

/-!
# `Logging.Library` — what the settings ask of a library of filters

Filters are read from texts and decide about events; both is the work of a library. `FilterLibrary` is what is
used of it, and `FilterLibrary.Documented` what is promised about it. The text of a filter is cut at its
commas. A piece is a directive, `target=level` or a level alone, or else it is about spans and fields, of which
no more is promised than that it has a say only about the events that it `Concerns`.
-/

namespace JavaSource
open Text

/-- The pieces of a text between its commas, without the empty ones. -/
def filterPieces (text : String) : List String :=
  ((pieces ',' text.toList).map String.ofList).filter (· ≠ "")

theorem mem_filterPieces_iff {text piece : String} :
    piece ∈ filterPieces text ↔ piece.toList ∈ pieces ',' text.toList ∧ piece ≠ "" := by
  unfold filterPieces
  rw [List.mem_filter, List.mem_map, decide_eq_true_iff]
  constructor
  · rintro ⟨⟨cs, hcs, rfl⟩, hne⟩
    rw [String.toList_ofList]
    exact ⟨hcs, hne⟩
  · rintro ⟨hpiece, hne⟩
    exact ⟨⟨piece.toList, hpiece, String.ofList_toList⟩, hne⟩

theorem filterPieces_append (s t : String) : filterPieces (s ++ "," ++ t) = filterPieces s ++ filterPieces t := by
  have hlist : (s ++ "," ++ t).toList = s.toList ++ ',' :: t.toList := toList_append_sep rfl s t
  unfold filterPieces
  rw [hlist, pieces_append_sep, List.map_append, List.filter_append]

/-- A text without a comma is one piece. -/
theorem filterPieces_of_not_mem {text : String} (hcomma : ',' ∉ text.toList) (hne : text ≠ "") :
    filterPieces text = [text] := by
  unfold filterPieces
  rw [pieces_of_not_mem hcomma, List.map_singleton, String.ofList_toList]
  exact List.filter_cons_of_pos (decide_eq_true hne)

theorem filterPieces_of_mem {text piece : String} (h : piece ∈ filterPieces text) :
    filterPieces piece = [piece] := by
  obtain ⟨hpiece, hne⟩ := mem_filterPieces_iff.mp h
  exact filterPieces_of_not_mem (sep_not_mem_of_mem_pieces hpiece) hne

/-- A name of parts with colons between them, in letters, digits and underscores. -/
def IsPath (target : String) : Prop :=
  target ≠ "" ∧ ∀ c ∈ target.toList, (isAlphanumeric c || c == '_' || c == ':') = true

instance (target : String) : Decidable (IsPath target) :=
  have : Decidable (∀ c ∈ target.toList, (isAlphanumeric c || c == '_' || c == ':') = true) :=
    List.decidableBAll _ target.toList
  inferInstanceAs (Decidable (_ ∧ _))

/-- A library of filters. -/
structure FilterLibrary where
  Filter : Type
  /-- Events, together with the spans that they happen in. -/
  Event : Type
  level : Event → Level
  target : Event → String
  /-- Reads the text of a filter, if all of it can be read. -/
  read? : String → Option Filter
  /-- Reads what can be read of the text of a filter. -/
  readSome : String → Filter
  /-- The directive that a piece is, if it is not about spans and fields. -/
  directive? : String → Option Directive
  /-- A piece about spans and fields has a say about an event. -/
  Concerns : String → Event → Prop
  /-- A filter has a directive. -/
  Has : Filter → Directive → Prop
  /-- Does a filter let an event through? -/
  lets : Filter → Event → Bool

namespace FilterLibrary

variable (L : FilterLibrary)

/-- Each piece of a text can be read. -/
def Accepts (text : String) : Prop := ∀ piece ∈ filterPieces text, (L.read? piece).isSome = true

instance (text : String) : Decidable (L.Accepts text) :=
  List.decidableBAll _ (filterPieces text)

/-- The directives in a text, in order. -/
def directivesIn (text : String) : List Directive := (filterPieces text).filterMap L.directive?

/-- No piece of a text about spans and fields has a say about an event. -/
def LeavesAlone (text : String) (e : L.Event) : Prop :=
  ∀ piece ∈ filterPieces text, L.directive? piece = none → ¬ L.Concerns piece e

/-- **What is documented of a library of filters.** -/
structure Documented : Prop where
  /-- A level alone can be read, as a directive for all targets. -/
  level_word : ∀ level : Level,
    (L.read? level.word).isSome = true ∧ L.directive? level.word = some { level }
  /-- `target=level` can be read, as a directive for that target. -/
  target_word : ∀ (target : String) (level : Level), IsPath target →
    (L.read? (target ++ "=" ++ level.word)).isSome = true
      ∧ L.directive? (target ++ "=" ++ level.word) = some { target := some target, level }
  /-- A text can be read exactly if each of its pieces can. -/
  accepts_pieces : ∀ text, (L.read? text).isSome = true ↔ L.Accepts text
  /-- A later directive replaces an earlier one for the same target. -/
  later_replaces : ∀ text f, L.read? text = some f →
    ∀ d, L.Has f d ↔ Directive.IsLast (L.directivesIn text) d
  /-- Of the directives that a filter has, the one with the longest target that begins the target of an event
      decides about it, if no piece about spans and fields has a say. -/
  longest_decides : ∀ text f e, L.read? text = some f → L.LeavesAlone text e →
    ∀ d, L.Has f d → d.covers (L.target e) = true →
      (∀ other, L.Has f other → other.covers (L.target e) = true → other.reach ≤ d.reach) →
        L.lets f e = decide ((L.level e).rank ≤ d.level.rank)

end FilterLibrary
end JavaSource
