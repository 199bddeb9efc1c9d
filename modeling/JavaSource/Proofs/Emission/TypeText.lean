import JavaSource.Proofs.Emission.Spelling
import JavaSource.Proofs.JavaType.Plain
import JavaSource.Proofs.Text.Reading

/-!
# `Proofs.Emission.TypeText` — where a written type ends

Whoever reads the text of a type has to see where it ends and where its parts do. That depends on what may
follow, and what may follow depends on the place of the type:

* its core, an atom or a generic class, is followed by no character of a name and by no opening angle bracket
  (`continuesCore`);
* the whole type, brackets of arrays included, is also followed by no opening square bracket (`continuesType`);
* bounds are followed by no separator, and not by the word they began with (`BehindBounds`);
* a type argument is followed by a comma or the closing angle bracket (`BehindArgument`).

In front of such text types are told apart (`Text.Tells`) if their cores are (`Renderer.tells_type`), lists of
bounds and of type arguments if the types in them are (`Renderer.boundsClause_append_inj`,
`Renderer.arguments_append_inj`), and wildcards if their bounds are (`Renderer.tells_wildcard`).
-/

namespace JavaSource
open Text

namespace Renderer

variable {r : Renderer} {t u : JavaType} {rest rest' : List Char}

/-! ## Cores and dimensions -/

/-- A rendered type is its rendered core with a pair of brackets for every dimension. -/
theorem toList_render (r : Renderer) (t : JavaType) :
    (r.render t).toList = (r.render t.core).toList ++ brackets t.dimensions := by
  induction t using JavaType.induct with
  | primitive p => exact (List.append_nil _).symm
  | ofClass c =>
    show (r.className c).toList = (r.className c.unmarked).toList ++ brackets c.isArray.toNat
    rw [className_eq, className_eq]
    show (r.spelling c ++ c.arraySuffix).toList = (r.spelling c ++ c.unmarked.arraySuffix).toList ++ _
    unfold ClassRef.arraySuffix
    cases c.isArray <;> simp [ClassRef.unmarked, brackets, String.toList_append]
  | array element ih =>
    rw [render_array, String.toList_append, ih, List.append_assoc, JavaType.core_array]
    exact congrArg _ (brackets_append_pair _)
  | variableDecl name bound more _ _ => exact (List.append_nil _).symm
  | variableRef name => exact (List.append_nil _).symm
  | wildcard upper lower _ _ => exact (List.append_nil _).symm
  | parameterized base arguments _ => exact (List.append_nil _).symm

/-- Could a character after the core of a type continue it? -/
def continuesCore (c : Char) : Bool := isWordChar c || c == '<'

/-- Could a character after a type continue it? -/
def continuesType (c : Char) : Bool := continuesCore c || c == '['

theorem stops_isWordChar (h : Stops continuesCore rest) : Stops isWordChar rest :=
  h.mono fun _ hc => Bool.or_eq_true_iff.mpr (Or.inl hc)

/-- **Types are told apart if their cores are**: the brackets of arrays are counted. -/
theorem tells_type (h : Tells (Stops continuesCore) r.render JavaType.form t.core u.core) :
    Tells (Stops continuesType) r.render JavaType.form t u := by
  intro rest rest' hrest hrest' heq
  have hbrackets : ∀ (n : Nat) {rest : List Char}, Stops continuesType rest →
      Stops continuesCore (brackets n ++ rest) := by
    intro n rest hrest
    cases n with
    | zero => exact hrest.mono fun _ hc => Bool.or_eq_true_iff.mpr (Or.inl hc)
    | succ n => exact stops_cons_iff.mpr (by decide)
  rw [toList_render r t, toList_render r u, List.append_assoc, List.append_assoc] at heq
  obtain ⟨hcore, hbehind⟩ := h (hbrackets _ hrest) (hbrackets _ hrest') heq
  have hbracket : ∀ c, (c == '[') = true → continuesType c = true := fun _ hc =>
    Bool.or_eq_true_iff.mpr (Or.inr hc)
  obtain ⟨hdimensions, hrests⟩ :=
    brackets_append_inj (hrest.mono hbracket) (hrest'.mono hbracket) hbehind
  exact ⟨by rw [t.form_eq, u.form_eq, hcore, hdimensions], hrests⟩

/-! ## What stands behind a type -/

/-- A type argument is followed by another one, or by the end of the arguments. -/
def BehindArgument (rest : List Char) : Prop := ∃ tail, rest = ',' :: tail ∨ rest = '>' :: tail

/-- Bounds are followed by no further bound, and the same word does not come twice. -/
structure BehindBounds (word : String) (rest : List Char) : Prop where
  stops : Stops continuesType rest
  separator : ¬ " & ".toList <+: rest
  word : ¬ (" " ++ word ++ " ").toList <+: rest

theorem BehindArgument.stops (h : BehindArgument rest) : Stops continuesType rest := by
  obtain ⟨tail, rfl | rfl⟩ := h
  · exact stops_cons_iff.mpr (by decide)
  · exact stops_cons_iff.mpr (by decide)

/-- Nothing that begins with a blank stands behind a type argument. -/
theorem BehindArgument.not_blank (h : BehindArgument rest) (cs : List Char) : ¬ ' ' :: cs <+: rest := by
  intro hprefix
  obtain ⟨tail, rfl | rfl⟩ := h
  · exact absurd (List.cons_prefix_cons.mp hprefix).1 (by decide)
  · exact absurd (List.cons_prefix_cons.mp hprefix).1 (by decide)

theorem BehindArgument.behindBounds (h : BehindArgument rest) (word : String) : BehindBounds word rest where
  stops := h.stops
  separator := h.not_blank _
  word := by
    rw [String.toList_append, String.toList_append]
    exact h.not_blank _

theorem toList_boundsClause_cons (word text : String) (texts : List String) (rest : List Char) :
    (boundsClause word (text :: texts)).toList ++ rest =
      (" " ++ word ++ " ").toList ++ ((joinWith " & " (text :: texts)).toList ++ rest) := by
  rw [← List.append_assoc, ← String.toList_append]
  rfl

/-- Upper bounds are followed by lower ones, or by what stands behind a type argument. -/
theorem BehindArgument.behindUpperBounds (h : BehindArgument rest) (texts : List String) :
    BehindBounds "extends" ((boundsClause "super" texts).toList ++ rest) := by
  cases texts with
  | nil => exact h.behindBounds "extends"
  | cons text texts =>
    rw [toList_boundsClause_cons]
    -- the second character already differs from that of the separator and of the other word
    have hsecond : ∀ (c : Char) (cs ds : List Char), c ≠ 's' →
        ¬ ' ' :: c :: cs <+: (" " ++ "super" ++ " ").toList ++ ds := by
      intro c cs ds hc hprefix
      exact hc (List.cons_prefix_cons.mp (List.cons_prefix_cons.mp hprefix).2).1
    constructor
    · exact stops_cons_iff.mpr (by decide)
    · exact hsecond '&' _ _ (by decide)
    · exact hsecond 'e' _ _ (by decide)

/-! ## Lists of types -/

section lists

variable {as bs : List JavaType}

/-- **Bounds are told apart if the types in them are**: they end before the next word. -/
theorem boundsClause_append_inj {word : String}
    (htells : ∀ a ∈ as, ∀ b ∈ bs, Tells (Stops continuesType) r.render JavaType.form a b)
    (hrest : BehindBounds word rest) (hrest' : BehindBounds word rest')
    (h : (boundsClause word (as.map r.render)).toList ++ rest =
      (boundsClause word (bs.map r.render)).toList ++ rest') :
    as.map JavaType.form = bs.map JavaType.form ∧ rest = rest' := by
  cases as with
  | nil =>
    cases bs with
    | nil => exact ⟨rfl, h⟩
    | cons b bs =>
      rw [List.map_cons, toList_boundsClause_cons] at h
      exact absurd ⟨_, h.symm⟩ hrest.word
  | cons a as =>
    cases bs with
    | nil =>
      rw [List.map_cons, toList_boundsClause_cons] at h
      exact absurd ⟨_, h⟩ hrest'.word
    | cons b bs =>
      rw [List.map_cons, List.map_cons, toList_boundsClause_cons, toList_boundsClause_cons] at h
      have hblank : ∀ cs, Stops continuesType (" & ".toList ++ cs) := fun cs =>
        stops_cons_iff.mpr (by decide)
      exact joinWith_append_inj hblank htells hrest.stops hrest'.stops hrest.separator hrest'.separator
        (List.append_cancel_left h)

/-- **Type arguments are told apart if the single ones are**: they end before the closing bracket. -/
theorem arguments_append_inj
    (htells : ∀ a ∈ as, ∀ b ∈ bs, Tells BehindArgument r.render JavaType.form a b)
    (hfirst : ∀ a ∈ as ++ bs, ∃ c cs, (r.render a).toList = c :: cs ∧ c ≠ '>')
    (h : (joinWith ", " (as.map r.render)).toList ++ '>' :: rest =
      (joinWith ", " (bs.map r.render)).toList ++ '>' :: rest') :
    as.map JavaType.form = bs.map JavaType.form ∧ rest = rest' := by
  have hnonempty : ∀ (t : JavaType) (ts : List JavaType) (rest rest' : List Char), t ∈ as ++ bs →
      (joinWith ", " ((t :: ts).map r.render)).toList ++ rest ≠ '>' :: rest' := by
    intro t ts rest rest' ht heq
    obtain ⟨c, cs, hc, hne⟩ := hfirst t ht
    rw [List.map_cons, toList_joinWith_cons, hc] at heq
    exact hne (List.cons.inj heq).1
  have hbehind : ∀ rest, BehindArgument ('>' :: rest) := fun rest => ⟨rest, Or.inr rfl⟩
  have hend : ∀ rest, ¬ ", ".toList <+: '>' :: rest := by
    intro rest hprefix
    exact absurd (List.cons_prefix_cons.mp hprefix).1 (by decide)
  cases as with
  | nil =>
    cases bs with
    | nil => exact ⟨rfl, (List.cons.inj h).2⟩
    | cons b bs => exact absurd h.symm (hnonempty b bs _ _ (List.mem_append_right _ List.mem_cons_self))
  | cons a as =>
    cases bs with
    | nil => exact absurd h (hnonempty a as _ _ (List.mem_append_left _ List.mem_cons_self))
    | cons b bs =>
      obtain ⟨hforms, hrests⟩ := joinWith_append_inj (fun cs => ⟨_, Or.inl rfl⟩) htells (hbehind rest)
        (hbehind rest') (hend rest) (hend rest') h
      exact ⟨hforms, (List.cons.inj hrests).2⟩

end lists

/-! ## Wildcards -/

section wildcards

variable {upper lower upper' lower' : Option (List JavaType)}

/-- **Wildcards are told apart by their bounds**: the two words part the upper ones from the lower ones. -/
theorem tells_wildcard
    (hupper : ∀ a ∈ upper.getD [], ∀ b ∈ upper'.getD [],
      Tells (Stops continuesType) r.render JavaType.form a b)
    (hlower : ∀ a ∈ lower.getD [], ∀ b ∈ lower'.getD [],
      Tells (Stops continuesType) r.render JavaType.form a b) :
    Tells BehindArgument r.render JavaType.form (.wildcard upper lower) (.wildcard upper' lower') := by
  intro rest rest' hrest hrest' heq
  simp only [render_wildcard, String.toList_append, List.append_assoc] at heq
  obtain ⟨hforms, hbehind⟩ := boundsClause_append_inj hupper (hrest.behindUpperBounds _)
    (hrest'.behindUpperBounds _) (List.append_cancel_left heq)
  obtain ⟨hforms', hrests⟩ := boundsClause_append_inj hlower (hrest.behindBounds "super")
    (hrest'.behindBounds "super") hbehind
  refine ⟨?_, hrests⟩
  rw [JavaType.form_wildcard, JavaType.form_wildcard, hforms, hforms']

end wildcards

end Renderer
end JavaSource
