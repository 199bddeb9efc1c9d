import JavaSource.Logging.Filter
import JavaSource.Proofs.Logging.Decision
import JavaSource.Proofs.Text.Reading
import Mathlib.Data.Prod.Lex
import Mathlib.Order.WithBot

/-!
# `Proofs.Logging.Filter` — filters do what is documented of a library of filters

A filter keeps its directives ordered by their targets (`IsOrdered`) and looks an event up by walking down that
order. Yet what it finds depends on no order, but that of several directives for one target the last one counts
(`Filter.mem_arrange_iff`). The text of a filter can be read exactly if each of its pieces can
(`Filter.ofText?_isSome_iff`). Together: filters are a library that does what is documented
(`Filter.documented`).
-/

namespace JavaSource
open Text

namespace Directive

variable {d e : Directive} {target : String}

/-! ## The order of directives -/

/-- The place of a directive in a filter: by the length of its target in bytes, and then by the target itself. A
    directive for all targets is below the others. -/
def key (d : Directive) : WithBot (ℕ ×ₗ String) :=
  match d.target with
  | none => ⊥
  | some t => (toLex (t.utf8ByteSize, t) : ℕ ×ₗ String)

theorem precedes_iff : d.precedes e = true ↔ e.key < d.key := by
  unfold precedes key
  cases d.target with
  | none => simp
  | some s =>
    cases e.target with
    | none => simp
    | some t =>
      rw [WithBot.coe_lt_coe, Prod.Lex.toLex_lt_toLex, Bool.or_eq_true, Bool.and_eq_true, decide_eq_true_iff,
        decide_eq_true_iff, beq_iff_eq]
      exact or_congr_right (and_congr_left' eq_comm)

theorem key_eq_iff : d.key = e.key ↔ d.target = e.target := by
  unfold key
  cases d.target with
  | none => cases e.target <;> simp
  | some s =>
    cases e.target with
    | none => simp
    | some t =>
      rw [WithBot.coe_inj, toLex_inj, Prod.mk.injEq, Option.some.injEq]
      exact ⟨And.right, fun h => ⟨h ▸ rfl, h⟩⟩

/-- A target that begins another one is not the longer of the two, and if it has as many bytes, it is the
    same. -/
theorem length_le_of_begins {s t : String} (h : s.toList <+: t.toList) :
    s.length ≤ t.length ∧ s.utf8ByteSize ≤ t.utf8ByteSize ∧ (s.utf8ByteSize = t.utf8ByteSize → s = t) := by
  obtain ⟨rest, hrest⟩ := h
  have ht : t = s ++ String.ofList rest := by
    rw [← String.toList_inj, String.toList_append, String.toList_ofList, hrest]
  rw [ht, String.length_append, String.utf8ByteSize_append]
  refine ⟨Nat.le_add_right _ _, Nat.le_add_right _ _, ?_⟩
  intro hsize
  have hempty : String.ofList rest = "" := String.utf8ByteSize_eq_zero_iff.mp (by omega)
  rw [hempty, String.append_empty]

/-- Of two directives that fit, the one that comes later in a filter asks for no more. -/
theorem reach_le_of_key_lt (hd : d.covers target = true) (he : e.covers target = true) (h : e.key < d.key) :
    e.reach ≤ d.reach := by
  cases hs : e.target with
  | none =>
    unfold reach
    rw [hs]
    exact Nat.zero_le _
  | some s =>
    cases ht : d.target with
    | none =>
      unfold key at h
      rw [ht] at h
      exact absurd h not_lt_bot
    | some t =>
      rw [covers_some_iff hs] at he
      rw [covers_some_iff ht] at hd
      have hlt : s.utf8ByteSize < t.utf8ByteSize ∨ s.utf8ByteSize = t.utf8ByteSize ∧ s < t := by
        unfold key at h
        rw [hs, ht, WithBot.coe_lt_coe, Prod.Lex.toLex_lt_toLex] at h
        exact h
      unfold reach
      rw [hs, ht]
      -- both targets begin the same text, so one of them begins the other
      rcases List.prefix_or_prefix_of_prefix he hd with hst | hts
      · exact Nat.succ_le_succ (length_le_of_begins hst).1
      · obtain ⟨-, hle, heq⟩ := length_le_of_begins hts
        rcases hlt with hlt | ⟨hsize, hlt⟩
        · omega
        · rw [heq hsize.symm] at hlt
          exact absurd hlt (String.lt_irrefl s)

end Directive

/-! ## Filters -/

namespace Filter

variable {d e : Directive} {l : List Directive} {ds : List Directive} {target : String} {level : Level}

/-- The directives of a filter stand in order, those with the longest targets first. -/
def IsOrdered (l : List Directive) : Prop := l.Pairwise fun d e => e.key < d.key

/-- A directive is put in for its target, whatever was there before. -/
theorem mem_insert_iff (h : IsOrdered l) : e ∈ insert d l ↔ e = d ∨ e ∈ l ∧ e.target ≠ d.target := by
  induction l with
  | nil => simp [insert]
  | cons f l ih =>
    obtain ⟨hf, hl⟩ := List.pairwise_cons.mp h
    -- a directive with another target than `f` has another key
    have hkey : ∀ g ∈ l, g.target ≠ f.target := by
      intro g hg heq
      exact absurd (hf g hg) (Directive.key_eq_iff.mpr heq).not_lt
    rw [insert]
    by_cases heq : d.target = f.target
    · -- `d` takes the place of `f`, and nothing behind it is for the same target
      rw [if_pos heq, List.mem_cons, List.mem_cons, heq]
      constructor
      · rintro (rfl | he)
        · exact Or.inl rfl
        · exact Or.inr ⟨Or.inr he, hkey e he⟩
      · rintro (rfl | ⟨rfl | he, hne⟩)
        · exact Or.inl rfl
        · exact absurd rfl hne
        · exact Or.inr he
    · rw [if_neg heq]
      by_cases hprec : d.precedes f = true
      · -- `d` comes first, and the order leaves no place for its target further on
        rw [if_pos hprec, List.mem_cons]
        have hlt := Directive.precedes_iff.mp hprec
        constructor
        · rintro (rfl | he)
          · exact Or.inl rfl
          · refine Or.inr ⟨he, ?_⟩
            intro htarget
            have hd := Directive.key_eq_iff.mpr htarget
            rcases List.mem_cons.mp he with rfl | he
            · exact hlt.ne hd
            · exact ((hf e he).trans hlt).ne hd
        · rintro (rfl | ⟨he, -⟩)
          · exact Or.inl rfl
          · exact Or.inr he
      · rw [if_neg hprec, List.mem_cons, List.mem_cons, ih hl]
        constructor
        · rintro (rfl | rfl | ⟨he, hne⟩)
          · exact Or.inr ⟨Or.inl rfl, Ne.symm heq⟩
          · exact Or.inl rfl
          · exact Or.inr ⟨Or.inr he, hne⟩
        · rintro (rfl | ⟨rfl | he, hne⟩)
          · exact Or.inr (Or.inl rfl)
          · exact Or.inl rfl
          · exact Or.inr (Or.inr ⟨he, hne⟩)

theorem isOrdered_insert (d : Directive) (h : IsOrdered l) : IsOrdered (insert d l) := by
  induction l with
  | nil => exact List.pairwise_singleton _ _
  | cons f l ih =>
    obtain ⟨hf, hl⟩ := List.pairwise_cons.mp h
    rw [insert]
    by_cases heq : d.target = f.target
    · rw [if_pos heq]
      refine List.pairwise_cons.mpr ⟨?_, hl⟩
      intro g hg
      rw [Directive.key_eq_iff.mpr heq]
      exact hf g hg
    · rw [if_neg heq]
      by_cases hprec : d.precedes f = true
      · rw [if_pos hprec]
        have hlt := Directive.precedes_iff.mp hprec
        refine List.pairwise_cons.mpr ⟨?_, h⟩
        rw [List.forall_mem_cons]
        exact ⟨hlt, fun g hg => (hf g hg).trans hlt⟩
      · rw [if_neg hprec]
        refine List.pairwise_cons.mpr ⟨?_, ih hl⟩
        intro g hg
        rcases (mem_insert_iff hl).mp hg with rfl | ⟨hg, -⟩
        · -- it neither is for the target of `f` nor comes before it
          have hle := not_lt.mp fun hlt => hprec (Directive.precedes_iff.mpr hlt)
          exact lt_of_le_of_ne hle fun hkey => heq (Directive.key_eq_iff.mp hkey)
        · exact hf g hg

theorem arrange_concat (ds : List Directive) (d : Directive) : arrange (ds ++ [d]) = insert d (arrange ds) := by
  unfold arrange
  rw [List.foldl_append]
  rfl

theorem isOrdered_arrange (ds : List Directive) : IsOrdered (arrange ds) := by
  induction ds using List.reverseRecOn with
  | nil => exact List.Pairwise.nil
  | append_singleton ds d ih =>
    rw [arrange_concat]
    exact isOrdered_insert d ih

/-- **A filter keeps the last directive for each target.** -/
theorem mem_arrange_iff : d ∈ arrange ds ↔ Directive.IsLast ds d := by
  induction ds using List.reverseRecOn with
  | nil => exact iff_of_false List.not_mem_nil Directive.isLast_nil
  | append_singleton ds e ih =>
    rw [arrange_concat, mem_insert_iff (isOrdered_arrange ds), ih, Directive.isLast_append_iff,
      Directive.isLast_singleton_iff, List.forall_mem_singleton, ne_comm]

/-- What is found first in an ordered list asks for most. -/
theorem reach_le_of_find? (hordered : IsOrdered l) (h : l.find? (fun d => d.covers target) = some d) (he : e ∈ l)
    (hcovers : e.covers target = true) : e.reach ≤ d.reach := by
  obtain ⟨hfits, before, after, heq, hbefore⟩ := List.find?_eq_some_iff_append.mp h
  rw [heq] at hordered he
  rcases List.mem_append.mp he with hfront | hback
  · -- in front of `d` it would have been found first
    have hno := hbefore e hfront
    rw [hcovers] at hno
    cases hno
  · rcases List.mem_cons.mp hback with rfl | hafter
    · exact le_refl _
    · have hlt := (List.pairwise_cons.mp (List.pairwise_append.mp hordered).2.1).1 e hafter
      exact Directive.reach_le_of_key_lt hfits hcovers hlt

/-- **The directive that fits and asks for most is the one that is found.** -/
theorem find?_arrange (hd : d ∈ arrange ds) (hcovers : d.covers target = true)
    (hlongest : ∀ e ∈ arrange ds, e.covers target = true → e.reach ≤ d.reach) :
    (arrange ds).find? (fun d => d.covers target) = some d := by
  have hsome : ((arrange ds).find? fun d => d.covers target).isSome = true := by
    rw [List.find?_isSome]
    exact ⟨d, hd, hcovers⟩
  obtain ⟨e, he⟩ := Option.isSome_iff_exists.mp hsome
  have hmem := List.mem_of_find?_eq_some he
  have hfits : e.covers target = true := List.find?_some (p := fun e : Directive => e.covers target) he
  have hreach : e.reach = d.reach :=
    Nat.le_antisymm (hlongest e hmem hfits) (reach_le_of_find? (isOrdered_arrange ds) he hd hcovers)
  rw [he, (mem_arrange_iff.mp hmem).unique (mem_arrange_iff.mp hd)
    (Directive.target_eq_of_reach_eq hfits hcovers hreach)]

/-! ## Texts of filters -/

section mapM

variable {α β : Type} {read : β → Option α} {xs : List α} {ys : List β}

theorem isSome_mapM_iff : (ys.mapM read).isSome = true ↔ ∀ y ∈ ys, (read y).isSome = true := by
  induction ys with
  | nil => exact iff_of_true rfl fun _ h => absurd h List.not_mem_nil
  | cons y ys ih =>
    rw [List.mapM_cons, List.forall_mem_cons, ← ih]
    cases read y with
    | none => simp
    | some a => cases ys.mapM read <;> simp

theorem eq_filterMap_of_mapM (h : ys.mapM read = some xs) : xs = ys.filterMap read := by
  induction ys generalizing xs with
  | nil =>
    cases h
    rfl
  | cons y ys ih =>
    rw [List.mapM_cons] at h
    obtain ⟨a, ha, h⟩ := Option.bind_eq_some_iff.mp h
    obtain ⟨rest, hrest, h⟩ := Option.bind_eq_some_iff.mp h
    cases h
    rw [List.filterMap_cons_some ha, ← ih hrest]

end mapM

variable {text piece : String} {f : Filter} {event : Event}

/-- **A text can be read exactly if all its pieces can.** -/
theorem ofText?_isSome_iff :
    (ofText? text).isSome = true ↔ ∀ piece ∈ filterPieces text, (clause? piece).isSome = true := by
  unfold ofText?
  rw [Option.isSome_map, isSome_mapM_iff]

/-- A piece about a span has a level behind an equals sign. -/
example : (ofText? "[walk]=trace,javagen[walk\x7bdepth=1\x7d]=,off").isSome = true ∧ ofText? "[walk],off" = none := by
  decide

theorem eq_ofClauses_of_ofText? (h : ofText? text = some f) :
    f = ofClauses ((filterPieces text).filterMap clause?) := by
  obtain ⟨cs, hcs, rfl⟩ := Option.map_eq_some_iff.mp h
  rw [eq_filterMap_of_mapM hcs]

/-- The directives of a filter are those of its text, arranged. -/
theorem directives_of_ofText? (h : ofText? text = some f) : f.directives = arrange (library.directivesIn text) := by
  rw [eq_ofClauses_of_ofText? h]
  exact congrArg arrange List.filterMap_filterMap

/-- The pieces with a scope of a filter are pieces of its text, and no directives. -/
theorem exists_of_mem_withScope {c : Clause} (h : ofText? text = some f) (hc : c ∈ f.withScope) :
    ∃ piece ∈ filterPieces text, clause? piece = some c ∧ library.directive? piece = none := by
  rw [eq_ofClauses_of_ofText? h] at hc
  obtain ⟨hmem, hscope⟩ := List.mem_filter.mp hc
  obtain ⟨piece, hpiece, hread⟩ := List.mem_filterMap.mp hmem
  refine ⟨piece, hpiece, hread, ?_⟩
  show (clause? piece).bind Clause.plain? = none
  rw [hread, Option.bind_some]
  unfold Clause.plain?
  cases hs : c.scope with
  | none =>
    rw [hs] at hscope
    cases hscope
  | some scope => rfl

/-- An event that is left alone is decided by the directive for its target. -/
theorem levelFor?_of_leavesAlone (h : ofText? text = some f) (halone : library.LeavesAlone text event) :
    f.levelFor? event = (f.directiveFor? event.target).map Directive.level := by
  have hnone : f.withScope.filter (fun c => c.concerns event) = [] := by
    rw [List.filter_eq_nil_iff]
    intro c hc hconcerns
    obtain ⟨piece, hpiece, hread, hdirective⟩ := exists_of_mem_withScope h hc
    exact halone piece hpiece hdirective ⟨c, hread, hconcerns⟩
  unfold levelFor? clauseFor?
  rw [hnone]
  rfl

/-! ## What is documented -/

theorem clause?_word (l : Level) : clause? l.word = some { directive := { level := l } } := by cases l <;> decide

theorem levelAfter?_word (l : Level) : Clause.levelAfter? l.word.toList = some l := by cases l <;> decide

/-- A character of a name may begin a piece and stand in a target, and is no comma. -/
theorem isStart_of_path {c : Char} (h : (isAlphanumeric c || c == '_' || c == ':') = true) :
    Clause.isStart c = true ∧ Clause.isInTarget c = true ∧ c ≠ ',' := by
  have hother : ∀ d ∈ ['=', '[', ','], c ≠ d := by
    rintro d hd rfl
    revert hd h
    simp only [List.mem_cons, List.not_mem_nil, or_false]
    rintro h (rfl | rfl | rfl) <;> revert h <;> decide
  refine ⟨?_, ?_, hother ',' (by decide)⟩
  · unfold Clause.isStart
    simp only [Bool.or_eq_true] at h ⊢
    tauto
  · unfold Clause.isInTarget
    rw [Bool.and_eq_true, bne_iff_ne, bne_iff_ne]
    exact ⟨hother '=' (by decide), hother '[' (by decide)⟩

/-- A target is read up to the equals sign. -/
theorem clause?_target {target : String} (h : IsPath target) (l : Level) :
    clause? (target ++ "=" ++ l.word) = some { directive := { target := some target, level := l } } := by
  obtain ⟨hne, hpath⟩ := h
  have hlist : (target ++ "=" ++ l.word).toList = target.toList ++ '=' :: l.word.toList :=
    toList_append_sep rfl target l.word
  have hword : ∀ c ∈ target.toList, Clause.isInTarget c = true := fun c hc => (isStart_of_path (hpath c hc)).2.1
  have hstops : Stops Clause.isInTarget ('=' :: l.word.toList) := stops_cons_iff.mpr rfl
  have htake := takeWhile_append_of_stops hword hstops
  have hdrop := dropWhile_append_of_stops hword hstops
  unfold clause?
  rw [hlist]
  cases hcs : target.toList with
  | nil => exact absurd (String.toList_eq_nil_iff.mp hcs) hne
  | cons c cs =>
    rw [hcs, List.cons_append] at htake hdrop
    have hstart := isStart_of_path (hpath c (hcs ▸ List.mem_cons_self))
    have hbracket : c ≠ '[' := by
      rintro rfl
      cases hstart.2.1
    rw [List.cons_append, Clause.ofText?]
    · rw [hstart.1, htake, hdrop, ← hcs]
      show (Clause.levelAfter? l.word.toList).map _ = _
      rw [levelAfter?_word, String.ofList_toList]
      rfl
    · exact hbracket

theorem comma_not_mem_target {target : String} (h : IsPath target) (l : Level) :
    ',' ∉ (target ++ "=" ++ l.word).toList := by
  have hlist : (target ++ "=" ++ l.word).toList = target.toList ++ '=' :: l.word.toList :=
    toList_append_sep rfl target l.word
  rw [hlist, List.mem_append, not_or]
  refine ⟨fun hmem => (isStart_of_path (h.2 _ hmem)).2.2 rfl, ?_⟩
  cases l <;> decide

/-- **Filters are a library that does what is documented.** -/
theorem documented : library.Documented where
  level_word l := by
    have hread := clause?_word l
    constructor
    · refine ofText?_isSome_iff.mpr ?_
      rw [filterPieces_of_not_mem (by cases l <;> decide) (by cases l <;> decide), List.forall_mem_singleton, hread]
      rfl
    · show (clause? l.word).bind Clause.plain? = _
      rw [hread]
      rfl
  target_word target l h := by
    have hread := clause?_target h l
    constructor
    · have hne : target ++ "=" ++ l.word ≠ "" := by
        intro hempty
        rw [hempty] at hread
        cases hread
      refine ofText?_isSome_iff.mpr ?_
      rw [filterPieces_of_not_mem (comma_not_mem_target h l) hne, List.forall_mem_singleton, hread]
      rfl
    · show (clause? (target ++ "=" ++ l.word)).bind Clause.plain? = _
      rw [hread]
      rfl
  accepts_pieces text := by
    refine ofText?_isSome_iff.trans (forall₂_congr fun piece hpiece => ?_)
    show _ ↔ (ofText? piece).isSome = true
    rw [ofText?_isSome_iff, filterPieces_of_mem hpiece, List.forall_mem_singleton]
  later_replaces text f h d := by
    show d ∈ f.directives ↔ _
    rw [directives_of_ofText? h, mem_arrange_iff]
  longest_decides text f e h halone d hd hcovers hlongest := by
    have hdirectives := directives_of_ofText? h
    have hmem : d ∈ arrange (library.directivesIn text) := hdirectives ▸ hd
    have hmost : ∀ other ∈ arrange (library.directivesIn text),
        other.covers e.target = true → other.reach ≤ d.reach := by
      rw [← hdirectives]
      exact hlongest
    have hfound : f.directiveFor? e.target = some d := by
      unfold directiveFor?
      rw [hdirectives]
      exact find?_arrange hmem hcovers hmost
    show f.lets e = _
    unfold lets
    rw [levelFor?_of_leavesAlone h halone, hfound]
    rfl

end Filter
end JavaSource
