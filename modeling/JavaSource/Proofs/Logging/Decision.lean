import JavaSource.Logging.Directive
import Mathlib.Data.Finset.Max
import Mathlib.Data.List.Induction
import Mathlib.Data.String.Basic

/-!
# `Proofs.Logging.Decision` — the longest matching directive decides

Of several directives for one target the last one counts, and of these the one with the longest target that fits
decides: `Directive.Decides` says just that. At most one directive decides (`Directive.Decides.unique`), and one
does if any fits (`Directive.exists_decides`).
-/

namespace JavaSource
namespace Directive

variable {d e f : Directive} {target : String} {ds es : List Directive}

/-- **A directive decides about the events of a target**: it is the last one for its own target, that fits,
    and no other target that fits is longer. -/
structure Decides (ds : List Directive) (target : String) (d : Directive) : Prop where
  last : IsLast ds d
  covers : d.covers target = true
  longest : ∀ e ∈ ds, e.covers target = true → e.reach ≤ d.reach

theorem IsLast.mem (h : IsLast ds d) : d ∈ ds := by
  obtain ⟨before, after, rfl, -⟩ := h
  exact List.mem_append_right before List.mem_cons_self

theorem isLast_nil : ¬ IsLast [] d := fun h => List.not_mem_nil h.mem

/-- The last directives of two lists together: those of the second list, and those of the first one whose
    targets the second has nothing to say about. -/
theorem isLast_append_iff :
    IsLast (ds ++ es) d ↔ IsLast es d ∨ IsLast ds d ∧ ∀ e ∈ es, e.target ≠ d.target := by
  constructor
  · rintro ⟨before, after, heq, hafter⟩
    rcases List.append_eq_append_iff.mp heq with ⟨rest, rfl, rfl⟩ | ⟨rest, rfl, hrest⟩
    · exact Or.inl ⟨rest, after, rfl, hafter⟩
    · cases rest with
      | nil =>
        rw [List.nil_append] at hrest
        exact Or.inl ⟨[], after, hrest.symm, hafter⟩
      | cons e rest =>
        rw [List.cons_append] at hrest
        obtain ⟨rfl, rfl⟩ := List.cons.inj hrest
        rw [List.forall_mem_append] at hafter
        exact Or.inr ⟨⟨before, rest, rfl, hafter.1⟩, hafter.2⟩
  · rintro (⟨before, after, rfl, hafter⟩ | ⟨⟨before, after, rfl, hafter⟩, hes⟩)
    · exact ⟨ds ++ before, after, by rw [List.append_assoc], hafter⟩
    · refine ⟨before, after ++ es, by rw [List.append_assoc, List.cons_append], ?_⟩
      rw [List.forall_mem_append]
      exact ⟨hafter, hes⟩

theorem isLast_singleton_iff : IsLast [e] d ↔ d = e := by
  constructor
  · intro h
    exact List.mem_singleton.mp h.mem
  · rintro rfl
    exact ⟨[], [], rfl, fun _ h => absurd h List.not_mem_nil⟩

/-- There is a last directive for every target that is mentioned at all. -/
theorem exists_isLast (h : e ∈ ds) : ∃ d, IsLast ds d ∧ d.target = e.target := by
  induction ds using List.reverseRecOn with
  | nil => cases h
  | append_singleton ds f ih =>
    by_cases hf : f.target = e.target
    · exact ⟨f, isLast_append_iff.mpr (Or.inl (isLast_singleton_iff.mpr rfl)), hf⟩
    · have hmem : e ∈ ds := by
        rcases List.mem_append.mp h with hds | hlast
        · exact hds
        · exact absurd (List.mem_singleton.mp hlast ▸ rfl) hf
      obtain ⟨d, hd, htarget⟩ := ih hmem
      refine ⟨d, isLast_append_iff.mpr (Or.inr ⟨hd, ?_⟩), htarget⟩
      rw [List.forall_mem_singleton, htarget]
      exact hf

/-- Only one directive for a target is the last. -/
theorem IsLast.unique (hd : IsLast ds d) (he : IsLast ds e) (h : d.target = e.target) : d = e := by
  induction ds using List.reverseRecOn with
  | nil => exact absurd hd isLast_nil
  | append_singleton ds f ih =>
    rw [isLast_append_iff, isLast_singleton_iff, List.forall_mem_singleton] at hd he
    rcases hd with rfl | ⟨hd, hfd⟩
    · rcases he with rfl | ⟨-, hfe⟩
      · rfl
      · exact absurd h hfe
    · rcases he with rfl | ⟨he, -⟩
      · exact absurd h.symm hfd
      · exact ih hd he

theorem covers_some_iff {t : String} (h : d.target = some t) :
    d.covers target = true ↔ t.toList <+: target.toList := by
  unfold covers
  rw [h, List.isPrefixOf_iff_prefix]

/-- Directives that fit and ask for equally much are for the same target. -/
theorem target_eq_of_reach_eq (hd : d.covers target = true) (he : e.covers target = true)
    (h : d.reach = e.reach) : d.target = e.target := by
  unfold reach at h
  cases hs : d.target with
  | none =>
    cases ht : e.target with
    | none => rfl
    | some t =>
      rw [hs, ht] at h
      cases h
  | some s =>
    cases ht : e.target with
    | none =>
      rw [hs, ht] at h
      cases h
    | some t =>
      rw [hs, ht] at h
      rw [covers_some_iff hs] at hd
      rw [covers_some_iff ht] at he
      have hlength : s.toList.length = t.toList.length := by
        rw [String.length_toList, String.length_toList]
        exact Nat.succ.inj h
      rw [String.toList_inj.mp ((List.prefix_of_prefix_length_le hd he hlength.le).eq_of_length hlength)]

/-- **At most one directive decides.** -/
theorem Decides.unique (hd : Decides ds target d) (he : Decides ds target e) : d = e := by
  have hreach : d.reach = e.reach :=
    Nat.le_antisymm (he.longest d hd.last.mem hd.covers) (hd.longest e he.last.mem he.covers)
  exact hd.last.unique he.last (target_eq_of_reach_eq hd.covers he.covers hreach)

/-- **One directive decides if any fits.** -/
theorem exists_decides (he : e ∈ ds) (hcovers : e.covers target = true) : ∃ d, Decides ds target d := by
  let fitting := ds.toFinset.filter fun d => d.covers target = true
  have hmem : ∀ d, d ∈ fitting ↔ d ∈ ds ∧ d.covers target = true := by
    intro d
    rw [Finset.mem_filter, List.mem_toFinset]
  obtain ⟨longest, hlongest, hmax⟩ :=
    Finset.exists_max_image fitting reach ⟨e, (hmem e).mpr ⟨he, hcovers⟩⟩
  obtain ⟨hds, hfits⟩ := (hmem longest).mp hlongest
  -- the last directive for its target fits as well, and asks for as much
  obtain ⟨d, hd, htarget⟩ := exists_isLast hds
  refine ⟨d, hd, ?_, ?_⟩
  · rw [covers_congr htarget, hfits]
  · intro f hf hfitsf
    rw [reach_congr htarget]
    exact hmax f ((hmem f).mpr ⟨hf, hfitsf⟩)

end Directive
end JavaSource
