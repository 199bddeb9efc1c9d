import JavaSource.Package

/-!
# `Proofs.Package.NormalForm` — reading a dotted name is canonical

`Package.ofDotted` cuts a name at its dots, trims the pieces and joins those that are left. The segments that
it keeps are trimmed, not empty and free of dots (`mem_dottedSegments`), so cutting what it has joined gives
them back (`dottedSegments_join`). Hence whatever is read is in normal form (`isNormal_ofDotted`).
-/

namespace JavaSource
namespace Package
open Text

/-! ## Trimming the whole name -/

/-- Blanks in front of a name go when its first piece is trimmed. -/
theorem map_trim_pieces_dropWhile (cs : List Char) :
    (pieces '.' (cs.dropWhile isBlank)).map trim = (pieces '.' cs).map trim := by
  induction cs with
  | nil => rfl
  | cons c cs ih =>
    by_cases hc : isBlank c = true
    · have hdot : c ≠ '.' := by
        rintro rfl
        exact absurd hc (by decide)
      rw [List.dropWhile_cons_of_pos hc, ih, pieces, if_neg hdot]
      cases hp : pieces '.' cs with
      | nil => exact absurd hp (pieces_ne_nil '.' cs)
      | cons piece rest => rw [List.map_cons, List.map_cons, trim_cons_of_isBlank hc]
    · rw [List.dropWhile_cons_of_neg hc]

/-- **Trimming the name before it is cut adds nothing** to trimming its pieces. -/
theorem map_trim_pieces_trim (cs : List Char) :
    (pieces '.' (trim cs)).map trim = (pieces '.' cs).map trim := by
  obtain ⟨tail, happ, hblank⟩ := exists_dropTrailing_append isBlank (cs.dropWhile isBlank)
  have hdot : '.' ∉ tail := fun h => absurd (hblank '.' h) (by decide)
  obtain ⟨init, last, hkept, hall⟩ := exists_pieces_append '.' (trim cs) hdot
  have hcs : trim cs ++ tail = cs.dropWhile isBlank := happ
  rw [← map_trim_pieces_dropWhile cs, ← hcs, hkept, hall, List.map_append, List.map_append,
    List.map_singleton, List.map_singleton, trim_append_of_isBlank last hblank]

/-- The segments of a dotted name are its trimmed pieces, without the empty ones. -/
theorem dottedSegments_eq (dotted : String) :
    dottedSegments dotted =
      ((pieces '.' dotted.toList).map trim).filter fun segment => !segment.isEmpty := by
  unfold dottedSegments
  rw [map_trim_pieces_trim]

/-! ## Segments -/

variable {segment : List Char} {segments : List (List Char)} {dotted : String}

/-- What reading keeps of a segment: it is trimmed, not empty, and has no dot. -/
structure IsSegment (segment : List Char) : Prop where
  trimmed : trim segment = segment
  ne_nil : segment ≠ []
  no_dot : '.' ∉ segment

theorem isSegment_of_mem_dottedSegments (h : segment ∈ dottedSegments dotted) : IsSegment segment := by
  obtain ⟨hmap, hne⟩ := List.mem_filter.mp h
  obtain ⟨piece, hpiece, rfl⟩ := List.mem_map.mp hmap
  refine ⟨trim_trim piece, ?_, ?_⟩
  · intro hnil
    rw [hnil] at hne
    exact absurd hne (by decide)
  · intro hdot
    exact sep_not_mem_of_mem_pieces hpiece (mem_of_mem_trim hdot)

/-- **Reading gives back the segments that a name was joined of.** -/
theorem dottedSegments_join (h : ∀ segment ∈ segments, IsSegment segment) :
    dottedSegments (String.ofList (join '.' segments)) = segments := by
  rw [dottedSegments_eq, String.toList_ofList]
  by_cases hnil : segments = []
  · rw [hnil]
    rfl
  · have htrim : segments.map trim = segments := by
      rw [List.map_congr_left fun s hs => (h s hs).trimmed, List.map_id']
    rw [pieces_join hnil fun s hs => (h s hs).no_dot, htrim, List.filter_eq_self]
    intro s hs
    rw [Bool.not_eq_true', List.isEmpty_eq_false_iff]
    exact (h s hs).ne_nil

/-- **Whatever is read is in normal form.** -/
theorem isNormal_ofDotted (dotted : String) : (ofDotted dotted).IsNormal := by
  show ofDotted (String.ofList (join '.' (dottedSegments dotted))) = ofDotted dotted
  unfold ofDotted
  rw [dottedSegments_join fun _ => isSegment_of_mem_dottedSegments]

/-! ## Packages in normal form -/

variable {p q : Package} {s : String}

/-- A segment of a package is not empty and has no dot. -/
theorem ne_empty_and_no_dot_of_mem_segments (h : s ∈ p.segments) : s ≠ "" ∧ '.' ∉ s.toList := by
  unfold segments at h
  obtain ⟨piece, hpiece, rfl⟩ := List.mem_map.mp h
  obtain ⟨hmem, hne⟩ := List.mem_filter.mp hpiece
  rw [String.toList_ofList]
  refine ⟨?_, sep_not_mem_of_mem_pieces hmem⟩
  intro hempty
  have hnil : piece = [] := by
    rw [← String.toList_ofList (l := piece), hempty]
    rfl
  rw [hnil] at hne
  exact absurd hne (by decide)

/-- A package in normal form has the name that reading its segments joins. -/
theorem IsNormal.toList_name (h : p.IsNormal) : p.name.toList = join '.' (dottedSegments p.name) := by
  have hname : (ofDotted p.name).name = p.name := congrArg Package.name h
  rw [← hname]
  unfold ofDotted
  rw [String.toList_ofList, dottedSegments_join fun _ => isSegment_of_mem_dottedSegments]

/-- **The segments of a package in normal form** are those that reading its name keeps. -/
theorem IsNormal.segments_eq (h : p.IsNormal) : p.segments = (dottedSegments p.name).map String.ofList := by
  have hseg : ∀ segment ∈ dottedSegments p.name, IsSegment segment :=
    fun _ => isSegment_of_mem_dottedSegments
  unfold segments
  rw [h.toList_name]
  by_cases hnil : dottedSegments p.name = []
  · rw [hnil]
    rfl
  · rw [pieces_join hnil fun s hs => (hseg s hs).no_dot, List.filter_eq_self.mpr]
    intro s hs
    rw [Bool.not_eq_true', List.isEmpty_eq_false_iff]
    exact (hseg s hs).ne_nil

/-- **Packages in normal form differ in their segments.** -/
theorem IsNormal.eq_of_segments_eq (hp : p.IsNormal) (hq : q.IsNormal) (h : p.segments = q.segments) :
    p = q := by
  rw [hp.segments_eq, hq.segments_eq] at h
  have hsegments : dottedSegments p.name = dottedSegments q.name :=
    (List.map_inj_right fun _ _ => String.ofList_inj.mp).mp h
  have hname : p.name.toList = q.name.toList := by rw [hp.toList_name, hq.toList_name, hsegments]
  exact congrArg Package.mk (String.toList_inj.mp hname)

end Package
end JavaSource
